import Gazetteer.Proofs.Note.FrontMatter
import Gazetteer.Proofs.Yaml.Mappings
import Gazetteer.Proofs.Yaml.Scalars

/-!
# What moving the place of a note leaves of its properties

The editor goes by lines and the reader by YAML. Where the lines that the editor takes for the entry
of a key are the entry (`Layout`, `Reading`), the properties say after the move what they said
before, and the new place under the key (`read_movePlace`).
-/

namespace Gazetteer

namespace FrontMatter

open Text Yaml
open Number (showPlain)
open Yaml.Scanner (lineText)

variable {text opening closing cs : List Char} {key : String} {p q : LatLng}
  {anchors : List (String × Node)} {fields : List (String × Json)}

/-! ## The lines of an entry -/

/-- The lines of properties as the editor sees them for a key: those in front of its entry, the line
that starts with the key and those that go on with it, lines that are passed over, and the rest. An
entry that is missing is behind all lines. -/
structure Layout (key : String) where
  before : List (List Char)
  old : List (List Char)
  gap : List (List Char)
  after : List (List Char)
  other : ∀ l ∈ before, (key.toList ++ [':']).isPrefixOf l = false
  own : (old = [] ∧ gap = [] ∧ after = []) ∨ ∃ l ls, old = l :: ls ∧
    (key.toList ++ [':']).isPrefixOf l = true ∧ ∀ l ∈ ls, isContinuation l = true
  next : ∀ l ∈ (gap ++ after).head?, isContinuation l = false

namespace Layout

/-- All lines. -/
def lines (b : Layout key) : List (List Char) := b.before ++ (b.old ++ (b.gap ++ b.after))

/-- Setting an entry puts it in the place of the lines of the old one. -/
theorem setEntry_lines (b : Layout key) (entry : List Char) :
    setEntry key.toList entry b.lines = b.before ++ entry :: (b.gap ++ b.after) := by
  obtain ⟨before, old, gap, after, hother, hown, hnext⟩ := b
  simp only [lines] at hother hown hnext ⊢
  induction before with
  | nil =>
    rcases hown with ⟨rfl, rfl, rfl⟩ | ⟨l, ls, rfl, hl, hls⟩
    · rfl
    · simp [setEntry, hl, dropWhile_run hls hnext]
  | cons l before ih =>
    simp only [List.forall_mem_cons] at hother
    simp [setEntry, hother.1, ih hother.2]

end Layout

/-- What the parts of properties say: the lines in front of the entry, those of the entry and the
ones that are passed over, and the rest are parts of one mapping. -/
structure Layout.Reading (b : Layout key) where
  fields : List (String × Json)
  anchors : List (String × Node)
  rest : List (String × Json)
  before : IsPart [] (unlines b.before) fields anchors
  /-- The lines of the entry say nothing but its value, and the rest is the same without them. -/
  old : ∃ value anchors', IsPart anchors (unlines (b.old ++ b.gap)) value anchors' ∧
    (∀ k, k ≠ key → Entries.get? k value = none) ∧
    ∃ last, IsPart anchors' (unlines b.after) rest last
  gap : Holds (unlines b.gap) []
  after : ∃ last, IsPart anchors (unlines b.after) rest last
  /-- The rest starts with an entry of its own. -/
  starts : b.after = [] ∨ StartsEntry (unlines b.after)
  /-- No later entry counts instead. -/
  last : Entries.get? key rest = none

/-! ## Properties as fields -/

/-- White space says nothing: an entry would have a colon. -/
theorem eq_nil_of_isBlank (h : IsPart [] cs fields anchors)
    (hblank : cs.all Unicode.isBlank = true) : fields = [] := by
  obtain ⟨ts, hts, hread⟩ := h.reads
  rcases hts.tokens_cases with ⟨-, rfl⟩ | ⟨⟨w, token, t, ht, -⟩, -⟩
  · exact hread.eq_nil
  · have hsuffix : (Scanner.first cs).rest <:+ cs := Scanner.skipToToken_suffix ..
    have hcolon : ':' ∈ cs := hsuffix.subset (ht ▸ by simp)
    exact absurd (List.all_eq_true.1 hblank _ hcolon) (by decide)

/-- What properties say that are a mapping at the margin. -/
theorem read_of_isPart (hsplit : split text = some cs) (h : IsPart [] cs fields anchors) :
    (read text = none ∧ fields = []) ∨ read text = some (.obj fields) := by
  unfold read
  rw [hsplit]
  by_cases hblank : cs.all Unicode.isBlank = true
  · exact Or.inl ⟨if_pos hblank, eq_nil_of_isBlank h hblank⟩
  · simp only [hblank, if_false, Bool.false_eq_true]
    rcases h.read_eq with ⟨hread, hnil⟩ | hread
    · exact Or.inl ⟨by rw [hread], hnil⟩
    · exact Or.inr (by rw [hread])

theorem field?_of_isPart (hsplit : split text = some cs) (h : IsPart [] cs fields anchors)
    (k : String) : (read text).bind (·.field? k) = Entries.get? k fields := by
  rcases read_of_isPart hsplit h with ⟨hread, rfl⟩ | hread
  · rw [hread]
    rfl
  · rw [hread]
    rfl

/-! ## The entry of a place -/

theorem unlines_append (ls more : List (List Char)) :
    unlines (ls ++ more) = unlines ls ++ unlines more := by
  simp [unlines]

theorem unlines_cons (l : List Char) (ls : List (List Char)) :
    unlines (l :: ls) = l ++ '\n' :: unlines ls := by
  simp [unlines]

/-- The entry that is written for a place, with the lines that are passed over behind it. -/
theorem unlines_placeEntry (key : String) (p : LatLng) (gap : List (List Char)) :
    unlines (placeEntry key p :: gap) = key.toList ++ ':' :: (" [".toList ++
      ((showPlain p.lat).toList ++ (", ".toList ++ ((showPlain p.lng).toList ++
        ']' :: '\n' :: unlines gap)))) := by
  rw [unlines_cons, placeEntry_eq]
  simp

theorem startsEntry_placeEntry (hkey : IsWord key) (p : LatLng) (gap : List (List Char)) :
    StartsEntry (unlines (placeEntry key p :: gap)) := by
  rw [unlines_placeEntry]
  exact ⟨_, _, _, rfl, .plain hkey.isLabel, rfl⟩

/-- **What is written for a place is an entry with two numbers equal to its own.** -/
theorem exists_isPart_placeEntry (hkey : IsWord key) (hp : p.IsPlace) (hback : p.ReadsBack)
    {gap : List (List Char)} (hgap : Holds (unlines gap) [])
    (hallowed : (unlines gap).all isAllowed = true) :
    ∃ x y, ∃ q : LatLng, (∀ anchors, IsPart anchors (unlines (placeEntry key p :: gap))
      [(key, .arr [x, y])] anchors) ∧ LatLng.numberOf x = some q.lat ∧
      LatLng.numberOf y = some q.lng ∧ (q.lat == p.lat) = true ∧ (q.lng == p.lng) = true := by
  obtain ⟨hlat, hlng, hlatitude, hlongitude⟩ := hp
  obtain ⟨x, lat, hx, hxlat, hlateq⟩ :=
    exists_plainValue_showPlain ⟨hlat, Or.inl hlatitude⟩ hback.lat
  obtain ⟨y, lng, hy, hylng, hlngeq⟩ :=
    exists_plainValue_showPlain ⟨hlng, Or.inr hlongitude⟩ hback.lng
  obtain ⟨k, hk⟩ := hkey.exists_plainValue
  obtain ⟨sign, whole, fraction, htext, hparts⟩ := Number.exists_parts_showPlain hlat hback.lat
  obtain ⟨sign', whole', fraction', htext', hparts'⟩ :=
    Number.exists_parts_showPlain hlng hback.lng
  refine ⟨x, y, ⟨lat, lng⟩, fun anchors => ?_, hxlat, hylng, hlateq, hlngeq⟩
  rw [unlines_placeEntry]
  have hpart := isPart_pair hkey.isLabel (htext ▸ isItem_parts hparts)
    (htext' ▸ isItem_parts hparts') hgap ?_ (hkey.lineText_eq.symm ▸ hk) ((lineText_showPlain _).symm ▸ hx)
    ((lineText_showPlain _).symm ▸ hy) anchors
  · rwa [hkey.lineText_eq] at hpart
  · rw [List.all_append, List.all_append, List.all_append, hkey.isAllowed, htext,
      isAllowed_parts hparts, htext', isAllowed_parts hparts', hallowed]
    rfl

/-! ## Moving -/

/-- Properties without lines. -/
def Layout.empty (key : String) : Layout key where
  before := []
  old := []
  gap := []
  after := []
  other := by simp
  own := Or.inl ⟨rfl, rfl, rfl⟩
  next := by simp

def Layout.Reading.empty (key : String) : (Layout.empty key).Reading where
  fields := []
  anchors := []
  rest := []
  before := isPart_nil []
  old := ⟨[], [], isPart_nil [], fun _ _ => rfl, [], isPart_nil []⟩
  gap := holds_nil
  after := ⟨[], isPart_nil []⟩
  starts := Or.inl rfl
  last := rfl

/-- The lines that the editor takes for the entry of a key are its entry for the reader, who takes
all kinds of line ends for the same. A text without properties has no entries. -/
def IsEditable (text : List Char) (key : String) : Prop :=
  split text = none ∨ ∃ b : Layout key, Nonempty b.Reading ∧ contents text = b.lines ∧
    read text = read (assemble ['-', '-', '-', '\n'] (contents text) (behind text))

/-- The lines of the old entry start with its key. -/
theorem startsEntry_old (hkey : IsWord key) (b : Layout key)
    (h : IsPart anchors (unlines (b.old ++ b.gap)) fields anchors') :
    unlines (b.old ++ b.gap) = [] ∨ StartsEntry (unlines (b.old ++ b.gap)) := by
  rcases b.own with ⟨hold, hgap, -⟩ | ⟨l, ls, hold, hl, -⟩
  · left
    rw [hold, hgap]
    rfl
  · obtain ⟨ts, hts, -⟩ := h.reads
    refine Or.inr (hts.startsEntry ?_)
    obtain ⟨t, rfl⟩ := List.isPrefixOf_iff_prefix.1 hl
    obtain ⟨c, rest, hcons, hc⟩ := (Scanner.IsKey.plain hkey.isLabel).start
    rw [hold, hcons]
    exact ⟨c, _, by simp [unlines]; rfl, hc⟩

/-- What all lines say together. -/
theorem exists_isPart_lines (hkey : IsWord key) {b : Layout key} (r : b.Reading) :
    ∃ fields anchors, IsPart [] (unlines b.lines) fields anchors ∧ ∀ k, k ≠ key →
      Entries.get? k fields = (Entries.get? k r.rest).or (Entries.get? k r.fields) := by
  obtain ⟨value, anchors', hold, hvalue, last, hlast⟩ := r.old
  have hstarts : unlines b.after = [] ∨ StartsEntry (unlines b.after) :=
    r.starts.imp_left fun hnil => by rw [hnil]; rfl
  obtain ⟨fields, hfields, hget⟩ := r.before.append hold (startsEntry_old hkey b hold)
  obtain ⟨all, hall, hget'⟩ := hfields.append hlast hstarts
  refine ⟨all, last, ?_, fun k hk => ?_⟩
  · simpa only [Layout.lines, unlines_append, List.append_assoc] using hall
  · rw [hget', hget, hvalue k hk, Option.none_or]

/-- What the lines say with a new entry in the place of the old one. -/
theorem exists_isPart_entry {b : Layout key} (r : b.Reading) {entry : List Char} {value : Json}
    (hentry : ∀ anchors, IsPart anchors (unlines (entry :: b.gap)) [(key, value)] anchors)
    (hstarts : StartsEntry (unlines (entry :: b.gap))) :
    ∃ fields anchors, IsPart [] (unlines (setEntry key.toList entry b.lines)) fields anchors ∧
      Entries.get? key fields = some value ∧ ∀ k, k ≠ key →
        Entries.get? k fields = (Entries.get? k r.rest).or (Entries.get? k r.fields) := by
  obtain ⟨last, hlast⟩ := r.after
  have hafter : unlines b.after = [] ∨ StartsEntry (unlines b.after) :=
    r.starts.imp_left fun hnil => by rw [hnil]; rfl
  obtain ⟨fields, hfields, hget⟩ := r.before.append (hentry r.anchors) (Or.inr hstarts)
  obtain ⟨all, hall, hget'⟩ := hfields.append hlast hafter
  refine ⟨all, last, ?_, ?_, fun k hk => ?_⟩
  · rw [b.setEntry_lines]
    simpa only [unlines_append, ← List.cons_append, List.append_assoc] using hall
  · rw [hget', hget, r.last, get?_singleton_self]
    rfl
  · rw [hget', hget, get?_singleton_of_ne hk, Option.none_or]

/-- A text that can be edited has a layout with a meaning, and its properties say what that says. -/
theorem IsEditable.exists_reading (h : IsEditable text key) (hkey : IsWord key) :
    ∃ b : Layout key, ∃ r : b.Reading, contents text = b.lines ∧ ∀ k, k ≠ key →
      (read text).bind (·.field? k) = (Entries.get? k r.rest).or (Entries.get? k r.fields) := by
  rcases h with hnone | ⟨b, ⟨r⟩, hlines, hsame⟩
  · refine ⟨Layout.empty key, Layout.Reading.empty key, by simp [contents, hnone, Layout.empty,
      Layout.lines], fun k hk => ?_⟩
    simp [read, hnone, Layout.Reading.empty, Entries.get?]
  · refine ⟨b, r, hlines, fun k hk => ?_⟩
    obtain ⟨-, -, hclosing, hcontents, -, -⟩ := exists_movePlace text
    obtain ⟨fields, anchors, hpart, hget⟩ := exists_isPart_lines hkey r
    have hsplit := (split_assemble (Or.inl rfl) hcontents hclosing).1
    rw [hsame, field?_of_isPart (hlines ▸ hsplit) hpart, hget k hk]

/-- **Moving the place of a note sets its place, and nothing else that its properties say.** -/
theorem read_movePlace (h : IsEditable text key) (hkey : IsWord key) (hp : p.IsPlace)
    (hback : p.ReadsBack) : ∃ moved fields, ∃ q : LatLng, movePlace text key p = .ok moved ∧
      read moved = some (.obj fields) ∧
      (∀ k, k ≠ key → Entries.get? k fields = (read text).bind (·.field? k)) ∧
      LatLng.ofFrontMatter (.obj fields) key = some q ∧
      (q.lat == p.lat) = true ∧ (q.lng == p.lng) = true := by
  obtain ⟨b, r, hlines, hbefore⟩ := h.exists_reading hkey
  obtain ⟨opening, hopening, hclosing, hcontents, -, hmove⟩ := exists_movePlace text
  have hallowed : (unlines b.gap).all isAllowed = true := by
    obtain ⟨value, anchors', hold, -⟩ := r.old
    have hall := hold.allowed
    rw [unlines_append, List.all_append, Bool.and_eq_true] at hall
    exact hall.2
  obtain ⟨x, y, q, hentry, hx, hy, hlat, hlng⟩ :=
    exists_isPart_placeEntry hkey hp hback r.gap hallowed
  obtain ⟨fields, anchors, hpart, hplace, hother⟩ :=
    exists_isPart_entry r hentry (startsEntry_placeEntry hkey p b.gap)
  have hset := isContent_of_mem_setEntry (p := p) hcontents hkey.not_mem_newline
  have hsplit := (split_assemble hopening hset hclosing).1
  rw [hlines] at hsplit hmove
  have hread : read (assemble opening (setEntry key.toList (placeEntry key p) b.lines)
      (behind text)) = some (.obj fields) := by
    refine (read_of_isPart hsplit hpart).resolve_left ?_
    rintro ⟨-, rfl⟩
    cases hplace
  refine ⟨_, fields, q, hmove key p hp, hread, fun k hk => ?_, ?_, hlat, hlng⟩
  · rw [hother k hk, hbefore k hk]
  · have hvalue : LatLng.ofValue (.arr [x, y]) = .ok q := by
      simp only [LatLng.ofValue, hx, hy]
      exact LatLng.check_eq_ok_iff.2 ⟨rfl, hp.of_beq hlat hlng⟩
    simp [LatLng.ofFrontMatter, Json.field?, hplace, hvalue, Except.toOption]

/-- A value over several lines, with a comment behind it and a key in quotes behind that. -/
def valueOverLines : Layout "location" where
  before := ["title: Home".toList]
  old := ["location:".toList, "  - 1".toList, "  - 2".toList]
  gap := ["".toList, "# Who was there".toList]
  after := ["\"tags\": [x, y]".toList]
  other := by decide +kernel
  own := Or.inr ⟨_, _, rfl, by decide +kernel, by decide +kernel⟩
  next := by decide +kernel

theorem startsEntry_tags : StartsEntry (unlines valueOverLines.after) :=
  ⟨"\"tags\"".toList, _, " [x, y]\n".toList, by decide +kernel,
    .quoted (d := '"') (w := ['t', 'a', 'g', 's']) ⟨Or.inl rfl, by simp [isBreak]⟩ (by decide), rfl⟩

theorem isPart_tags : IsPart [] (unlines valueOverLines.after)
    [("tags", .arr [.str "x", .str "y"])] [] := by
  refine ⟨by decide +kernel, [.key, .scalar "tags" false, .value, .flowSequenceStart,
    .scalar "x" true, .flowEntry, .scalar "y" true, .flowSequenceEnd], ?_, ?_⟩
  · exact holds_of_stop (by decide +kernel) startsEntry_tags.begins (by decide +kernel)
  · with_unfolding_all rfl

def valueOverLines_reading : valueOverLines.Reading where
  fields := [("title", .str "Home")]
  anchors := []
  rest := [("tags", .arr [.str "x", .str "y"])]
  before := by
    have hentry : StartsEntry (unlines valueOverLines.before) :=
      ⟨"title".toList, _, " Home\n".toList, by decide +kernel,
        .plain (show IsWord _ by decide +kernel).isLabel, rfl⟩
    refine ⟨by decide +kernel, [.key, .scalar "title" true, .value, .scalar "Home" true], ?_, ?_⟩
    · exact holds_of_stop (by decide +kernel) hentry.begins (by decide +kernel)
    · with_unfolding_all rfl
  old := by
    have hentry : StartsEntry (unlines (valueOverLines.old ++ valueOverLines.gap)) :=
      ⟨"location".toList, _, "\n  - 1\n  - 2\n\n# Who was there\n".toList, by decide +kernel,
        .plain (show IsWord _ by decide +kernel).isLabel, rfl⟩
    refine ⟨[("location", .arr [.int 1, .int 2])], [], ⟨by decide +kernel, [.key,
      .scalar "location" true, .value, .blockSequenceStart, .blockEntry, .scalar "1" true,
      .blockEntry, .scalar "2" true, .blockEnd], ?_, ?_⟩,
      fun k hk => get?_singleton_of_ne hk _, [], isPart_tags⟩
    · exact holds_of_stop (by decide +kernel) hentry.begins (by decide +kernel)
    · with_unfolding_all rfl
  gap := holds_of_stop (by decide +kernel) ⟨by decide +kernel, Or.inl (by decide +kernel)⟩
    (by decide +kernel)
  after := ⟨[], isPart_tags⟩
  starts := Or.inr startsEntry_tags
  last := by decide +kernel

/-- The old value goes with all of its lines, and what is behind it stays. -/
theorem read_movePlace_of_lines :
    let text := ("---\ntitle: Home\nlocation:\n  - 1\n  - 2\n\n# Who was there\n\"tags\": [x, y]\n---\n" ++
      "# Home").toList
    let moved := ("---\ntitle: Home\nlocation: [3, 4.5]\n\n# Who was there\n\"tags\": [x, y]\n---\n" ++
      "# Home").toList
    IsEditable text "location" ∧ IsWord "location" ∧ LatLng.IsPlace ⟨3, 4.5⟩ ∧
      LatLng.ReadsBack ⟨3, 4.5⟩ ∧ movePlace text "location" ⟨3, 4.5⟩ = .ok moved ∧
      ∃ fields, read moved = some (.obj fields) ∧
        Entries.get? "title" fields = (read text).bind (·.field? "title") ∧
        ∃ q, LatLng.ofFrontMatter (.obj fields) "location" = some q ∧ (q.lat == 3) = true ∧
          (q.lng == 4.5) = true := by
  intro text moved
  have hlines : contents text = valueOverLines.lines := by decide +kernel
  have hends : assemble ['-', '-', '-', '\n'] (contents text) (behind text) = text := by
    decide +kernel
  have h : IsEditable text "location" :=
    Or.inr ⟨valueOverLines, ⟨valueOverLines_reading⟩, hlines, by rw [hends]⟩
  have hkey : IsWord "location" := by decide +kernel
  have hp : LatLng.IsPlace ⟨3, 4.5⟩ := by decide +kernel
  have hback : LatLng.ReadsBack ⟨3, 4.5⟩ := ⟨by decide +kernel, by decide +kernel⟩
  have hmoved : movePlace text "location" ⟨3, 4.5⟩ = .ok moved := by decide +kernel
  obtain ⟨_, fields, q, hmove, hread, hother, hplace, hlat, hlng⟩ :=
    read_movePlace h hkey hp hback
  obtain rfl := Except.ok.inj (hmoved.symm.trans hmove)
  exact ⟨h, hkey, hp, hback, hmoved, fields, hread, hother "title" (by decide), q, hplace, hlat,
    hlng⟩

/-- With a blank line inside the old value the rest of that value stays, and the properties are
lost. -/
theorem read_movePlace_blank_line :
    let text := "---\nlocation:\n\n  - 1\n  - 2\ntags: [x]\n---\n".toList
    let moved := "---\nlocation: [3, 4]\n\n  - 1\n  - 2\ntags: [x]\n---\n".toList
    ((read text).bind (LatLng.ofFrontMatter · "location")).isSome = true ∧
      ((read text).bind (·.field? "tags")).isSome = true ∧ IsWord "location" ∧
      LatLng.IsPlace ⟨3, 4⟩ ∧ movePlace text "location" ⟨3, 4⟩ = .ok moved ∧
      (read moved).isNone = true := by
  decide +kernel

end FrontMatter

end Gazetteer
