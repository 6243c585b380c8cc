import Gazetteer.Note.Editing
import Gazetteer.Proofs.Number.Plain
import Mathlib.Data.List.DropRight
import Mathlib.Data.List.Infix
import Mathlib.Data.List.TakeWhile

/-!
# The lines of properties

A text with properties is an opening fence line, the lines of the properties, and the rest from the
closing fence on (`assemble`). Moving the place of a note changes only the lines in the middle, and
the text that results is made up in the same way, from lines that stay as they are when it is taken
apart again (`exists_movePlace`, `movePlace_assemble`). So the last place that is written counts.
-/

namespace Gazetteer

variable {l w cs fence : List Char} {ls more : List (List Char)}

/-! ## Lines -/

namespace Text

/-- A line with its line feed. -/
def IsLine (l : List Char) : Prop := ∃ w, '\n' ∉ w ∧ l = w ++ ['\n']

theorem lines_isLine_append (h : IsLine l) (cs : List Char) : lines (l ++ cs) = l :: lines cs := by
  obtain ⟨w, hw, rfl⟩ := h
  induction w with
  | nil => simp [lines]
  | cons c w ih =>
    simp only [List.mem_cons, not_or] at hw
    have hc : c ≠ '\n' := fun h => hw.1 h.symm
    simp only [List.cons_append, lines, hc, if_false]
    rw [ih hw.2]

theorem lines_flatten_append (h : ∀ l ∈ ls, IsLine l) (cs : List Char) :
    lines (ls.flatten ++ cs) = ls ++ lines cs := by
  induction ls with
  | nil => rfl
  | cons l ls ih =>
    simp only [List.forall_mem_cons] at h
    rw [List.flatten_cons, List.append_assoc, lines_isLine_append h.1, ih h.2, List.cons_append]

/-- A line that others follow has its line feed. -/
theorem isLine_of_lines (h : lines cs = ls ++ l :: more) : ∀ l ∈ ls, IsLine l := by
  induction cs generalizing ls with
  | nil => simp [lines] at h
  | cons c cs ih =>
    cases ls with
    | nil => simp
    | cons l' ls =>
      by_cases hc : c = '\n'
      · simp only [lines, hc, if_true, List.cons_append, List.cons.injEq] at h
        obtain ⟨rfl, h⟩ := h
        exact List.forall_mem_cons.2 ⟨⟨[], by simp, rfl⟩, ih h⟩
      · simp only [lines, hc, if_false] at h
        cases hcs : lines cs with
        | nil => simp [hcs] at h
        | cons k ks =>
          rw [hcs] at h
          simp only [List.cons_append, List.cons.injEq] at h
          obtain ⟨rfl, rfl⟩ := h
          have hk := @ih (k :: ls) hcs
          obtain ⟨⟨w, hw, rfl⟩, hls⟩ := List.forall_mem_cons.1 hk
          refine List.forall_mem_cons.2 ⟨⟨c :: w, ?_, rfl⟩, hls⟩
          simp only [List.mem_cons, not_or]
          exact ⟨fun h => hc h.symm, hw⟩

theorem lineContent_append_newline (w : List Char) :
    lineContent (w ++ ['\n']) = if w.getLast? = some '\r' then w.dropLast else w := by
  obtain rfl | ⟨v, c, rfl⟩ := w.eq_nil_or_concat'
  · rfl
  · by_cases hc : c = '\r'
    · simp [lineContent, hc]
    · simp [lineContent, hc]

/-- A line is its content, a carriage return or none, and its line feed. -/
theorem exists_of_isLine (h : IsLine l) :
    ∃ r, (r = [] ∨ r = ['\r']) ∧ l = lineContent l ++ (r ++ ['\n']) := by
  obtain ⟨w, -, rfl⟩ := h
  rw [lineContent_append_newline]
  by_cases hw : w.getLast? = some '\r'
  · obtain ⟨v, rfl⟩ := List.getLast?_eq_some_iff.1 hw
    exact ⟨['\r'], Or.inr rfl, by simp⟩
  · exact ⟨[], Or.inl rfl, by simp [hw]⟩

end Text

namespace FrontMatter

open Text

variable {text opening closing rest entry : List Char} {ws : List (List Char)} {key : String}
  {p a b : LatLng}

/-! ## Fences -/

/-- The lines from the first fence on, if there is one. -/
def fromFence : List (List Char) → Option (List Char)
  | [] => none
  | line :: ls => if isFence line then some (line :: ls).flatten else fromFence ls

/-- The text from the closing fence on, if a text has properties. -/
def closing? (text : List Char) : Option (List Char) :=
  (afterFence text).bind fun rest => fromFence (lines rest)

theorem untilFence_append (hls : ∀ l ∈ ls, isFence l = false) (hfence : isFence fence = true) :
    untilFence (ls ++ fence :: more) = some ls.flatten := by
  induction ls with
  | nil => simp [untilFence, hfence]
  | cons l ls ih =>
    simp only [List.forall_mem_cons] at hls
    simp [untilFence, hls.1, ih hls.2]

theorem fromFence_append (hls : ∀ l ∈ ls, isFence l = false) (hfence : isFence fence = true) :
    fromFence (ls ++ fence :: more) = some (fence :: more).flatten := by
  induction ls with
  | nil => simp [fromFence, hfence]
  | cons l ls ih =>
    simp only [List.forall_mem_cons] at hls
    simp [fromFence, hls.1, ih hls.2]

theorem fromFence_eq_none_iff : fromFence ls = none ↔ untilFence ls = none := by
  induction ls with
  | nil => simp [fromFence, untilFence]
  | cons l ls ih =>
    by_cases hl : isFence l = true
    · simp [fromFence, untilFence, hl]
    · simp [fromFence, untilFence, hl, ih]

/-- Where there is a first fence, it has lines in front that are none. -/
theorem exists_fence (h : untilFence ls ≠ none) :
    ∃ a fence b, ls = a ++ fence :: b ∧ (∀ l ∈ a, isFence l = false) ∧ isFence fence = true := by
  induction ls with
  | nil => simp [untilFence] at h
  | cons l ls ih =>
    by_cases hl : isFence l = true
    · exact ⟨[], l, ls, rfl, by simp, hl⟩
    · rw [Bool.not_eq_true] at hl
      have hls : untilFence ls ≠ none := by
        intro hnone
        simp [untilFence, hl, hnone] at h
      obtain ⟨a, fence, b, rfl, ha, hfence⟩ := ih hls
      exact ⟨l :: a, fence, b, rfl, List.forall_mem_cons.2 ⟨hl, ha⟩, hfence⟩

/-- A line that opens the properties of a text. -/
def IsOpening (w : List Char) : Prop :=
  w = ['-', '-', '-', '\n'] ∨ w = ['-', '-', '-', '\r', '\n']

theorem IsOpening.afterFence_append (h : IsOpening opening) (rest : List Char) :
    afterFence (opening ++ rest) = some rest := by
  rcases h with h | h
  · subst h
    rfl
  · subst h
    rfl

theorem exists_opening (h : afterFence text = some rest) :
    ∃ opening, IsOpening opening ∧ text = opening ++ rest := by
  unfold afterFence at h
  split at h
  · rw [Option.some.injEq] at h
    exact ⟨_, Or.inl rfl, by simp [h]⟩
  · rw [Option.some.injEq] at h
    exact ⟨_, Or.inr rfl, by simp [h]⟩
  · cases h

/-- A text that starts with a fence line. -/
def StartsWithFence (cs : List Char) : Prop :=
  ∃ fence more, lines cs = fence :: more ∧ isFence fence = true

/-! ## What a line can be that belongs to the properties -/

/-- What stands in a line of properties, without the end of the line. -/
structure IsContent (w : List Char) : Prop where
  newline : '\n' ∉ w
  isFence : isFence (w ++ ['\n']) = false

theorem trimEnd_append_of_blank {w r : List Char} (h : ∀ c ∈ r, Unicode.isBlank c = true) :
    Unicode.trimEnd (w ++ r) = Unicode.trimEnd w := by
  unfold Unicode.trimEnd
  rw [List.reverse_append, List.dropWhile_append_of_pos (by simpa using h)]

/-- How a line ends makes no difference to whether it is a fence. -/
theorem isFence_append_of_blank {w r : List Char} (h : ∀ c ∈ r, Unicode.isBlank c = true) :
    FrontMatter.isFence (w ++ r) = FrontMatter.isFence w := by
  unfold FrontMatter.isFence
  rw [trimEnd_append_of_blank h]

theorem isContent_lineContent (hl : IsLine l) (h : FrontMatter.isFence l = false) :
    IsContent (lineContent l) := by
  have hline := hl
  obtain ⟨w, hw, rfl⟩ := hl
  constructor
  · rw [lineContent_append_newline]
    split
    · exact fun hmem => hw (List.mem_of_mem_dropLast hmem)
    · exact hw
  · obtain ⟨r, hr, heq⟩ := exists_of_isLine hline
    have hblank : (r ++ ['\n']).all Unicode.isBlank = true := by
      rcases hr with hr | hr <;> subst hr <;> decide
    rw [heq, isFence_append_of_blank (List.all_eq_true.1 hblank)] at h
    rwa [isFence_append_of_blank (List.all_eq_true.1 (by decide))]

/-- A text that ends in a character that is no blank, no hyphen and no dot is no fence. -/
theorem isFence_concat {c : Char} (hblank : Unicode.isBlank c = false) (hhyphen : c ≠ '-')
    (hdot : c ≠ '.') (w : List Char) : FrontMatter.isFence (w ++ [c]) = false := by
  have htrim : Unicode.trimEnd (w ++ [c]) = w ++ [c] := by
    simp [Unicode.trimEnd, hblank]
  have hne : ∀ d : Char, c ≠ d → w ++ [c] ≠ [d, d, d] := by
    intro d hd heq
    have hlast := congrArg List.getLast? heq
    simp at hlast
    exact hd hlast
  simp [FrontMatter.isFence, htrim, hne _ hhyphen, hne _ hdot]

/-! ## Entries -/

theorem placeEntry_eq (key : String) (p : LatLng) :
    placeEntry key p = key.toList ++ (": [".toList ++ ((Number.showPlain p.lat).toList ++
      (", ".toList ++ ((Number.showPlain p.lng).toList ++ [']'])))) := by
  simp [placeEntry, toString, String.toList_append]

theorem isPrefixOf_placeEntry (key : String) (p : LatLng) :
    (key.toList ++ [':']).isPrefixOf (placeEntry key p) = true := by
  rw [List.isPrefixOf_iff_prefix, placeEntry_eq]
  exact ⟨_, List.append_assoc ..⟩

/-- An entry ends in a bracket. -/
theorem exists_placeEntry_eq_concat (key : String) (p : LatLng) :
    ∃ w, placeEntry key p = w ++ [']'] := by
  refine ⟨key.toList ++ (": [".toList ++ ((Number.showPlain p.lat).toList ++
    (", ".toList ++ (Number.showPlain p.lng).toList))), ?_⟩
  simp only [placeEntry_eq, List.append_assoc]

theorem isContent_placeEntry (hkey : '\n' ∉ key.toList) (p : LatLng) :
    IsContent (placeEntry key p) := by
  have hnumber : ∀ x : Float, '\n' ∉ (Number.showPlain x).toList := by
    intro x hmem
    exact absurd (Number.isBlank_of_mem_showPlain hmem) (by decide)
  constructor
  · rw [placeEntry_eq]
    simp [hkey, hnumber]
  · obtain ⟨w, hw⟩ := exists_placeEntry_eq_concat key p
    rw [isFence_append_of_blank (List.all_eq_true.1 (by decide)), hw]
    exact isFence_concat (by decide) (by decide) (by decide) _

/-- The last entry that is written counts. -/
theorem setEntry_setEntry {key : List Char} (h : (key ++ [':']).isPrefixOf entry = true)
    (entry' : List Char) (ls : List (List Char)) :
    setEntry key entry' (setEntry key entry ls) = setEntry key entry' ls := by
  induction ls with
  | nil => simp [setEntry, h]
  | cons l ls ih =>
    by_cases hl : (key ++ [':']).isPrefixOf l = true
    · simp only [setEntry, hl, h, if_true, List.dropWhile_idempotent]
    · simp [setEntry, hl, ih]

/-- The lines of properties in which an entry is set are this one and lines that were there. -/
theorem mem_setEntry {key : List Char} (h : l ∈ setEntry key entry ls) : l = entry ∨ l ∈ ls := by
  induction ls with
  | nil => simpa [setEntry] using h
  | cons l' ls ih =>
    by_cases hl : (key ++ [':']).isPrefixOf l' = true
    · simp only [setEntry, hl, if_true, List.mem_cons] at h
      rcases h with h | h
      · exact Or.inl h
      · exact Or.inr (List.mem_cons_of_mem _ ((List.dropWhile_sublist _).subset h))
    · simp only [setEntry, hl, Bool.false_eq_true, if_false, List.mem_cons] at h
      rcases h with h | h
      · exact Or.inr (h ▸ List.mem_cons_self)
      · exact (ih h).imp_right (List.mem_cons_of_mem _)

theorem isContent_of_mem_setEntry (hws : ∀ w ∈ ws, IsContent w) (hkey : '\n' ∉ key.toList) :
    ∀ w ∈ setEntry key.toList (placeEntry key p) ws, IsContent w := by
  intro w hw
  rcases mem_setEntry hw with h | h
  · exact h ▸ isContent_placeEntry hkey p
  · exact hws w h

/-! ## Putting a text together -/

/-- A text with properties: the line that opens them, their lines, and the text from the closing
fence on. -/
def assemble (opening : List Char) (ws : List (List Char)) (closing : List Char) : List Char :=
  opening ++ (unlines ws ++ closing)

theorem unlines_eq_flatten (ws : List (List Char)) :
    unlines ws = (ws.map (· ++ ['\n'])).flatten :=
  List.flatMap_def ..

theorem lines_unlines_append (hws : ∀ w ∈ ws, IsContent w) (cs : List Char) :
    lines (unlines ws ++ cs) = ws.map (· ++ ['\n']) ++ lines cs := by
  rw [unlines_eq_flatten]
  refine lines_flatten_append (fun l hl => ?_) cs
  obtain ⟨w, hw, rfl⟩ := List.mem_map.1 hl
  exact ⟨w, (hws w hw).newline, rfl⟩

theorem lines_unlines (hws : ∀ w ∈ ws, IsContent w) :
    lines (unlines ws) = ws.map (· ++ ['\n']) := by
  have h := lines_unlines_append hws []
  simpa [lines] using h

section Assembled

variable (hopening : IsOpening opening) (hws : ∀ w ∈ ws, IsContent w)
  (hclosing : StartsWithFence closing)
include hopening hws hclosing

/-- A text that is put together is taken apart again where it was. -/
theorem split_assemble :
    split (assemble opening ws closing) = some (unlines ws) ∧
      closing? (assemble opening ws closing) = some closing := by
  obtain ⟨fence, more, hlines, hfence⟩ := hclosing
  have hno : ∀ l ∈ ws.map (· ++ ['\n']), FrontMatter.isFence l = false := by
    intro l hl
    obtain ⟨w, hw, rfl⟩ := List.mem_map.1 hl
    exact (hws w hw).isFence
  have hall : lines (unlines ws ++ closing) = ws.map (· ++ ['\n']) ++ fence :: more := by
    rw [lines_unlines_append hws, hlines]
  unfold split closing? assemble
  simp only [hopening.afterFence_append, Option.bind_some, hall]
  rw [untilFence_append hno hfence, fromFence_append hno hfence, ← unlines_eq_flatten, ← hlines,
    flatten_lines]
  exact ⟨rfl, rfl⟩

/-- Moving the place of a note sets its entry, and nothing else changes. -/
theorem movePlace_assemble (hreturn : ∀ w ∈ ws, w.getLast? ≠ some '\r') (hp : p.IsPlace) :
    movePlace (assemble opening ws closing) key p =
      .ok (assemble opening (setEntry key.toList (placeEntry key p) ws) closing) := by
  have hcheck : p.check = .ok p := LatLng.check_eq_ok_iff.2 ⟨rfl, hp⟩
  have hcontents : (lines (unlines ws)).map lineContent = ws := by
    rw [lines_unlines hws, List.map_map]
    refine (List.map_congr_left fun w hw => ?_).trans (List.map_id _)
    rw [Function.comp_apply, lineContent_append_newline, if_neg (hreturn w hw), id]
  have hlength : (assemble opening ws closing).length - (unlines ws ++ closing).length =
      opening.length := by
    simp [assemble]
  unfold movePlace
  rw [(split_assemble hopening hws hclosing).1]
  simp only [hcheck]
  rw [assemble, hopening.afterFence_append]
  simp [Except.mapError, hcontents, assemble]

end Assembled

/-! ## Moving the place of a note -/

/-- The lines of the properties of a text without their ends; a text without properties has none. -/
def contents (text : List Char) : List (List Char) :=
  ((split text).map fun properties => (lines properties).map lineContent).getD []

/-- What stands behind the properties of a text: its closing fence and the rest, or a new fence and
the whole text if it has no properties. -/
def behind (text : List Char) : List Char :=
  (closing? text).getD (['-', '-', '-', '\n'] ++ text)

/-- A text with properties, taken apart: the opening fence, the lines of the properties, the closing
fence and the lines behind it. -/
structure Parted (text opening : List Char) (ls : List (List Char)) (fence : List Char)
    (more : List (List Char)) : Prop where
  isOpening : IsOpening opening
  text_eq : text = opening ++ (ls.flatten ++ (fence :: more).flatten)
  lines_eq : lines (ls.flatten ++ (fence :: more).flatten) = ls ++ fence :: more
  not_isFence : ∀ l ∈ ls, FrontMatter.isFence l = false
  isFence : FrontMatter.isFence fence = true

theorem exists_parted (h : split text ≠ none) :
    ∃ opening ls fence more, Parted text opening ls fence more := by
  cases hrest : afterFence text with
  | none => simp [split, hrest] at h
  | some rest =>
    obtain ⟨opening, hopening, rfl⟩ := exists_opening hrest
    simp only [split, hrest, Option.bind_some] at h
    obtain ⟨ls, fence, more, hlines, hls, hfence⟩ := exists_fence h
    have hflatten : rest = ls.flatten ++ (fence :: more).flatten := by
      rw [← List.flatten_append, ← hlines, flatten_lines]
    exact ⟨opening, ls, fence, more, hopening, by rw [hflatten], by rw [← hflatten, hlines], hls,
      hfence⟩

namespace Parted

variable (h : Parted text opening ls fence more)
include h

theorem afterFence_eq : afterFence text = some (ls.flatten ++ (fence :: more).flatten) := by
  rw [h.text_eq, h.isOpening.afterFence_append]

theorem split_eq : split text = some ls.flatten := by
  rw [split, h.afterFence_eq, Option.bind_some, h.lines_eq, untilFence_append h.not_isFence h.isFence]

theorem closing?_eq : closing? text = some (fence :: more).flatten := by
  rw [closing?, h.afterFence_eq, Option.bind_some, h.lines_eq,
    fromFence_append h.not_isFence h.isFence]

theorem isLine : ∀ l ∈ ls, IsLine l := isLine_of_lines h.lines_eq

theorem lines_properties : lines ls.flatten = ls := by
  have happend := lines_flatten_append h.isLine []
  simpa [lines] using happend

theorem contents_eq : contents text = ls.map lineContent := by
  simp [contents, h.split_eq, h.lines_properties]

theorem startsWithFence : StartsWithFence (behind text) := by
  have hlines := h.lines_eq
  rw [lines_flatten_append h.isLine] at hlines
  rw [behind, h.closing?_eq, Option.getD_some]
  exact ⟨fence, more, List.append_cancel_left hlines, h.isFence⟩

theorem isContent_of_mem_contents (hw : w ∈ contents text) : IsContent w := by
  rw [h.contents_eq] at hw
  obtain ⟨l, hl, rfl⟩ := List.mem_map.1 hw
  exact isContent_lineContent (h.isLine l hl) (h.not_isFence l hl)

end Parted

/-- Moving the place of a note sets its entry among the lines of the properties, and nothing else
changes. A text without properties gets fences around the entry. -/
theorem exists_movePlace (text : List Char) :
    ∃ opening, IsOpening opening ∧ StartsWithFence (behind text) ∧
      (∀ w ∈ contents text, IsContent w) ∧ (closing? text = none ↔ split text = none) ∧
      ∀ key p, LatLng.IsPlace p → movePlace text key p =
        .ok (assemble opening (setEntry key.toList (placeEntry key p) (contents text))
          (behind text)) := by
  have hcheck : ∀ {p : LatLng}, p.IsPlace → p.check = .ok p := fun hp =>
    LatLng.check_eq_ok_iff.2 ⟨rfl, hp⟩
  by_cases h : split text = none
  · have hclosing : closing? text = none := by
      rw [split, Option.bind_eq_none_iff] at h
      rw [closing?, Option.bind_eq_none_iff]
      exact fun rest hrest => fromFence_eq_none_iff.2 (h rest hrest)
    refine ⟨['-', '-', '-', '\n'], Or.inl rfl, ?_, ?_, iff_of_true hclosing h, fun key p hp => ?_⟩
    · rw [behind, hclosing, Option.getD_none]
      exact ⟨['-', '-', '-', '\n'], lines text,
        lines_isLine_append ⟨['-', '-', '-'], by decide, rfl⟩ text, by decide⟩
    · simp [contents, h]
    · unfold movePlace
      simp [hcheck hp, h, contents, behind, hclosing, setEntry, assemble, unlines, Except.mapError]
  · obtain ⟨opening, ls, fence, more, h⟩ := exists_parted h
    refine ⟨opening, h.isOpening, h.startsWithFence, fun w => h.isContent_of_mem_contents,
      by simp [h.closing?_eq, h.split_eq], fun key p hp => ?_⟩
    unfold movePlace
    simp only [hcheck hp, h.split_eq, h.afterFence_eq, h.lines_properties, h.contents_eq, behind,
      h.closing?_eq]
    simp [h.text_eq, Except.mapError, assemble]

/-- Where a line of the properties ends in a carriage return, there is another one behind it. -/
theorem getLast?_ne_of_mem_contents (htext : ¬['\r', '\r'] <:+: text) :
    ∀ w ∈ contents text, w.getLast? ≠ some '\r' := by
  intro w hw hlast
  by_cases h : split text = none
  · simp [contents, h] at hw
  · obtain ⟨opening, ls, fence, more, h⟩ := exists_parted h
    rw [h.contents_eq] at hw
    obtain ⟨l, hl, rfl⟩ := List.mem_map.1 hw
    obtain ⟨v, hv⟩ := List.getLast?_eq_some_iff.1 hlast
    obtain ⟨r, hr, heq⟩ := exists_of_isLine (h.isLine l hl)
    rcases hr with hr | hr
    · -- a carriage return in front of the line feed would not belong to the content
      rw [hr, hv, List.nil_append] at heq
      rw [heq, lineContent_append_newline, if_pos (by simp)] at hv
      simp at hv
    · have hinside : ['\r', '\r'] <:+: l := ⟨v, ['\n'], by rw [heq, hv, hr]; simp⟩
      have hmem : l <:+: opening ++ (ls.flatten ++ (fence :: more).flatten) :=
        (List.infix_of_mem_flatten hl).trans ⟨opening, (fence :: more).flatten, by simp⟩
      exact htext (h.text_eq ▸ hinside.trans hmem)

/-- **The last place that is written counts, and what stands behind the properties stays.** A text
without two carriage returns in a row can be moved to any place, under any key without a line feed.
The text that results has properties; from their closing fence on it is the text that there was, or,
if that had no properties, a fence and all of it. Moving it on to another place gives the same text
as moving the first one there. -/
theorem movePlace_movePlace (htext : ¬['\r', '\r'] <:+: text) (hkey : '\n' ∉ key.toList)
    (ha : a.IsPlace) (hb : b.IsPlace) :
    ∃ moved moved' opening properties closing,
      movePlace text key a = .ok moved ∧ movePlace text key b = .ok moved' ∧
      movePlace moved key b = .ok moved' ∧
      moved = opening ++ (properties ++ closing) ∧ split moved = some properties ∧
      closing? moved = some closing ∧
      (split text ≠ none → closing? text = some closing) ∧
      (split text = none → closing = ['-', '-', '-', '\n'] ++ text) := by
  obtain ⟨opening, hopening, hclosing, hcontents, hnone, hmove⟩ := exists_movePlace text
  have hset := isContent_of_mem_setEntry (p := a) hcontents hkey
  have hreturn : ∀ w ∈ setEntry key.toList (placeEntry key a) (contents text),
      w.getLast? ≠ some '\r' := by
    intro w hw
    rcases mem_setEntry hw with h | h
    · obtain ⟨v, hv⟩ := exists_placeEntry_eq_concat key a
      simp [h, hv]
    · exact getLast?_ne_of_mem_contents htext w h
  obtain ⟨hsplit, hrest⟩ := split_assemble hopening hset hclosing
  refine ⟨_, _, opening, _, behind text, hmove key a ha, hmove key b hb, ?_, rfl, hsplit, hrest,
    fun h => ?_, fun h => ?_⟩
  · rw [movePlace_assemble hopening hset hclosing hreturn hb,
      setEntry_setEntry (isPrefixOf_placeEntry key a)]
  · obtain ⟨closing, hsome⟩ := Option.ne_none_iff_exists'.1 (mt hnone.1 h)
    simp [behind, hsome]
  · simp [behind, hnone.2 h]

/-- The lines of the old value go, the fences and the lines around it stay. -/
theorem movePlace_movePlace_of_list :
    let text := "---\r\ntitle: Home\r\nlocation:\r\n  - \"48.1,11.5\"\r\ntags: [x]\r\n---\r\n# Home".toList
    let moved := "---\r\ntitle: Home\nlocation: [3, 4.5]\ntags: [x]\n---\r\n# Home".toList
    ¬['\r', '\r'] <:+: text ∧ '\n' ∉ "location".toList ∧ LatLng.IsPlace ⟨1, 2⟩ ∧
      LatLng.IsPlace ⟨3, 4.5⟩ ∧
      movePlace text "location" ⟨3, 4.5⟩ = .ok moved ∧
      closing? text = some "---\r\n# Home".toList ∧
      ∃ between, movePlace text "location" ⟨1, 2⟩ = .ok between ∧
        movePlace between "location" ⟨3, 4.5⟩ = .ok moved ∧
        closing? between = some "---\r\n# Home".toList := by
  intro text moved
  have htext : ¬['\r', '\r'] <:+: text := by decide +kernel
  have ha : LatLng.IsPlace ⟨1, 2⟩ := by decide +kernel
  have hb : LatLng.IsPlace ⟨3, 4.5⟩ := by decide +kernel
  have hmoved : movePlace text "location" ⟨3, 4.5⟩ = .ok moved := by decide +kernel
  have hclosing : closing? text = some "---\r\n# Home".toList := by decide +kernel
  obtain ⟨between, moved', opening, properties, closing, h, h', hlast, -, -, hrest, hsame, -⟩ :=
    movePlace_movePlace htext (show '\n' ∉ "location".toList by decide) ha hb
  have hsplit : split text ≠ none := by decide +kernel
  rw [hmoved] at h'
  rw [← hsame hsplit, hclosing] at hrest
  exact ⟨htext, by decide, ha, hb, hmoved, hclosing, between, h, h' ▸ hlast, hrest⟩

end FrontMatter

end Gazetteer
