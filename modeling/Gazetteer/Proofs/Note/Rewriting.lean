import Gazetteer.Note.Editing
import Gazetteer.Proofs.Note.Brackets
import Gazetteer.Proofs.Note.Facts
import Gazetteer.Proofs.Number.Plain

/-!
# Links that are written anew

What is written for a place is a link (`LinkText.ofPlace`), whose fact has this place and the name
that was written. Tags that stood behind a link are behind it again when it is written anew with one
space in front of them (`first?_rewritten`). So writing a link anew for another place changes the
fact of this link and no other one (`Exchanged.facts_eq`). A link that is written in the place of
other text is found unless a bracket in front of it is open, with the tags that happen to follow
(`fact_ofPlace`), and the facts of the other links stay (`mem_facts_of_change`).
-/

namespace Gazetteer

open Pattern

variable {a b s old new name w : List Char} {k : LinkText} {t : Outcome} {m m' r r' : Match}
  {p : LatLng} {f g : Fact} {group : String}

/-! ## The facts of matches -/

namespace Extraction

theorem getLeft?_found {kind : FactKind} (hkind : kind ≠ .geometryBlock) (m : Match) :
    (found kind m).getLeft? =
      (LatLng.read (m.group "lat") (m.group "lng")).toOption.map fun p =>
        ⟨kind, .place p, groupText m "name", groupText m "tags", some ⟨m.start, m.byteStart⟩,
          m.text⟩ := by
  rw [found_of_ne hkind, placeOf]
  cases LatLng.read (m.group "lat") (m.group "lng") <;> rfl

/-- The facts of links, one by one. -/
theorem facts_ofKind_inline (text : List Char) :
    (ofKind .inline text).facts =
      (inlineLocation.occurrences text).filterMap fun m => (found .inline m).getLeft? :=
  List.filterMap_map

theorem mem_facts_inline_iff {text : List Char} :
    f ∈ (ofKind .inline text).facts ↔
      ∃ m ∈ inlineLocation.occurrences text, (found .inline m).getLeft? = some f := by
  rw [facts_ofKind_inline, List.mem_filterMap]

theorem groupText_eq_none (h : m.group? group = none) : groupText m group = none := by
  unfold groupText
  rw [h]
  rfl

/-- The blanks around a group are left out, and the group with them if it has no other text. -/
theorem groupText_eq (h : m.group? group = some w) :
    groupText m group =
      if Unicode.trim w = [] then none else some (String.ofList (Unicode.trim w)) := by
  unfold groupText
  rw [h, Option.map_some]
  cases Unicode.trim w <;> rfl

theorem toList_groupText (h : m.group? group = some w) :
    ((groupText m group).getD "").toList = Unicode.trim w := by
  rw [groupText_eq h]
  split
  · rename_i hnil
    rw [hnil]
    rfl
  · exact String.toList_ofList

theorem groupText_of_trim (h : m.group? group = some w)
    (h' : m'.group? group = some (Unicode.trim w)) : groupText m' group = groupText m group := by
  rw [groupText_eq h, groupText_eq h', Unicode.trim_trim]

theorem groupText_congr (h : m'.group? group = m.group? group) :
    groupText m' group = groupText m group := by
  unfold groupText
  rw [h]

end Extraction

open Extraction

/-! ## Tags -/

namespace Pattern

/-- The tag items that were matched. -/
def Outcome.tags? (t : Outcome) : Option (List Char) :=
  (t.groups.find? (·.1 == "tags")).map (·.2)

theorem groups_of_trailingTags (h : trailingTags.first? s = some t) :
    t.groups = [] ∨ ∃ tags, t.groups = [("tags", tags)] := by
  rcases first?_trailingTags_iff.1 h with ⟨gap, tags, rest, -, -, -, rfl⟩ | ⟨-, rfl⟩
  · exact Or.inr ⟨tags, rfl⟩
  · exact Or.inl rfl

/-- The same tags with one space in front of them. -/
def Outcome.rewritten (t : Outcome) : Outcome :=
  { t with text := (t.tags?.map (' ' :: ·)).getD [] }

/-- How wide the gap in front of the tags is makes no difference. -/
theorem first?_rewritten (h : trailingTags.first? s = some t) :
    trailingTags.first? (t.rewritten.text ++ t.rest) = some t.rewritten := by
  rcases first?_trailingTags_iff.1 h with ⟨gap, tags, rest, -, hrun, -, rfl⟩ | ⟨-, rfl⟩
  · exact first?_trailingTags_iff.2 (Or.inl ⟨[' '], tags, rest, by simp [isGap], hrun, rfl, rfl⟩)
  · exact h

/-- Tags are found if and only if tag items follow. -/
theorem groupText_tags_eq_none_iff (h : trailingTags.first? s = some t)
    (hm : m.group? "tags" = t.tags?) : groupText m "tags" = none ↔ ¬TagsFollow s := by
  rcases first?_trailingTags_iff.1 h with ⟨gap, tags, rest, -, hrun, -, rfl⟩ | ⟨hno, rfl⟩
  · obtain ⟨w, rfl⟩ := prefix_of_mem_outcomes_tagRun (mem_outcomes_of_first? hrun)
    have htrim : Unicode.trim ("tag:".toList ++ w) ≠ [] :=
      Unicode.trim_cons_ne_nil (c := 't') (by decide) _
    have htags : groupText m "tags" ≠ none := by
      rw [groupText_eq hm, if_neg htrim]
      exact Option.some_ne_none _
    have hfollow : TagsFollow s := by
      by_contra hno
      rw [first?_trailingTags_iff.2 (Or.inr ⟨hno, rfl⟩), Option.some.injEq, Outcome.ext_iff] at h
      cases h.2.2
    exact iff_of_false htags (not_not_intro hfollow)
  · exact iff_of_true (groupText_eq_none hm) hno

end Pattern

/-! ## The links of places -/

namespace LinkText

/-- The groups of a link are its parts. -/
theorem group?_toMatch (h : trailingTags.first? s = some t) (k : LinkText) (a : List Char) :
    (k.toMatch a t).group? "name" = some k.name ∧ (k.toMatch a t).group? "tags" = t.tags? ∧
      (k.toMatch a t).group "lat" = k.lat ∧ (k.toMatch a t).group "lng" = k.lng := by
  unfold Match.group Match.group? toMatch Outcome.tags?
  rcases groups_of_trailingTags h with hgroups | ⟨tags, hgroups⟩ <;> rw [hgroups] <;>
    exact ⟨rfl, rfl, rfl, rfl⟩

/-- The text of a match, taken alone, has the same groups. -/
theorem find?_inlineLocation (h : trailingTags.first? s = some t) (k : LinkText) :
    inlineLocation.find? (k.text ++ t.text) = some (k.toMatch [] t) := by
  have htags : trailingTags.first? t.text = some { t with rest := [] } := by
    refine first?_of_extend (b := t.rest) rfl ?_
    rw [text_append_rest (mem_outcomes_of_first? h), h]
    rfl
  have hat : inlineLocation.matchAt (.between [] (k.text ++ t.text)) = some (k.toMatch [] t) := by
    rw [matchAt_between rfl, first?_inlineLocation, htags]
    rfl
  rw [text_eq, List.cons_append] at hat ⊢
  unfold find? findFrom
  rw [show inlineLocation.matchAt ⟨[], 0, _, []⟩ = _ from hat]

/-- The link that is written for a place. -/
def ofPlace (name : List Char) (p : LatLng) (hname : ∀ c ∈ name, isNameChar c = true)
    (hp : p.IsPlace) (hback : p.ReadsBack) : LinkText where
  name
  blanks₁ := []
  lat := (Number.showPlain p.lat).toList
  blanks₂ := []
  blanks₃ := []
  lng := (Number.showPlain p.lng).toList
  blanks₄ := []
  name_ok := hname
  blank₁ := by simp
  isDecimal_lat := LatLng.isDecimal_showPlain hp.1 hback.lat
  blank₂ := by simp
  blank₃ := by simp
  isDecimal_lng := LatLng.isDecimal_showPlain hp.2.1 hback.lng
  blank₄ := by simp

variable {hname : ∀ c ∈ name, isNameChar c = true} {hp : p.IsPlace} {hback : p.ReadsBack}

theorem writePlace_eq {n : String} (hn : n.toList = name) (tags : List Char) :
    writePlace n p tags = (ofPlace name p hname hp hback).text ++ tags := by
  subst hn
  unfold text target
  simp [writePlace, ofPlace, toString, LatLng.toString, String.toList_append]

/-- The fact of a link that is written for a place. -/
theorem getLeft?_found_ofPlace (h : trailingTags.first? s = some t) (a : List Char) :
    let m := (ofPlace name p hname hp hback).toMatch a t
    (found .inline m).getLeft? =
      some ⟨.inline, .place p, groupText m "name", groupText m "tags",
        some ⟨a.length, Text.utf8Length a⟩, m.text⟩ := by
  intro m
  obtain ⟨-, -, hlat, hlng⟩ := group?_toMatch h (ofPlace name p hname hp hback) a
  have hread : LatLng.read (m.group "lat") (m.group "lng") = .ok p := by
    rw [hlat, hlng]
    exact LatLng.read_showPlain hp hback
  rw [getLeft?_found FactKind.noConfusion, hread]
  rfl

/-- A link that is written anew for another place, with its name as it was read and its tags, has
the fact that it had, but for the place. -/
theorem getLeft?_found_rewritten (h : trailingTags.first? s = some t)
    (hk : (found .inline (k.toMatch a t)).getLeft? = some f)
    (hname : ∀ c ∈ Unicode.trim k.name, isNameChar c = true) (hp : p.IsPlace)
    (hback : p.ReadsBack) :
    let m := (ofPlace (Unicode.trim k.name) p hname hp hback).toMatch a t.rewritten
    (found .inline m).getLeft? = some { f with payload := .place p, text := m.text } := by
  intro m
  obtain ⟨hname₁, htags₁, -, -⟩ := group?_toMatch h k a
  obtain ⟨hname₂, htags₂, -, -⟩ :=
    group?_toMatch (first?_rewritten h) (ofPlace (Unicode.trim k.name) p hname hp hback) a
  rw [getLeft?_found FactKind.noConfusion, Option.map_eq_some_iff] at hk
  obtain ⟨q, -, rfl⟩ := hk
  rw [getLeft?_found_ofPlace (first?_rewritten h), groupText_of_trim hname₁ hname₂,
    groupText_congr (htags₂.trans htags₁.symm)]
  rfl

end LinkText

/-! ## Facts in a text that changes -/

/-- Where a position moves to when the text `old` that follows `before` is replaced by `new`. -/
def Spot.shifted (s : Spot) (before old new : List Char) : Spot :=
  if s.offset < before.length then s
  else ⟨s.offset - old.length + new.length,
    s.byteOffset - Text.utf8Length old + Text.utf8Length new⟩

/-- A fact beside some text that is exchanged. -/
def Fact.shifted (f : Fact) (before old new : List Char) : Fact :=
  { f with spot := f.spot.map (·.shifted before old new) }

theorem Fact.shifted_eq_self {spot : Spot} (hs : f.spot = some spot) (hlt : spot.offset < a.length)
    (old new : List Char) : f.shifted a old new = f := by
  unfold Fact.shifted Spot.shifted
  rw [hs, Option.map_some, if_pos hlt, ← hs]

/-- Behind the change the facts move with their matches. -/
theorem getLeft?_found_shift (hle : (a ++ old).length ≤ m.start)
    (hbyte : Text.utf8Length (a ++ old) ≤ m.byteStart) (new : List Char) :
    (found .inline (m.shift (a ++ old) (a ++ new))).getLeft? =
      (found .inline m).getLeft?.map (·.shifted a old new) := by
  have hspot : Spot.shifted ⟨m.start, m.byteStart⟩ a old new =
      ⟨(m.shift (a ++ old) (a ++ new)).start, (m.shift (a ++ old) (a ++ new)).byteStart⟩ := by
    rw [List.length_append] at hle
    rw [Text.utf8Length_append] at hbyte
    unfold Spot.shifted Match.shift
    rw [if_neg (by simp only; omega)]
    simp only [List.length_append, Text.utf8Length_append, Spot.mk.injEq]
    omega
  rw [getLeft?_found FactKind.noConfusion, getLeft?_found FactKind.noConfusion, Option.map_map]
  refine congrArg (Option.map · _) (funext fun q => ?_)
  unfold Fact.shifted
  rw [Function.comp_apply, Option.map_some, hspot]
  rfl

/-- What becomes of a fact when one of the facts behind some text is written anew for a place. -/
def Fact.afterMove (f r : Fact) (before : List Char) (p : LatLng) (written : List Char) : Fact :=
  if f.spot = r.spot then { f with payload := .place p, text := written }
  else f.shifted before r.text written

/-- **Writing a link anew changes its fact and no other one.** -/
theorem Exchanged.facts_eq (h : Exchanged a b r r') (hf : (found .inline r).getLeft? = some f)
    (hf' : (found .inline r').getLeft? = some { f with payload := .place p, text := r'.text }) :
    (ofKind .inline (a ++ (r'.text ++ b))).facts =
      (ofKind .inline (a ++ (r.text ++ b))).facts.map (·.afterMove f a p r'.text) := by
  rw [facts_ofKind_inline, facts_ofKind_inline, h.occurrences_eq, List.filterMap_map,
    List.map_filterMap]
  refine List.filterMap_congr fun m hm => ?_
  show (found .inline (m.exchange a r r')).getLeft? =
    (found .inline m).getLeft?.map (·.afterMove f a p r'.text)
  have hread := readFrom_of_getLeft? hf
  have hother : m.start ≠ r.start → (found .inline m).getLeft?.map (·.afterMove f a p r'.text) =
      (found .inline m).getLeft?.map (·.shifted a r.text r'.text) := fun hne => by
    refine Option.map_congr fun g hg => ?_
    have hg := (readFrom_of_getLeft? hg).spot
    unfold Fact.afterMove
    rw [if_neg (by simp [hg, hread.spot, hne]), hread.text]
  have hstart := h.start
  have hpos := h.length_pos
  rw [h.exchange_eq hm]
  rcases h.cases hm with ⟨-, hlt⟩ | rfl | ⟨hle, hbyte⟩
  · rw [if_pos hlt, hother (by omega)]
    refine (Option.map_id' (x := (found .inline m).getLeft?)).symm.trans
      (Option.map_congr fun g hg => ?_)
    exact (Fact.shifted_eq_self (readFrom_of_getLeft? hg).spot hlt _ _).symm
  · rw [if_neg (by omega), if_pos rfl, hf, hf', Option.map_some, Fact.afterMove, if_pos rfl]
  · have hne : m.start ≠ r.start := by omega
    rw [if_neg (by omega), if_neg (fun heq => hne (congrArg _ heq)), hother hne]
    exact getLeft?_found_shift (by rwa [List.length_append]) hbyte _

/-- Links beside some text keep their facts when other text is written in its place, if the other
text leaves no bracket open and neither of the two starts like tags. -/
theorem mem_facts_of_change {c d : Char} {v : List Char} {spot : Spot} (hold : old = c :: v)
    (hc : trailingTags.allows c = false) (hnew : new = d :: w) (hd : trailingTags.allows d = false)
    (hclosed : ClosedAtEnd new) (hf : f ∈ (ofKind .inline (a ++ (old ++ b))).facts)
    (hs : f.spot = some spot)
    (hapart : spot.offset + f.text.length ≤ a.length ∨ a.length + old.length ≤ spot.offset) :
    f.shifted a old new ∈ (ofKind .inline (a ++ (new ++ b))).facts := by
  obtain ⟨m, hm, hfound⟩ := mem_facts_inline_iff.1 hf
  have hread := readFrom_of_getLeft? hfound
  have hspot := hread.spot
  rw [hs, Option.some.injEq] at hspot
  subst hspot
  have hstands := (mem_occurrences_inlineLocation_iff.1 hm).1
  rcases hapart with hle | hle
  · have hlt : m.start < a.length := by
      obtain ⟨_, _, -, -, -, hw, -⟩ := hstands
      have := List.length_pos_iff.2 (hw.ne_nil rfl)
      simp only [hread.text] at hle
      omega
    rw [Fact.shifted_eq_self hs hlt]
    refine mem_facts_inline_iff.2 ⟨m, ?_, hfound⟩
    rw [hold, List.cons_append] at hm
    rw [hnew, List.cons_append]
    exact mem_occurrences_in_front hm (hread.text ▸ hle) hc hd _
  · rw [← List.append_assoc] at hm hstands
    have hle' : (a ++ old).length ≤ m.start := by rwa [List.length_append]
    refine mem_facts_inline_iff.2 ⟨m.shift (a ++ old) (a ++ new), ?_, ?_⟩
    · rw [← List.append_assoc]
      exact mem_occurrences_behind hm hle' (hclosed.append_left a)
    · rw [getLeft?_found_shift hle' (hstands.utf8Length_le hle'), hfound]
      rfl

/-! ## A link in the place of other text -/

namespace LinkText

variable {hname : ∀ c ∈ name, isNameChar c = true} {hp : p.IsPlace} {hback : p.ReadsBack}

/-- A link that is written for a place is found there unless a bracket in front of it is open. -/
theorem exists_fact_ofPlace_iff (a b : List Char) :
    let k := ofPlace name p hname hp hback
    (∃ f ∈ (ofKind .inline (a ++ (k.text ++ b))).facts,
      f.spot = some ⟨a.length, Text.utf8Length a⟩) ↔ ¬OpenAtEnd a := by
  intro k
  constructor
  · rintro ⟨f, hf, hs⟩
    obtain ⟨m, hm, hfound⟩ := mem_facts_inline_iff.1 hf
    rw [(readFrom_of_getLeft? hfound).spot, Option.some.injEq, Spot.mk.injEq] at hs
    have hclosed := (mem_occurrences_inlineLocation_iff.1 hm).2
    rwa [hs.1, List.take_left] at hclosed
  · intro hclosed
    obtain ⟨t, ht⟩ := exists_first?_trailingTags b
    exact ⟨_, mem_facts_inline_iff.2
      ⟨_, (k.mem_occurrences_iff a ht).2 hclosed, getLeft?_found_ofPlace ht a⟩, rfl⟩

/-- Its fact has the place, the name, and tags if tag items follow. -/
theorem fact_ofPlace
    (hf : f ∈ (ofKind .inline (a ++ ((ofPlace name p hname hp hback).text ++ b))).facts)
    (hs : f.spot = some ⟨a.length, Text.utf8Length a⟩) :
    f.payload = .place p ∧
      f.displayName =
        (if Unicode.trim name = [] then none else some (String.ofList (Unicode.trim name))) ∧
      (f.tagsText = none ↔ ¬TagsFollow b) := by
  obtain ⟨m, hm, hfound⟩ := mem_facts_inline_iff.1 hf
  rw [(readFrom_of_getLeft? hfound).spot, Option.some.injEq, Spot.mk.injEq] at hs
  obtain ⟨t, ht⟩ := exists_first?_trailingTags b
  obtain rfl : m = (ofPlace name p hname hp hback).toMatch a t :=
    (mem_occurrences_inlineLocation_iff.1 hm).1.unique
      (standsIn_inlineLocation_iff.2 ⟨a, _, b, t, rfl, ht, rfl⟩) hs.1
  rw [getLeft?_found_ofPlace ht, Option.some.injEq] at hfound
  subst hfound
  obtain ⟨hname', htags, -, -⟩ := group?_toMatch ht (ofPlace name p hname hp hback) a
  exact ⟨rfl, groupText_eq hname', groupText_tags_eq_none_iff ht htags⟩

end LinkText

end Gazetteer
