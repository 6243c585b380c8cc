import Gazetteer.Proofs.Pattern.Occurrences
import Gazetteer.Query.TagPattern

/-!
# What a tag pattern matches

The matcher keeps every text that may be left behind the part of the pattern read so far, so no way
of filling the stars is lost (`mem_leftOver`). A tag matches exactly if the stars can be filled in
(`isMatch_iff`). The text pattern that a tag pattern stands for, its pieces joined with `.*` between
anchors, matches in a tag under the same condition (`isMatch_pattern_iff`), so going through the tag
once decides what a search for that pattern would find (`isMatch_eq_isMatch_pattern`).
-/

namespace Gazetteer.TagPattern

variable {c : Char} {a b cs rest s w : List Char} {pieces xs : List (List Char)}

/-- The pieces of a pattern, with texts for the stars between them. -/
def filled : List (List Char) → List (List Char) → List Char
  | [], _ => []
  | s :: _, [] => s
  | s :: pieces, x :: xs => s ++ x ++ filled pieces xs

/-- A text is made up of the pieces of a pattern and texts without line feeds for the stars. -/
def IsFilled (pieces : List (List Char)) (text : List Char) : Prop :=
  ∃ xs, xs.length + 1 = pieces.length ∧ (∀ x ∈ xs, '\n' ∉ x) ∧ text = filled pieces xs

/-! ## Filling the stars -/

theorem isFilled_singleton : IsFilled [s] w ↔ w = s := by
  constructor
  · rintro ⟨xs, hlength, -, rfl⟩
    obtain rfl : xs = [] := List.length_eq_zero_iff.1 (by simpa using hlength)
    simp [filled]
  · rintro rfl
    exact ⟨[], rfl, by simp, by simp [filled]⟩

/-- A piece in front takes itself, and the star behind it a part of the text without line feeds. -/
theorem isFilled_cons (h : pieces ≠ []) :
    IsFilled (s :: pieces) w ↔ ∃ x w', '\n' ∉ x ∧ w = s ++ (x ++ w') ∧ IsFilled pieces w' := by
  constructor
  · rintro ⟨xs, hlength, hfeed, rfl⟩
    cases xs with
    | nil => exact absurd (List.length_eq_zero_iff.1 (by simpa using hlength.symm)) h
    | cons x xs =>
      exact ⟨x, filled pieces xs, hfeed x List.mem_cons_self, by simp [filled], xs,
        by simpa using hlength, fun y hy => hfeed y (List.mem_cons_of_mem x hy), rfl⟩
  · rintro ⟨x, _, hx, rfl, xs, hlength, hfeed, rfl⟩
    refine ⟨x :: xs, by simpa using hlength, ?_, by simp [filled]⟩
    simpa using ⟨hx, hfeed⟩

theorem filled_modifyHead (c : Char) (h : pieces ≠ []) (xs : List (List Char)) :
    filled (pieces.modifyHead (List.cons c)) xs = c :: filled pieces xs := by
  obtain ⟨s, pieces, rfl⟩ := List.exists_cons_of_ne_nil h
  cases xs <;> simp [filled]

/-- A character in front takes itself. -/
theorem isFilled_modifyHead (c : Char) (h : pieces ≠ []) :
    IsFilled (pieces.modifyHead (List.cons c)) w ↔ ∃ w', w = c :: w' ∧ IsFilled pieces w' := by
  constructor
  · rintro ⟨xs, hlength, hfeed, rfl⟩
    exact ⟨filled pieces xs, filled_modifyHead c h xs, xs, by simpa using hlength, hfeed, rfl⟩
  · rintro ⟨_, rfl, xs, hlength, hfeed, rfl⟩
    exact ⟨xs, by simpa using hlength, hfeed, (filled_modifyHead c h xs).symm⟩

/-! ## What is left of a text -/

theorem mem_afterStar : rest ∈ afterStar cs ↔ ∃ x, '\n' ∉ x ∧ cs = x ++ rest := by
  induction cs with
  | nil =>
    rw [afterStar, List.mem_singleton]
    constructor
    · rintro rfl
      exact ⟨[], by simp, rfl⟩
    · rintro ⟨x, -, hx⟩
      exact (List.append_eq_nil_iff.1 hx.symm).2
  | cons c cs ih =>
    rw [afterStar, List.mem_cons]
    constructor
    · rintro (rfl | hrest)
      · exact ⟨[], by simp, rfl⟩
      · split at hrest
        · cases hrest
        · rename_i hc
          obtain ⟨x, hx, rfl⟩ := ih.1 hrest
          exact ⟨c :: x, by simp [hx, Ne.symm hc], rfl⟩
    · rintro ⟨x, hx, hcs⟩
      cases x with
      | nil => exact Or.inl hcs.symm
      | cons d x =>
        obtain ⟨rfl, rfl⟩ := List.cons.inj hcs
        rw [List.mem_cons, not_or] at hx
        rw [if_neg (Ne.symm hx.1)]
        exact Or.inr (ih.2 ⟨x, hx.2, rfl⟩)

theorem afterChar_eq_some_iff : afterChar c cs = some rest ↔ cs = c :: rest := by
  cases cs with
  | nil => simp [afterChar]
  | cons d cs => simp [afterChar]

/-- **The texts left behind a pattern are those behind what it can be filled to.** -/
theorem mem_leftOver (pattern : List Char) {texts : List (List Char)} :
    rest ∈ leftOver pattern texts ↔
      ∃ w, w ++ rest ∈ texts ∧ IsFilled (pattern.splitOn '*') w := by
  induction pattern generalizing texts with
  | nil => simp [leftOver, isFilled_singleton]
  | cons c pattern ih =>
    have hne : pattern.splitOn '*' ≠ [] := List.splitOn_ne_nil '*' pattern
    rw [leftOver, List.splitOn_cons_eq_if_modifyHead]
    by_cases hc : c = '*'
    · rw [if_pos hc, if_pos (by simpa using hc), ih]
      simp only [List.mem_eraseDups, List.mem_flatMap, mem_afterStar, isFilled_cons hne,
        List.nil_append]
      constructor
      · rintro ⟨w, ⟨t, ht, x, hx, rfl⟩, hw⟩
        exact ⟨x ++ w, by simpa using ht, x, w, hx, rfl, hw⟩
      · rintro ⟨_, ht, x, w, hx, rfl, hw⟩
        exact ⟨w, ⟨_, ht, x, hx, List.append_assoc x w rest⟩, hw⟩
    · rw [if_neg hc, if_neg (by simpa using hc), ih]
      simp only [List.mem_filterMap, afterChar_eq_some_iff, isFilled_modifyHead c hne]
      constructor
      · rintro ⟨w, ⟨t, ht, rfl⟩, hw⟩
        exact ⟨c :: w, ht, w, rfl, hw⟩
      · rintro ⟨_, ht, w, rfl, hw⟩
        exact ⟨w, ⟨_, ht, rfl⟩, hw⟩

theorem isMatch_iff_isFilled (p : TagPattern) (tag : String) :
    p.isMatch tag = true ↔ p.text ≠ "" ∧ IsFilled (p.text.toList.splitOn '*') tag.toList := by
  rw [isMatch, Bool.and_eq_true, bne_iff_ne, List.contains_iff_mem, mem_leftOver]
  simp

/-- **A pattern matches a tag exactly if it says something and the tag is what its pieces make up**
with texts without line feeds for the stars. -/
theorem isMatch_iff (p : TagPattern) (tag : String) :
    p.isMatch tag = true ↔ p.text ≠ "" ∧
      ∃ xs : List (List Char), xs.length + 1 = (p.text.toList.splitOn '*').length ∧
        (∀ x ∈ xs, '\n' ∉ x) ∧ tag.toList = filled (p.text.toList.splitOn '*') xs := by
  rw [isMatch_iff_isFilled]
  rfl

/-! ## The same as a text pattern -/

theorem spans_anything_iff : anything.Spans a w b ↔ '\n' ∉ w := by
  simp only [anything, Pattern.spans_many_char_iff, bne_iff_ne, List.forall_mem_ne']

/-- Joined pieces can match what they can be filled to. -/
theorem spans_joined_iff (h : pieces ≠ []) :
    (joined pieces).Spans a w b ↔ IsFilled pieces w := by
  induction pieces generalizing a w with
  | nil => exact absurd rfl h
  | cons s pieces ih =>
    cases pieces with
    | nil => simp [joined, Pattern.all, Pattern.spans_lit_iff, isFilled_singleton]
    | cons s' pieces =>
      have hne : s' :: pieces ≠ [] := List.cons_ne_nil _ _
      have hjoined : joined (s :: s' :: pieces) =
          .seq (.lit (String.ofList s)) (.seq anything (joined (s' :: pieces))) := by
        cases pieces <;> rfl
      simp only [hjoined, Pattern.spans_seq_iff, Pattern.spans_lit_iff, spans_anything_iff, ih hne,
        isFilled_cons hne, String.toList_ofList]
      constructor
      · rintro ⟨_, _, rfl, rfl, x, w', rfl, hx, hw'⟩
        exact ⟨x, w', hx, rfl, hw'⟩
      · rintro ⟨x, w', hx, rfl, hw'⟩
        exact ⟨s, x ++ w', rfl, rfl, x, w', rfl, hx, hw'⟩

/-- Between the anchors stands the whole text. -/
theorem isMatch_pattern_iff (p : TagPattern) (text : List Char) :
    p.pattern.isMatch text = true ↔ IsFilled (p.text.toList.splitOn '*') text := by
  have hpieces : p.text.toList.splitOn '*' ≠ [] := List.splitOn_ne_nil '*' _
  simp only [Pattern.isMatch_eq_true_iff, pattern, Pattern.all, Pattern.spans_seq_iff,
    Pattern.spans_atStart_iff, Pattern.spans_atEnd_iff, spans_joined_iff hpieces]
  constructor
  · rintro ⟨_, _, _, rfl, _, _, rfl, ⟨rfl, rfl⟩, w, _, rfl, hw, rfl, rfl⟩
    simpa using hw
  · intro hw
    exact ⟨[], text, [], by simp, [], text, rfl, ⟨rfl, rfl⟩, text, [], by simp, hw, rfl, rfl⟩

/-- **A tag is matched exactly if the text pattern is found in it.** -/
theorem isMatch_eq_isMatch_pattern (p : TagPattern) (tag : String) :
    p.isMatch tag = (p.text != "" && p.pattern.isMatch tag.toList) := by
  rw [Bool.eq_iff_iff, isMatch_iff_isFilled, Bool.and_eq_true, bne_iff_ne, isMatch_pattern_iff]

end Gazetteer.TagPattern
