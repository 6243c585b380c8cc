/-!
# Tables of code point ranges

A property of characters is given by the ranges of code points that have it. `inRanges` decides it;
`inRanges_iff` says that for ranges in increasing order this is membership in one of them.
-/

namespace Gazetteer.Unicode

/-- Whether one of the ranges holds `n`, for ranges `(first, last)` in increasing order. -/
def inRanges : List (Nat × Nat) → Nat → Bool
  | [], _ => false
  | (lo, hi) :: rest, n => if n < lo then false else decide (n ≤ hi) || inRanges rest n

/-- The ranges are in increasing order: each starts after every earlier one. -/
def Increasing : List (Nat × Nat) → Prop
  | [] => True
  | (lo, _) :: rest => (∀ r ∈ rest, lo ≤ r.1) ∧ Increasing rest

theorem inRanges_iff {rs : List (Nat × Nat)} (h : Increasing rs) (n : Nat) :
    inRanges rs n = true ↔ ∃ r ∈ rs, r.1 ≤ n ∧ n ≤ r.2 := by
  induction rs with
  | nil => simp [inRanges]
  | cons r rest ih =>
    obtain ⟨lo, hi⟩ := r
    obtain ⟨hlo, hrest⟩ := h
    by_cases hn : n < lo
    · have hout : ∀ r ∈ rest, ¬ (r.1 ≤ n ∧ n ≤ r.2) := fun r hr hb => by
        have := hlo r hr
        omega
      simp only [inRanges, hn, if_true, List.mem_cons, exists_eq_or_imp]
      constructor
      · intro hf
        cases hf
      · rintro (hb | ⟨r, hr, hb⟩)
        · exact absurd hb.1 (by omega)
        · exact absurd hb (hout r hr)
    · simp only [inRanges, hn, if_false, Bool.or_eq_true, decide_eq_true_eq, ih hrest,
        List.mem_cons, exists_eq_or_imp]
      constructor
      · rintro (h | h)
        · exact Or.inl ⟨by omega, h⟩
        · exact Or.inr h
      · rintro (h | h)
        · exact Or.inl h.2
        · exact Or.inr h

end Gazetteer.Unicode
