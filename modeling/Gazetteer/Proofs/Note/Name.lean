import Gazetteer.Note.Name
import Gazetteer.Proofs.Text.Utf8
import Mathlib.Data.List.Perm.Basic

/-!
# Names as they are compared

Decoding changes nothing in a text without `%` (`percentDecode_of_not_mem`). Folding a name may
change how many characters it has, but none of those that divide a path into components and a name
into stem and extension are lost or new (`count_foldName`).
-/

namespace Gazetteer

/-! ## Decoding -/

section Decoding

variable {s : String} {cs : List Char}

theorem percentBytes_of_not_mem (h : '%' ∉ cs) :
    percentBytes cs = cs.flatMap String.utf8EncodeChar := by
  induction cs with
  | nil => rfl
  | cons c cs ih =>
    have hc : c ≠ '%' := fun hc => h (hc ▸ List.mem_cons_self)
    rw [percentBytes, List.flatMap_cons, ih fun hcs => h (List.mem_cons_of_mem _ hcs),
      Text.toList_toUTF8_singleton]
    exact fun _ _ _ heq _ => hc heq

/-- **A text without `%` stays as it is.** -/
theorem percentDecode_of_not_mem (h : '%' ∉ s.toList) : percentDecode s = s := by
  rw [percentDecode, percentBytes_of_not_mem h, Text.decodeLossy_flatMap, String.ofList_toList]

end Decoding

namespace Unicode

variable {n m a b c : Nat} {parts marks ns : List Nat} {ch : Char}

/-! ## Composed form -/

theorem lt_of_mem_pairs {p : Nat × Nat × Nat} (h : p ∈ composedPairs ++ excludedPairs) :
    0x2F < p.1 ∧ 0x2F < p.2.1 ∧ 0x2F < p.2.2 := by
  have hall : (composedPairs ++ excludedPairs).all (fun p =>
      decide (0x2F < p.1 ∧ 0x2F < p.2.1 ∧ 0x2F < p.2.2)) = true := by decide +kernel
  exact of_decide_eq_true (List.all_eq_true.1 hall p h)

theorem lt_of_singletonTarget (h : singletonTarget n = some m) : 0x2F < n ∧ 0x2F < m := by
  have hall : singletonRuns.all (fun r =>
      decide (0x2F < r.1) && r.2.all fun m => decide (0x2F < m)) = true := by decide +kernel
  obtain ⟨⟨first, targets⟩, hrun, htarget⟩ := List.exists_of_findSome?_eq_some h
  obtain ⟨hfirst, htargets⟩ := Bool.and_eq_true_iff.1 (List.all_eq_true.1 hall _ hrun)
  simp only at htarget
  split at htarget
  · rename_i hle
    exact ⟨Nat.lt_of_lt_of_le (of_decide_eq_true hfirst) hle,
      of_decide_eq_true (List.all_eq_true.1 htargets m (List.mem_of_getElem? htarget))⟩
  · cases htarget

/-- Only characters behind the marks of paths are taken apart, and into such characters. -/
theorem lt_of_decomposeOnce (h : decomposeOnce n = some parts) :
    0x2F < n ∧ ∀ m ∈ parts, 0x2F < m := by
  unfold decomposeOnce at h
  split at h
  · rename_i parts' hparts
    obtain rfl := Option.some.inj h
    unfold hangulParts at hparts
    split at hparts
    · rename_i hn
      obtain rfl := Option.some.inj hparts
      refine ⟨by omega, fun m hm => ?_⟩
      split at hm <;> simp at hm <;> omega
    · cases hparts
  · split at h
    · rename_i p a b hfind
      obtain rfl := Option.some.inj h
      have hpair := lt_of_mem_pairs (List.mem_of_find?_eq_some hfind)
      have hn : p = n := by simpa using List.find?_some hfind
      exact ⟨hn ▸ hpair.1, by simpa using hpair.2⟩
    · obtain ⟨m, hm, rfl⟩ := Option.map_eq_some_iff.1 h
      have hlt := lt_of_singletonTarget hm
      exact ⟨hlt.1, by simpa using hlt.2⟩

theorem decomposeUpTo_of_le (h : n ≤ 0x2F) (depth : Nat) : decomposeUpTo depth n = [n] := by
  cases depth with
  | zero => rfl
  | succ depth =>
    rw [decomposeUpTo]
    cases hparts : decomposeOnce n with
    | none => rfl
    | some parts => exact absurd (lt_of_decomposeOnce hparts).1 (Nat.not_lt.2 h)

theorem lt_of_mem_decomposeUpTo {depth : Nat} (hn : 0x2F < n) (h : m ∈ decomposeUpTo depth n) :
    0x2F < m := by
  induction depth generalizing n with
  | zero => exact List.mem_singleton.1 h ▸ hn
  | succ depth ih =>
    rw [decomposeUpTo] at h
    cases hparts : decomposeOnce n with
    | none =>
      rw [hparts] at h
      exact List.mem_singleton.1 h ▸ hn
    | some parts =>
      rw [hparts] at h
      obtain ⟨a, ha, hm⟩ := List.mem_flatMap.1 h
      exact ih ((lt_of_decomposeOnce hparts).2 a ha) hm

theorem count_decompose (hm : m ≤ 0x2F) (n : Nat) : (decompose n).count m = [n].count m := by
  unfold decompose
  by_cases hn : n ≤ 0x2F
  · rw [decomposeUpTo_of_le hn]
  · have hlt : 0x2F < n := Nat.lt_of_not_le hn
    rw [List.count_eq_zero_of_not_mem fun h => absurd (lt_of_mem_decomposeUpTo hlt h) (by omega),
      List.count_eq_zero_of_not_mem (by simp; omega)]

theorem perm_insertMark (n : Nat) (marks : List Nat) : (insertMark n marks).Perm (n :: marks) := by
  induction marks with
  | nil => exact .refl _
  | cons k marks ih =>
    rw [insertMark]
    split
    · exact .refl _
    · exact (ih.cons k).trans (.swap n k marks)

theorem perm_reorderFrom (marks ns : List Nat) : (reorderFrom marks ns).Perm (marks ++ ns) := by
  induction ns generalizing marks with
  | nil => simp [reorderFrom]
  | cons n ns ih =>
    rw [reorderFrom]
    split
    · exact ((ih []).cons n).append_left marks
    · exact (ih _).trans (((perm_insertMark n marks).append_right ns).trans List.perm_middle.symm)

/-- Only characters behind the marks of paths are put together, and to such characters. -/
theorem lt_of_pairComposite (h : pairComposite a b = some c) : 0x2F < a ∧ 0x2F < b ∧ 0x2F < c := by
  unfold pairComposite at h
  split at h
  · rename_i s hs
    obtain rfl := Option.some.inj h
    unfold hangulSyllable at hs
    split at hs
    · obtain rfl := Option.some.inj hs
      omega
    · split at hs
      · obtain rfl := Option.some.inj hs
        omega
      · cases hs
  · obtain ⟨⟨c', x, y⟩, hfind, rfl⟩ := Option.map_eq_some_iff.1 h
    have hpair := lt_of_mem_pairs (List.mem_append_left _ (List.mem_of_find?_eq_some hfind))
    have hxy : x = a ∧ y = b := by simpa using List.find?_some hfind
    exact ⟨hxy.1 ▸ hpair.2.1, hxy.2 ▸ hpair.2.2, hpair.1⟩

theorem count_cons_of_lt (hm : m ≤ 0x2F) (hn : 0x2F < n) (ns : List Nat) :
    (n :: ns).count m = ns.count m :=
  List.count_cons_of_ne (by omega)

theorem count_composeFrom (hm : m ≤ 0x2F) (base : Nat) (marks ns : List Nat) :
    (composeFrom base marks ns).count m = (base :: (marks ++ ns)).count m := by
  induction ns generalizing base marks with
  | nil => simp [composeFrom, List.count_cons]
  | cons n ns ih =>
    unfold composeFrom
    simp only
    split
    · rename_i c hc
      obtain ⟨hbase, hn, hc⟩ := lt_of_pairComposite (Option.ite_none_right_eq_some.1 hc).2
      rw [ih, count_cons_of_lt hm hc, count_cons_of_lt hm hbase, List.count_append,
        List.count_append, count_cons_of_lt hm hn]
    · split
      · simp [ih, List.count_cons, List.count_append]
      · rw [ih]
        simp only [List.count_cons, List.cons_append, List.count_append]
        omega

theorem count_compose (hm : m ≤ 0x2F) (ns : List Nat) : (compose ns).count m = ns.count m := by
  induction ns with
  | nil => rfl
  | cons n ns ih =>
    rw [compose]
    split
    · rw [count_composeFrom hm, List.nil_append]
    · rw [List.count_cons, List.count_cons, ih]

theorem toNat_ofNat_eq (n : Nat) : (Char.ofNat n).toNat = n ∨ (Char.ofNat n).toNat = 0 := by
  by_cases h : n.isValidChar
  · exact Or.inl (by rw [Char.ofNat, dif_pos h]; rfl)
  · exact Or.inr (by rw [Char.ofNat, dif_neg h]; rfl)

theorem ofNat_eq_iff (hpos : 0 < ch.toNat) (n : Nat) : Char.ofNat n = ch ↔ n = ch.toNat := by
  constructor
  · rintro rfl
    have heq := toNat_ofNat_eq n
    omega
  · rintro rfl
    exact Char.ofNat_toNat ch

/-- The composed form of a text has as many marks of ASCII, up to the slash, as the text. -/
theorem count_composed (hpos : 0 < ch.toNat) (hle : ch.toNat ≤ 0x2F) (s : String) :
    (composed s).toList.count ch = s.toList.count ch := by
  unfold composed
  split
  · rfl
  have hcount : ∀ ns : List Nat, (ns.map Char.ofNat).count ch = ns.count ch.toNat := fun ns => by
    rw [List.count_eq_countP, List.countP_map, List.count_eq_countP]
    exact List.countP_congr fun n _ => by simp [ofNat_eq_iff hpos]
  rw [String.toList_ofList, hcount, count_compose hle, reorder, (perm_reorderFrom _ _).count_eq,
    List.nil_append]
  induction s.toList with
  | nil => rfl
  | cons c cs ih =>
    rw [List.flatMap_cons, List.count_append, ih, count_decompose hle, List.count_cons,
      List.count_cons, List.count_nil, Nat.add_comm]
    congr 1
    simp [Char.toNat_inj]

/-! ## Lower case -/

/-- The lower case of ASCII differs only where letters are. -/
theorem toLower_eq_iff (hle : ch.toNat ≤ 0x2F) {c : Char} (hc : c.toNat < 128) :
    c.toLower = ch ↔ c = ch := by
  have hascii : ∀ n < 128, (Char.ofNat n).toLower = Char.ofNat n ∨
      0x2F < n ∧ 0x2F < (Char.ofNat n).toLower.toNat := by decide +kernel
  have hlower := hascii c.toNat hc
  rw [Char.ofNat_toNat] at hlower
  rcases hlower with heq | ⟨hlt, hlt'⟩
  · rw [heq]
  · refine iff_of_false ?_ ?_ <;>
    · rintro rfl
      omega

/-- The lower case form of a character in a run comes behind the marks of paths. -/
theorem lt_offset {r : CaseRun} {n : Nat} (h : lowercaseRuns.find? (·.contains n) = some r) :
    0x2F < (n + r.offset).toNat := by
  have hruns : lowercaseRuns.all (fun r => decide (0x2F < r.first + r.offset)) = true := by
    decide +kernel
  have hr := of_decide_eq_true (List.all_eq_true.1 hruns r (List.mem_of_find?_eq_some h))
  have hcontains := List.find?_some h
  simp only [CaseRun.contains, Bool.and_eq_true, decide_eq_true_eq] at hcontains
  omega

theorem ne_of_lt_toNat (hle : ch.toNat ≤ 0x2F) {c : Char} (hc : 0x2F < c.toNat) : c ≠ ch := by
  rintro rfl
  omega

theorem not_mem_lowerChar (hpos : 0 < ch.toNat) (hle : ch.toNat ≤ 0x2F) {c : Char}
    (hc : ¬c.toNat < 128) : ch ∉ lowerChar c := by
  have hne : c ≠ ch := ne_of_lt_toNat hle (by omega)
  unfold lowerChar
  rw [if_neg hc]
  split
  · have hwords : ['i', Char.ofNat 0x307].all (fun c => decide (0x2F < c.toNat)) = true := by decide
    exact fun h => absurd (of_decide_eq_true (List.all_eq_true.1 hwords ch h)) (by omega)
  · split
    · rename_i r hfind
      have hlt := lt_offset hfind
      rw [List.mem_singleton, eq_comm, ofNat_eq_iff hpos]
      omega
    · simpa using hne.symm

theorem count_lowerChar (hpos : 0 < ch.toNat) (hle : ch.toNat ≤ 0x2F) (c : Char) :
    (lowerChar c).count ch = [c].count ch := by
  by_cases hc : c.toNat < 128
  · rw [lowerChar, if_pos hc]
    simp [List.count_cons, toLower_eq_iff hle hc]
  · have hne : c ≠ ch := ne_of_lt_toNat hle (by omega)
    rw [List.count_eq_zero_of_not_mem (not_mem_lowerChar hpos hle hc),
      List.count_eq_zero_of_not_mem (by simpa using hne.symm)]

/-- The lower case form of a text has as many marks of ASCII, up to the slash, as the text. -/
theorem count_lowercase (hpos : 0 < ch.toNat) (hle : ch.toNat ≤ 0x2F) (s : String) :
    (lowercase s).toList.count ch = s.toList.count ch := by
  unfold lowercase
  rw [String.toList_ofList]
  generalize ([] : List Char) = before
  induction s.toList generalizing before with
  | nil => rfl
  | cons c cs ih =>
    rw [lowerFrom, List.count_append, ih, ← List.singleton_append (l := cs), List.count_append]
    congr 1
    split
    · rename_i hc
      have hne : c ≠ ch := ne_of_lt_toNat hle (hc ▸ by decide)
      rw [List.count_cons_of_ne hne]
      split
      · exact List.count_cons_of_ne (ne_of_lt_toNat hle (by decide))
      · exact List.count_cons_of_ne (ne_of_lt_toNat hle (by decide))
    · exact count_lowerChar hpos hle c

end Unicode

/-- **Folding a name keeps the marks that divide a path**, as many as there are. -/
theorem count_foldName {ch : Char} (hpos : 0 < ch.toNat) (hle : ch.toNat ≤ 0x2F) (s : String) :
    (foldName s).toList.count ch = s.toList.count ch := by
  rw [foldName, Unicode.count_lowercase hpos hle, Unicode.count_composed hpos hle]

end Gazetteer
