import Mathlib
import Gazetteer.Number.Binary64

/-!
# Doubles as exact numbers

A finite double is compared as the fraction that its sign, mantissa and exponent make
(`lt_iff_exact_lt`, `le_iff_exact_le`). Doubles are compared by exponent and then by mantissa, which
is the order of the fractions because every mantissa has its full width, except at the least
exponent (`Legal`).
-/

namespace Gazetteer.Number

open Float.Model UnpackedFloat

/-- The number that a double stands for; what is infinite or no number counts as zero. -/
def Binary64.value : Binary64 → ℚ
  | .finite negative mantissa exponent =>
    let magnitude := (mantissa : ℚ) * 2 ^ exponent
    if negative then -magnitude else magnitude
  | _ => 0

/-- The number that a double stands for. -/
def exact (x : Float) : ℚ := (Binary64.ofFloat x).value

/-- A mantissa fits its width, and fills it unless the exponent is the least one. -/
structure Legal (m : Nat) (e : Int) : Prop where
  lt : m < 2 ^ 53
  le : -1074 ≤ e
  full : e = -1074 ∨ 2 ^ 52 ≤ m

theorem legal_subnormal {m : Nat} (hm : m < 2 ^ 52) : Legal m (-1074) :=
  ⟨by omega, Int.le_refl _, .inl rfl⟩

theorem legal_normal {m : Nat} {e : Int} (hm : m < 2 ^ 52) (he : -1074 ≤ e) :
    Legal (m + Nat.pow 2 52) e := by
  have hpow : Nat.pow 2 52 = 2 ^ 52 := rfl
  exact ⟨by omega, he, .inr (by omega)⟩

/-! ## Magnitudes -/

section Magnitudes

variable {m n : Nat} {e f : Int}

theorem magnitude_pos (hm : 0 < m) (e : Int) : (0 : ℚ) < m * 2 ^ e := by positivity

theorem magnitude_lt_of_lt (hm : Legal m e) (hn : Legal n f) (h : e < f) :
    (m : ℚ) * 2 ^ e < n * 2 ^ f := by
  have hwidth : (m : ℚ) < 2 ^ 53 := by exact_mod_cast hm.lt
  have hfull : (2 : ℚ) ^ 52 ≤ n := by
    have hle := hm.le
    exact_mod_cast hn.full.resolve_left (by omega)
  calc (m : ℚ) * 2 ^ e < 2 ^ 53 * 2 ^ e := by gcongr
    _ = 2 ^ 52 * 2 ^ (e + 1) := by
      rw [zpow_add_one₀ two_ne_zero]
      ring
    _ ≤ 2 ^ 52 * 2 ^ f := by
      gcongr
      · exact one_le_two
      · exact h
    _ ≤ n * 2 ^ f := by gcongr

/-- Exponents decide, and mantissas where the exponents are the same. -/
theorem compare_magnitude (hm : Legal m e) (hn : Legal n f) :
    compare ((m : ℚ) * 2 ^ e) (n * 2 ^ f) = (compare e f).then (compare m n) := by
  rcases lt_trichotomy e f with h | rfl | h
  · rw [compare_lt_iff_lt.2 h, compare_lt_iff_lt.2 (magnitude_lt_of_lt hm hn h)]
    rfl
  · have hpow : (0 : ℚ) < 2 ^ e := by positivity
    rw [Std.ReflOrd.compare_self, ← cmp_eq_compare, cmp_mul_pos_right hpow,
      Nat.strictMono_cast.cmp_map_eq, cmp_eq_compare]
    rfl
  · rw [compare_gt_iff_gt.2 h, compare_gt_iff_gt.2 (magnitude_lt_of_lt hn hm h)]
    rfl

end Magnitudes

/-! ## Comparing -/

/-- A double, taken apart, stands for a number. -/
inductive Stands : UnpackedFloat → ℚ → Prop
  | zero (s : Sign) : Stands (.zero s) 0
  | positive {m : Nat} {e : Int} (h : Legal m e) (hm : 0 < m) :
    Stands (.finite .positive m e hm) (m * 2 ^ e)
  | negative {m : Nat} {e : Int} (h : Legal m e) (hm : 0 < m) :
    Stands (.finite .negative m e hm) (-(m * 2 ^ e))

theorem Stands.compare_eq {u v : UnpackedFloat} {a b : ℚ} (h : Stands u a) (h' : Stands v b) :
    u.compare v = some (compare a b) := by
  cases h with
  | zero s =>
    cases h' with
    | zero t =>
      rw [Std.ReflOrd.compare_self]
      rfl
    | positive hn hn' =>
      rw [compare_lt_iff_lt.2 (magnitude_pos hn' _)]
      rfl
    | negative hn hn' =>
      rw [compare_gt_iff_gt.2 (neg_lt_zero.2 (magnitude_pos hn' _))]
      rfl
  | positive hm hm' =>
    cases h' with
    | zero t =>
      rw [compare_gt_iff_gt.2 (magnitude_pos hm' _)]
      rfl
    | positive hn hn' =>
      rw [compare_magnitude hm hn]
      rfl
    | negative hn hn' =>
      rw [compare_gt_iff_gt.2
        ((neg_lt_zero.2 (magnitude_pos hn' _)).trans (magnitude_pos hm' _))]
      rfl
  | negative hm hm' =>
    cases h' with
    | zero t =>
      rw [compare_lt_iff_lt.2 (neg_lt_zero.2 (magnitude_pos hm' _))]
      rfl
    | positive hn hn' =>
      rw [compare_lt_iff_lt.2
        ((neg_lt_zero.2 (magnitude_pos hm' _)).trans (magnitude_pos hn' _))]
      rfl
    | negative hn hn' =>
      have hneg : StrictAnti (Neg.neg : ℚ → ℚ) := fun _ _ => neg_lt_neg
      rw [← cmp_eq_compare, hneg.cmp_map_eq, cmp_eq_compare, Std.OrientedOrd.eq_swap,
        compare_magnitude hm hn]
      rfl

/-! ## Bits -/

section Bits

variable (v : BitVec 64)

theorem toNat_unpackExponent :
    (@unpackExponent Format.binary64 v).toNat = v.toNat / Nat.pow 2 52 % Nat.pow 2 11 := by
  rw [unpackExponent_def, BitVec.extractLsb'_toNat, Nat.shiftRight_eq_div_pow]
  rfl

theorem toNat_unpackMantissa :
    (@unpackMantissa Format.binary64 v).toNat = v.toNat % Nat.pow 2 52 := by
  rw [unpackMantissa_def, BitVec.extractLsb'_toNat, Nat.shiftRight_zero]
  rfl

theorem ofBitVec_unpackSign :
    Sign.ofBitVec (@unpackSign Format.binary64 v) =
      if Nat.pow 2 63 ≤ v.toNat then .negative else .positive := by
  have hv : v.toNat < 2 ^ 64 := v.isLt
  have hzero : @unpackSign Format.binary64 v = 0#1 ↔ ¬Nat.pow 2 63 ≤ v.toNat := by
    rw [← BitVec.toNat_inj, unpackSign_def, BitVec.extractLsb'_toNat, Nat.shiftRight_eq_div_pow]
    show v.toNat / 2 ^ 63 % 2 ^ 1 = 0 ↔ ¬2 ^ 63 ≤ v.toNat
    omega
  unfold Sign.ofBitVec
  by_cases hsign : Nat.pow 2 63 ≤ v.toNat
  · rw [if_neg (fun h => hzero.1 h hsign), if_pos hsign]
  · rw [if_pos (hzero.2 hsign), if_neg hsign]

end Bits

theorem toNat_one_append (m : BitVec 52) : (1#1 ++ m).toNat = m.toNat + Nat.pow 2 52 := by
  rw [BitVec.toNat_append, ← Nat.shiftLeft_add_eq_or_of_lt m.isLt, Nat.add_comm]
  rfl

theorem stands_signed {m m' : Nat} {e e' : Int} (hm : m = m') (he : e = e') (h : Legal m' e')
    (hpos : 0 < m) (negative : Prop) [Decidable negative] :
    Stands (.finite (if negative then .negative else .positive) m e hpos)
      (Binary64.finite (decide negative) m' e').value := by
  subst hm he
  by_cases hn : negative
  · simpa [hn, Binary64.value] using Stands.negative h hpos
  · simpa [hn, Binary64.value] using Stands.positive h hpos

/-- What the bits of a finite double say is what it stands for. -/
theorem stands_exact {x : Float} (h : x.isFinite = true) : Stands x.toModel.unpack (exact x) := by
  have hbits : x.toBits.toNat = x.toModel.toBits.toBitVec.toNat := rfl
  change (UnpackedFloat.unpack Format.binary64 x.toModel.toBits.toBitVec).isFinite = true at h
  show Stands (UnpackedFloat.unpack Format.binary64 x.toModel.toBits.toBitVec) _
  unfold exact Binary64.ofFloat
  simp only [hbits]
  generalize x.toModel.toBits.toBitVec = v at h
  have hbias : Format.exponentBias Format.binary64 = 1023 := rfl
  have hwidth : (@unpackMantissa Format.binary64 v).toNat < 2 ^ 52 := BitVec.isLt _
  simp only [← toNat_unpackExponent, ← toNat_unpackMantissa]
  unfold UnpackedFloat.unpack at h ⊢
  simp only [ofBitVec_unpackSign, hbias] at h ⊢
  by_cases hones : @unpackExponent Format.binary64 v = -1#11
  · -- infinite or no number
    rw [if_pos hones] at h
    split at h <;> cases h
  · have hones' : (@unpackExponent Format.binary64 v).toNat ≠ 2047 :=
      fun h => hones (BitVec.toNat_inj.1 h)
    rw [if_neg hones, if_neg hones']
    by_cases hzero : @unpackExponent Format.binary64 v = 0#11
    · have hzero' : (@unpackExponent Format.binary64 v).toNat = 0 := congrArg BitVec.toNat hzero
      rw [if_pos hzero, if_pos hzero']
      by_cases hmantissa : @unpackMantissa Format.binary64 v = 0#52
      · rw [dif_pos hmantissa, hmantissa]
        simpa [Binary64.value] using Stands.zero _
      · rw [dif_neg hmantissa]
        exact stands_signed rfl (by omega) (legal_subnormal hwidth) _ _
    · have hzero' : (@unpackExponent Format.binary64 v).toNat ≠ 0 :=
        fun h => hzero (BitVec.toNat_inj.1 h)
      rw [if_neg hzero, if_neg hzero']
      exact stands_signed (toNat_one_append _) (by omega) (legal_normal hwidth (by omega)) _ _

variable {x y : Float}

theorem compare_unpack (hx : x.isFinite = true) (hy : y.isFinite = true) :
    x.toModel.unpack.compare y.toModel.unpack = some (compare (exact x) (exact y)) :=
  (stands_exact hx).compare_eq (stands_exact hy)

/-- **Finite doubles are compared as the numbers they stand for.** -/
theorem lt_iff_exact_lt (hx : x.isFinite = true) (hy : y.isFinite = true) :
    x < y ↔ exact x < exact y := by
  show decide (x.toModel.unpack.lt y.toModel.unpack = true) = true ↔ _
  rw [decide_eq_true_iff, UnpackedFloat.lt, compare_unpack hx hy, beq_iff_eq,
    Option.some.injEq, compare_lt_iff_lt]

theorem le_iff_exact_le (hx : x.isFinite = true) (hy : y.isFinite = true) :
    x ≤ y ↔ exact x ≤ exact y := by
  show decide (x.toModel.unpack.le y.toModel.unpack = true) = true ↔ _
  rw [decide_eq_true_iff, UnpackedFloat.le, compare_unpack hx hy, Option.any_some,
    Ordering.isLE_iff_ne_gt]
  exact compare_le_iff_le

end Gazetteer.Number
