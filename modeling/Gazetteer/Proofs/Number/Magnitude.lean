import Mathlib
import Gazetteer.Coordinate

/-!
# The magnitude of a number

A whole number beyond 63 bits has a large exponent as a double (`exists_unpack_nearest`), so the
whole numbers among latitudes and longitudes are small (`lt_of_isHalf`).
-/

namespace Gazetteer.Number

open Float.Model UnpackedFloat

variable {n m k : Nat} {negative : Bool} {x y : Float} {e e' : Int} {hm : 0 < m} {hk : 0 < k}

/-- A finite double is what its bits say. -/
theorem unpack_ofBits {b : UInt64} (h : (Float.ofBits b).isFinite = true) :
    (Float.ofBits b).toModel.unpack = UnpackedFloat.unpack Format.binary64 b.toBitVec := by
  change (UnpackedFloat.unpack Format.binary64 (pack _ (unpack _ _))).isFinite = true at h
  show UnpackedFloat.unpack Format.binary64 (pack _ (unpack _ _)) = _
  rw [@pack_unpack Format.binary64 b.toBitVec (by decide)] at h ⊢
  by_cases hnan : @isNaNBits Format.binary64 b.toBitVec = true
  · rw [if_pos hnan, unpack_packedNaN] at h
    cases h
  · rw [if_neg hnan]

theorem exists_unpack_of_exponent {v : BitVec 64}
    (hv : 1084 ≤ (@unpackExponent Format.binary64 v).toNat)
    (hfinite : (UnpackedFloat.unpack Format.binary64 v).isFinite = true) :
    ∃ s m e hm, UnpackedFloat.unpack Format.binary64 v = .finite s m e hm ∧ 9 ≤ e := by
  unfold UnpackedFloat.unpack at hfinite ⊢
  simp only at hfinite ⊢
  by_cases hones : @unpackExponent Format.binary64 v = -1#11
  · -- the exponent of what is infinite or no number
    rw [if_pos hones] at hfinite
    split at hfinite <;> cases hfinite
  · have hzero : @unpackExponent Format.binary64 v ≠ 0#11 := by
      intro h
      rw [h] at hv
      simp at hv
    have hbias : Format.exponentBias Format.binary64 = 1023 := rfl
    rw [if_neg hones, if_neg hzero]
    have hpos : 0 < (1#1 ++ @unpackMantissa Format.binary64 v).toNat := by
      rw [BitVec.toNat_append]
      exact Nat.lt_of_lt_of_le (by decide) Nat.left_le_or
    refine ⟨_, _, _, hpos, rfl, ?_⟩
    simp only [hbias]
    omega

theorem ten_le_nearestExponent (hn : Nat.pow 2 63 ≤ n) : 10 ≤ nearestExponent n 1 := by
  have hne : n ≠ 0 := by
    rintro rfl
    simp at hn
  have hlog : 63 ≤ n.log2 := (Nat.le_log2 hne).2 hn
  have hone : Nat.log2 1 = 0 := by decide
  unfold nearestExponent
  simp only [hone]
  split <;> omega

/-- The bits of a double without its sign. -/
theorem exists_nearest_eq (hn : Nat.pow 2 63 ≤ n) (negative : Bool) :
    ∃ b, 1084 * Nat.pow 2 52 ≤ b ∧ b ≤ 2047 * Nat.pow 2 52 ∧ nearest negative n 1 =
      Float.ofBits (UInt64.ofNat (if negative then Nat.pow 2 63 + b else b)) := by
  have hpos : ¬(n = 0 ∨ 1 = 0) := by
    rintro (rfl | h)
    · simp at hn
    · cases h
  have hexponent := ten_le_nearestExponent hn
  have hlarge : 1084 ≤ (nearestExponent n 1 + 1074).toNat := by omega
  refine ⟨min ((nearestExponent n 1 + 1074).toNat * Nat.pow 2 52 +
    roundHalfEven (scaleDown n 1 (nearestExponent n 1)).1 (scaleDown n 1 (nearestExponent n 1)).2)
    (2047 * Nat.pow 2 52), ?_, Nat.min_le_right .., ?_⟩
  · simp only [Nat.pow_eq]
    omega
  · unfold nearest
    rw [if_neg hpos]

/-- **A whole number beyond 63 bits has a large exponent.** -/
theorem exists_unpack_nearest (hn : Nat.pow 2 63 ≤ n)
    (hfinite : (nearest negative n 1).isFinite = true) :
    ∃ s m e hm, (nearest negative n 1).toModel.unpack = .finite s m e hm ∧ 9 ≤ e := by
  obtain ⟨b, hlow, hhigh, heq⟩ := exists_nearest_eq hn negative
  have hbits : (UInt64.ofNat (if negative then Nat.pow 2 63 + b else b)).toBitVec.toNat =
      if negative then Nat.pow 2 63 + b else b := by
    simp
    cases negative <;> simp at hlow hhigh ⊢ <;> omega
  rw [heq] at hfinite ⊢
  have hunpack := unpack_ofBits hfinite
  rw [hunpack]
  refine exists_unpack_of_exponent ?_ ((congrArg UnpackedFloat.isFinite hunpack).symm.trans hfinite)
  rw [unpackExponent_def, BitVec.extractLsb'_toNat, Nat.shiftRight_eq_div_pow, hbits]
  cases negative <;> simp at hlow hhigh ⊢ <;> omega

theorem not_le_of_exponent_lt (h : e' < e) (hx : x.toModel.unpack = .finite .positive m e hm)
    (hy : y.toModel.unpack = .finite .positive k e' hk) : ¬x ≤ y := by
  show ¬decide (x.toModel.unpack.le y.toModel.unpack = true) = true
  rw [hx, hy]
  simp [UnpackedFloat.le, UnpackedFloat.compare, Int.compare_eq_gt.2 h]

theorem not_le_of_exponent_lt' (h : e' < e) (hx : x.toModel.unpack = .finite .negative m e hm)
    (hy : y.toModel.unpack = .finite .negative k e' hk) : ¬y ≤ x := by
  show ¬decide (y.toModel.unpack.le x.toModel.unpack = true) = true
  rw [hx, hy]
  simp [UnpackedFloat.le, UnpackedFloat.compare, Int.compare_eq_lt.2 h]

/-- A number that can be a latitude or a longitude. -/
structure IsHalf (x : Float) : Prop where
  isFinite : x.isFinite = true
  bounded : LatLng.isLatitude x = true ∨ LatLng.isLongitude x = true

/-- **The whole numbers among latitudes and longitudes are small.** -/
theorem lt_of_isHalf (h : IsHalf (nearest negative n 1)) : n < Nat.pow 2 63 := by
  by_contra hn
  obtain ⟨s, m, e, hm, hunpack, he⟩ := exists_unpack_nearest (Nat.le_of_not_lt hn) h.isFinite
  have hlatitude : (-46 : Int) < e := by omega
  have hlongitude : (-45 : Int) < e := by omega
  rcases h.bounded with hbounds | hbounds
  · obtain ⟨hlow, hhigh⟩ := Bool.and_eq_true_iff.1 hbounds
    cases s with
    | positive => exact not_le_of_exponent_lt hlatitude hunpack rfl (of_decide_eq_true hhigh)
    | negative => exact not_le_of_exponent_lt' hlatitude hunpack rfl (of_decide_eq_true hlow)
  · obtain ⟨hlow, hhigh⟩ := Bool.and_eq_true_iff.1 hbounds
    cases s with
    | positive => exact not_le_of_exponent_lt hlongitude hunpack rfl (of_decide_eq_true hhigh)
    | negative => exact not_le_of_exponent_lt' hlongitude hunpack rfl (of_decide_eq_true hlow)

/-- What holds of a number and of both zeros holds of every number equal to it. -/
theorem of_beq_of_zero {P : Float → Prop} (heq : (y == x) = true) (h : P x)
    (hzero : P 0) (hnegative : P (-0)) : P y := by
  obtain ⟨-, -, rfl | ⟨rfl, -⟩ | ⟨rfl, -⟩⟩ := Float.beq_iff_ne_nan_and_eq.1 heq
  · exact h
  · exact hzero
  · exact hnegative

end Gazetteer.Number

namespace Gazetteer.LatLng

variable {p q : LatLng}

/-- What is equal to a place is one. -/
theorem IsPlace.of_beq (h : p.IsPlace) (hlat : (q.lat == p.lat) = true)
    (hlng : (q.lng == p.lng) = true) : q.IsPlace := by
  obtain ⟨hlat₁, hlng₁, hlat₂, hlng₂⟩ := h
  have hlat' := Number.of_beq_of_zero (P := fun x => x.isFinite = true ∧ isLatitude x = true) hlat
    ⟨hlat₁, hlat₂⟩ (by decide +kernel) (by decide +kernel)
  have hlng' := Number.of_beq_of_zero (P := fun x => x.isFinite = true ∧ isLongitude x = true) hlng
    ⟨hlng₁, hlng₂⟩ (by decide +kernel) (by decide +kernel)
  exact ⟨hlat'.1, hlng'.1, hlat'.2, hlng'.2⟩

end Gazetteer.LatLng
