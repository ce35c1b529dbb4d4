import Mathlib
import Sailplane.Numeric.Binary64

/-!
# Finite doubles

The double nearest to a machine word is finite, and so is the opposite of a finite double. Both
follow from the exponent alone: a double is infinite only if its exponent is at least 972, and
neither rounding a word nor changing a sign gets near that.
-/
open Float.Model (Format totalExponent UnpackedFloat)
open Float.Model.UnpackedFloat

namespace Sailplane.Binary64

/-- A value that a double can hold without becoming infinite. -/
def Fits : UnpackedFloat → Prop
  | .finite _ _ exponent _ => exponent < 972
  | .zero _ => True
  | .infinity _ => False
  | .notANumber => False

/-! ## Reading and writing the bits -/

/-- Bits whose exponent field is not full stand for a finite value. -/
theorem isFinite_of_exponent (bits : BitVec Format.binary64.numBits)
    (below : (unpackExponent bits).toNat < 2047) :
    (unpack Format.binary64 bits).isFinite = true := by
  have notFull : unpackExponent bits ≠ -1#11 := by
    intro full
    rw [full] at below
    exact absurd below (by decide)
  unfold unpack
  rw [if_neg notFull]
  split
  · split <;> rfl
  · rfl

/-- A value that fits is finite when it is written as a double. -/
theorem isFinite_pack {value : UnpackedFloat} (fits : Fits value) :
    (Float.Model.pack value).isFinite = true := by
  apply isFinite_of_exponent
  change (unpackExponent (pack Format.binary64 value)).toNat < 2047
  cases value with
  | notANumber => exact fits.elim
  | infinity sign => exact fits.elim
  | zero sign =>
    unfold pack packedZero
    rw [unpackExponent_packComponents]
    decide
  | finite sign mantissa exponent positive =>
    have bound : (exponent + 1023 + 52).toNat + 1 < 2 ^ 11 := by
      have below : exponent < 972 := fits
      omega
    have notFull : ¬ 2 ^ Format.binary64.exponentBits ≤
        (exponent + Format.binary64.exponentBias +
          Format.binary64.mantissaBitsWithoutImplicit).toNat + 1 := Nat.not_le.mpr bound
    unfold pack
    simp only [if_neg notFull]
    split
    · rw [unpackExponent_packComponents, BitVec.toNat_ofNat]
      exact Nat.lt_of_le_of_lt (Nat.mod_le _ _) (Nat.lt_of_succ_lt_succ bound)
    · rw [unpackExponent_packComponents]
      decide

/-- What a finite double stands for fits a double. -/
theorem fits_unpack {bits : BitVec Format.binary64.numBits}
    (finite : (unpack Format.binary64 bits).isFinite = true) :
    Fits (unpack Format.binary64 bits) := by
  have notFull : unpackExponent bits ≠ -1#11 := by
    intro full
    unfold unpack at finite
    rw [if_pos full] at finite
    revert finite
    split <;> exact Bool.false_ne_true
  have below : (unpackExponent bits).toNat < 2047 := by
    have width : (unpackExponent bits).toNat < 2 ^ 11 := (unpackExponent bits).isLt
    have differs : (unpackExponent bits).toNat ≠ 2047 := fun full =>
      notFull (BitVec.eq_of_toNat_eq full)
    omega
  unfold unpack
  rw [if_neg notFull]
  split
  · split
    · trivial
    · rename_i least _
      change ((unpackExponent bits).toNat : Int) - (1023 + 52) + 1 < 972
      rw [least]
      decide
  · change ((unpackExponent bits).toNat : Int) - (1023 + 52) < 972
    omega

/-! ## Rounding -/

theorem shiftRight_mantissa_le (mantissa : ExtendedMantissa) (count : Nat) :
    (mantissa >>> count).mantissa ≤ mantissa.mantissa := by
  change (count.repeat ExtendedMantissa.shiftRightOne mantissa).mantissa ≤ _
  induction count with
  | zero => exact Nat.le_refl _
  | succ count ih => exact Nat.le_trans (Nat.div_le_self _ 2) ih

theorem roundedMantissa_le (mantissa : ExtendedMantissa) :
    mantissa.roundedMantissa ≤ mantissa.mantissa + 1 := by
  obtain ⟨mantissa, round, sticky⟩ := mantissa
  cases round <;> cases sticky <;>
    simp only [ExtendedMantissa.roundedMantissa, ExtendedMantissa.accuracy,
      Accuracy.roundToNearestEven] <;> omega

/-- Cutting a mantissa to the width of a double raises the exponent by no more than the mantissa
is long. -/
theorem shiftToTargetExponent_le {mantissa width : Nat} {exponent limit : Int}
    (narrow : mantissa < 2 ^ width) (low : exponent ≤ limit) (nonneg : 0 ≤ limit)
    (accuracy : Accuracy) :
    (shiftToTargetExponent Format.binary64 mantissa exponent accuracy).1.mantissa ≤ mantissa ∧
      (shiftToTargetExponent Format.binary64 mantissa exponent accuracy).2 ≤ limit + width := by
  constructor
  · refine Nat.le_trans (shiftRight_mantissa_le _ _) ?_
    cases accuracy with
    | exact => exact Nat.le_refl _
    | inexact side => cases side <;> exact Nat.le_refl _
  · have length : mantissa.log2 ≤ width := by
      rcases Nat.eq_zero_or_pos mantissa with rfl | positive
      · exact Nat.zero_le _
      · exact Nat.le_of_lt ((Nat.log2_lt (Nat.ne_of_gt positive)).mpr narrow)
    change exponent + ((max ((mantissa.log2 : Int) + 1 + exponent - 53) (-1074) - exponent).toNat
      : Int) ≤ limit + width
    omega

/-- A rounded value fits if its mantissa is not long and its exponent is not positive. -/
theorem fits_roundWithAccuracy {mantissa width : Nat} {exponent : Int} (sign : Sign)
    (narrow : mantissa < 2 ^ width) (low : exponent ≤ 0) (short : width ≤ 400)
    (accuracy : Accuracy) :
    Fits (roundWithAccuracy Format.binary64 sign mantissa exponent accuracy) := by
  obtain ⟨shorter, once⟩ := shiftToTargetExponent_le narrow low (Int.le_refl 0) accuracy
  unfold roundWithAccuracy
  generalize shiftToTargetExponent Format.binary64 mantissa exponent accuracy = first at *
  obtain ⟨shifted, middle⟩ := first
  have rounded : shifted.roundedMantissa < 2 ^ (width + 1) := by
    have oneMore := roundedMantissa_le shifted
    have double := Nat.pow_succ (n := 2) (m := width)
    simp only at shorter
    omega
  -- rounding up may have made the mantissa one bit longer, so it is cut once more
  obtain ⟨-, twice⟩ := shiftToTargetExponent_le rounded once (by omega) .exact
  simp only
  generalize shiftToTargetExponent Format.binary64 shifted.roundedMantissa middle .exact = second
    at *
  obtain ⟨final, exponent⟩ := second
  simp only at twice ⊢
  split
  · trivial
  · change exponent < 972
    omega

/-! ## Words and signs -/

/-- The double nearest to a machine word is finite. -/
theorem isFinite_toFloat (word : UInt64) : word.toFloat.isFinite = true := by
  apply isFinite_pack
  change Fits (UnpackedFloat.normalize Format.binary64 (word.toNat : Int) 0 .positive)
  unfold UnpackedFloat.normalize
  split
  case h_1 negative =>
    have := Int.compare_eq_lt.mp negative
    omega
  case h_2 => trivial
  case h_3 =>
    -- a word is stretched to the width of a significand at most
    generalize stretched : (0 - Format.binary64.targetExponent
      (totalExponent (word.toNat : Int).toNat 0)).toNat = shift
    have few : shift ≤ 52 := by
      change (0 - max (((word.toNat : Int).toNat.log2 : Int) + 1 + 0 - 53) (-1074)).toNat = shift
        at stretched
      omega
    have narrow : (word.toNat : Int).toNat <<< shift < 2 ^ 116 := by
      rw [Int.toNat_natCast, Nat.shiftLeft_eq]
      calc word.toNat * 2 ^ shift < 2 ^ 64 * 2 ^ shift :=
            Nat.mul_lt_mul_of_pos_right word.toNat_lt (Nat.two_pow_pos shift)
        _ ≤ 2 ^ 64 * 2 ^ 52 := Nat.mul_le_mul_left _ (Nat.pow_le_pow_right (by decide) few)
    have low : (0 : Int) - shift ≤ 0 := by omega
    unfold UnpackedFloat.round decreaseExponent
    simp only [stretched]
    exact fits_roundWithAccuracy .positive narrow low (by decide) .exact

/-- Negation keeps a double finite. -/
theorem isFinite_neg {value : Float} (finite : value.isFinite = true) :
    (-value).isFinite = true := by
  have fits : Fits value.toModel.unpack := fits_unpack finite
  apply isFinite_pack
  cases unpacked : value.toModel.unpack with
  | notANumber => rw [unpacked] at fits; exact fits
  | infinity sign => rw [unpacked] at fits; exact fits
  | zero sign => trivial
  | finite sign mantissa exponent positive => rw [unpacked] at fits; exact fits

end Sailplane.Binary64
