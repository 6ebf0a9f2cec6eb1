import Mathlib.Algebra.Ring.Nat
import Spreadsheet.Double.Binary

/-!
# Finite doubles

A double is finite if its exponent bits are not all ones; then it stands for a sign and a
magnitude. A hundredth of a finite double is finite: rounding a quotient may carry into one more
binary digit, but the exponent is by far smaller than that of the dividend.
-/

namespace Spreadsheet
namespace Double

open Float.Model UnpackedFloat

variable {x : Float} {bits : BitVec 64} {mantissa bound : Nat} {exponent limit : Int}
  {accuracy : Accuracy} {sign : Sign}

/-! ## Exponent bits -/

theorem toNat_unpackExponent (bits : BitVec 64) :
    (@unpackExponent .binary64 bits).toNat = bits.toNat / 2 ^ 52 % 2 ^ 11 := by
  rw [unpackExponent, BitVec.toNat_cast, BitVec.extractLsb_toNat, Nat.shiftRight_eq_div_pow]
  rfl

theorem isFinite_unpack :
    (unpack .binary64 bits).isFinite ↔ @unpackExponent .binary64 bits ≠ -1#11 := by
  unfold UnpackedFloat.unpack
  by_cases ones : @unpackExponent .binary64 bits = -1#11
  · refine iff_of_false ?_ (not_not_intro ones)
    rw [if_pos ones]
    by_cases zero : @unpackMantissa .binary64 bits = 0#52
    · rw [if_pos zero]
      exact Bool.false_ne_true
    · rw [if_neg zero]
      exact Bool.false_ne_true
  · refine iff_of_true ?_ ones
    rw [if_neg ones]
    by_cases subnormal : @unpackExponent .binary64 bits = 0#11
    · rw [if_pos subnormal]
      by_cases zero : @unpackMantissa .binary64 bits = 0#52
      · rw [dif_pos zero]
        rfl
      · rw [dif_neg zero]
        rfl
    · rw [if_neg subnormal]
      rfl

/-- The exponent bits of a finite double are not all ones. -/
theorem biased_ne_of_isFinite (finite : x.isFinite) :
    x.toBits.toNat / 2 ^ 52 % 2 ^ 11 ≠ 2 ^ 11 - 1 := by
  intro ones
  refine isFinite_unpack.mp finite (BitVec.eq_of_toNat_eq ?_)
  rw [toNat_unpackExponent]
  exact ones

/-- A finite double stands for a sign and a magnitude. -/
theorem exists_decode_of_isFinite (finite : x.isFinite) :
    ∃ negative magnitude, decode x = .finite negative magnitude := by
  rw [decode, decodeBits]
  simp only [Nat.pow_eq]
  rw [if_neg (biased_ne_of_isFinite finite)]
  split <;> exact ⟨_, _, rfl⟩

/-- How large the mantissa and the exponent of a finite double can be. -/
theorem bounds_of_unpack_eq_finite {positive : 0 < mantissa}
    (unpacked : unpack .binary64 bits = .finite sign mantissa exponent positive) :
    mantissa < 2 ^ 53 ∧ exponent ≤ 971 := by
  have finite : (unpack .binary64 bits).isFinite := by rw [unpacked]; rfl
  have exponent_lt : (@unpackExponent .binary64 bits).toNat < 2047 := by
    have small := (@unpackExponent .binary64 bits).isLt
    have other := fun ones => isFinite_unpack.mp finite (BitVec.eq_of_toNat_eq ones)
    change _ ≠ 2047 at other
    change _ < 2048 at small
    omega
  have bias : Format.binary64.exponentBias = 1023 := rfl
  have mantissa_lt := (@unpackMantissa .binary64 bits).isLt
  change _ < 2 ^ 52 at mantissa_lt
  unfold UnpackedFloat.unpack at unpacked
  dsimp only at unpacked
  rw [if_neg (isFinite_unpack.mp finite), bias] at unpacked
  by_cases subnormal : @unpackExponent .binary64 bits = 0#11
  · rw [if_pos subnormal] at unpacked
    by_cases zero : @unpackMantissa .binary64 bits = 0#52
    · rw [dif_pos zero] at unpacked
      cases unpacked
    · rw [dif_neg zero] at unpacked
      obtain ⟨_, rfl, rfl⟩ := UnpackedFloat.finite.inj unpacked
      exact ⟨by omega, by rw [subnormal]; decide⟩
  · rw [if_neg subnormal] at unpacked
    obtain ⟨_, rfl, rfl⟩ := UnpackedFloat.finite.inj unpacked
    exact ⟨BitVec.isLt _, by omega⟩

/-- A double is finite unless it is packed from too large an exponent. -/
theorem isFinite_pack {positive : 0 < mantissa} (small : exponent ≤ 971) :
    (Float.Model.pack (.finite sign mantissa exponent positive)).isFinite := by
  have bias : Format.binary64.exponentBias = 1023 := rfl
  refine isFinite_unpack.mpr ?_
  change
    unpackExponent (UnpackedFloat.pack .binary64 (.finite sign mantissa exponent positive)) ≠ _
  have fits : ¬ 2 ^ 11 ≤ (exponent + (1023 : Nat) + (52 : Nat)).toNat + 1 := by omega
  unfold UnpackedFloat.pack
  dsimp only
  rw [bias, if_neg fits]
  split
  · rw [unpackExponent_packComponents]
    intro ones
    have value := congrArg BitVec.toNat ones
    rw [BitVec.toNat_ofNat] at value
    change (exponent + 1023 + 52).toNat % 2048 = 2047 at value
    omega
  · rw [unpackExponent_packComponents]
    decide

/-! ## Rounding -/

theorem mantissa_shiftRight_le (em : ExtendedMantissa) (n : Nat) :
    (em >>> n).mantissa ≤ em.mantissa := by
  induction n with
  | zero => exact Nat.le_refl em.mantissa
  | succ n ih => exact Nat.le_trans (Nat.div_le_self (em >>> n).mantissa 2) ih

theorem roundedMantissa_le (em : ExtendedMantissa) : em.roundedMantissa ≤ em.mantissa + 1 := by
  obtain ⟨mantissa, roundBit, stickyBit⟩ := em
  cases roundBit <;> cases stickyBit <;>
    simp only [ExtendedMantissa.roundedMantissa, ExtendedMantissa.accuracy,
      Accuracy.roundToNearestEven] <;> omega

theorem mantissa_ofMantissaAndAccuracy :
    (ExtendedMantissa.ofMantissaAndAccuracy mantissa accuracy).mantissa = mantissa := by
  cases accuracy with
  | exact => rfl
  | inexact half => cases half <;> rfl

/-- Shifting drops digits and raises the exponent at most to what the leading digit asks for. -/
theorem shiftToTargetExponent_le (mantissa : Nat) (exponent : Int) (accuracy : Accuracy) :
    (shiftToTargetExponent .binary64 mantissa exponent accuracy).1.mantissa ≤ mantissa ∧
      (shiftToTargetExponent .binary64 mantissa exponent accuracy).2 ≤
        max exponent (max (mantissa.log2 + 1 + exponent - 53) (-1074)) := by
  rw [shiftToTargetExponent, shiftToExponent]
  dsimp only
  constructor
  · exact Nat.le_trans (mantissa_shiftRight_le _ _) (Nat.le_of_eq mantissa_ofMantissaAndAccuracy)
  · have target : Format.binary64.targetExponent (totalExponent mantissa exponent) =
        max (mantissa.log2 + 1 + exponent - 53) (-1074) := rfl
    rw [target]
    omega

theorem log2_le_of_lt (small : mantissa < 2 ^ (bound + 1)) : mantissa.log2 ≤ bound := by
  by_cases zero : mantissa = 0
  · rw [zero, Nat.log2_zero]
    exact Nat.zero_le _
  · exact Nat.lt_succ_iff.mp ((Nat.log2_lt zero).mpr small)

/-- Rounding makes no infinity of a mantissa and an exponent that are moderate. -/
theorem isFinite_pack_roundWithAccuracy (mantissa_lt : mantissa < 2 ^ 54)
    (small : exponent ≤ 965) :
    (Float.Model.pack (roundWithAccuracy .binary64 sign mantissa exponent accuracy)).isFinite := by
  rw [roundWithAccuracy]
  dsimp only
  have first := shiftToTargetExponent_le mantissa exponent accuracy
  generalize shiftToTargetExponent .binary64 mantissa exponent accuracy = shifted at first ⊢
  have mantissa_log := log2_le_of_lt mantissa_lt
  have rounded_le := roundedMantissa_le shifted.1
  have rounded_log : shifted.1.roundedMantissa.log2 ≤ 54 := log2_le_of_lt (by omega)
  -- Rounding may have carried, so that the digits are shifted once more.
  have second := (shiftToTargetExponent_le shifted.1.roundedMantissa shifted.2 .exact).2
  by_cases zero : (shiftToTargetExponent .binary64 shifted.1.roundedMantissa shifted.2
      .exact).1.mantissa = 0
  · rw [dif_pos zero]
    cases sign <;> rfl
  · rw [dif_neg zero]
    exact isFinite_pack (by omega)

/-! ## Percentages -/

theorem unpack_hundred : (100.0 : Float).toModel.unpack =
    .finite .positive (25 * 2 ^ 48) (-46) (by decide) := by
  rfl

/-- The quotient has one binary digit more than is kept at most, and its exponent is smaller. -/
theorem divCore_hundred_le (mantissa_lt : mantissa < 2 ^ 53) (small : exponent ≤ 971) :
    (divCore .binary64 mantissa exponent (25 * 2 ^ 48) (-46)).1 < 2 ^ 54 ∧
      (divCore .binary64 mantissa exponent (25 * 2 ^ 48) (-46)).2.1 ≤ 965 := by
  have target : Format.binary64.targetExponent
      (totalExponent mantissa exponent - totalExponent (25 * 2 ^ 48) (-46)) =
        max (mantissa.log2 + 1 + exponent - 7 - 53) (-1074) := rfl
  have mantissa_log := log2_le_of_lt mantissa_lt
  rw [divCore]
  dsimp only
  rw [target]
  refine ⟨?_, by omega⟩
  generalize shift : (exponent - -46 - min (exponent - -46)
    (max (mantissa.log2 + 1 + exponent - 7 - 53) (-1074))).toNat = amount
  have amount_le : amount + mantissa.log2 ≤ 105 := by omega
  rw [Nat.div_lt_iff_lt_mul (by decide), Nat.shiftLeft_eq]
  calc mantissa * 2 ^ amount
    _ < 2 ^ (mantissa.log2 + 1) * 2 ^ amount :=
      Nat.mul_lt_mul_of_pos_right Nat.lt_log2_self (Nat.two_pow_pos _)
    _ = 2 ^ (mantissa.log2 + 1 + amount) := (Nat.pow_add ..).symm
    _ ≤ 2 ^ 106 := Nat.pow_le_pow_right (by decide) (by omega)
    _ ≤ 2 ^ 54 * (25 * 2 ^ 48) := by decide

/-- A hundredth of a finite double is finite. -/
theorem isFinite_div_hundred (finite : x.isFinite) : (x / 100.0).isFinite := by
  have finite : x.toModel.unpack.isFinite := finite
  change (Float.Model.pack (UnpackedFloat.div .binary64 x.toModel.unpack
    (100.0 : Float).toModel.unpack)).isFinite
  rw [unpack_hundred]
  cases unpacked : x.toModel.unpack with
  | notANumber => rw [unpacked] at finite; contradiction
  | infinity sign => rw [unpacked] at finite; contradiction
  | zero sign => cases sign <;> rfl
  | finite sign mantissa exponent positive =>
      obtain ⟨mantissa_lt, exponent_le⟩ := bounds_of_unpack_eq_finite unpacked
      obtain ⟨quotient_lt, quotient_le⟩ := divCore_hundred_le mantissa_lt exponent_le
      exact isFinite_pack_roundWithAccuracy quotient_lt quotient_le

end Double
end Spreadsheet
