import Mathlib.Tactic.Ring
import Spreadsheet.Proofs.Double.Finite

/-!
# Whole numbers as doubles

A whole number with at most 53 binary digits is a double. Converting it fills its digits up to 53
by zeros, and every rounding on the way only drops zeros again. So it is found again in the bits of
the double.
-/

namespace Spreadsheet
namespace Double

open Float.Model UnpackedFloat

variable {x : Float} {mantissa n k : ℕ} {exponent : ℤ} {sign : Sign}

/-- A mantissa of 53 binary digits and an exponent with which it is neither too small nor too large
for a double. -/
structure IsNormal (mantissa : ℕ) (exponent : ℤ) : Prop where
  /-- The mantissa has 53 digits at least. -/
  lower : 2 ^ 52 ≤ mantissa
  /-- It has no more. -/
  upper : mantissa < 2 ^ 53
  /-- The least exponent. -/
  exponent_lower : -1074 ≤ exponent
  /-- The greatest exponent. -/
  exponent_upper : exponent ≤ 971

theorem IsNormal.pos (normal : IsNormal mantissa exponent) : 0 < mantissa :=
  Nat.lt_of_lt_of_le (Nat.two_pow_pos 52) normal.lower

/-! ## Rounding -/

/-- Shifting out zeros loses nothing. -/
theorem ofMantissaAndAccuracy_shiftRight (mantissa k : ℕ) :
    ExtendedMantissa.ofMantissaAndAccuracy (mantissa * 2 ^ k) .exact >>> k =
      ExtendedMantissa.ofMantissaAndAccuracy mantissa .exact := by
  induction k generalizing mantissa with
  | zero => rw [Nat.pow_zero, Nat.mul_one]; rfl
  | succ k ih =>
      change ExtendedMantissa.shiftRightOne
        (ExtendedMantissa.ofMantissaAndAccuracy (mantissa * 2 ^ (k + 1)) .exact >>> k) = _
      rw [Nat.pow_succ', ← Nat.mul_assoc, ih]
      simp [ExtendedMantissa.shiftRightOne, ExtendedMantissa.ofMantissaAndAccuracy]

theorem shiftToTargetExponent_scaled (normal : IsNormal mantissa exponent) (k : ℕ) :
    shiftToTargetExponent .binary64 (mantissa * 2 ^ k) (exponent - k) .exact =
      (.ofMantissaAndAccuracy mantissa .exact, exponent) := by
  have log : (mantissa * 2 ^ k).log2 = 52 + k := by
    refine (Nat.log2_eq_iff (Nat.mul_pos normal.pos (Nat.two_pow_pos k)).ne').mpr ⟨?_, ?_⟩
    · rw [Nat.pow_add]
      exact Nat.mul_le_mul_right _ normal.lower
    · rw [Nat.add_right_comm, Nat.pow_add]
      exact Nat.mul_lt_mul_of_pos_right normal.upper (Nat.two_pow_pos k)
  have target : Format.binary64.targetExponent (totalExponent (mantissa * 2 ^ k) (exponent - k)) =
      exponent := by
    have lower := normal.exponent_lower
    have unfolded : Format.binary64.targetExponent
        (totalExponent (mantissa * 2 ^ k) (exponent - k)) =
        max ((mantissa * 2 ^ k).log2 + 1 + (exponent - k) - 53) (-1074) := rfl
    rw [unfolded, log]
    omega
  have amount : (exponent - (exponent - k)).toNat = k := by omega
  rw [shiftToTargetExponent, shiftToExponent, target, amount, ofMantissaAndAccuracy_shiftRight,
    Int.sub_add_cancel]

/-- A number of 53 binary digits and zeros behind them is not changed by rounding. The digits are
shifted twice, since rounding might have carried. -/
theorem roundWithAccuracy_scaled (sign : Sign) (normal : IsNormal mantissa exponent) (k : ℕ) :
    roundWithAccuracy .binary64 sign (mantissa * 2 ^ k) (exponent - k) .exact =
      .finite sign mantissa exponent normal.pos := by
  have again := shiftToTargetExponent_scaled normal 0
  rw [Nat.pow_zero, Nat.mul_one, Nat.cast_zero, Int.sub_zero] at again
  have rounded : (ExtendedMantissa.ofMantissaAndAccuracy mantissa .exact).roundedMantissa =
      mantissa := rfl
  rw [roundWithAccuracy, shiftToTargetExponent_scaled normal k]
  dsimp only
  rw [rounded, again]
  exact dif_neg normal.pos.ne'

/-! ## Packing -/

theorem unpackSign_packComponents (sign : Sign) (exponentBits : BitVec 11)
    (mantissaBits : BitVec 52) :
    unpackSign (packComponents .binary64 sign exponentBits mantissaBits) = sign.toBitVec := by
  change (sign.toBitVec ++ exponentBits ++ mantissaBits).extractLsb' 63 1 = sign.toBitVec
  rw [BitVec.extractLsb'_append_eq_of_le (by decide),
    BitVec.extractLsb'_append_eq_of_le (by decide)]
  cases sign <;> rfl

/-- The leading digit of a mantissa is not stored. -/
theorem toNat_one_append (bits : BitVec 52) : (1#1 ++ bits).toNat = 2 ^ 52 + bits.toNat := by
  rw [BitVec.toNat_append, Nat.or_comm, Nat.shiftLeft_eq,
    show (1#1).toNat * 2 ^ 52 = 2 ^ 52 from rfl, Nat.or_two_pow_eq_add_of_lt bits.isLt,
    Nat.add_comm]

theorem pack_normal (normal : IsNormal mantissa exponent) :
    UnpackedFloat.pack .binary64 (.finite sign mantissa exponent normal.pos) =
      packComponents .binary64 sign (.ofNat 11 (exponent + 1075).toNat) (.ofNat 52 mantissa) := by
  have lower := normal.exponent_lower
  have upper := normal.exponent_upper
  have log : mantissa.log2 = 52 :=
    (Nat.log2_eq_iff normal.pos.ne').mpr ⟨normal.lower, normal.upper⟩
  have bias : Format.binary64.exponentBias = 1023 := rfl
  have fits : ¬ 2 ^ 11 ≤ (exponent + (1023 : ℕ) + (52 : ℕ)).toNat + 1 := by omega
  unfold UnpackedFloat.pack
  dsimp only
  rw [bias, if_neg fits, log, if_pos (show 52 + 1 = Format.binary64.mantissaBits from rfl),
    show (exponent + (1023 : ℕ) + (52 : ℕ)).toNat = (exponent + 1075).toNat by omega]

theorem finite_congr {sign' : Sign} {mantissa' : ℕ} {exponent' : ℤ} {pos : 0 < mantissa}
    {pos' : 0 < mantissa'} (sign_eq : sign = sign') (mantissa_eq : mantissa = mantissa')
    (exponent_eq : exponent = exponent') :
    UnpackedFloat.finite sign mantissa exponent pos = .finite sign' mantissa' exponent' pos' := by
  subst sign_eq mantissa_eq exponent_eq
  rfl

/-- Packing keeps the parts of a normal double. -/
theorem unpack_pack (normal : IsNormal mantissa exponent) :
    (Float.Model.pack (.finite sign mantissa exponent normal.pos)).unpack =
      .finite sign mantissa exponent normal.pos := by
  have lower := normal.exponent_lower
  have upper := normal.exponent_upper
  have bias : Format.binary64.exponentBias = 1023 := rfl
  have exponent_eq : (BitVec.ofNat 11 (exponent + 1075).toNat).toNat =
      (exponent + 1075).toNat := by
    rw [BitVec.toNat_ofNat]
    exact Nat.mod_eq_of_lt (by omega)
  have ordinary (special : BitVec 11) (other : special.toNat = 0 ∨ special.toNat = 2047) :
      BitVec.ofNat 11 (exponent + 1075).toNat ≠ special := by
    intro eq
    have value := congrArg BitVec.toNat eq
    omega
  change unpack .binary64
    (UnpackedFloat.pack .binary64 (.finite sign mantissa exponent normal.pos)) = _
  rw [pack_normal normal]
  -- The proofs inside the unpacked double depend on its bits, so that only single parts can be
  -- rewritten.
  generalize packed : packComponents .binary64 sign (.ofNat 11 (exponent + 1075).toNat)
    (.ofNat 52 mantissa) = bits
  have exponentBits : unpackExponent bits = .ofNat 11 (exponent + 1075).toNat := by
    rw [← packed, unpackExponent_packComponents]
  have mantissaBits : unpackMantissa bits = .ofNat 52 mantissa := by
    rw [← packed, unpackMantissa_packComponents]
  have signBit : unpackSign bits = sign.toBitVec := by rw [← packed, unpackSign_packComponents]
  have digits := normal.lower
  have fewDigits := normal.upper
  unfold UnpackedFloat.unpack
  dsimp only
  rw [if_neg (exponentBits ▸ ordinary (-1#11) (.inr rfl)),
    if_neg (exponentBits ▸ ordinary 0#11 (.inl rfl))]
  refine finite_congr ?_ ?_ ?_
  · rw [signBit]
    cases sign <;> rfl
  · rw [toNat_one_append, mantissaBits, BitVec.toNat_ofNat]
    omega
  · rw [exponentBits, exponent_eq, bias]
    omega

/-! ## Conversion -/

/-- The digits of a whole number, filled up by zeros. -/
theorem isNormal_filled (pos : 0 < n) (small : n < 2 ^ 53) :
    IsNormal (n * 2 ^ (52 - n.log2)) (n.log2 - 52) := by
  have log_lt : n.log2 < 53 := (Nat.log2_lt pos.ne').mpr small
  have filled : n.log2 + (52 - n.log2) = 52 := by omega
  refine ⟨?_, ?_, by omega, by omega⟩
  · calc 2 ^ 52
      _ = 2 ^ n.log2 * 2 ^ (52 - n.log2) := by rw [← Nat.pow_add, filled]
      _ ≤ n * 2 ^ (52 - n.log2) := Nat.mul_le_mul_right _ (Nat.log2_self_le pos.ne')
  · calc n * 2 ^ (52 - n.log2)
      _ < 2 ^ (n.log2 + 1) * 2 ^ (52 - n.log2) :=
        Nat.mul_lt_mul_of_pos_right Nat.lt_log2_self (Nat.two_pow_pos _)
      _ = 2 ^ 53 := by rw [← Nat.pow_add, Nat.add_right_comm, filled]

theorem ofUInt64_filled (pos : 0 < n) (small : n < 2 ^ 53) :
    UnpackedFloat.ofUInt64 .binary64 n.toUInt64 =
      .finite .positive (n * 2 ^ (52 - n.log2)) (n.log2 - 52) (isNormal_filled pos small).pos := by
  have log_lt : n.log2 < 53 := (Nat.log2_lt pos.ne').mpr small
  have converted : n.toUInt64.toNat = n := by
    rw [Nat.toUInt64, UInt64.toNat_ofNat']
    exact Nat.mod_eq_of_lt (by omega)
  have target : Format.binary64.targetExponent (totalExponent n 0) = n.log2 - 52 := by
    have unfolded : Format.binary64.targetExponent (totalExponent n 0) =
        max ((n.log2 : ℤ) + 1 + 0 - 53) (-1074) := rfl
    omega
  have amount : (0 - ((n.log2 : ℤ) - 52)).toNat = 52 - n.log2 := by omega
  have exponent_eq : 0 - ((52 - n.log2 : ℕ) : ℤ) = n.log2 - 52 := by omega
  have positive : compare (n : ℤ) 0 = .gt := compare_gt_iff_gt.mpr (by omega)
  have rounded := roundWithAccuracy_scaled .positive (isNormal_filled pos small) 0
  rw [Nat.pow_zero, Nat.mul_one, Nat.cast_zero, Int.sub_zero] at rounded
  rw [UnpackedFloat.ofUInt64, UnpackedFloat.ofNat, UnpackedFloat.ofInt, UnpackedFloat.normalize,
    converted, positive]
  dsimp only
  rw [Int.toNat_natCast, UnpackedFloat.round]
  dsimp only
  rw [target, decreaseExponent]
  dsimp only
  rw [amount, exponent_eq, Nat.shiftLeft_eq, rounded]

theorem unpack_one : (Float.ofBits 0x3FF0000000000000).toModel.unpack =
    .finite .positive (2 ^ 52) (-52) (by decide) := by
  rfl

/-- The double of a small whole number has the digits of the number. -/
theorem unpack_ofNat (pos : 0 < n) (small : n < 2 ^ 53) :
    (Float.ofNat n).toModel.unpack =
      .finite .positive (n * 2 ^ (52 - n.log2)) (n.log2 - 52) (isNormal_filled pos small).pos := by
  have normal := isNormal_filled pos small
  have converted : (Float.ofNat n) = n.toUInt64.toFloat * Float.ofBits 0x3FF0000000000000 :=
    dif_pos ⟨small, Nat.zero_le _⟩
  have given : n.toUInt64.toFloat.toModel.unpack =
      .finite .positive (n * 2 ^ (52 - n.log2)) (n.log2 - 52) normal.pos := by
    change (Float.Model.pack (UnpackedFloat.ofUInt64 .binary64 n.toUInt64)).unpack = _
    rw [ofUInt64_filled pos small, unpack_pack normal]
  rw [converted]
  change (Float.Model.pack (UnpackedFloat.mul .binary64 n.toUInt64.toFloat.toModel.unpack
    (Float.ofBits 0x3FF0000000000000).toModel.unpack)).unpack = _
  rw [given, unpack_one]
  change (Float.Model.pack (roundWithAccuracy .binary64 .positive (n * 2 ^ (52 - n.log2) * 2 ^ 52)
    ((n.log2 - 52 : ℤ) - (52 : ℕ)) .exact)).unpack = _
  rw [roundWithAccuracy_scaled .positive normal 52, unpack_pack normal]

/-! ## The exact number of a double -/

theorem toNat_unpackMantissa (bits : BitVec 64) :
    (@unpackMantissa .binary64 bits).toNat = bits.toNat % 2 ^ 52 := by
  rw [unpackMantissa, BitVec.toNat_cast, BitVec.extractLsb_toNat, Nat.shiftRight_zero]
  rfl

theorem ofBitVec_unpackSign (bits : BitVec 64) :
    (Sign.ofBitVec (@unpackSign .binary64 bits) == .negative) = (bits.toNat / 2 ^ 63 == 1) := by
  have small : bits.toNat < 2 ^ 64 := bits.isLt
  have value : (@unpackSign .binary64 bits).toNat = bits.toNat / 2 ^ 63 := by
    unfold unpackSign
    rw [BitVec.toNat_cast, BitVec.extractLsb_toNat, Nat.shiftRight_eq_div_pow]
    change bits.toNat / 2 ^ 63 % 2 = bits.toNat / 2 ^ 63
    omega
  rw [← value]
  generalize @unpackSign .binary64 bits = b
  change BitVec 1 at b
  revert b
  decide

/-- Sign, mantissa and exponent of a double are those that its bits are decoded to. -/
theorem decode_of_unpack {positive : 0 < mantissa}
    (unpacked : x.toModel.unpack = .finite sign mantissa exponent positive) :
    ∃ narrowBelow, decode x = .finite (sign == .negative) ⟨mantissa, exponent, narrowBelow⟩ := by
  have bits_eq : x.toModel.toBits.toBitVec.toNat = x.toBits.toNat := rfl
  have finite : x.isFinite := by
    change x.toModel.unpack.isFinite
    rw [unpacked]
    rfl
  have exponent_eq := toNat_unpackExponent x.toModel.toBits.toBitVec
  have mantissa_eq := toNat_unpackMantissa x.toModel.toBits.toBitVec
  have sign_eq := ofBitVec_unpackSign x.toModel.toBits.toBitVec
  have bias : Format.binary64.exponentBias = 1023 := rfl
  rw [bits_eq] at exponent_eq mantissa_eq sign_eq
  change unpack .binary64 x.toModel.toBits.toBitVec = _ at unpacked
  unfold UnpackedFloat.unpack at unpacked
  dsimp only at unpacked
  rw [if_neg (isFinite_unpack.mp finite), bias] at unpacked
  rw [decode, decodeBits]
  simp only [Nat.pow_eq]
  rw [if_neg (biased_ne_of_isFinite finite), ← sign_eq]
  by_cases subnormal : @unpackExponent .binary64 x.toModel.toBits.toBitVec = 0#11
  · have least : x.toBits.toNat / 2 ^ 52 % 2 ^ 11 = 0 := by rw [← exponent_eq, subnormal]; rfl
    rw [if_pos subnormal] at unpacked
    by_cases zero : @unpackMantissa .binary64 x.toModel.toBits.toBitVec = 0#52
    · rw [dif_pos zero] at unpacked
      cases unpacked
    · rw [dif_neg zero] at unpacked
      obtain ⟨rfl, rfl, rfl⟩ := UnpackedFloat.finite.inj unpacked
      refine ⟨false, (if_pos least).trans ?_⟩
      rw [exponent_eq, mantissa_eq, least]
      rfl
  · have other : x.toBits.toNat / 2 ^ 52 % 2 ^ 11 ≠ 0 := by
      intro least
      exact subnormal (BitVec.eq_of_toNat_eq (exponent_eq.trans least))
    rw [if_neg subnormal] at unpacked
    obtain ⟨rfl, rfl, rfl⟩ := UnpackedFloat.finite.inj unpacked
    rw [toNat_one_append, exponent_eq, mantissa_eq, if_neg other]
    exact ⟨_, rfl⟩

theorem whole_filled (small : n < 2 ^ 53) (narrowBelow : Bool) :
    Binary.whole ⟨n * 2 ^ (52 - n.log2), n.log2 - 52, narrowBelow⟩ = n ∧
      Binary.rest ⟨n * 2 ^ (52 - n.log2), n.log2 - 52, narrowBelow⟩ = 0 := by
  have log_lt : n.log2 ≤ 52 := log2_le_of_lt small
  have numerator : Binary.numerator ⟨n * 2 ^ (52 - n.log2), n.log2 - 52, narrowBelow⟩ =
      n * 2 ^ (52 - n.log2) := by
    rw [Binary.numerator, show ((n.log2 : ℤ) - 52).toNat = 0 by omega]
    exact Nat.mul_one _
  have denominator : Binary.denominator ⟨n * 2 ^ (52 - n.log2), n.log2 - 52, narrowBelow⟩ =
      2 ^ (52 - n.log2) := by
    rw [Binary.denominator, show (-((n.log2 : ℤ) - 52)).toNat = 52 - n.log2 by omega]
    rfl
  rw [Binary.whole, Binary.rest, numerator, denominator]
  exact ⟨Nat.mul_div_cancel _ (Nat.two_pow_pos _), Nat.mul_mod_left _ _⟩

/-- A small whole number is decoded to a magnitude that is whole. -/
theorem decode_ofNat (small : n < 2 ^ 53) :
    ∃ magnitude, decode (Float.ofNat n) = .finite false magnitude ∧ magnitude.whole = n ∧
      magnitude.rest = 0 := by
  rcases Nat.eq_zero_or_pos n with rfl | pos
  · exact ⟨⟨0, -1074, false⟩, by decide +kernel, by decide +kernel, by decide +kernel⟩
  · obtain ⟨narrowBelow, decoded⟩ := decode_of_unpack (unpack_ofNat pos small)
    exact ⟨_, decoded, whole_filled small narrowBelow⟩

/-- The integer of a small whole number is the number. -/
theorem toInt_ofNat (small : n < 2 ^ 53) : toInt (Float.ofNat n) = n := by
  obtain ⟨magnitude, decoded, whole_eq, -⟩ := decode_ofNat small
  have least : Int64.minValue.toInt = -9223372036854775808 := rfl
  have greatest : Int64.maxValue.toInt = 9223372036854775807 := rfl
  rw [toInt, decoded]
  dsimp only
  rw [whole_eq, if_neg Bool.false_ne_true, clampInt64, least, greatest]
  omega

theorem floor_ofNat (small : n < 2 ^ 53) : floor (Float.ofNat n) = Float.ofNat n := by
  obtain ⟨magnitude, decoded, -, rest_eq⟩ := decode_ofNat small
  rw [floor, mapFractional, decoded]
  exact if_pos rest_eq

/-! ## Order and difference -/

theorem log2_le_log2 (pos : 0 < n) (le : n ≤ k) : n.log2 ≤ k.log2 :=
  (Nat.le_log2 (by omega)).mpr (Nat.le_trans (Nat.log2_self_le pos.ne') le)

/-- Small whole numbers are in order as doubles. -/
theorem ofNat_le_ofNat (le : n ≤ k) (small : k < 2 ^ 53) : Float.ofNat n ≤ Float.ofNat k := by
  have unfolded : Float.ofNat n ≤ Float.ofNat k ↔
      (Float.ofNat n).toModel.unpack.le (Float.ofNat k).toModel.unpack := decide_eq_true_iff
  rw [unfolded]
  rcases Nat.eq_zero_or_pos k with rfl | k_pos
  · rw [Nat.le_zero.mp le]
    decide +kernel
  rw [unpack_ofNat k_pos small]
  rcases Nat.eq_zero_or_pos n with rfl | pos
  · rfl
  rw [unpack_ofNat pos (Nat.lt_of_le_of_lt le small)]
  change ((compare ((n.log2 : ℤ) - 52) (k.log2 - 52)).then
    (compare (n * 2 ^ (52 - n.log2)) (k * 2 ^ (52 - k.log2)))).isLE
  rcases Nat.lt_or_eq_of_le (log2_le_log2 pos le) with lt | eq
  · rw [compare_lt_iff_lt.mpr (show (n.log2 : ℤ) - 52 < k.log2 - 52 by omega)]
    rfl
  · rw [eq, compare_eq_iff_eq.mpr rfl]
    exact Nat.isLE_compare.mpr (Nat.mul_le_mul_right _ le)

/-- A small whole number less itself is zero. -/
theorem ofNat_sub_self (small : n < 2 ^ 53) : Float.ofNat n - Float.ofNat n = 0.0 := by
  rcases Nat.eq_zero_or_pos n with rfl | pos
  · decide +kernel
  · change Float.ofModel (Float.Model.pack (UnpackedFloat.sub .binary64
      (Float.ofNat n).toModel.unpack (Float.ofNat n).toModel.unpack)) = 0.0
    rw [unpack_ofNat pos small]
    dsimp only [UnpackedFloat.sub]
    rw [Int.sub_self]
    rfl

end Double
end Spreadsheet
