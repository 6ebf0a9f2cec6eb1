/-!
# Doubles as exact numbers

A finite double is a sign and a magnitude `mantissa · 2 ^ exponent`. This module reads the two off
the bits, and computes the whole-number functions (floor, ceiling, truncation, rounding, conversion
to an integer) from them by exact arithmetic.
-/

namespace Spreadsheet
namespace Double

/-- The magnitude `mantissa · 2 ^ exponent` of a finite double. -/
structure Binary where
  /-- The significand as a whole number below `2 ^ 53`. -/
  mantissa : Nat
  /-- The power of two that scales it. -/
  exponent : Int
  /-- The next smaller magnitude is half as far away as the next larger one. -/
  narrowBelow : Bool
deriving DecidableEq, Repr

/-- What the bits of a double stand for. -/
inductive Decoded where
  | nan
  | infinite (negative : Bool)
  | finite (negative : Bool) (magnitude : Binary)
deriving DecidableEq, Repr

/-- Reads sign, exponent and significand off the bits of a double. -/
def decodeBits (bits : UInt64) : Decoded :=
  let negative := bits.toNat / Nat.pow 2 63 == 1
  let biased : Nat := bits.toNat / Nat.pow 2 52 % Nat.pow 2 11
  let fraction : Nat := bits.toNat % Nat.pow 2 52
  if biased = Nat.pow 2 11 - 1 then
    if fraction = 0 then .infinite negative else .nan
  else if biased = 0 then
    .finite negative ⟨fraction, -1074, false⟩
  else
    .finite negative ⟨Nat.pow 2 52 + fraction, (biased : Int) - 1075, fraction == 0 && biased > 1⟩

/-- What a double stands for. -/
def decode (x : Float) : Decoded := decodeBits x.toBits

namespace Binary

/-- The numerator of the magnitude as a fraction over `denominator`. -/
def numerator (b : Binary) : Nat := b.mantissa * Nat.pow 2 b.exponent.toNat

/-- A power of two over which the magnitude is a fraction. -/
def denominator (b : Binary) : Nat := Nat.pow 2 (-b.exponent).toNat

/-- The whole part of the magnitude. -/
def whole (b : Binary) : Nat := b.numerator / b.denominator

/-- What the whole part leaves, as a numerator over `denominator`. -/
def rest (b : Binary) : Nat := b.numerator % b.denominator

/-- The whole number next to the magnitude; a half goes up. -/
def nearest (b : Binary) : Nat :=
  if b.denominator ≤ 2 * b.rest then b.whole + 1 else b.whole

end Binary

/-- The double with a sign and a whole magnitude. -/
def ofSignAndNat (negative : Bool) (n : Nat) : Float :=
  if negative then -Float.ofNat n else Float.ofNat n

/-- Replaces the magnitude of a double that is not whole by a whole number. Whole numbers,
infinities and NaN stay as they are. -/
def mapFractional (f : Bool → Binary → Nat) (x : Float) : Float :=
  match decode x with
  | .finite negative b => if b.rest = 0 then x else ofSignAndNat negative (f negative b)
  | _ => x

/-- The greatest whole number that is not greater. -/
def floor : Float → Float :=
  mapFractional fun negative b => if negative then b.whole + 1 else b.whole

/-- The least whole number that is not less. -/
def ceil : Float → Float :=
  mapFractional fun negative b => if negative then b.whole else b.whole + 1

/-- The whole part, toward zero. -/
def trunc : Float → Float := mapFractional fun _ b => b.whole

/-- The nearest whole number; a half goes away from zero. -/
def round : Float → Float := mapFractional fun _ b => b.nearest

/-- The signed integer of 64 bits that is nearest to an integer. -/
def clampInt64 (n : Int) : Int := max Int64.minValue.toInt (min n Int64.maxValue.toInt)

/-- The whole part as an integer of 64 bits. Values beyond the range become its ends, and NaN
becomes zero. -/
def toInt (x : Float) : Int :=
  match decode x with
  | .nan => 0
  | .infinite negative => (if negative then Int64.minValue else Int64.maxValue).toInt
  | .finite negative b => clampInt64 (if negative then -(b.whole : Int) else b.whole)

/-- A double raised to a natural power by repeated squaring, times `acc`. -/
def powNatAcc (acc base : Float) (n : Nat) : Float :=
  let acc := if n % 2 = 1 then acc * base else acc
  if n / 2 = 0 then acc else powNatAcc acc (base * base) (n / 2)
termination_by n

/-- A double raised to an integer power; a negative power is the reciprocal of the positive one. -/
def powInt (base : Float) (n : Int) : Float :=
  let power := powNatAcc 1.0 base n.natAbs
  if n < 0 then 1.0 / power else power

end Double
end Spreadsheet
