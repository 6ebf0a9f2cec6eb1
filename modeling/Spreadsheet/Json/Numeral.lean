import Spreadsheet.Double.Numeral
import Spreadsheet.Json.Basic

/-!
# JSON numerals

The parts of a JSON number, and what a number counts as: a natural number, an integer or a double.
The double is computed from the first digits that fit 64 bits by a single multiplication or
division with a power of ten, so it can differ from the nearest one in the last place.
-/

namespace Spreadsheet
namespace Json

/-- The parts of a number as it is written. -/
structure Numeral where
  /-- There is a minus sign. -/
  negative : Bool
  /-- The digits in front of the point. -/
  whole : List Char
  /-- The digits behind the point; none without a point. -/
  fraction : List Char
  /-- Whether the power of ten is negative, and its digits. -/
  exponent : Option (Bool × List Char)

namespace Numeral

/-- Reads digits behind a point, if there is one. -/
def readFraction? : List Char → Option (List Char × List Char)
  | '.' :: cs =>
    let digits := cs.takeWhile Char.isDigit
    if digits.isEmpty then none else some (digits, cs.dropWhile Char.isDigit)
  | cs => some ([], cs)

/-- Reads a power of ten, if there is one. -/
def readExponent? (cs : List Char) : Option (Option (Bool × List Char) × List Char) :=
  match cs with
  | [] => some (none, [])
  | c :: behind =>
    if c = 'e' ∨ c = 'E' then
      let (negative, unsigned) := Double.takeSign behind
      let digits := unsigned.takeWhile Char.isDigit
      if digits.isEmpty then none
      else some (some (negative, digits), unsigned.dropWhile Char.isDigit)
    else
      some (none, cs)

/-- Reads a number off the front of a text. Only the number zero begins with the digit zero. -/
def read? (cs : List Char) : Option (Numeral × List Char) := do
  let negative := cs.head? == some '-'
  let unsigned := if negative then cs.drop 1 else cs
  let whole := unsigned.takeWhile Char.isDigit
  if whole.isEmpty || (whole.head? == some '0' && whole.length != 1) then none
  else
    let (fraction, afterFraction) ← readFraction? (unsigned.dropWhile Char.isDigit)
    let (exponent, rest) ← readExponent? afterFraction
    some (⟨negative, whole, fraction, exponent⟩, rest)

/-- The number is written without a point and without a power of ten. -/
def isInteger (n : Numeral) : Bool := n.fraction.isEmpty && n.exponent.isNone

/-- The natural number below a bound that is written. Negative zero is none. -/
def natural? (n : Numeral) (bound : Nat) : Option Nat :=
  let value := Text.natOfDigits n.whole
  if n.isInteger && !n.negative && value < bound then some value else none

/-- The integer that is written. -/
def integer? (n : Numeral) : Option Int :=
  let value := Text.natOfDigits n.whole
  if n.isInteger then some (if n.negative then -(value : Int) else value) else none

/-- Appends digits to a significand as long as it fits 64 bits, and gives the digits that are
left. -/
def appendDigits (significand : Nat) : List Char → Nat × List Char
  | [] => (significand, [])
  | c :: cs =>
    let longer := 10 * significand + Text.digitValue c
    if longer < UInt64.size then appendDigits longer cs else (significand, c :: cs)

/-- The greatest power of ten that is a double. -/
def maxPower : Nat := 308

/-- A power of ten up to the greatest one. -/
def powerOfTen (n : Nat) : Float := Float.ofScientific 1 false n

/-- Divides by a power of ten, by the greatest one as often as needed. -/
def divide : Nat → Float → Nat → Float
  | 0, x, _ => x
  | rounds + 1, x, power =>
    if power ≤ maxPower then x / powerOfTen power
    else if x == 0.0 then x
    else divide rounds (x / powerOfTen maxPower) (power - maxPower)

/-- Scales a significand by a power of ten. There is no result beyond the doubles. -/
def scale? (significand : Nat) (power : Int) : Option Float :=
  let x := Float.ofNat significand
  if power < 0 then some (divide (power.natAbs / maxPower + 1) x power.natAbs)
  else if power.natAbs ≤ maxPower then (some (x * powerOfTen power.natAbs)).filter Float.isFinite
  else if x == 0.0 then some x
  else none

/-- The greatest power of ten that is computed with. -/
def maxExponent : Int := 2147483647

/-- The magnitude of a number as a double. -/
def magnitude? (n : Numeral) : Option Float :=
  let (wholePart, wholeLeft) := appendDigits 0 n.whole
  let (significand, fractionLeft) := appendDigits wholePart n.fraction
  let places := (wholeLeft.length : Int) - (n.fraction.length - fractionLeft.length)
  match n.exponent with
  | none => scale? significand places
  | some (negative, digits) =>
    let power : Int := Text.natOfDigits digits
    if maxExponent < power then
      if significand ≠ 0 ∧ !negative then none else some 0.0
    else
      let total := if negative then places - power else places + power
      scale? significand (max (-maxExponent - 1) (min total maxExponent))

/-- The double that is written. -/
def float? (n : Numeral) : Option Float := n.magnitude?.map fun x => if n.negative then -x else x

end Numeral

/-- What a document counts as by its number, if it is one. -/
def readNumber? {α : Type} (convert : Numeral → Option α) : Json → Option α
  | number literal => (Numeral.read? literal).bind fun (n, _) => convert n
  | _ => none

/-- The natural number below a bound that a document is. -/
def natural? (bound : Nat) : Json → Option Nat := readNumber? (Numeral.natural? · bound)

/-- The integer that a document is. -/
def integer? : Json → Option Int := readNumber? Numeral.integer?

/-- The double that a document is. -/
def float? : Json → Option Float := readNumber? Numeral.float?

end Json
end Spreadsheet
