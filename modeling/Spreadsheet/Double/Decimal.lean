import Spreadsheet.Double.Binary
import Spreadsheet.Text.Digit

/-!
# Shortest decimals

The decimal with the fewest digits among those that read back as a given double, and of those the
nearest. The search walks the grids of 1, 2, … digits and tests the two neighbours of the value on
each by exact arithmetic.
-/

namespace Spreadsheet
namespace Double

/-- The number `digits · 10 ^ exponent`. -/
structure Decimal where
  /-- The significant digits as a whole number. -/
  digits : Nat
  /-- The power of ten that scales them. -/
  exponent : Int
deriving DecidableEq, Repr

/-- Which of two equally near decimals is taken. -/
inductive Tie where
  | up
  | toEven
deriving DecidableEq, Repr

/-- Compares `digits · 10 ^ exponent` with `mantissa · 2 ^ power`. -/
def Decimal.compareBinary (d : Decimal) (mantissa : Nat) (power : Int) : Ordering :=
  compare (d.digits * Nat.pow 10 d.exponent.toNat * Nat.pow 2 (-power).toNat)
    (mantissa * Nat.pow 2 power.toNat * Nat.pow 10 (-d.exponent).toNat)

/-- The same number without trailing zeros among its digits. -/
def Decimal.strip (d : Decimal) : Decimal :=
  if 0 < d.digits ∧ d.digits % 10 = 0 then
    Decimal.strip ⟨d.digits / 10, d.exponent + 1⟩
  else
    d
termination_by d.digits
decreasing_by omega

namespace Binary

/-- The decimal rounds to this magnitude: it lies between the halfway points to the neighbours, the
halfway points themselves counting when the mantissa is even. -/
def readsBack (b : Binary) (d : Decimal) : Bool :=
  let below := if b.narrowBelow then 4 * b.mantissa - 1 else 4 * b.mantissa - 2
  let above := 4 * b.mantissa + 2
  let closed := b.mantissa % 2 == 0
  let low := d.compareBinary below (b.exponent - 2)
  let high := d.compareBinary above (b.exponent - 2)
  (low == .gt || closed && low == .eq) && (high == .lt || closed && high == .eq)

/-- The exponent of the leading decimal digit of a positive magnitude. -/
def leading (b : Binary) : Int :=
  if b.denominator ≤ b.numerator then
    Text.digitCount b.whole - 1
  else
    -(Text.digitCount ((b.denominator - 1) / b.numerator) : Int)

/-- The multiple of `10 ^ grid` next below the magnitude, counted in units of the grid. -/
def onGrid (b : Binary) (grid : Int) : Nat :=
  b.numerator * Nat.pow 10 (-grid).toNat / (b.denominator * Nat.pow 10 grid.toNat)

/-- Of the two neighbours of the magnitude on a grid, the one that reads back; of two the
nearer. -/
def neighbour? (b : Binary) (tie : Tie) (grid : Int) : Option Decimal :=
  let lower : Decimal := ⟨b.onGrid grid, grid⟩
  let upper : Decimal := ⟨b.onGrid grid + 1, grid⟩
  match b.readsBack lower, b.readsBack upper with
  | true, true =>
    let middle : Decimal := ⟨2 * lower.digits + 1, grid⟩
    match middle.compareBinary (2 * b.mantissa) b.exponent with
    | .gt => some lower
    | .lt => some upper
    | .eq => if tie = .toEven ∧ lower.digits % 2 = 0 then some lower else some upper
  | true, false => some lower
  | false, true => some upper
  | false, false => none

/-- The magnitude itself as a decimal. -/
def exact (b : Binary) : Decimal :=
  if 0 ≤ b.exponent then ⟨b.mantissa * Nat.pow 2 b.exponent.toNat, 0⟩
  else ⟨b.mantissa * Nat.pow 5 (-b.exponent).toNat, b.exponent⟩

/-- The decimal of fewest digits that reads back as a positive magnitude, the nearest of them.
Seventeen digits are enough for every double. -/
def shortest (b : Binary) (tie : Tie) : Decimal :=
  (((List.range 17).findSome? fun (n : Nat) =>
    b.neighbour? tie (b.leading - n)).getD b.exact).strip

end Binary

/-- How a double is laid out as text. -/
structure Layout where
  /-- The exponents of the leading digit for which no power of ten is written. -/
  plain : Int → Bool
  /-- Whole numbers end in `.0`. -/
  pointZero : Bool
  /-- The choice between two equally near shortest decimals. -/
  tie : Tie

namespace Layout

/-- Digits, point and exponent of a decimal. -/
def decimalText (layout : Layout) (d : Decimal) : List Char :=
  let digits := Text.digitsOf d.digits
  let leading := d.exponent + digits.length - 1
  if layout.plain leading then
    if 0 ≤ d.exponent then
      digits ++ List.replicate d.exponent.toNat '0' ++
        (if layout.pointZero then ['.', '0'] else [])
    else if 0 ≤ leading then
      digits.take (leading + 1).toNat ++ '.' :: digits.drop (leading + 1).toNat
    else
      '0' :: '.' :: List.replicate (-leading - 1).toNat '0' ++ digits
  else
    let fraction := digits.drop 1
    let sign := if leading < 0 then ['-'] else []
    digits.take 1 ++ (if fraction.isEmpty then [] else '.' :: fraction) ++
      'e' :: sign ++ Text.digitsOf leading.natAbs

/-- The text of a magnitude. -/
def magnitudeText (layout : Layout) (b : Binary) : List Char :=
  if b.mantissa = 0 then '0' :: (if layout.pointZero then ['.', '0'] else [])
  else layout.decimalText (b.shortest layout.tie)

/-- The text of a double. -/
def text (layout : Layout) (x : Float) : String :=
  match decode x with
  | .nan => "NaN"
  | .infinite negative => if negative then "-inf" else "inf"
  | .finite negative b =>
    String.ofList ((if negative then ['-'] else []) ++ layout.magnitudeText b)

end Layout

/-- Numbers as a sheet shows them: never a power of ten, no `.0`, and of two equally near decimals
the greater magnitude. -/
def positional : Layout := ⟨fun _ => true, false, .up⟩

/-- The text that a sheet shows for a number. -/
def toText (x : Float) : String := positional.text x

end Double
end Spreadsheet
