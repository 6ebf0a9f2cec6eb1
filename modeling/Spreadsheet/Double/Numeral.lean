import Spreadsheet.Double.Binary
import Spreadsheet.Text.Blank
import Spreadsheet.Text.Digit

/-!
# Reading numbers

The decimal notation that doubles are read from: an optional sign, digits with an optional point,
and an optional power of ten. The value is the double nearest to the number written. The words for
infinity and NaN are read by `ofText?` only; a plain number has none of them and is finite.
-/

namespace Spreadsheet
namespace Double

/-- The double nearest to `digits · 10 ^ scale`. Scales that only infinity or zero can meet are
settled without computing the power. -/
def ofDecimal (digits : Nat) (scale : Int) : Float :=
  let top := Text.digitCount digits + scale
  if digits = 0 ∨ top < -400 then 0.0
  else if 400 < top then 1.0 / 0.0
  else Float.ofScientific digits (decide (scale < 0)) scale.natAbs

/-- Digits before and after a point denote a number with as many decimal places as digits after
it. -/
def ofPlaces (whole fraction : List Char) (scale : Int) : Float :=
  ofDecimal (Text.natOfDigits (whole ++ fraction)) (scale - fraction.length)

/-- A sign in front of digits, and what follows it. -/
def takeSign : List Char → Bool × List Char
  | '-' :: cs => (true, cs)
  | '+' :: cs => (false, cs)
  | cs => (false, cs)

/-- Reads the power of ten that ends a numeral; nothing at all is the power zero. -/
def readScale? : List Char → Option Int
  | [] => some 0
  | c :: cs =>
    if c = 'e' ∨ c = 'E' then
      let (negative, digits) := takeSign cs
      (Text.readNat? digits).map fun n => if negative then -(n : Int) else n
    else
      none

/-- Reads digits with an optional point, at least one digit in all, and an optional power of
ten. -/
def readDecimal? (cs : List Char) : Option Float :=
  let whole := cs.takeWhile Char.isDigit
  let afterWhole := cs.dropWhile Char.isDigit
  let (fraction, rest) :=
    match afterWhole with
    | '.' :: places => (places.takeWhile Char.isDigit, places.dropWhile Char.isDigit)
    | _ => ([], afterWhole)
  if whole.isEmpty && fraction.isEmpty then none
  else (readScale? rest).map (ofPlaces whole fraction)

/-- Reads a number without its sign: digits, or a word for infinity or NaN in any case. -/
def readMagnitude? (cs : List Char) : Option Float :=
  let word := cs.map Char.toLower
  if word = ['i', 'n', 'f'] ∨ word = ['i', 'n', 'f', 'i', 'n', 'i', 't', 'y'] then some (1.0 / 0.0)
  else if word = ['n', 'a', 'n'] then some (0.0 / 0.0)
  else readDecimal? cs

/-- Reads a number with an optional sign. -/
def read? (cs : List Char) : Option Float :=
  let (negative, magnitude) := takeSign cs
  (readMagnitude? magnitude).map fun x => if negative then -x else x

/-- Reads a number from a text without blanks around it. -/
def ofText? (s : String) : Option Float := read? s.toList

/-- The characters that a plain number is written with. -/
def isPlainChar (c : Char) : Bool :=
  c.isDigit || c == '.' || c == '-' || c == '+' || c == 'e' || c == 'E'

/-- Reads a finite number in decimal notation, with blanks around it allowed. -/
def readPlain? (cs : List Char) : Option Float :=
  let trimmed := Text.trimList cs
  if !trimmed.isEmpty && trimmed.all isPlainChar then (read? trimmed).filter Float.isFinite
  else none

/-- Reads a finite number in decimal notation from a text. -/
def plain? (s : String) : Option Float := readPlain? s.toList

end Double
end Spreadsheet
