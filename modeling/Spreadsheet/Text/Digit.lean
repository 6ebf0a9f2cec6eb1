/-!
# Decimal digits

The value that a list of ASCII digits denotes, and the digits that denote a value.
-/

namespace Spreadsheet
namespace Text

/-- The value of an ASCII digit. -/
def digitValue (c : Char) : Nat := c.toNat - '0'.toNat

/-- The number that decimal digits denote, the first digit counting most. No digits denote zero. -/
def natOfDigits (cs : List Char) : Nat :=
  cs.foldl (fun value c => 10 * value + digitValue c) 0

/-- The decimal digits of a number, without leading zeros. -/
def digitsOf (n : Nat) : List Char := Nat.toDigits 10 n

/-- How many decimal digits a number is written with. -/
def digitCount (n : Nat) : Nat := (digitsOf n).length

/-- Reads a number that is written with ASCII digits only, at least one of them. -/
def readNat? (cs : List Char) : Option Nat :=
  if !cs.isEmpty && cs.all Char.isDigit then some (natOfDigits cs) else none

/-- Reads a number that fits 32 bits and is written with ASCII digits only. -/
def readUInt32? (cs : List Char) : Option UInt32 := do
  let n ← readNat? cs
  if n < UInt32.size then some (UInt32.ofNat n) else none

end Text
end Spreadsheet
