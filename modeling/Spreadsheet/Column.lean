/-!
# Column letters

Columns are counted from zero and written in letters: `A`, …, `Z`, `AA`, `AB`, …. The letters are a
numeral in base 26 whose digits run from 1 to 26, so every column has exactly one spelling in
capitals.
-/

namespace Spreadsheet
namespace Column

/-- The digit that a letter stands for, from 1 to 26, in either case. -/
def letterValue (c : Char) : Nat := c.toUpper.toNat - 'A'.toNat + 1

/-- Appends one letter to a numeral, unless it is no letter or the value needs more than 32
bits. -/
def appendLetter? (value : Nat) (c : Char) : Option Nat :=
  if c.isAlpha ∧ 26 * value + letterValue c < UInt32.size then
    some (26 * value + letterValue c)
  else
    none

/-- The column that letters name. There is none for no letters, for other characters and for
numerals beyond 32 bits. -/
def ofLetters? (cs : List Char) : Option UInt32 :=
  if cs.isEmpty then none
  else (cs.foldlM appendLetter? 0).map fun value => UInt32.ofNat (value - 1)

/-- The capital letter for a digit counted from zero. -/
def letterOf (digit : Nat) : Char := Char.ofNat ('A'.toNat + digit)

/-- The numeral for a value, where zero has no digits. -/
def numeral (value : Nat) : List Char :=
  if value = 0 then []
  else numeral ((value - 1) / 26) ++ [letterOf ((value - 1) % 26)]
termination_by value
decreasing_by omega

/-- The letters of a column. -/
def letters (column : UInt32) : List Char := numeral (column.toNat + 1)

end Column
end Spreadsheet
