import Spreadsheet.Column
import Spreadsheet.Position

/-!
# Addresses

An address is a position as a formula writes it: column letters and a row number counted from one,
each with an optional `$` that marks it as absolute. `Address.text` and `Address.ofText?` write and
read it.
-/

namespace Spreadsheet

/-- A position with a mark on each coordinate that says whether edits move it. -/
structure Address where
  /-- Column, counted from zero. -/
  col : UInt32
  /-- Row, counted from zero. -/
  row : UInt32
  /-- The column is absolute. -/
  colAbsolute : Bool
  /-- The row is absolute. -/
  rowAbsolute : Bool
deriving DecidableEq, Repr

namespace Address

/-- The address of a position, with both coordinates relative. -/
def relative (p : Position) : Address := ⟨p.col, p.row, false, false⟩

/-- The position that an address names. -/
def position (a : Address) : Position := ⟨a.col, a.row⟩

/-- The mark in front of a coordinate. -/
def mark (absolute : Bool) : List Char := if absolute then ['$'] else []

/-- The characters of an address. Letters are capitals and the row number has no leading zeros. -/
def chars (a : Address) : List Char :=
  mark a.colAbsolute ++ Column.letters a.col ++ mark a.rowAbsolute ++
    Text.digitsOf (a.row.toNat + 1)

/-- The text of an address. -/
def text (a : Address) : String := String.ofList a.chars

/-- An optional mark in front of a coordinate, and what follows it. -/
def takeMark : List Char → Bool × List Char
  | '$' :: cs => (true, cs)
  | cs => (false, cs)

/-- Reads a row number counted from one. -/
def readRow? (digits : List Char) : Option UInt32 := do
  let row ← Text.readUInt32? digits
  if row = 0 then none else some (row - 1)

/-- Reads an address without blanks around it. -/
def read? (cs : List Char) : Option Address := do
  let (colAbsolute, cs) := takeMark cs
  let col ← Column.ofLetters? (cs.takeWhile Char.isAlpha)
  let (rowAbsolute, digits) := takeMark (cs.dropWhile Char.isAlpha)
  let row ← readRow? digits
  some ⟨col, row, colAbsolute, rowAbsolute⟩

/-- Reads an address with blanks around it allowed. -/
def ofText? (s : String) : Option Address := read? (Text.trimList s.toList)

/-- The next of the four ways to mark an address: none, both, the row, the column. -/
def toggle (a : Address) : Address :=
  match a.colAbsolute, a.rowAbsolute with
  | false, false => { a with colAbsolute := true, rowAbsolute := true }
  | true, true => { a with colAbsolute := false, rowAbsolute := true }
  | false, true => { a with colAbsolute := true, rowAbsolute := false }
  | true, false => { a with colAbsolute := false, rowAbsolute := false }

/-- Marks an address the next way. A text that is no address stays as it is. -/
def toggleText (s : String) : String :=
  match ofText? s with
  | some a => a.toggle.text
  | none => s

end Address

/-- The address of a position as messages show it. -/
def Position.text (p : Position) : String := (Address.relative p).text

end Spreadsheet
