import Spreadsheet.Address

/-!
# Ranges

A range is the rectangle between two addresses. `Range.between` puts the smaller coordinate of each
axis first, and a mark stays with the coordinate that it was written on.
-/

namespace Spreadsheet

/-- A rectangle of cells, given by two opposite corners. -/
structure Range where
  /-- The corner of the first column and the first row. -/
  first : Address
  /-- The corner of the last column and the last row. -/
  last : Address
deriving DecidableEq, Repr

namespace Range

/-- The range between two corners given in any order. -/
def between (a b : Address) : Range :=
  let (firstCol, lastCol) := if a.col ≤ b.col then (a, b) else (b, a)
  let (firstRow, lastRow) := if a.row ≤ b.row then (a, b) else (b, a)
  { first := ⟨firstCol.col, firstRow.row, firstCol.colAbsolute, firstRow.rowAbsolute⟩
    last := ⟨lastCol.col, lastRow.row, lastCol.colAbsolute, lastRow.rowAbsolute⟩ }

/-- How many columns the range covers. -/
def width (r : Range) : Nat := r.last.col.toNat + 1 - r.first.col.toNat

/-- How many rows the range covers. -/
def height (r : Range) : Nat := r.last.row.toNat + 1 - r.first.row.toNat

/-- How many cells the range covers. -/
def count (r : Range) : Nat := r.width * r.height

/-- The range covers the position. -/
def contains (r : Range) (p : Position) : Bool :=
  r.first.col ≤ p.col && p.col ≤ r.last.col && r.first.row ≤ p.row && p.row ≤ r.last.row

/-- The columns of the range, in order. -/
def columns (r : Range) : List UInt32 :=
  (List.range' r.first.col.toNat r.width).map UInt32.ofNat

/-- The rows of the range, in order. -/
def rows (r : Range) : List UInt32 :=
  (List.range' r.first.row.toNat r.height).map UInt32.ofNat

/-- The positions of the range, row by row. -/
def positionRows (r : Range) : List (List Position) :=
  r.rows.map fun row => r.columns.map fun col => ⟨col, row⟩

/-- The positions of the range, row by row in one list. -/
def positions (r : Range) : List Position := r.positionRows.flatten

/-- The text of a range: its corners with a colon between them. -/
def text (r : Range) : String := r.first.text ++ ":" ++ r.last.text

/-- Reads a range: two addresses with one colon between them, in any order. -/
def read? (cs : List Char) : Option Range := do
  let isColon (c : Char) : Bool := c == ':'
  match cs.dropWhile (! isColon ·) with
  | [] => none
  | _ :: second =>
    let a ← Address.read? (Text.trimList (cs.takeWhile (! isColon ·)))
    let b ← Address.read? (Text.trimList second)
    some (between a b)

/-- Reads a range from a text. -/
def ofText? (s : String) : Option Range := read? s.toList

end Range
end Spreadsheet
