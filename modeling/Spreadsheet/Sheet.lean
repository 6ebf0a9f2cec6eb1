import Spreadsheet.Cell
import Spreadsheet.Shift

/-!
# Sheets

A sheet stores cells at positions and keeps track of the last column and the last row in use, which
are zero for an empty sheet.
-/

namespace Spreadsheet

/-- Cells at positions. -/
structure Sheet where
  /-- The stored cells. -/
  cells : PositionMap Cell
  /-- The last column in use. -/
  lastCol : UInt32
  /-- The last row in use. -/
  lastRow : UInt32

namespace Sheet

/-- A sheet without cells. -/
def empty : Sheet := ⟨∅, 0, 0⟩

/-- The cell stored at a position. -/
def get? (s : Sheet) (p : Position) : Option Cell := s.cells[p]?

/-- The value at a position; where nothing is stored it is blank. -/
def valueAt (s : Sheet) (p : Position) : CellValue := ((s.get? p).map Cell.value).getD .blank

/-- Stores a cell. -/
def set (s : Sheet) (p : Position) (cell : Cell) : Sheet where
  cells := s.cells.insert p cell
  lastCol := max s.lastCol p.col
  lastRow := max s.lastRow p.row

/-- The positions in use, sorted. -/
def positions (s : Sheet) : List Position := s.cells.keys

/-- Finds the last column and row in use from all cells. -/
def refit (s : Sheet) : Sheet where
  cells := s.cells
  lastCol := (s.positions.map Position.col).foldl max 0
  lastRow := (s.positions.map Position.row).foldl max 0

/-- Removes a cell. Only a cell in the last column or row can change which one is last. -/
def erase (s : Sheet) (p : Position) : Sheet :=
  let rest := { s with cells := s.cells.erase p }
  if p.row = s.lastRow ∨ p.col = s.lastCol then rest.refit else rest

/-- The positions of formulas, sorted. -/
def formulas (s : Sheet) : List Position :=
  s.positions.filter fun p => (s.get? p).any Cell.isFormula

/-- Moves the cells behind an insertion or a deletion, and drops those that do not survive it. -/
def shift (s : Sheet) (edit : Shift) : Sheet :=
  if edit.delta = 0 then s
  else
    let moved := s.cells.toList.filterMap fun (p, cell) =>
      (p.shift? edit).map fun target => (target, cell)
    refit { s with cells := .ofList moved }

end Sheet

end Spreadsheet
