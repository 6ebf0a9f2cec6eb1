import Spreadsheet.Formula.Relocate
import Spreadsheet.Workbook.Recalculation

/-!
# Inserting and deleting rows and columns

A structural edit moves the stored cells, the graph and the references inside formula text by the
same shift, and evaluates the sheet anew.
-/

namespace Spreadsheet
namespace Workbook

/-- Relocates the references of one formula and tracks the new text. -/
def relocateCell (edit : Shift) (w : Workbook) (p : Position) : Workbook :=
  match w.get? p with
  | none => w
  | some cell =>
    match cell.formula with
    | none => w
    | some formula =>
      let relocated := Formula.relocate edit formula
      let tracked :=
        match Formula.parse relocated with
        | .ok e => w.track p e
        | .error _ => w.untrack p
      tracked.setCell p { cell with formula := some relocated }

/-- Moves the graph and relocates the references of all formulas, for cells that have been moved
already. -/
def updateReferences (w : Workbook) (edit : Shift) : Workbook :=
  if edit.delta = 0 then w
  else
    let moved := { w with graph := w.graph.shift edit, parsed := ∅ }
    (moved.sheet.formulas.foldl (relocateCell edit) moved).recalculate

/-- Moves the cells, the graph and the references. -/
def shift (w : Workbook) (edit : Shift) : Workbook :=
  if edit.delta = 0 then w
  else { w with sheet := w.sheet.shift edit }.updateReferences edit

/-- Inserts rows in front of a row. -/
def insertRows (w : Workbook) (first count : UInt32) : Workbook :=
  w.shift ⟨.row, first, count.toNat⟩

/-- Deletes rows from a row on. -/
def deleteRows (w : Workbook) (first count : UInt32) : Workbook :=
  w.shift ⟨.row, first, -(count.toNat : Int)⟩

/-- Inserts columns in front of a column. -/
def insertColumns (w : Workbook) (first count : UInt32) : Workbook :=
  w.shift ⟨.column, first, count.toNat⟩

/-- Deletes columns from a column on. -/
def deleteColumns (w : Workbook) (first count : UInt32) : Workbook :=
  w.shift ⟨.column, first, -(count.toNat : Int)⟩

end Workbook
end Spreadsheet
