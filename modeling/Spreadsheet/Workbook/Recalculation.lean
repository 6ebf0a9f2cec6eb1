import Spreadsheet.Dependency.Closure
import Spreadsheet.Workbook.Basic

/-!
# Recalculation

Evaluating formulas again: one cell, the transitive readers of a cell, or the whole sheet. Each
formula is evaluated after those that it reads. Where a cycle makes that impossible, all formulas
concerned get the error for circular references.
-/

namespace Spreadsheet
namespace Workbook

/-- Stores the result of a formula. A cell without a formula stays as it is. -/
def storeResult (w : Workbook) (p : Position) (value : CellValue) : Workbook :=
  match w.get? p with
  | some cell => if cell.isFormula then w.setCell p (cell.withResult value) else w
  | none => w

/-- The value of a formula that may have been parsed before, and the workbook that has it parsed. A
text that is no formula is the error for wrong values. -/
def evaluateFormula (w : Workbook) (p : Position) (formula : String) : CellValue × Workbook :=
  match w.parsed[p]? with
  | some e => (w.evaluate e, w)
  | none =>
    match Formula.parse formula with
    | .ok e => (w.evaluate e, { w with parsed := w.parsed.insert p e })
    | .error _ => (.error .value, w)

/-- Evaluates the formula of a cell again. -/
def recalculateCell (w : Workbook) (p : Position) : Workbook :=
  match (w.get? p).bind Cell.formula with
  | some formula =>
    let (value, evaluated) := w.evaluateFormula p formula
    evaluated.storeResult p value
  | none => w

/-- Evaluates the formulas of cells again, those that are read first. If the cells reach a cycle,
all of them become circular. -/
def recalculateCells (w : Workbook) (cells : PositionSet) : Workbook :=
  match w.graph.calculationOrder cells with
  | .ok order => order.foldl recalculateCell w
  | .error _ => cells.toList.foldl (fun w p => w.storeResult p (.error .circular)) w

/-- Evaluates again all formulas that depend on a cell. -/
def recalculateReaders (w : Workbook) (p : Position) : Workbook :=
  w.recalculateCells (w.graph.allReaders p)

/-- Evaluates all formulas again. -/
def recalculate (w : Workbook) : Workbook := w.recalculateCells (.ofList w.sheet.formulas)

end Workbook
end Spreadsheet
