import Spreadsheet.Entry
import Spreadsheet.Workbook.Recalculation

/-!
# Editing cells

What happens when a text is typed into a cell. A text that begins with an equals sign is a formula;
any other text is a value. In automatic mode the readers of the cell follow.
-/

namespace Spreadsheet
namespace Workbook

/-- Stores a typed-in value; a blank empties the cell. -/
def enterValue (w : Workbook) (p : Position) (text : String) : Workbook :=
  let untracked := w.untrack p
  let cell := Entry.cell text
  if cell.value.isBlank then { untracked with sheet := untracked.sheet.erase p }
  else untracked.setCell p cell

/-- Stores a formula and its value. A text that cannot be parsed reads nothing and is the error for
wrong values; a formula that reaches a cycle is the error for circular references. -/
def enterFormula (w : Workbook) (p : Position) (formula : String) : Workbook :=
  let cell := Cell.ofFormula formula
  match Formula.parse formula with
  | .error _ => (w.untrack p).setCell p (cell.withResult (.error .value))
  | .ok e =>
    let tracked := w.track p e
    let value :=
      if tracked.graph.reachesCycle p then .error .circular else tracked.evaluate e
    tracked.setCell p (cell.withResult value)

/-- Stores what is typed into a cell, without its readers. -/
def enter (w : Workbook) (p : Position) (text : String) : Workbook :=
  match Text.trimList text.toList with
  | '=' :: rest => w.enterFormula p (String.ofList ('=' :: rest))
  | _ => w.enterValue p text

/-- Types a text into a cell. -/
def edit (w : Workbook) (p : Position) (text : String) : Workbook :=
  let entered := w.enter p text
  match entered.settings.mode with
  | .automatic => entered.recalculateReaders p
  | .manual => entered

/-- Empties a cell. -/
def clear (w : Workbook) (p : Position) : Workbook := w.edit p ""

/-- The formula that a stored cell is loaded with: its own, or a stored text that begins with an
equals sign. -/
def loadedFormula? (cell : Cell) : Option String :=
  match cell.formula, cell.value with
  | some formula, _ => some formula
  | none, .text content =>
    if (Text.trimStart content.toList).head? = some '=' then some (Text.trim content) else none
  | none, _ => none

/-- Tracks the formula of a stored cell, which a stored text becomes if it begins with an equals
sign. -/
def loadCell (w : Workbook) (p : Position) : Workbook :=
  match w.get? p with
  | none => w
  | some cell =>
    match loadedFormula? cell with
    | none => w
    | some formula =>
      let stored := if cell.isFormula then w else w.setCell p (.ofFormula formula)
      match Formula.parse formula with
      | .ok e => stored.track p e
      | .error _ => stored

/-- Tracks all formulas of the sheet anew and evaluates them. -/
def load (w : Workbook) : Workbook :=
  let untracked := { w with graph := .empty w.graph.maxRangeCells, parsed := ∅ }
  (untracked.sheet.positions.foldl loadCell untracked).recalculate

end Workbook
end Spreadsheet
