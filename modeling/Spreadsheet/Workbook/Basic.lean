import Spreadsheet.Dependency.Order
import Spreadsheet.Evaluation
import Spreadsheet.Formula.Grammar
import Spreadsheet.Sheet

/-!
# Workbooks

A workbook is a sheet together with what keeps its formulas up to date: the dependency graph, the
function library, the settings, and the trees of formulas that have been parsed.
-/

namespace Spreadsheet

/-- A sheet that calculates. -/
structure Workbook where
  /-- The cells. -/
  sheet : Sheet
  /-- Which cells the formulas read. -/
  graph : Graph
  /-- The functions that formulas may call. -/
  library : Library
  /-- The settings. -/
  settings : Settings
  /-- The trees of formulas that have been parsed, by cell. -/
  parsed : PositionMap Expr

/-- What a cell shows after an edit. -/
structure Shown where
  /-- The text of the cell. -/
  display : String
  /-- The cell holds an error. -/
  isError : Bool
deriving DecidableEq, Repr

namespace Workbook

/-- A workbook without cells. -/
def empty (library : Library) (settings : Settings) : Workbook :=
  ⟨.empty, .empty settings.maxRangeCells, library, settings, ∅⟩

/-- The cell stored at a position. -/
def get? (w : Workbook) (p : Position) : Option Cell := w.sheet.get? p

/-- The value at a position. -/
def valueAt (w : Workbook) (p : Position) : CellValue := w.sheet.valueAt p

/-- The text that is edited at a position; it is empty where nothing is stored. -/
def inputText (w : Workbook) (p : Position) : String := ((w.get? p).map Cell.inputText).getD ""

/-- What a cell shows. -/
def shown (w : Workbook) (p : Position) : Shown :=
  match w.get? p with
  | some cell => ⟨cell.display, cell.error.isSome⟩
  | none => ⟨"", false⟩

/-- What formulas are evaluated in. -/
def surroundings (w : Workbook) : Surroundings where
  valueAt := w.valueAt
  library := w.library
  maxRangeCells := w.settings.maxRangeCells

/-- The value that a cell with an expression would store. -/
def evaluate (w : Workbook) (e : Expr) : CellValue := (e.value w.surroundings).stored

/-- Stores a cell. -/
def setCell (w : Workbook) (p : Position) (cell : Cell) : Workbook :=
  { w with sheet := w.sheet.set p cell }

/-- Lets a cell read what an expression reads, and keeps the expression. -/
def track (w : Workbook) (p : Position) (e : Expr) : Workbook :=
  { w with graph := w.graph.setReferences p e.references, parsed := w.parsed.insert p e }

/-- Lets a cell read nothing, and forgets its expression. -/
def untrack (w : Workbook) (p : Position) : Workbook :=
  { w with graph := w.graph.erase p, parsed := w.parsed.erase p }

/-- The cells that a formula reads, sorted. -/
def precedents (w : Workbook) (p : Position) : List Position := (w.graph.precedentsOf p).toList

/-- The cells whose formulas read a cell, sorted. -/
def readers (w : Workbook) (p : Position) : List Position := (w.graph.readersOf p).toList

/-- Changes when dependents are recalculated. -/
def setMode (w : Workbook) (mode : Mode) : Workbook :=
  { w with settings := { w.settings with mode } }

/-- Adds a function to the library. -/
def define (w : Workbook) (d : Library.Definition) : Workbook :=
  { w with library := w.library.define d }

end Workbook

end Spreadsheet
