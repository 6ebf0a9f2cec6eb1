import Spreadsheet.Text.Blank

/-!
# Settings

When dependents are recalculated, and how many cells a range may have.
-/

namespace Spreadsheet

/-- When the dependents of an edited cell are recalculated. -/
inductive Mode where
  /-- At once. -/
  | automatic
  /-- Not before the whole workbook is recalculated. -/
  | manual
deriving DecidableEq, Repr

namespace Mode

/-- The name of a mode. -/
def name : Mode → String
  | automatic => "automatic"
  | manual => "manual"

/-- A name that is no mode, in lowercase. -/
structure UnknownName where
  /-- The name. -/
  name : String
deriving DecidableEq, Repr

/-- What is reported about a name that is no mode. -/
def UnknownName.message (e : UnknownName) : String := "Invalid calculation mode: " ++ e.name

/-- Reads the name of a mode, with blanks around it allowed and its letters in any case. -/
def ofName (text : String) : Except UnknownName Mode :=
  let name := String.ofList ((Text.trimList text.toList).map Char.toLower)
  if name = "automatic" ∨ name = "auto" then .ok automatic
  else if name = "manual" then .ok manual
  else .error ⟨name⟩

/-- Reads the name of a mode; every other name is automatic. -/
def ofNameOrAutomatic (text : String) : Mode :=
  match ofName text with
  | .ok mode => mode
  | .error _ => automatic

end Mode

/-- The greatest number of cells in a range, unless it is set. -/
def defaultMaxRangeCells : Nat := 1000000

/-- The settings of a workbook. -/
structure Settings where
  /-- When dependents are recalculated. -/
  mode : Mode
  /-- The greatest number of cells in a range that formulas may read. -/
  maxRangeCells : Nat
deriving DecidableEq, Repr

namespace Settings

/-- The settings of a new workbook. -/
def default : Settings := ⟨.automatic, defaultMaxRangeCells⟩

end Settings

end Spreadsheet
