import Spreadsheet.Library.Arithmetic
import Spreadsheet.Library.Counting
import Spreadsheet.Library.Criteria
import Spreadsheet.Library.Dates
import Spreadsheet.Library.Inspection
import Spreadsheet.Library.Logic
import Spreadsheet.Library.LookUp
import Spreadsheet.Library.Rounding
import Spreadsheet.Library.Statistics
import Spreadsheet.Library.Texts

/-!
# The function library

The functions that formulas may call, found by name in any case. `Library.standard` holds the
built-in ones; a host may define more, or define one anew.
-/

namespace Spreadsheet

/-- The functions that formulas may call. No two have the same name. -/
structure Library where
  /-- The functions, the latest first. -/
  definitions : List Library.Definition

namespace Library

/-- A library without functions. -/
def empty : Library := ⟨[]⟩

/-- The built-in functions. The present is the same for all calls. -/
def standard (now : Moment) : Library :=
  ⟨Arithmetic.definitions ++ Rounding.definitions ++ Logic.definitions ++ Inspection.definitions ++
    Texts.definitions ++ LookUp.definitions ++ Counting.definitions ++ Statistics.definitions ++
    Criteria.definitions ++ Dates.definitions now⟩

/-- The function with a name in any case. -/
def find? (l : Library) (name : String) : Option Definition :=
  let capitals := Text.upper name
  l.definitions.find? (·.name == capitals)

/-- The names of all functions, in order. -/
def names (l : Library) : List String :=
  (l.definitions.map Definition.name).mergeSort fun s t => compare s t != .gt

/-- Adds a function, in place of one with the same name. -/
def define (l : Library) (d : Definition) : Library :=
  let named := { d with name := Text.upper d.name }
  ⟨named :: l.definitions.filter (·.name != named.name)⟩

/-- Calls a function by its name. An unknown name is an error. -/
def call (l : Library) (name : String) (arguments : List Value) : Value :=
  match l.find? name with
  | some d => d.call arguments
  | none => .error .name

end Library
end Spreadsheet
