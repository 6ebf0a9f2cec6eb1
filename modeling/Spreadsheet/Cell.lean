import Spreadsheet.Double.Decimal
import Spreadsheet.ErrorCode
import Spreadsheet.Truth

/-!
# Cells

What a sheet stores: a value, the formula that computes it if there is one, and the error that the
value is, if it is one.
-/

namespace Spreadsheet

/-- The value of one cell. -/
inductive CellValue where
  | blank
  | number (value : Float)
  | text (content : String)
  | boolean (value : Bool)
  | error (code : ErrorCode)

namespace CellValue

instance : Inhabited CellValue := ⟨blank⟩

/-- The cell holds nothing. -/
def isBlank : CellValue → Bool
  | blank => true
  | _ => false

/-- The value is a number. -/
def isNumber : CellValue → Bool
  | number _ => true
  | _ => false

/-- The value shows nothing: it is a blank or the empty text. -/
def showsNothing : CellValue → Bool
  | blank => true
  | text content => content.isEmpty
  | _ => false

/-- The error that a value is. -/
def error? : CellValue → Option ErrorCode
  | error code => some code
  | _ => none

/-- The text that a sheet shows for a value. -/
def display : CellValue → String
  | blank => ""
  | number value => Double.toText value
  | text content => content
  | boolean value => Truth.text value
  | error code => code.code

end CellValue

/-- A stored cell. For a typed-in value there is no formula; for a formula the value is its last
result. -/
structure Cell where
  /-- The text of the formula, with its equals sign. -/
  formula : Option String
  /-- The value. -/
  value : CellValue
  /-- The error that the last result was. -/
  error : Option ErrorCode

namespace Cell

/-- A cell that holds nothing. -/
def blank : Cell := ⟨none, .blank, none⟩

/-- A cell with a typed-in value. -/
def ofValue (value : CellValue) : Cell := { blank with value }

/-- A formula that has not been calculated yet. -/
def ofFormula (formula : String) : Cell := { blank with formula := some formula }

/-- The cell computes its value. -/
def isFormula (c : Cell) : Bool := c.formula.isSome

/-- Stores a result and keeps the error in step with it. -/
def withResult (c : Cell) (value : CellValue) : Cell := { c with value, error := value.error? }

/-- The text that a sheet shows for a cell. -/
def display (c : Cell) : String := c.value.display

/-- The text that is edited: the formula if there is one, else the value as shown. -/
def inputText (c : Cell) : String := c.formula.getD c.display

end Cell

end Spreadsheet
