import Spreadsheet.Double.Numeral
import Spreadsheet.Value.Basic

/-!
# Coercions

How a value counts as a number, a truth value or a text. Operators coerce with `toNumber`, which
never fails; functions coerce with `number?` and `boolean?`, which do.
-/

namespace Spreadsheet

namespace CellValue

/-- The number that a value counts as for a function. A text has to read as a number. -/
def number? : CellValue → Option Float
  | blank => some 0.0
  | number value => some value
  | text content => Double.plain? content
  | boolean value => some (Truth.number value)
  | error _ => none

/-- The number that a value counts as for an operator. What is no number counts as zero. -/
def toNumber (v : CellValue) : Float := v.number?.getD 0.0

/-- The truth value that a value counts as. -/
def boolean? : CellValue → Option Bool
  | blank => some false
  | number value => some (value != 0.0)
  | text content => Truth.read? content.toList
  | boolean value => some value
  | error _ => none

end CellValue

namespace Value

/-- The number that a value counts as for an operator. -/
def toNumber (v : Value) : Float := v.scalar.toNumber

/-- The number that a value counts as for a function. -/
def number? (v : Value) : Option Float := v.scalar.number?

/-- The truth value that a value counts as. -/
def boolean? (v : Value) : Option Bool := v.scalar.boolean?

/-- The text of a value. -/
def toText (v : Value) : String := v.scalar.display

end Value

end Spreadsheet
