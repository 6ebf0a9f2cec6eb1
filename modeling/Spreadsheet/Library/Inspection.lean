import Spreadsheet.Library.Definition

/-!
# Inspecting functions

Questions about the kind of a value, and replacements for errors. These functions look at errors
instead of passing them on.
-/

namespace Spreadsheet
namespace Library
namespace Inspection

/-- A question about the single value of an argument. -/
def question (holds : CellValue → Bool) (argument : Value) : Outcome Value :=
  .ok (.boolean (holds argument.scalar))

/-- The value is an error. -/
def isError : CellValue → Bool
  | .error _ => true
  | _ => false

/-- The value is the error for something that was not found. -/
def isNotAvailable : CellValue → Bool
  | .error .notAvailable => true
  | _ => false

/-- The value is a text. -/
def isText : CellValue → Bool
  | .text _ => true
  | _ => false

/-- The value is a truth value. -/
def isBoolean : CellValue → Bool
  | .boolean _ => true
  | _ => false

/-- The second argument if the first one's single value is of a kind, else the first argument. -/
def replace (holds : CellValue → Bool) (argument replacement : Value) : Outcome Value :=
  .ok (if holds argument.scalar then replacement else argument)

/-- The inspecting functions of the library. -/
def definitions : List Definition :=
  [ .binary "IFERROR" (replace isError),
    .binary "IFNA" (replace isNotAvailable),
    .unary "ISERROR" (question isError),
    .unary "ISNA" (question isNotAvailable),
    .unary "ISNUMBER" (question CellValue.isNumber),
    .unary "ISTEXT" (question isText),
    .unary "ISLOGICAL" (question isBoolean),
    .unary "ISBLANK" (question CellValue.isBlank) ]

end Inspection
end Library
end Spreadsheet
