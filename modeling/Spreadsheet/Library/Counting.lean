import Spreadsheet.Library.Definition

/-!
# Counting functions

How many of the single values in the arguments are of a kind. Errors are counted, never passed on.
-/

namespace Spreadsheet
namespace Library
namespace Counting

/-- How many single values in the arguments are of a kind. -/
def countOf (holds : CellValue → Bool) (arguments : List Value) : Outcome Value :=
  .ok (.count ((Value.flattenRow arguments).countP holds))

/-- The counting functions of the library. -/
def definitions : List Definition :=
  [ .variadic "COUNT" (countOf CellValue.isNumber),
    .variadic "COUNTA" (countOf (! ·.isBlank)),
    .unary "COUNTBLANK" fun argument => countOf CellValue.showsNothing [argument] ]

end Counting
end Library
end Spreadsheet
