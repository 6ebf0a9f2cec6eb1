import Spreadsheet.Cell
import Spreadsheet.Double.Numeral

/-!
# Typed-in values

What a text means when it is typed into a cell and is no formula: a truth value, a number, possibly
with thousands separators or a percent sign, nothing at all, or else the text as it was typed.
-/

namespace Spreadsheet
namespace Entry

/-- The number that a trimmed text stands for: a percentage if it ends in percent signs, else a
number whose commas do not count. -/
def number? (cs : List Char) : Option Float :=
  if cs.getLast? = some '%' then
    let amount := (cs.reverse.dropWhile (· == '%')).reverse
    (Double.readPlain? amount).map (· / 100.0)
  else
    Double.readPlain? (cs.filter (· != ','))

/-- The value of a text that is typed into a cell. -/
def value (text : String) : CellValue :=
  let trimmed := Text.trimList text.toList
  if trimmed.isEmpty then .blank
  else
    match Truth.read? trimmed with
    | some b => .boolean b
    | none =>
      match number? trimmed with
      | some x => .number x
      | none => .text text

/-- The cell for a text that is typed in. -/
def cell (text : String) : Cell := .ofValue (value text)

end Entry
end Spreadsheet
