import Spreadsheet.Text.Blank
import Spreadsheet.Text.Case

/-!
# Truth values as texts and numbers
-/

namespace Spreadsheet
namespace Truth

/-- How a truth value is written. -/
def text (b : Bool) : String := if b then "TRUE" else "FALSE"

/-- The number that a truth value counts as. -/
def number (b : Bool) : Float := if b then 1.0 else 0.0

/-- Reads a truth value in any case, with blanks around it allowed. -/
def read? (cs : List Char) : Option Bool :=
  let capitals := String.ofList (Text.upperList (Text.trimList cs))
  if capitals = "TRUE" then some true
  else if capitals = "FALSE" then some false
  else none

end Truth
end Spreadsheet
