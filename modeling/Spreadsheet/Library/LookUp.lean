import Spreadsheet.Library.Arguments
import Spreadsheet.Value.Comparison

/-!
# Look-up functions

Finding a value in a row or a column of a table. What is not found is the error for that, and an
index outside of the table is the error for lost references.
-/

namespace Spreadsheet
namespace Library
namespace LookUp

/-- An index argument, counted from one by the user and from zero here. -/
def index (argument : Value) : Outcome Nat := do
  let n ← integer argument
  if n < 1 then fail .value else return (← signed (n - 1)).toNat

/-- The index of the first value that is equal to the target. -/
def exactIndex? (target : Value) (values : List Value) : Option Nat :=
  values.findIdx? (·.equalTo target)

/-- The index of the last value in front of the first one that `stops`. Blanks are passed over.
`current` is the index of the first value, and `found` the answer so far. -/
def lastBefore (stops : Value → Bool) (current : Nat) (found : Option Nat) :
    List Value → Option Nat
  | [] => found
  | value :: values =>
    if value.isBlank then lastBefore stops (current + 1) found values
    else if stops value then found
    else lastBefore stops (current + 1) (some current) values

/-- In ascending values, the index of the last one that is not greater than the target. -/
def lastNotGreater? (target : Value) (values : List Value) : Option Nat :=
  lastBefore (·.compareTo target == .gt) 0 none values

/-- In descending values, the index of the last one that is not less than the target. -/
def lastNotLess? (target : Value) (values : List Value) : Option Nat :=
  lastBefore (·.compareTo target == .lt) 0 none values

/-- The index of the target, by order or by equality. -/
def find? (approximate : Bool) (target : Value) (values : List Value) : Option Nat :=
  if approximate then lastNotGreater? target values else exactIndex? target values

/-- Something that was looked up, if it was found. -/
def orNotFound {α : Type} : Option α → Outcome α
  | some result => .ok result
  | none => fail .notAvailable

/-- The item of a table. -/
def item? (rows : List (List Value)) (row column : Nat) : Option Value :=
  rows[row]?.bind (·[column]?)

/-- How many columns the first row of a table has. -/
def width (rows : List (List Value)) : Nat := (rows.head?.map List.length).getD 0

/-- Looks for a value in the first column, and answers with another column of its row. -/
def byColumn (targetArgument tableArgument columnArgument : Value) (approximate : Option Value) :
    Outcome Value := do
  let target ← scalar targetArgument
  let rows ← rowsOf tableArgument
  let column ← index columnArgument
  let byOrder ← optional boolean true approximate
  if width rows ≤ column then fail .reference
  else
    let keys ← rows.mapM fun row => orCrash row.head?
    let row ← orNotFound (find? byOrder (.single target) keys)
    orCrash (item? rows row column)

/-- Looks for a value in the first row, and answers with another row of its column. -/
def byRow (targetArgument tableArgument rowArgument : Value) (approximate : Option Value) :
    Outcome Value := do
  let target ← scalar targetArgument
  let rows ← rowsOf tableArgument
  let row ← index rowArgument
  let byOrder ← optional boolean true approximate
  if rows.length ≤ row then fail .reference
  else
    let keys ← orCrash rows.head?
    let column ← orNotFound (find? byOrder (.single target) keys)
    orCrash (item? rows row column)

/-- The values of a table that is a single row or a single column. -/
def vector (rows : List (List Value)) : Outcome (List Value) :=
  if rows.length = 1 then orCrash rows.head?
  else if rows.all (·.length == 1) then rows.mapM fun row => orCrash row.head?
  else fail .notAvailable

/-- The place of a value in a row or a column: by equality for the type zero, in ascending values
for a positive type, and in descending values for a negative one. -/
def matched (targetArgument vectorArgument : Value) (typeArgument : Option Value) :
    Outcome Value := do
  let target ← scalar targetArgument
  let rows ← rowsOf vectorArgument
  let kind ← optional integer 1 typeArgument
  let values ← vector rows
  let found :=
    if kind = 0 then exactIndex? (.single target) values
    else if 0 < kind then lastNotGreater? (.single target) values
    else lastNotLess? (.single target) values
  return .count ((← orNotFound found) + 1)

/-- An index argument of a table; whatever is wrong with it, it lies outside of the table. -/
def indexInside (argument : Value) : Outcome Nat :=
  match index argument with
  | .error (.error _) => fail .reference
  | answer => answer

/-- The item of a table with given indices. A single index counts columns in a table of one row and
rows in every other table. -/
def indexed (tableArgument first : Value) (second : Option Value) : Outcome Value := do
  let rows ← rowsOf tableArgument
  let i ← indexInside first
  let (row, column) ←
    match second with
    | some argument => do pure (i, ← indexInside argument)
    | none => .ok (if rows.length = 1 then (0, i) else (i, 0))
  match item? rows row column with
  | some value => .ok value
  | none => fail .reference

/-- The argument with a given number among those behind the number. -/
def chosen (arguments : List Value) : Outcome Value := do
  let i ← index (← orCrash arguments.head?)
  orWrong arguments[← successor i]?

/-- How many rows a table has. -/
def rowCount (argument : Value) : Outcome Value := do
  return .count (← rowsOf argument).length

/-- How many columns a table has. -/
def columnCount (argument : Value) : Outcome Value := do
  return .count (width (← rowsOf argument))

/-- The look-up functions of the library. -/
def definitions : List Definition :=
  [ .threeOrFour "VLOOKUP" byColumn,
    .threeOrFour "HLOOKUP" byRow,
    .twoOrThree "MATCH" matched,
    .twoOrThree "INDEX" indexed,
    ⟨"CHOOSE", ⟨2, none⟩, chosen⟩,
    .unary "ROWS" rowCount,
    .unary "COLUMNS" columnCount ]

end LookUp
end Library
end Spreadsheet
