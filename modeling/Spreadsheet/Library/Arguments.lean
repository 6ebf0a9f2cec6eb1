import Spreadsheet.Library.Definition
import Spreadsheet.Value.Coercion

/-!
# Arguments

How bodies read their arguments: as one value, a number, an integer, a text, a truth value, a
table, or as the numbers that an aggregate works on. An argument that is an error ends the call
with that error.
-/

namespace Spreadsheet
namespace Library

/-- The single value of an argument. -/
def scalar (argument : Value) : Outcome CellValue :=
  match argument.scalar with
  | .error code => fail code
  | value => .ok value

/-- A conversion that may have no result; then the argument is wrong. -/
def orWrong {α : Type} : Option α → Outcome α
  | some result => .ok result
  | none => fail .value

/-- The number that an argument counts as. -/
def number (argument : Value) : Outcome Float := do
  orWrong (← scalar argument).number?

/-- The whole part of the number that an argument counts as. -/
def integer (argument : Value) : Outcome Int := do
  return Double.toInt (← number argument)

/-- The text of an argument. -/
def text (argument : Value) : Outcome String := do
  return (← scalar argument).display

/-- The characters of an argument's text. -/
def chars (argument : Value) : Outcome (List Char) := do
  return (← text argument).toList

/-- The truth value that an argument counts as. -/
def boolean (argument : Value) : Outcome Bool := do
  orWrong (← scalar argument).boolean?

/-- An argument that may be left out. -/
def optional {α : Type} (convert : Value → Outcome α) (standard : α) :
    Option Value → Outcome α
  | some argument => convert argument
  | none => .ok standard

/-- A count of things: an integer that is not negative. -/
def natural (argument : Value) : Outcome Nat := do
  let n ← integer argument
  if n < 0 then fail .value else .ok n.toNat

/-- The numbers that one argument adds to an aggregate. In a table only numbers count. Outside of a
table a blank and a text that is no number do not count. -/
def numbersOf : Value → Outcome (List Float)
  | .table rows =>
    .ok ((Value.flattenRows rows).filterMap fun
      | .number value => some value
      | _ => none)
  | .single (.error code) => fail code
  | .single .blank => .ok []
  | .single value => .ok value.number?.toList

/-- The numbers that an aggregate works on. -/
def numbers (arguments : List Value) : Outcome (List Float) := do
  return (← arguments.mapM numbersOf).flatten

/-- The rows of an argument; a single value is a table of one row and one column. -/
def rowsOf : Value → Outcome (List (List Value))
  | .table rows => .ok rows
  | .single (.error code) => fail code
  | .single value => .ok [[.single value]]

/-- A number as the result of a call, unless it is infinite or NaN. -/
def finite (x : Float) : Outcome Value :=
  if x.isFinite then .ok (.number x) else fail .number

/-- The sum of numbers, from left to right. The sum of no numbers is negative zero. -/
def sum (xs : List Float) : Float := xs.foldl (· + ·) (-0.0)

/-- The mean of numbers; there is none of no numbers. -/
def mean (xs : List Float) : Outcome Float :=
  if xs.isEmpty then fail .divisionByZero else .ok (sum xs / Float.ofNat xs.length)

end Library
end Spreadsheet
