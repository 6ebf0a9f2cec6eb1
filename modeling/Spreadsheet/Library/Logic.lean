import Spreadsheet.Library.Arguments

/-!
# Logical functions

Choices and connectives. Inside a table only truth values and numbers count for a connective, and
an error anywhere ends the call.
-/

namespace Spreadsheet
namespace Library
namespace Logic

/-- The second argument if the condition holds, else the third, which is `FALSE` if it is left
out. -/
def choice (condition whenTrue : Value) (whenFalse : Option Value) : Outcome Value := do
  if ← boolean condition then .ok whenTrue
  else .ok (whenFalse.getD (.boolean false))

/-- The truth value that an item of a table adds. -/
def truthOfItem : CellValue → Outcome (Option Bool)
  | .error code => fail code
  | .boolean value => .ok (some value)
  | .number value => .ok (some (value != 0.0))
  | _ => .ok none

/-- The truth values that one argument adds. -/
def truthsOf : Value → Outcome (List Bool)
  | .table rows => (Value.flattenRows rows).filterMapM truthOfItem
  | argument => do return [← boolean argument]

/-- The truth values of all arguments; there has to be one. -/
def truths (arguments : List Value) : Outcome (List Bool) := do
  let values := (← arguments.mapM truthsOf).flatten
  if values.isEmpty then fail .value else .ok values

/-- All truth values are true. -/
def conjunction (arguments : List Value) : Outcome Value := do
  return .boolean ((← truths arguments).all id)

/-- Some truth value is true. -/
def disjunction (arguments : List Value) : Outcome Value := do
  return .boolean ((← truths arguments).any id)

/-- An odd number of truth values are true. -/
def parity (arguments : List Value) : Outcome Value := do
  return .boolean ((← truths arguments).countP id % 2 == 1)

/-- The opposite truth value. -/
def negation (argument : Value) : Outcome Value := do
  return .boolean (! (← boolean argument))

/-- The logical functions of the library. -/
def definitions : List Definition :=
  [ .twoOrThree "IF" choice,
    .variadic "AND" conjunction,
    .variadic "OR" disjunction,
    .variadic "XOR" parity,
    .unary "NOT" negation,
    .nullary "TRUE" (.boolean true),
    .nullary "FALSE" (.boolean false) ]

end Logic
end Library
end Spreadsheet
