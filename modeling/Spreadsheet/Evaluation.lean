import Spreadsheet.Formula.Expr
import Spreadsheet.Library
import Spreadsheet.Settings

/-!
# Evaluation

The value of an expression in surroundings that give the values of cells, the functions, and the
greatest size of a range. Operators pass on the first error among their operands, and a table is no
operand; functions are given all their arguments, errors included.
-/

namespace Spreadsheet

/-- What the value of an expression depends on. -/
structure Surroundings where
  /-- The value of each cell. -/
  valueAt : Position → CellValue
  /-- The functions. -/
  library : Library
  /-- The greatest number of cells in a range. -/
  maxRangeCells : Nat

namespace Formula

/-- The value of a literal. -/
def Literal.value : Literal → Value
  | number value => .number value
  | text content => .text content
  | boolean value => .boolean value
  | error code => .error code

/-- The two numbers compared or computed with; a division by zero has none. -/
def Arithmetic.apply (operation : Arithmetic) (x y : Float) : Except ErrorCode Float :=
  match operation with
  | add => .ok (x + y)
  | subtract => .ok (x - y)
  | multiply => .ok (x * y)
  | divide => if y == 0.0 then .error .divisionByZero else .ok (x / y)
  | power => .ok (x.pow y)

/-- The result of an operation on numbers. An infinite result and NaN are the error for impossible
numbers. -/
def Arithmetic.result (operation : Arithmetic) (x y : Float) : Value :=
  match operation.apply x y with
  | .error code => .error code
  | .ok z => if z.isFinite then .number z else .error .number

/-- The comparison of two values has a certain outcome. -/
def Comparison.holds (comparison : Comparison) (left right : CellValue) : Bool :=
  match comparison with
  | equal => left.equalTo right
  | notEqual => !left.equalTo right
  | less => left.compareTo right == .lt
  | greater => left.compareTo right == .gt
  | lessEqual => left.compareTo right != .gt
  | greaterEqual => left.compareTo right != .lt

/-- The result of an operator on two single values neither of which is an error. -/
def Operator.result (operator : Operator) (left right : CellValue) : Value :=
  match operator with
  | compare comparison => .boolean (comparison.holds left right)
  | concat => .text (left.display ++ right.display)
  | arithmetic operation => operation.result left.toNumber right.toNumber

/-- The value of a binary operation, from the values of its operands. -/
def Operator.value (operator : Operator) (left right : Value) : Value :=
  match left, right with
  | .single (.error code), _ => .error code
  | _, .single (.error code) => .error code
  | .single v, .single w => operator.result v w
  | _, _ => .error .value

/-- The value of an operand with a sign, from the value of the operand. -/
def Sign.value (sign : Sign) (operand : Value) : Value :=
  match operand with
  | .single (.error code) => .error code
  | .table _ => .error .value
  | .single v =>
    match sign with
    | plus => .single v
    | minus => .number (-v.toNumber)

end Formula

/-- The values of the cells of a range, row by row. -/
def Range.valueRows (valueAt : Position → CellValue) (r : Range) : List (List CellValue) :=
  r.positionRows.map fun row => row.map valueAt

/-- The value of a range: a table of the values of its cells, unless there are too many. -/
def Range.value (s : Surroundings) (r : Range) : Value :=
  if s.maxRangeCells < r.count then .error .value
  else .table ((r.valueRows s.valueAt).map fun row => row.map .single)

namespace Expr

mutual

/-- The value of an expression. -/
def value (s : Surroundings) : Expr → Value
  | literal v => v.value
  | cell address => .single (s.valueAt address.position)
  | range block => block.value s
  | unary sign operand => sign.value (operand.value s)
  | binary operator left right => operator.value (left.value s) (right.value s)
  | call name arguments => s.library.call name (values s arguments)

/-- The values of several expressions, from left to right. -/
def values (s : Surroundings) : List Expr → List Value
  | [] => []
  | first :: rest => first.value s :: values s rest

end

end Expr

end Spreadsheet
