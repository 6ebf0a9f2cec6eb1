import Spreadsheet.Formula.Token
import Spreadsheet.Range

/-!
# Expressions

The tree that formula text stands for, the references it reads from left to right, and a text form
of it with every operation in parentheses.
-/

namespace Spreadsheet
namespace Formula

/-- A value written in a formula. -/
inductive Literal where
  | number (value : Float)
  | text (content : String)
  | boolean (value : Bool)
  | error (code : ErrorCode)

/-- How a formula writes a value. -/
def Literal.display : Literal → String
  | number value => Double.toText value
  | text content => quotedText content
  | boolean value => Truth.text value
  | error code => code.code

/-- An operator in front of its operand. -/
inductive Sign where
  | plus
  | minus
deriving DecidableEq, Repr

/-- The symbol of a sign. -/
def Sign.symbol : Sign → Symbol
  | plus => .plus
  | minus => .minus

/-- The comparisons. -/
inductive Comparison where
  | equal
  | notEqual
  | less
  | greater
  | lessEqual
  | greaterEqual
deriving DecidableEq, Repr

/-- The operations on numbers. -/
inductive Arithmetic where
  | add
  | subtract
  | multiply
  | divide
  | power
deriving DecidableEq, Repr

/-- An operator between two operands. -/
inductive Operator where
  | compare (comparison : Comparison)
  | concat
  | arithmetic (operation : Arithmetic)
deriving DecidableEq, Repr

/-- The symbol of an operator. -/
def Operator.symbol : Operator → Symbol
  | compare .equal => .equal
  | compare .notEqual => .notEqual
  | compare .less => .less
  | compare .greater => .greater
  | compare .lessEqual => .lessEqual
  | compare .greaterEqual => .greaterEqual
  | concat => .ampersand
  | arithmetic .add => .plus
  | arithmetic .subtract => .minus
  | arithmetic .multiply => .asterisk
  | arithmetic .divide => .slash
  | arithmetic .power => .caret

end Formula

open Formula

/-- A formula as a tree. -/
inductive Expr where
  | literal (value : Literal)
  | cell (address : Address)
  | range (block : Range)
  | unary (sign : Sign) (operand : Expr)
  | binary (operator : Operator) (left right : Expr)
  /-- A call; the name is in capitals. -/
  | call (name : String) (arguments : List Expr)

/-- A reference that a formula makes. -/
inductive Reference where
  | cell (address : Address)
  | range (block : Range)
deriving DecidableEq, Repr

/-- The text of a reference. -/
def Reference.text : Reference → String
  | cell address => address.text
  | range block => block.text

namespace Expr

mutual

/-- The references of an expression, from left to right. -/
def references : Expr → List Reference
  | literal _ => []
  | cell address => [.cell address]
  | range block => [.range block]
  | unary _ operand => operand.references
  | binary _ left right => left.references ++ right.references
  | call _ arguments => referencesOfAll arguments

/-- The references of several expressions, from left to right. -/
def referencesOfAll : List Expr → List Reference
  | [] => []
  | first :: rest => first.references ++ referencesOfAll rest

end

mutual

/-- The text of an expression, with every operation in parentheses. -/
def render : Expr → String
  | literal value => value.display
  | cell address => address.text
  | range block => block.text
  | unary sign operand => "(" ++ sign.symbol.text ++ operand.render ++ ")"
  | binary operator left right =>
    "(" ++ left.render ++ " " ++ operator.symbol.text ++ " " ++ right.render ++ ")"
  | call name arguments => name ++ "(" ++ ", ".intercalate (renderAll arguments) ++ ")"

/-- The texts of several expressions. -/
def renderAll : List Expr → List String
  | [] => []
  | first :: rest => first.render :: renderAll rest

end

end Expr
end Spreadsheet
