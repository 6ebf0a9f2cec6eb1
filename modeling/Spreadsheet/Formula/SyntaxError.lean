import Spreadsheet.Formula.Token

/-!
# Syntax errors

Why a text is no formula, and where. The place is the byte offset of the token at which reading
stopped; the end of the text counts as a token there.
-/

namespace Spreadsheet
namespace Formula

/-- The greatest number of characters in a formula. -/
def maxChars : Nat := 8192

/-- The greatest number of parentheses, calls and powers around any place of a formula. -/
def maxNesting : Nat := 64

/-- The greatest number of signs and operators in a formula. -/
def maxOperators : Nat := 512

/-- Why reading a formula stopped. -/
inductive SyntaxError.Cause where
  /-- The text has too many characters. -/
  | tooLong (chars : Nat)
  /-- The text does not begin with an equals sign. -/
  | noEqualsSign
  /-- Something follows the expression. -/
  | afterExpression (found : Token)
  /-- A certain symbol has to stand here. -/
  | expected (symbol : Symbol) (found : Option Token)
  /-- Parentheses, calls and powers are nested too deep. -/
  | tooDeep
  /-- There are too many signs and operators. -/
  | tooManyOperators
  /-- The word names no cell. -/
  | badCell (word : String)
  /-- The word names no range. -/
  | badRange (word : String)
  /-- The text ends where an operand has to stand. -/
  | unexpectedEnd
  /-- The character has no meaning in a formula. -/
  | illegal (c : Char)
  /-- The token cannot begin an operand. -/
  | unexpected (found : Token)

/-- Why and where a text is no formula. -/
structure SyntaxError where
  /-- What went wrong. -/
  cause : SyntaxError.Cause
  /-- The byte offset of the token where it went wrong. -/
  position : Nat

namespace SyntaxError

/-- How messages show a token or the end of the text. -/
def describe : Option Token → String
  | some token => token.display
  | none => "EOF"

/-- The words for a cause. -/
def Cause.message : Cause → String
  | tooLong chars =>
    "Formula is " ++ toString chars ++ " characters, over the limit of " ++ toString maxChars
  | noEqualsSign => "Formula must start with '='"
  | afterExpression found => "Unexpected token after expression: " ++ found.display
  | expected symbol found => "Expected " ++ symbol.text ++ ", found " ++ describe found
  | tooDeep => "Formula nests deeper than " ++ toString maxNesting ++ " levels"
  | tooManyOperators => "Formula has more than " ++ toString maxOperators ++ " operators"
  | badCell word => "Invalid cell reference: " ++ word
  | badRange word => "Invalid range reference: " ++ word
  | unexpectedEnd => "Unexpected end of expression"
  | illegal c => "Illegal character: " ++ c.toString
  | unexpected found => "Unexpected token: " ++ found.display

/-- The message of a syntax error. -/
def message (e : SyntaxError) : String :=
  "Parse error at " ++ toString e.position ++ ": " ++ e.cause.message

end SyntaxError

end Formula
end Spreadsheet
