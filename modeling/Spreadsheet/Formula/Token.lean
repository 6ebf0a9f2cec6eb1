import Spreadsheet.Double.Decimal
import Spreadsheet.ErrorCode
import Spreadsheet.Truth

/-!
# Tokens

The words of formula text. A token's text is what messages quote.
-/

namespace Spreadsheet
namespace Formula

/-- An operator or a delimiter. -/
inductive Symbol where
  | plus
  | minus
  | asterisk
  | slash
  | caret
  | ampersand
  | equal
  | notEqual
  | less
  | greater
  | lessEqual
  | greaterEqual
  | openParen
  | closeParen
  | comma
deriving DecidableEq, Repr

/-- How a symbol is written. -/
def Symbol.text : Symbol → String
  | plus => "+"
  | minus => "-"
  | asterisk => "*"
  | slash => "/"
  | caret => "^"
  | ampersand => "&"
  | equal => "="
  | notEqual => "<>"
  | less => "<"
  | greater => ">"
  | lessEqual => "<="
  | greaterEqual => ">="
  | openParen => "("
  | closeParen => ")"
  | comma => ","

/-- One word of formula text. -/
inductive Token where
  | number (value : Float)
  /-- The characters between the quotes, with escapes resolved. -/
  | text (content : String)
  | boolean (value : Bool)
  | error (code : ErrorCode)
  /-- A name in capitals that an opening parenthesis follows at once. -/
  | function (name : String)
  /-- A word in capitals with a colon in it. -/
  | range (word : String)
  /-- Any other word, in capitals. -/
  | cell (word : String)
  | symbol (symbol : Symbol)
  /-- A character that begins no token. -/
  | illegal (c : Char)

/-- A text between quotes. -/
def quotedText (content : String) : String := "\"" ++ content ++ "\""

/-- How messages show a token. -/
def Token.display : Token → String
  | number value => Double.toText value
  | text content => quotedText content
  | boolean value => Truth.text value
  | error code => code.code
  | function name => name ++ "("
  | range word => word
  | cell word => word
  | symbol s => s.text
  | illegal c => "ILLEGAL(" ++ c.toString ++ ")"

end Formula
end Spreadsheet
