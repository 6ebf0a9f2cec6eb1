import Spreadsheet.Double.Numeral
import Spreadsheet.Formula.Token
import Spreadsheet.Text.Occurrence

/-!
# Lexemes

A lexeme is a token together with the characters that it was read from and the place where they
begin, counted in bytes. `lexemes` cuts a text into lexemes; between them lie only blanks. Every
text can be cut, because a character that begins no token is a token of its own.

A reader is given the first character of its token and the text behind it. It answers with the
token and with the number of further characters that belong to it, so each token takes at least one
character.
-/

namespace Spreadsheet
namespace Formula

/-- The content of a quoted text and how many characters it takes, from behind the opening quote to
the closing one. A backslash keeps the character after it. There is no content without a closing
quote. -/
def quoted? : List Char → Option (List Char × Nat)
  | [] => none
  | '"' :: _ => some ([], 1)
  | '\\' :: c :: cs => (quoted? cs).map fun (content, length) => (c :: content, length + 2)
  | c :: cs => (quoted? cs).map fun (content, length) => (c :: content, length + 1)

/-- Reads a quoted text. Without a closing quote the whole rest of the text is illegal. -/
def readQuoted (cs : List Char) : Token × Nat :=
  match quoted? cs with
  | some (content, length) => (.text (String.ofList content), length)
  | none => (.illegal '"', cs.length)

/-- The spelling begins the text, whatever the case of its letters. -/
def beginsWith (spelling : String) (cs : List Char) : Bool :=
  (cs.take spelling.length).map Char.toUpper == spelling.toList

/-- Reads an error code, given the text from its sign on. The sign alone is illegal. -/
def readError (cs : List Char) : Token × Nat :=
  match ErrorCode.spellings.find? fun (spelling, _) => beginsWith spelling cs with
  | some (spelling, code) => (.error code, spelling.length - 1)
  | none => (.illegal '#', 0)

/-- The digits behind a point, if the text begins with a point. -/
def places : List Char → List Char
  | '.' :: cs => cs.takeWhile Char.isDigit
  | _ => []

/-- Reads a number that begins with a digit: digits, and a point if a digit follows it. -/
def readNumber (digit : Char) (cs : List Char) : Token × Nat :=
  let more := cs.takeWhile Char.isDigit
  let fraction := places (cs.dropWhile Char.isDigit)
  let pointed := if fraction.isEmpty then 0 else fraction.length + 1
  (.number (Double.ofPlaces (digit :: more) fraction 0), more.length + pointed)

/-- Reads what begins with a point: a number if a digit follows. -/
def readPoint (cs : List Char) : Token × Nat :=
  let fraction := cs.takeWhile Char.isDigit
  if fraction.isEmpty then (.illegal '.', 0)
  else (.number (Double.ofPlaces [] fraction 0), fraction.length)

/-- The character begins a word. -/
def startsWord (c : Char) : Bool := c.isAlpha || c == '$'

/-- The character continues a word. -/
def continuesWord (c : Char) : Bool := c.isAlphanum || c == '$' || c == ':'

/-- The token of a word, given whether an opening parenthesis follows it. -/
def wordToken (word : List Char) (called : Bool) : Token :=
  let capitals := word.map Char.toUpper
  let text := String.ofList capitals
  if called then .function text
  else if text = "TRUE" then .boolean true
  else if text = "FALSE" then .boolean false
  else if capitals.contains ':' then .range text
  else .cell text

/-- Reads a word. -/
def readWord (c : Char) (cs : List Char) : Token × Nat :=
  let more := cs.takeWhile continuesWord
  let called := (cs.dropWhile continuesWord).head? == some '('
  (wordToken (c :: more) called, more.length)

/-- Reads what begins with a less-than sign. -/
def readLess : List Char → Token × Nat
  | '=' :: _ => (.symbol .lessEqual, 1)
  | '>' :: _ => (.symbol .notEqual, 1)
  | _ => (.symbol .less, 0)

/-- Reads what begins with a greater-than sign. -/
def readGreater : List Char → Token × Nat
  | '=' :: _ => (.symbol .greaterEqual, 1)
  | _ => (.symbol .greater, 0)

/-- The symbols of one character that begin no longer one. -/
def plainSymbol? : Char → Option Symbol
  | '+' => some .plus
  | '-' => some .minus
  | '*' => some .asterisk
  | '/' => some .slash
  | '^' => some .caret
  | '&' => some .ampersand
  | '(' => some .openParen
  | ')' => some .closeParen
  | ',' => some .comma
  | '=' => some .equal
  | _ => none

/-- Reads the token that begins with the character `c`, which is no blank. -/
def readToken (c : Char) (cs : List Char) : Token × Nat :=
  match plainSymbol? c with
  | some s => (.symbol s, 0)
  | none =>
    if c = '<' then readLess cs
    else if c = '>' then readGreater cs
    else if c = '"' then readQuoted cs
    else if c = '#' then readError (c :: cs)
    else if c = '.' then readPoint cs
    else if c.isDigit then readNumber c cs
    else if startsWord c then readWord c cs
    else (.illegal c, 0)

/-- A token and where it stands. -/
structure Lexeme where
  /-- What was read. -/
  token : Token
  /-- The byte offset of the first character. -/
  start : Nat
  /-- The characters that the token was read from. -/
  chars : List Char

/-- The byte offset behind a lexeme. -/
def Lexeme.stop (l : Lexeme) : Nat := l.start + Text.size l.chars

/-- The lexemes of a text that begins at a byte offset. -/
def lexemesFrom (offset : Nat) (cs : List Char) : List Lexeme :=
  match cs with
  | [] => []
  | c :: cs =>
    if Text.isBlank c then lexemesFrom (offset + c.utf8Size) cs
    else
      let (token, more) := readToken c cs
      let lexeme : Lexeme := ⟨token, offset, c :: cs.take more⟩
      lexeme :: lexemesFrom lexeme.stop (cs.drop more)
termination_by cs.length
decreasing_by
  all_goals simp only [List.length_cons, List.length_drop]; omega

/-- The lexemes of a text, in order. -/
def lexemes (text : String) : List Lexeme := lexemesFrom 0 text.toList

end Formula
end Spreadsheet
