import Spreadsheet.Json.Numeral

/-!
# Reading JSON

Reading a document from its text. Only spaces, tabs and line breaks may stand between its parts,
and nothing else may follow it.
-/

namespace Spreadsheet
namespace Json

/-- The character may stand between the parts of a document. -/
def isSpace (c : Char) : Bool := c == ' ' || c == '\t' || c == '\n' || c == '\r'

/-- The text without the spaces in front. -/
def skipSpaces (cs : List Char) : List Char := cs.dropWhile isSpace

/-- The value of a hexadecimal digit in either case. -/
def hexValue? (c : Char) : Option Nat :=
  if c.isDigit then some (c.toNat - '0'.toNat)
  else if 'a' ≤ c ∧ c ≤ 'f' then some (c.toNat - 'a'.toNat + 10)
  else if 'A' ≤ c ∧ c ≤ 'F' then some (c.toNat - 'A'.toNat + 10)
  else none

/-- The value of four hexadecimal digits. -/
def hexUnit? (a b c d : Char) : Option Nat := do
  return 4096 * (← hexValue? a) + 256 * (← hexValue? b) + 16 * (← hexValue? c) + (← hexValue? d)

/-- The character that a short escape stands for. -/
def shortEscape? : Char → Option Char
  | '"' => some '"'
  | '\\' => some '\\'
  | '/' => some '/'
  | 'b' => some (Char.ofNat 8)
  | 'f' => some (Char.ofNat 12)
  | 'n' => some '\n'
  | 'r' => some '\r'
  | 't' => some '\t'
  | _ => none

/-- Reads a string from behind its opening quote, as code points and 16-bit units, and gives what
follows its closing quote. -/
def readUnits? : List Char → Option (List Nat × List Char)
  | [] => none
  | '"' :: cs => some ([], cs)
  | '\\' :: 'u' :: a :: b :: c :: d :: cs => do
    let unit ← hexUnit? a b c d
    let (units, rest) ← readUnits? cs
    some (unit :: units, rest)
  | '\\' :: c :: cs => do
    let escaped ← shortEscape? c
    let (units, rest) ← readUnits? cs
    some (escaped.toNat :: units, rest)
  | c :: cs =>
    if c.toNat < 32 then none
    else do
      let (units, rest) ← readUnits? cs
      some (c.toNat :: units, rest)

/-- The unit is the first half of a surrogate pair. -/
def isHighHalf (unit : Nat) : Bool := 0xD800 ≤ unit && unit ≤ 0xDBFF

/-- The unit is the second half of a surrogate pair. -/
def isLowHalf (unit : Nat) : Bool := 0xDC00 ≤ unit && unit ≤ 0xDFFF

/-- The characters that units stand for: two halves make one character, and a half alone makes
none. -/
def charsOfUnits? : List Nat → Option (List Char)
  | [] => some []
  | [unit] =>
    if isHighHalf unit || isLowHalf unit then none else some [Char.ofNat unit]
  | high :: low :: units =>
    if isHighHalf high then
      if isLowHalf low then
        (charsOfUnits? units).map
          (Char.ofNat (0x10000 + 0x400 * (high - 0xD800) + (low - 0xDC00)) :: ·)
      else none
    else if isLowHalf high then none
    else (charsOfUnits? (low :: units)).map (Char.ofNat high :: ·)

/-- Reads a string from behind its opening quote. -/
def readString? (cs : List Char) : Option (Option String × List Char) :=
  (readUnits? cs).map fun (units, rest) => ((charsOfUnits? units).map String.ofList, rest)

/-- Reads a word that stands for a document. -/
def readWord? (word : String) (value : Json) (cs : List Char) : Option (Json × List Char) :=
  if word.toList.isPrefixOf cs then some (value, cs.drop word.length) else none

mutual

/-- Reads a document off the front of a text. A document takes a character, and so does everything
between documents, so twice as many rounds as there are characters are enough. -/
def readValue? : Nat → List Char → Option (Json × List Char)
  | 0, _ => none
  | rounds + 1, cs =>
    match skipSpaces cs with
    | [] => none
    | c :: behind =>
      if c = '"' then (readString? behind).map fun (content, rest) => (string content, rest)
      else if c = '[' then
        match skipSpaces behind with
        | ']' :: rest => some (array [], rest)
        | inside => (readItems? rounds inside).map fun (items, rest) => (array items, rest)
      else if c = '\x7b' then
        match skipSpaces behind with
        | '\x7d' :: rest => some (object [], rest)
        | inside => (readMembers? rounds inside).map fun (members, rest) => (object members, rest)
      else if c = 'n' then readWord? "null" null (c :: behind)
      else if c = 't' then readWord? "true" (boolean true) (c :: behind)
      else if c = 'f' then readWord? "false" (boolean false) (c :: behind)
      else
        (Numeral.read? (c :: behind)).map fun (_, rest) =>
          (number ((c :: behind).take (behind.length + 1 - rest.length)), rest)

/-- Reads the items of an array and its closing bracket. -/
def readItems? : Nat → List Char → Option (List Json × List Char)
  | 0, _ => none
  | rounds + 1, cs => do
    let (first, afterFirst) ← readValue? rounds cs
    match skipSpaces afterFirst with
    | ']' :: rest => some ([first], rest)
    | ',' :: others => do
      let (items, rest) ← readItems? rounds others
      some (first :: items, rest)
    | _ => none

/-- Reads the members of an object and its closing brace. -/
def readMembers? : Nat → List Char → Option (List (Option String × Json) × List Char)
  | 0, _ => none
  | rounds + 1, cs =>
    match skipSpaces cs with
    | '"' :: behindQuote => do
      let (name, afterName) ← readString? behindQuote
      match skipSpaces afterName with
      | ':' :: behindColon => do
        let (value, afterValue) ← readValue? rounds behindColon
        match skipSpaces afterValue with
        | '\x7d' :: rest => some ([(name, value)], rest)
        | ',' :: others => do
          let (members, rest) ← readMembers? rounds others
          some ((name, value) :: members, rest)
        | _ => none
      | _ => none
    | _ => none

end

/-- Reads a document from its whole text. -/
def ofText? (s : String) : Option Json :=
  let cs := s.toList
  match readValue? (2 * cs.length + 2) cs with
  | some (value, rest) => if (skipSpaces rest).isEmpty then some value else none
  | none => none

end Json
end Spreadsheet
