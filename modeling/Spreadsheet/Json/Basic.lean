import Spreadsheet.Double.Decimal

/-!
# JSON

Documents as trees, and their compact text. Numbers keep the characters that they are written with,
and objects keep their members in order, repeated names included.
-/

namespace Spreadsheet

/-- A JSON document. -/
inductive Json where
  | null
  | boolean (value : Bool)
  /-- A number, as it is written. -/
  | number (literal : List Char)
  /-- A string. It has no content when an escape in it names half of a surrogate pair alone. -/
  | string (content : Option String)
  | array (items : List Json)
  | object (members : List (Option String × Json))

namespace Json

instance : Inhabited Json := ⟨null⟩

/-- A text as a document. -/
def ofString (s : String) : Json := string (some s)

/-- A natural number as a document. -/
def ofNat (n : Nat) : Json := number (Text.digitsOf n)

/-- How numbers are laid out: `1.0`, `0.00001`, `1e16`; of two equally near decimals the even
one. -/
def numberLayout : Double.Layout := ⟨fun leading => -5 ≤ leading ∧ leading < 16, true, .toEven⟩

/-- A double as a document. Infinities and NaN have no number. -/
def ofFloat (x : Float) : Json :=
  if x.isFinite then number (numberLayout.text x).toList else null

/-- An optional document; a missing one is null. -/
def ofOption {α : Type} (encode : α → Json) : Option α → Json
  | some a => encode a
  | none => null

/-- An object with plain names. -/
def ofMembers (members : List (String × Json)) : Json :=
  object (members.map fun (name, value) => (some name, value))

/-- The member of an object that has a name, if it is the first such member. -/
def member? (j : Json) (name : String) : Option Json :=
  match j with
  | object members => members.lookup (some name)
  | _ => none

/-- A hexadecimal digit in lowercase. -/
def hexDigit (n : Nat) : Char := (Nat.digitChar n).toLower

/-- How a character is written inside a string. -/
def escapeChar (c : Char) : List Char :=
  if c = '"' then ['\\', '"']
  else if c = '\\' then ['\\', '\\']
  else if c = '\n' then ['\\', 'n']
  else if c = '\r' then ['\\', 'r']
  else if c = '\t' then ['\\', 't']
  else if c.toNat = 8 then ['\\', 'b']
  else if c.toNat = 12 then ['\\', 'f']
  else if c.toNat < 32 then
    ['\\', 'u', '0', '0', hexDigit (c.toNat / 16), hexDigit (c.toNat % 16)]
  else [c]

/-- A string with its quotes. -/
def quote (s : String) : String :=
  "\"" ++ String.ofList (s.toList.flatMap escapeChar) ++ "\""

mutual

/-- The compact text of a document. -/
def text : Json → String
  | null => "null"
  | boolean value => if value then "true" else "false"
  | number literal => String.ofList literal
  | string content => quote (content.getD "")
  | array items => "[" ++ ",".intercalate (texts items) ++ "]"
  | object members => "\x7b" ++ ",".intercalate (memberTexts members) ++ "\x7d"

/-- The compact texts of documents. -/
def texts : List Json → List String
  | [] => []
  | first :: rest => first.text :: texts rest

/-- The compact texts of the members of an object. -/
def memberTexts : List (Option String × Json) → List String
  | [] => []
  | (name, value) :: rest => (quote (name.getD "") ++ ":" ++ value.text) :: memberTexts rest

end

end Json

end Spreadsheet
