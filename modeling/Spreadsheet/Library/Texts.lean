import Spreadsheet.Library.Arguments
import Spreadsheet.Text.Letter
import Spreadsheet.Text.Occurrence

/-!
# Text functions

Cutting, joining, searching and replacing texts. Lengths and places count characters, and places
are counted from one.
-/

namespace Spreadsheet
namespace Library
namespace Texts

/-- Characters as the result of a call. -/
def result (cs : List Char) : Outcome Value := .ok (.text (String.ofList cs))

/-- The number of characters. -/
def length (argument : Value) : Outcome Value := do
  return .count (← chars argument).length

/-- The text with its characters mapped as a whole. -/
def mapped (f : List Char → List Char) (argument : Value) : Outcome Value := do
  result (f (← chars argument))

/-- The first letter of every run of letters in uppercase and the others in lowercase. -/
def capitalized (inWord : Bool) : List Char → List Char
  | [] => []
  | c :: cs =>
    if Text.isLetter c then
      (if inWord then Text.lowerChar c else Text.upperChar c) ++ capitalized true cs
    else
      c :: capitalized false cs

/-- The text without blanks at the ends and with single spaces between its words. -/
def squeezed (argument : Value) : Outcome Value := do
  return .text (Text.squeeze (← text argument))

/-- The texts of single values, one after the other. An error among them ends the call. -/
def joined (values : List CellValue) : Outcome String := do
  let texts ← values.mapM fun
    | .error code => fail code
    | value => .ok value.display
  return String.join texts

/-- The texts of all values joined, row by row for tables. -/
def concatenated (arguments : List Value) : Outcome Value := do
  return .text (← joined (Value.flattenRow arguments))

/-- The first characters; one if their number is left out. -/
def leading (argument : Value) (count : Option Value) : Outcome Value := do
  let cs ← chars argument
  let n ← optional natural 1 count
  result (cs.take n)

/-- The last characters; one if their number is left out. -/
def trailing (argument : Value) (count : Option Value) : Outcome Value := do
  let cs ← chars argument
  let n ← optional natural 1 count
  result (cs.drop (cs.length - n))

/-- A number of characters from a place on. -/
def middle (argument start count : Value) : Outcome Value := do
  let cs ← chars argument
  let place ← natural start
  let n ← natural count
  if place < 1 then fail .value
  else result ((cs.drop (← predecessor place)).take n)

/-- The greatest number of characters that repetition makes. -/
def maxRepeated : Nat := 32767

/-- The text a number of times. -/
def repeated (argument count : Value) : Outcome Value := do
  let cs ← chars argument
  let n ← natural count
  if cs.isEmpty then result []
  else if maxRepeated < cs.length * n then fail .value
  else result (List.replicate n cs).flatten

/-- The characters in front of a number of bytes, and those behind. -/
def cutAt (offset : Nat) (cs : List Char) : Outcome (List Char × List Char) :=
  orCrash (Text.cutAt? offset cs)

/-- The text with one occurrence of a text, which a number of bytes precede, replaced. -/
def replacedAt (offset : Nat) (old new cs : List Char) : Outcome Value := do
  let (before, _) ← cutAt offset cs
  let (_, after) ← cutAt (offset + Text.size old) cs
  result (before ++ new ++ after)

/-- Replaces every occurrence of a text, or only the one with a given number. -/
def substituted (argument pattern replacement : Value) (occurrence : Option Value) :
    Outcome Value := do
  let cs ← chars argument
  let old ← chars pattern
  let new ← chars replacement
  if old.isEmpty then result cs
  else
    match occurrence with
    | none => result (Text.replaceAll old new cs)
    | some which => do
      let n ← natural which
      if n < 1 then fail .value
      else
        match (Text.offsetsOf old cs)[← predecessor n]? with
        | some offset => replacedAt offset old new cs
        | none => result cs

/-- The place of the first occurrence behind a number of characters. -/
def locatedBehind (skipped : Nat) (needle haystack : List Char) : Outcome Value := do
  let start := Text.size (haystack.take skipped)
  let (_, searched) ← cutAt start haystack
  match Text.offsetOf? needle searched with
  | some offset => do
    let (before, _) ← cutAt (start + offset) haystack
    return .count (before.length + 1)
  | none => fail .value

/-- The place of the first occurrence at or after a start, after a mapping of both texts. The start
has to be a place of the text as it is given, or the place behind it. -/
def located (f : List Char → List Char) (pattern argument : Value) (start : Option Value) :
    Outcome Value := do
  let needle ← chars pattern
  let haystack ← chars argument
  let place ← optional natural 1 start
  if place < 1 ∨ haystack.length + 1 < place then fail .value
  else locatedBehind (← predecessor place) (f needle) (f haystack)

/-- The number that a text is written for, with commas or a percent sign. -/
def numberOf (cs : List Char) : Option Float :=
  let trimmed := Text.trimList cs
  if trimmed.getLast? = some '%' then (Double.readPlain? trimmed.dropLast).map (· / 100.0)
  else Double.readPlain? (trimmed.filter (· != ','))

/-- The number that a value stands for. -/
def toNumber (argument : Value) : Outcome Value :=
  match argument.scalar with
  | .number value => .ok (.number value)
  | .error code => fail code
  | .blank => .ok (.number 0.0)
  | value => do return .number (← orWrong (numberOf value.display.toList))

/-- The texts are the same, letter case included. -/
def same (left right : Value) : Outcome Value := do
  let s ← text left
  let t ← text right
  return .boolean (s == t)

/-- The text functions of the library. -/
def definitions : List Definition :=
  [ .unary "LEN" length,
    .unary "UPPER" (mapped Text.upperList),
    .unary "LOWER" (mapped Text.lowerList),
    .unary "PROPER" (mapped (capitalized false)),
    .unary "TRIM" squeezed,
    .variadic "CONCATENATE" concatenated,
    .variadic "CONCAT" concatenated,
    .oneOrTwo "LEFT" leading,
    .oneOrTwo "RIGHT" trailing,
    .ternary "MID" middle,
    .binary "REPT" repeated,
    .threeOrFour "SUBSTITUTE" substituted,
    .twoOrThree "FIND" (located id),
    .twoOrThree "SEARCH" (located Text.lowerList),
    .unary "VALUE" toNumber,
    .binary "EXACT" same ]

end Texts
end Library
end Spreadsheet
