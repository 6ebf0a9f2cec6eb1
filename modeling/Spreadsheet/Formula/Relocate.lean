import Spreadsheet.ErrorCode
import Spreadsheet.Shift

/-!
# Relocating the references of a text

When rows or columns are inserted or deleted, the references inside formula text are replaced in
place: a moved reference is written anew, a lost one becomes the code for a lost reference, and
everything else stays as it was typed. Quoted texts are never touched, and neither is a match that
is part of a longer word, a number, an error code or the name of a call.
-/

namespace Spreadsheet
namespace Formula

/-- A piece of formula text. -/
inductive Piece where
  /-- Text outside quotes. -/
  | plain (chars : List Char)
  /-- A quoted text with its quotes; the last one of a text may lack the closing quote. -/
  | quoted (chars : List Char)
deriving DecidableEq, Repr

/-- The characters of a piece. -/
def Piece.chars : Piece → List Char
  | plain chars => chars
  | quoted chars => chars

/-- How many characters there are up to a closing quote and with it, from behind the opening quote.
A backslash hides the character after it. Without a closing quote all characters are counted. -/
def quotedLength : List Char → Nat
  | [] => 0
  | '"' :: _ => 1
  | '\\' :: _ :: cs => quotedLength cs + 2
  | _ :: cs => quotedLength cs + 1

/-- The pieces of a text: what stands between quotes and what does not. -/
def pieces (cs : List Char) : List Piece :=
  match cs with
  | [] => []
  | c :: cs =>
    if c = '"' then
      let length := quotedLength cs
      .quoted (c :: cs.take length) :: pieces (cs.drop length)
    else
      .plain (c :: cs.takeWhile (· != '"')) :: pieces (cs.dropWhile (· != '"'))
termination_by cs.length
decreasing_by
  · simp only [List.length_cons, List.length_drop]; omega
  · have := (List.dropWhile_suffix (l := cs) (· != '"')).length_le
    simp only [List.length_cons]; omega

/-- The number of marks in front of a coordinate. -/
def markLength : List Char → Nat
  | '$' :: _ => 1
  | _ => 0

/-- How many characters an address at the front of a text takes: letters and digits, each with an
optional mark in front. -/
def addressLength? (cs : List Char) : Option Nat :=
  let mark := markLength cs
  let letters := (cs.drop mark).takeWhile Char.isAlpha
  let behindLetters := cs.drop (mark + letters.length)
  let rowMark := markLength behindLetters
  let digits := (behindLetters.drop rowMark).takeWhile Char.isDigit
  if letters.isEmpty || digits.isEmpty then none
  else some (mark + letters.length + rowMark + digits.length)

/-- How many characters an address or a range at the front of a text takes. -/
def referenceLength? (cs : List Char) : Option Nat :=
  (addressLength? cs).map fun first =>
    match cs.drop first with
    | ':' :: afterColon =>
      match addressLength? afterColon with
      | some second => first + 1 + second
      | none => first
    | _ => first

/-- The character in front of a match makes it part of something longer. -/
def gluesBefore (c : Char) : Bool :=
  c.isAlphanum || c == '$' || c == '.' || c == '#' || c == '_'

/-- The character behind a match makes it part of something longer. -/
def gluesAfter (c : Char) : Bool :=
  c.isAlphanum || c == '(' || c == '$' || c == '_'

/-- The reference after a shift, as text; it stays as it is written when nothing moves. -/
def relocateReference (s : Shift) (written : List Char) : List Char :=
  if written.contains ':' then
    match Range.read? written with
    | none => written
    | some block =>
      match block.shift? s with
      | none => ErrorCode.reference.code.toList
      | some shifted => if shifted = block then written else shifted.text.toList
  else
    match Address.read? written with
    | none => written
    | some address =>
      match address.shift? s with
      | none => ErrorCode.reference.code.toList
      | some shifted => if shifted = address then written else shifted.chars

/-- Relocates the references of text outside quotes. `before` is the character in front of it. -/
def relocatePlain (s : Shift) (before : Option Char) (cs : List Char) : List Char :=
  match cs with
  | [] => []
  | c :: rest =>
    match referenceLength? (c :: rest) with
    | none => c :: relocatePlain s (some c) rest
    | some length =>
      let more := length - 1
      let written := c :: rest.take more
      let behind := rest.drop more
      let glued := before.any gluesBefore || behind.head?.any gluesAfter
      (if glued then written else relocateReference s written) ++
        relocatePlain s written.getLast? behind
termination_by cs.length
decreasing_by
  · simp
  · simp only [List.length_cons, List.length_drop]; omega

/-- Relocates the references of one piece. -/
def Piece.relocate (s : Shift) : Piece → List Char
  | plain chars => relocatePlain s none chars
  | quoted chars => chars

/-- The text of a formula after a shift. -/
def relocate (s : Shift) (text : String) : String :=
  if s.delta = 0 then text
  else String.ofList ((pieces text.toList).flatMap (Piece.relocate s))

end Formula
end Spreadsheet
