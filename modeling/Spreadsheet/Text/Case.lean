import Spreadsheet.Text.CaseClass
import Spreadsheet.Text.CaseTable

/-!
# Upper and lower case

The full case mappings: a character may map to several (`ß` to `SS`), and a capital sigma becomes
the final form at the end of a word. ASCII characters are mapped by the table like all others.
-/

namespace Spreadsheet
namespace Text

/-- What a run of case pairs makes of a code point, if the run holds it. -/
def CaseRun.partner? (run : CaseRun) (code : Nat) : Option Nat :=
  if run.first ≤ code ∧ code ≤ run.last ∧ (code - run.first) % run.step = 0 then
    some (code + run.offset).toNat
  else
    none

/-- The case mapping of one character: its expansion, else its partner, else the character
itself. -/
def mapCase (expansions : List (Nat × List Nat)) (runs : List CaseRun) (c : Char) : List Char :=
  match expansions.lookup c.toNat with
  | some codes => codes.map Char.ofNat
  | none =>
    match runs.findSome? (·.partner? c.toNat) with
    | some code => [Char.ofNat code]
    | none => [c]

/-- The uppercase of one character. -/
def upperChar (c : Char) : List Char := mapCase upperExpansions upperRuns c

/-- The lowercase of one character, without regard to its place in a word. -/
def lowerChar (c : Char) : List Char := mapCase lowerExpansions lowerRuns c

/-- The first character that casing does not look through is cased. -/
def startsCased (cs : List Char) : Bool :=
  match cs.dropWhile isCaseIgnorable with
  | [] => false
  | c :: _ => isCased c

/-- Uppercase of a list of characters, character by character. -/
def upperList (cs : List Char) : List Char := cs.flatMap upperChar

/-- Lowercase of the characters after `before`, which is given last character first. A capital
sigma that follows a cased letter and precedes none takes its final form. -/
def lowerAfter (before : List Char) : List Char → List Char
  | [] => []
  | c :: cs =>
    let lowered :=
      if c = 'Σ' then
        if startsCased before && !startsCased cs then ['ς'] else ['σ']
      else
        lowerChar c
    lowered ++ lowerAfter (c :: before) cs

/-- Lowercase of a list of characters. -/
def lowerList (cs : List Char) : List Char := lowerAfter [] cs

/-- A text in uppercase. -/
def upper (s : String) : String := String.ofList (upperList s.toList)

/-- A text in lowercase. -/
def lower (s : String) : String := String.ofList (lowerList s.toList)

end Text
end Spreadsheet
