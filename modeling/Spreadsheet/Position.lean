import Std.Data.ExtTreeMap
import Std.Data.ExtTreeSet
import Spreadsheet.Text.Blank
import Spreadsheet.Text.Digit

/-!
# Positions

A position names one cell by its column and row, both counted from zero. Positions are ordered by
column and then by row; maps and sets of positions are sorted that way. The key text of a position
is its column and row with a comma between them.
-/

namespace Spreadsheet

/-- The place of one cell. -/
structure Position where
  /-- Column, counted from zero. -/
  col : UInt32
  /-- Row, counted from zero. -/
  row : UInt32
deriving DecidableEq, Repr

namespace Position

/-- Columns are compared first and rows second. -/
instance : Ord Position := ⟨compareLex (compareOn Position.col) (compareOn Position.row)⟩

instance : Std.TransOrd Position :=
  inferInstanceAs (Std.TransCmp (compareLex (compareOn Position.col) (compareOn Position.row)))

instance : Std.LawfulEqOrd Position where
  eq_of_compare {left right} h := by
    have parts : (compareOn col left right).then (compareOn row left right) = .eq := h
    rw [Ordering.then_eq_eq] at parts
    obtain ⟨_, _⟩ := left
    obtain ⟨_, _⟩ := right
    rw [Position.mk.injEq]
    exact ⟨Std.LawfulEqOrd.eq_of_compare parts.1, Std.LawfulEqOrd.eq_of_compare parts.2⟩

/-- The key text of a position. -/
def keyText (p : Position) : String :=
  toString p.col.toNat ++ "," ++ toString p.row.toNat

/-- Why a text is no key. -/
inductive KeyError where
  | noComma
  | column
  | row
deriving DecidableEq, Repr

/-- What is reported about a text that is no key. -/
def KeyError.message (text : String) : KeyError → String
  | noComma => "Invalid cell key: " ++ text
  | column => "Invalid cell key column: " ++ text
  | row => "Invalid cell key row: " ++ text

/-- Reads one coordinate of a key: blanks around it and a plus sign in front are allowed. -/
def readCoordinate? (cs : List Char) : Option UInt32 :=
  match Text.trimList cs with
  | '+' :: digits => Text.readUInt32? digits
  | digits => Text.readUInt32? digits

/-- Reads a key text; the first comma separates column and row. -/
def ofKeyText (text : String) : Except KeyError Position :=
  let cs := text.toList
  match cs.dropWhile (· != ',') with
  | [] => .error .noComma
  | _ :: afterComma =>
    match readCoordinate? (cs.takeWhile (· != ',')), readCoordinate? afterComma with
    | none, _ => .error .column
    | some _, none => .error .row
    | some col, some row => .ok ⟨col, row⟩

end Position

/-- A set of positions, sorted by column and row. -/
abbrev PositionSet := Std.ExtTreeSet Position

/-- A map from positions, sorted by column and row. -/
abbrev PositionMap (α : Type) := Std.ExtTreeMap Position α

end Spreadsheet
