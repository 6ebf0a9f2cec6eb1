import Spreadsheet.Range

/-!
# Shifts

Inserting or deleting rows or columns shifts what lies behind. A shift moves every relative
coordinate at or after its pivot by a signed amount; a deletion invalidates the coordinates inside
the deleted span. Absolute coordinates never move. A range gives up the deleted part of its span
and is invalidated only when nothing of it is left.
-/

namespace Spreadsheet

/-- The two directions along which cells move. -/
inductive Axis where
  | row
  | column
deriving DecidableEq, Repr

/-- An insertion or deletion of rows or columns. -/
structure Shift where
  /-- Whether rows or columns move. -/
  axis : Axis
  /-- The first coordinate that is moved or deleted. -/
  pivot : UInt32
  /-- How many are inserted, or minus how many are deleted. -/
  delta : Int
deriving DecidableEq, Repr

namespace Shift

/-- Where a relative coordinate goes. It is lost in the deleted span and beyond 32 bits. -/
def coordinate? (s : Shift) (value : UInt32) : Option UInt32 :=
  if value < s.pivot then some value
  else if s.delta < 0 ∧ (value.toNat : Int) < s.pivot.toNat - s.delta then none
  else if value.toNat + s.delta < UInt32.size then
    some (UInt32.ofNat (value.toNat + s.delta).toNat)
  else none

end Shift

namespace Address

/-- The coordinate along an axis. -/
def coordinate (a : Address) : Axis → UInt32
  | .row => a.row
  | .column => a.col

/-- The coordinate along an axis is absolute. -/
def isAbsolute (a : Address) : Axis → Bool
  | .row => a.rowAbsolute
  | .column => a.colAbsolute

/-- Replaces the coordinate along an axis. -/
def withCoordinate (a : Address) (axis : Axis) (value : UInt32) : Address :=
  match axis with
  | .row => { a with row := value }
  | .column => { a with col := value }

/-- The address after a shift, if its cell survives. -/
def shift? (s : Shift) (a : Address) : Option Address :=
  if a.isAbsolute s.axis then some a
  else (s.coordinate? (a.coordinate s.axis)).map (a.withCoordinate s.axis)

end Address

/-- The position of a cell after a shift, if the cell survives. Cells move as relative addresses
do. -/
def Position.shift? (s : Shift) (p : Position) : Option Position :=
  ((Address.relative p).shift? s).map Address.position

/-- The range after a shift, if some of it survives. A corner in the deleted span moves to the
nearest coordinate that is left: the first one behind the span, which is then at the pivot, or the
last one in front of it. -/
def Range.shift? (s : Shift) (r : Range) : Option Range :=
  match r.first.shift? s, r.last.shift? s with
  | some first, some last => some ⟨first, last⟩
  | none, some last =>
    if last.coordinate s.axis < s.pivot then none
    else some ⟨r.first.withCoordinate s.axis s.pivot, last⟩
  | some first, none =>
    if first.coordinate s.axis < s.pivot then
      some ⟨first, r.last.withCoordinate s.axis (s.pivot - 1)⟩
    else none
  | none, none => none

end Spreadsheet
