import Spreadsheet.Dependency.Graph

/-!
# The order of calculation

A depth-first walk along the cells that formulas read puts every cell behind the cells that it
reads, or finds a cycle. Cells are taken in sorted order everywhere, so the order found is always
the same one.
-/

namespace Spreadsheet

/-- A cycle in the reading relation. -/
structure CycleError where
  /-- The cell that the walk came back to. -/
  cell : Position
  /-- The cells of the cycle, each reading the next, from the cell back to itself. -/
  path : List Position
deriving DecidableEq, Repr

/-- What is reported about a cycle. -/
def CycleError.message (e : CycleError) : String :=
  "Circular reference detected at " ++ e.cell.text ++ ": " ++
    " -> ".intercalate (e.path.map Position.text)

namespace Graph

/-- What a walk has found so far. -/
structure Walk where
  /-- The cells that are finished: all that they read is finished as well. -/
  finished : PositionSet
  /-- The finished cells that were asked for, the latest first. -/
  order : List Position

namespace Walk

/-- A walk that has found nothing. -/
def start : Walk := ⟨∅, []⟩

/-- Finishes a cell, and lists it if it was asked for. -/
def finish (w : Walk) (members : PositionSet) (p : Position) : Walk where
  finished := w.finished.insert p
  order := if members.contains p then p :: w.order else w.order

end Walk

/-- The cycle that a walk has found when it comes back to a cell of its path. The path is given
latest cell first. -/
def cycleAt (p : Position) (path : List Position) : CycleError :=
  ⟨p, p :: (path.takeWhile (· ≠ p)).reverse ++ [p]⟩

/-- Visits a cell below the cells of a path, which are given latest first, and finishes it after
the cells that it reads. The cells of a path are distinct and all of them read something, so one
more level than there are such cells is enough. -/
def visit (g : Graph) (members : PositionSet) :
    Nat → List Position → Walk → Position → Except CycleError Walk
  | 0, _, w, _ => .ok w
  | levels + 1, path, w, p =>
    if w.finished.contains p then .ok w
    else if p ∈ path then .error (cycleAt p path)
    else do
      let below ← (g.precedentsOf p).toList.foldlM (visit g members levels (p :: path)) w
      .ok (below.finish members p)

/-- Visits a cell that no path leads to. -/
def visitFrom (g : Graph) (members : PositionSet) (w : Walk) (p : Position) :
    Except CycleError Walk :=
  g.visit members (g.formulaCount + 1) [] w p

/-- The given cells, each behind all of them that it reads, directly or through other cells; or a
cycle that can be reached from them. -/
def calculationOrder (g : Graph) (members : PositionSet) : Except CycleError (List Position) := do
  let w ← members.toList.foldlM (g.visitFrom members) .start
  return w.order.reverse

/-- The cells that a cell reads, directly or through others, contain a cycle. -/
def reachesCycle (g : Graph) (p : Position) : Bool :=
  match g.visitFrom ∅ .start p with
  | .ok _ => false
  | .error _ => true

end Graph
end Spreadsheet
