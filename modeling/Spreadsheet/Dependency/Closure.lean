import Spreadsheet.Dependency.Graph

/-!
# Transitive readers

All cells that a change of one cell can reach: its readers, their readers, and so on.
-/

namespace Spreadsheet
namespace Graph

/-- Adds the readers of the cells that are still to do, and theirs. A cell is put among those to do
when it is seen for the first time, so one more round than there are readers is enough. -/
def spread (g : Graph) : Nat → List Position → PositionSet → PositionSet
  | 0, _, seen => seen
  | _ + 1, [], seen => seen
  | rounds + 1, p :: todo, seen =>
    let fresh := (g.readersOf p).toList.filter fun q => !seen.contains q
    spread g rounds (fresh ++ todo) (fresh.foldl Std.ExtTreeSet.insert seen)

/-- The cells that read a cell, directly or through others. The cell itself is one of them only
when it depends on itself. -/
def allReaders (g : Graph) (p : Position) : PositionSet := g.spread (g.formulaCount + 1) [p] ∅

end Graph
end Spreadsheet
