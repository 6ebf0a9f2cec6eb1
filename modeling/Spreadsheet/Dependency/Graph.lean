import Spreadsheet.Formula.Expr
import Spreadsheet.Settings
import Spreadsheet.Shift

/-!
# The dependency graph

Which cells the formula of each cell reads, and which cells read each cell. Both directions are
stored; a cell that reads nothing, or is read by nothing, has no entry.
-/

namespace Spreadsheet

/-- The positions that a reference covers. A range with too many cells covers none. -/
def Reference.positions (maxRangeCells : Nat) : Reference → List Position
  | cell address => [address.position]
  | range block => if maxRangeCells < block.count then [] else block.positions

/-- The positions that references cover. -/
def positionsOf (maxRangeCells : Nat) (references : List Reference) : PositionSet :=
  .ofList (references.flatMap (Reference.positions maxRangeCells))

/-- The positions that an expression reads. -/
def Expr.precedents (maxRangeCells : Nat) (e : Expr) : PositionSet :=
  positionsOf maxRangeCells e.references

/-- The reading relation between cells. -/
structure Graph where
  /-- The cells that each cell reads. -/
  precedents : PositionMap PositionSet
  /-- The cells that read each cell. -/
  readers : PositionMap PositionSet
  /-- Ranges with more cells than this are not tracked. -/
  maxRangeCells : Nat

namespace Graph

/-- A graph in which no cell reads another. -/
def empty (maxRangeCells : Nat) : Graph := ⟨∅, ∅, maxRangeCells⟩

/-- The cells that a cell reads. -/
def precedentsOf (g : Graph) (p : Position) : PositionSet := g.precedents.getD p ∅

/-- The cells that read a cell. -/
def readersOf (g : Graph) (p : Position) : PositionSet := g.readers.getD p ∅

/-- Adds a reader of a cell. -/
def insertReader (readers : PositionMap PositionSet) (p reader : Position) :
    PositionMap PositionSet :=
  readers.insert p ((readers.getD p ∅).insert reader)

/-- Removes a reader of a cell, and the entry of the cell with its last reader. -/
def eraseReader (readers : PositionMap PositionSet) (p reader : Position) :
    PositionMap PositionSet :=
  let rest := (readers.getD p ∅).erase reader
  if rest.isEmpty then readers.erase p else readers.insert p rest

/-- Lets a cell read nothing. The cells that read it go on doing so. -/
def erase (g : Graph) (p : Position) : Graph where
  precedents := g.precedents.erase p
  readers := (g.precedentsOf p).foldl (fun readers q => eraseReader readers q p) g.readers
  maxRangeCells := g.maxRangeCells

/-- Lets a cell read exactly the given cells. -/
def setPrecedents (g : Graph) (p : Position) (precedents : PositionSet) : Graph :=
  let others := g.erase p
  { precedents :=
      if precedents.isEmpty then others.precedents else others.precedents.insert p precedents
    readers := precedents.foldl (fun readers q => insertReader readers q p) others.readers
    maxRangeCells := g.maxRangeCells }

/-- Lets a cell read exactly what references cover. -/
def setReferences (g : Graph) (p : Position) (references : List Reference) : Graph :=
  g.setPrecedents p (positionsOf g.maxRangeCells references)

/-- The pairs of a cell and a cell that it reads, sorted. -/
def edges (g : Graph) : List (Position × Position) :=
  g.precedents.toList.flatMap fun (p, precedents) => precedents.toList.map fun q => (p, q)

/-- Lets a cell read one more cell. -/
def addEdge (g : Graph) (edge : Position × Position) : Graph where
  precedents := g.precedents.insert edge.1 ((g.precedentsOf edge.1).insert edge.2)
  readers := insertReader g.readers edge.2 edge.1
  maxRangeCells := g.maxRangeCells

/-- Moves all cells of the graph. A pair with a cell that does not survive is dropped. -/
def shift (g : Graph) (s : Shift) : Graph :=
  if s.delta = 0 then g
  else
    let moved := g.edges.filterMap fun (p, q) => do
      let reader ← p.shift? s
      let precedent ← q.shift? s
      return (reader, precedent)
    moved.foldl addEdge (empty g.maxRangeCells)

/-- How many cells read something. -/
def formulaCount (g : Graph) : Nat := g.precedents.size

/-- How many pairs of a cell and a cell that it reads there are. -/
def edgeCount (g : Graph) : Nat :=
  g.precedents.foldl (fun count _ precedents => count + precedents.size) 0

end Graph

end Spreadsheet
