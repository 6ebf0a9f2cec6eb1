import Spreadsheet.Proofs.Dependency.Footprint
import Spreadsheet.Proofs.Dependency.Mirror
import Spreadsheet.Proofs.Formula.TreeShift

/-!
# Graphs and their history

Which cell reads which is told by the operations alone: the last one that speaks of a cell decides
what it reads, and a shift moves both ends of every pair. A graph made by the operations stores
exactly these pairs, in both directions.
-/

namespace Spreadsheet
namespace Graph

/-- Which cell reads which after an operation, given what they have read before it. -/
def Operation.after (maxRangeCells : Nat) (reads : Position → Position → Prop) :
    Operation → Position → Position → Prop
  | setReferences p references => fun cell precedent =>
      if cell = p then ∃ reference ∈ references, precedent ∈ reference.positions maxRangeCells
      else reads cell precedent
  | setPrecedents p precedents => fun cell precedent =>
      if cell = p then precedent ∈ precedents else reads cell precedent
  | erase p => fun cell precedent => cell ≠ p ∧ reads cell precedent
  | shift s => fun cell precedent =>
      ∃ cell' precedent', reads cell' precedent' ∧ cell'.shift? s = some cell ∧
        precedent'.shift? s = some precedent
  | clear => fun _ _ => False

/-- Which cell reads which after operations that begin with no cell reading another. -/
def readsAfter (maxRangeCells : Nat) (operations : List Operation) : Position → Position → Prop :=
  operations.foldl (Operation.after maxRangeCells) fun _ _ => False

variable {g : Graph} {p q : Position}

theorem reads_erase : (g.erase p).Reads q = fun r => q ≠ p ∧ g.Reads q r := by
  funext r
  rw [Reads, precedentsOf_erase]
  split <;> rename_i same
  · simp [same]
  · simp [Reads, Ne.symm same]

theorem reads_setPrecedents (precedents : PositionSet) :
    (g.setPrecedents p precedents).Reads q =
      fun r => if q = p then r ∈ precedents else g.Reads q r := by
  funext r
  rw [Reads, precedentsOf_setPrecedents, Reads]
  by_cases same : p = q
  · rw [if_pos same, if_pos same.symm]
  · rw [if_neg same, if_neg (Ne.symm same)]

/-- A shift by nothing moves no cell, and the graph is left alone. -/
theorem reads_shift (s : Shift) : (g.shift s).Reads p q ↔
    ∃ p' q', g.Reads p' q' ∧ p'.shift? s = some p ∧ q'.shift? s = some q := by
  by_cases still : s.delta = 0
  · simp [Graph.shift, still, Position.shift?_of_delta_eq_zero still]
  · exact mem_precedentsOf_shift still

theorem maxRangeCells_perform (g : Graph) (operation : Operation) :
    (g.perform operation).maxRangeCells = g.maxRangeCells := by
  cases operation with
  | shift s => exact maxRangeCells_shift s
  | _ => rfl

/-- An operation does to the graph what it does to the pairs. -/
theorem reads_perform (g : Graph) (operation : Operation) :
    (g.perform operation).Reads = operation.after g.maxRangeCells g.Reads := by
  funext cell precedent
  cases operation with
  | setReferences p references =>
      rw [perform, setReferences, reads_setPrecedents, Operation.after]
      simp only [mem_positionsOf]
  | setPrecedents p precedents => rw [perform, reads_setPrecedents, Operation.after]
  | erase p => rw [perform, reads_erase, Operation.after]
  | shift s => exact propext (reads_shift s)
  | clear => simp [perform, Operation.after, empty, Reads, precedentsOf]

/-- Further operations do to the graph what they do to the pairs. -/
theorem reads_foldl_perform (operations : List Operation) (g : Graph) :
    (operations.foldl perform g).Reads =
      operations.foldl (Operation.after g.maxRangeCells) g.Reads := by
  induction operations generalizing g with
  | nil => rfl
  | cons operation operations ih =>
      rw [List.foldl_cons, List.foldl_cons, ih, maxRangeCells_perform, reads_perform]

theorem reads_ofOperations (maxRangeCells : Nat) (operations : List Operation) :
    (ofOperations maxRangeCells operations).Reads = readsAfter maxRangeCells operations := by
  have nothing : (empty maxRangeCells).Reads = fun _ _ => False := by
    funext cell precedent
    simp [empty, Reads, precedentsOf]
  rw [ofOperations, reads_foldl_perform, nothing]
  rfl

/-- The two directions of a graph mirror each other, whatever has been done with it: a cell is
among the precedents of another one exactly if that one is among its readers, and no cell has an
entry for nothing in either direction. The pairs that both directions store are those that the
operations tell. -/
theorem directions_mirror_each_other (maxRangeCells : Nat) (operations : List Operation) :
    let g := ofOperations maxRangeCells operations
    (∀ cell precedent, precedent ∈ g.precedentsOf cell ↔ cell ∈ g.readersOf precedent) ∧
      (∀ p : Position, g.precedents[p]? ≠ some ∅ ∧ g.readers[p]? ≠ some ∅) ∧
      ∀ cell precedent,
        precedent ∈ g.precedentsOf cell ↔ readsAfter maxRangeCells operations cell precedent := by
  intro g
  have mirrored : g.Mirrored := mirrored_ofOperations maxRangeCells operations
  refine ⟨fun cell precedent => mirrored.mem_readersOf_iff.symm,
    fun p => ⟨mirrored.precedents_pruned p, mirrored.readers_pruned p⟩, fun cell precedent => ?_⟩
  rw [← reads_ofOperations]
  exact Iff.rfl

/-- The first cell reads itself and two others. The row of one of these is deleted, and then
another reader gives the first cell up. -/
example :
    let a : Position := ⟨0, 0⟩
    let operations : List Operation :=
      [.setPrecedents a (.ofList [a, ⟨0, 1⟩, ⟨0, 2⟩]), .setPrecedents ⟨1, 0⟩ (.ofList [a]),
        .shift ⟨.row, 1, -1⟩, .erase ⟨1, 0⟩]
    (ofOperations 10 operations).edges = [(a, a), (a, ⟨0, 1⟩)] := by
  decide +kernel

end Graph
end Spreadsheet
