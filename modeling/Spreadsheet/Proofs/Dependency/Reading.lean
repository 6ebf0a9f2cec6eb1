import Mathlib.Data.Finite.Prod
import Mathlib.Data.Fintype.Card
import Mathlib.Data.List.Perm.Subperm
import Mathlib.Logic.Relation
import Spreadsheet.Dependency.Graph

/-!
# The reading relation

What a graph says about its cells: which cell reads which, directly or through others, and from
which cells a cycle can be reached.  A change of what one cell reads concerns only that cell and
those that depend on it.
-/

namespace Spreadsheet
namespace Graph

/-- The formula of one cell reads another cell. -/
def Reads (g : Graph) (reader precedent : Position) : Prop := precedent ∈ g.precedentsOf reader

/-- A cell reads another cell, directly or through other cells. -/
def DependsOn (g : Graph) : Position → Position → Prop := Relation.TransGen g.Reads

/-- A cycle can be reached from a cell by going from cells to cells that they read. -/
def Circular (g : Graph) (p : Position) : Prop :=
  ∃ onCycle, Relation.ReflTransGen g.Reads p onCycle ∧ g.DependsOn onCycle onCycle

/-- No cell depends on itself. -/
def Acyclic (g : Graph) : Prop := ∀ p, ¬ g.DependsOn p p

theorem acyclic_iff_forall_not_circular {g : Graph} : g.Acyclic ↔ ∀ p, ¬ g.Circular p := by
  constructor
  · rintro acyclic p ⟨onCycle, _, cycle⟩
    exact acyclic onCycle cycle
  · intro notCircular p cycle
    exact notCircular p ⟨p, Relation.ReflTransGen.refl, cycle⟩

theorem DependsOn.trans_reads {g : Graph} {p q r : Position} (first : g.Reads p q)
    (rest : g.DependsOn q r) : g.DependsOn p r :=
  Relation.TransGen.head first rest

theorem Circular.of_reads {g : Graph} {p q : Position} (first : g.Reads p q)
    (circular : g.Circular q) : g.Circular p := by
  obtain ⟨onCycle, path, cycle⟩ := circular
  exact ⟨onCycle, path.head first, cycle⟩

/-- A cell on a cycle reaches it through one of the cells that it reads. -/
theorem circular_iff_exists_reads {g : Graph} {p : Position} :
    g.Circular p ↔ ∃ q, g.Reads p q ∧ g.Circular q := by
  constructor
  · rintro ⟨onCycle, path, cycle⟩
    rcases path.cases_head with rfl | ⟨next, first, rest⟩
    · obtain ⟨next, first, rest⟩ := Relation.TransGen.head'_iff.mp cycle
      exact ⟨next, first, p, rest, cycle⟩
    · exact ⟨next, first, onCycle, rest, cycle⟩
  · rintro ⟨q, first, circular⟩
    exact circular.of_reads first

theorem not_dependsOn_self_of_not_circular {g : Graph} {p : Position}
    (notCircular : ¬ g.Circular p) : ¬ g.DependsOn p p :=
  fun cycle => notCircular ⟨p, Relation.ReflTransGen.refl, cycle⟩

theorem Reads.mem_keys {g : Graph} {p q : Position} (reads : g.Reads p q) :
    p ∈ g.precedents.keys := by
  rw [Std.ExtTreeMap.mem_keys]
  by_contra absent
  rw [Reads, precedentsOf, Std.ExtTreeMap.getD_eq_fallback absent] at reads
  exact Std.ExtTreeSet.not_mem_empty reads

/-- Cells that read something are no more than the graph counts, unless some are repeated. -/
theorem length_le_formulaCount {g : Graph} {cells : List Position} (distinct : cells.Nodup)
    (reading : ∀ p ∈ cells, ∃ q, g.Reads p q) : cells.length ≤ g.formulaCount := by
  have stored : ∀ p ∈ cells, p ∈ g.precedents.keys := by
    intro p member
    obtain ⟨q, reads⟩ := reading p member
    exact reads.mem_keys
  calc
    cells.length ≤ g.precedents.keys.length := (distinct.subperm stored).length_le
    _ = g.formulaCount := Std.ExtTreeMap.length_keys

/-- Only cells that read something can reach a cycle. -/
theorem acyclic_iff_forall_mem_keys {g : Graph} :
    g.Acyclic ↔ ∀ p ∈ g.precedents.keys, ¬ g.Circular p := by
  rw [acyclic_iff_forall_not_circular]
  constructor
  · exact fun notCircular p _ => notCircular p
  · intro notCircular p circular
    obtain ⟨q, reads, _⟩ := circular_iff_exists_reads.mp circular
    exact notCircular p reads.mem_keys circular

/-- There are finitely many positions. -/
instance : Finite Position :=
  Finite.of_injective (fun p : Position => (p.col.toBitVec.toFin, p.row.toBitVec.toFin)) <| by
    rintro ⟨_, _⟩ ⟨_, _⟩ same
    simp only [Prod.mk.injEq, BitVec.toFin_inj, UInt32.toBitVec_inj] at same
    rw [Position.mk.injEq]
    exact same

/-- Without cycles, what holds of a cell whenever it holds of all cells that it reads holds of all
cells. -/
theorem Acyclic.wellFounded {g : Graph} (acyclic : g.Acyclic) :
    WellFounded fun q p => g.Reads p q := by
  let dependence : Position → Position → Prop := fun q p => g.DependsOn p q
  have : Std.Irrefl dependence := ⟨acyclic⟩
  have : IsTrans Position dependence := ⟨fun _ _ _ first second => second.trans first⟩
  have dependence_wf : WellFounded dependence := Finite.wellFounded_of_trans_of_irrefl dependence
  exact Subrelation.wf (fun reads => Relation.TransGen.single reads) dependence_wf

/-- Fewer pairs make no new cycle. -/
theorem Acyclic.of_reads {g g' : Graph} (acyclic : g.Acyclic)
    (fewer : ∀ p q, g'.Reads p q → g.Reads p q) : g'.Acyclic :=
  fun p cycle => acyclic p (Relation.TransGen.mono fewer p p cycle)

/-! ## Changing what one cell reads -/

section Change

variable {before after : Graph} {changed p q : Position}

/-- Two graphs in which all cells but one read the same cells. -/
def SameExceptAt (changed : Position) (before after : Graph) : Prop :=
  ∀ p, p ≠ changed → after.precedentsOf p = before.precedentsOf p

theorem SameExceptAt.symm (same : SameExceptAt changed before after) :
    SameExceptAt changed after before :=
  fun p other => (same p other).symm

theorem SameExceptAt.reads_iff (same : SameExceptAt changed before after) (other : p ≠ changed) :
    after.Reads p q ↔ before.Reads p q := by
  rw [Reads, Reads, same p other]

/-- A cell that does not depend on the changed cell depends on the same cells as before. -/
theorem SameExceptAt.dependsOn_of_dependsOn (same : SameExceptAt changed before after)
    (other : p ≠ changed) (independent : ¬ after.DependsOn p changed)
    (path : before.DependsOn p q) : after.DependsOn p q := by
  induction path with
  | single last => exact .single ((same.reads_iff other).mpr last)
  | tail _ last path_after =>
      have middle_ne : _ ≠ changed := fun middle_eq => independent (middle_eq ▸ path_after)
      exact path_after.tail ((same.reads_iff middle_ne).mpr last)

theorem SameExceptAt.not_dependsOn (same : SameExceptAt changed before after)
    (other : p ≠ changed) (independent : ¬ after.DependsOn p changed) :
    ¬ before.DependsOn p changed :=
  fun path => independent (same.dependsOn_of_dependsOn other independent path)

theorem SameExceptAt.circular_of_circular (same : SameExceptAt changed before after)
    (other : p ≠ changed) (independent : ¬ after.DependsOn p changed)
    (circular : before.Circular p) : after.Circular p := by
  obtain ⟨onCycle, path, cycle⟩ := circular
  rcases Relation.reflTransGen_iff_eq_or_transGen.mp path with rfl | path
  · exact ⟨onCycle, .refl, same.dependsOn_of_dependsOn other independent cycle⟩
  · have path_after := same.dependsOn_of_dependsOn other independent path
    have onCycle_ne : onCycle ≠ changed := fun equality => independent (equality ▸ path_after)
    have onCycle_independent : ¬ after.DependsOn onCycle changed :=
      fun rest => independent (Relation.TransGen.trans path_after rest)
    exact ⟨onCycle, path_after.to_reflTransGen,
      same.dependsOn_of_dependsOn onCycle_ne onCycle_independent cycle⟩

/-- Whether a cell that does not depend on the changed cell reaches a cycle has not changed. -/
theorem SameExceptAt.circular_iff (same : SameExceptAt changed before after)
    (other : p ≠ changed) (independent : ¬ after.DependsOn p changed) :
    after.Circular p ↔ before.Circular p :=
  ⟨same.symm.circular_of_circular other (same.not_dependsOn other independent),
    same.circular_of_circular other independent⟩

end Change

end Graph
end Spreadsheet
