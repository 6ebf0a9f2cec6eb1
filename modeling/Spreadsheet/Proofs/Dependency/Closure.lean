import Spreadsheet.Dependency.Closure
import Spreadsheet.Proofs.Dependency.Mirror

/-!
# Transitive readers are all dependents

The search for the transitive readers of a cell finds exactly the cells that depend on it. A search
that keeps a cell to do for each reader that it has seen never runs out of rounds, since there are
no more readers than the graph counts.
-/

namespace Spreadsheet
namespace Graph

variable {g : Graph} {p q r : Position} {rounds : Nat} {todo : List Position} {seen : PositionSet}

/-- The readers of a cell that have not been seen. -/
def freshReaders (g : Graph) (p : Position) (seen : PositionSet) : List Position :=
  (g.readersOf p).toList.filter fun q => !seen.contains q

theorem mem_freshReaders (mirrored : g.Mirrored) :
    q ∈ g.freshReaders p seen ↔ g.Reads q p ∧ q ∉ seen := by
  rw [freshReaders, List.mem_filter, Std.ExtTreeSet.mem_toList, mirrored.mem_readersOf_iff,
    Bool.not_eq_true', ← Bool.not_eq_true, Std.ExtTreeSet.contains_iff_mem, Reads]

theorem spread_cons :
    g.spread (rounds + 1) (p :: todo) seen =
      g.spread rounds (g.freshReaders p seen ++ todo)
        ((g.freshReaders p seen).foldl Std.ExtTreeSet.insert seen) := rfl

theorem mem_foldl_insert {cells : List Position} :
    q ∈ cells.foldl Std.ExtTreeSet.insert seen ↔ q ∈ cells ∨ q ∈ seen := by
  rw [← Std.ExtTreeSet.insertMany_list_eq_foldl, Std.ExtTreeSet.mem_insertMany_list,
    List.contains_iff_mem, or_comm]

theorem size_foldl_insert_freshReaders :
    ((g.freshReaders p seen).foldl Std.ExtTreeSet.insert seen).size =
      seen.size + (g.freshReaders p seen).length := by
  rw [← Std.ExtTreeSet.insertMany_list_eq_foldl]
  apply Std.ExtTreeSet.size_insertMany_list
  · exact Std.ExtTreeSet.distinct_toList.filter _
  · intro q member
    simp [freshReaders, member, Std.ExtTreeSet.contains_iff_mem]

theorem dependsOn_of_mem_spread (mirrored : g.Mirrored) (member : q ∈ g.spread rounds todo seen) :
    q ∈ seen ∨ ∃ p ∈ todo, g.DependsOn q p := by
  induction rounds generalizing todo seen with
  | zero => exact .inl member
  | succ rounds ih =>
      cases todo with
      | nil => exact .inl member
      | cons p todo =>
          rcases ih member with found | ⟨r, r_todo, path⟩
          · rcases mem_foldl_insert.mp found with fresh | found
            · exact .inr ⟨p, List.mem_cons_self, .single ((mem_freshReaders mirrored).mp fresh).1⟩
            · exact .inl found
          · rcases List.mem_append.mp r_todo with fresh | r_todo
            · exact .inr ⟨p, List.mem_cons_self,
                path.tail ((mem_freshReaders mirrored).mp fresh).1⟩
            · exact .inr ⟨r, List.mem_cons_of_mem p r_todo, path⟩

/-- What holds of a search between two rounds. -/
structure Searching (g : Graph) (rounds : Nat) (todo : List Position) (seen : PositionSet) :
    Prop where
  /-- The rounds that are left suffice for the cells to do and the cells that may still be seen. -/
  enough : todo.length + g.formulaCount ≤ rounds + seen.size
  /-- The cells that have been seen read something. -/
  reading : ∀ q ∈ seen, ∃ r, g.Reads q r
  /-- The readers of a cell that has been seen and is done have been seen. -/
  done : ∀ q ∈ seen, q ∉ todo → ∀ r, g.Reads r q → r ∈ seen

theorem Searching.step (mirrored : g.Mirrored)
    (searching : g.Searching (rounds + 1) (p :: todo) seen) :
    g.Searching rounds (g.freshReaders p seen ++ todo)
      ((g.freshReaders p seen).foldl Std.ExtTreeSet.insert seen) where
  enough := by
    have enough := searching.enough
    rw [size_foldl_insert_freshReaders, List.length_append]
    rw [List.length_cons] at enough
    omega
  reading := by
    intro q member
    rcases mem_foldl_insert.mp member with fresh | member
    · exact ⟨p, ((mem_freshReaders mirrored).mp fresh).1⟩
    · exact searching.reading q member
  done := by
    intro q member notTodo r reads
    rw [List.mem_append, not_or] at notTodo
    obtain ⟨notFresh, notTodo⟩ := notTodo
    have q_seen : q ∈ seen := (mem_foldl_insert.mp member).resolve_left notFresh
    rw [mem_foldl_insert, mem_freshReaders mirrored]
    by_cases r_seen : r ∈ seen
    · exact .inr r_seen
    · by_cases same : q = p
      · exact .inl ⟨same ▸ reads, r_seen⟩
      · have notBefore : q ∉ p :: todo := by simp [same, notTodo]
        exact .inr (searching.done q q_seen notBefore r reads)

theorem Searching.todo_eq_nil (searching : g.Searching 0 todo seen) : todo = [] := by
  have bound : seen.toList.length ≤ g.formulaCount := by
    apply length_le_formulaCount
    · exact nodup_toList seen
    · intro q member
      exact searching.reading q (Std.ExtTreeSet.mem_toList.mp member)
  rw [Std.ExtTreeSet.length_toList] at bound
  have enough := searching.enough
  exact List.eq_nil_of_length_eq_zero (by omega)

theorem mem_spread_of_mem (member : q ∈ seen) : q ∈ g.spread rounds todo seen := by
  induction rounds generalizing todo seen with
  | zero => exact member
  | succ rounds ih =>
      cases todo with
      | nil => exact member
      | cons p todo => exact ih (mem_foldl_insert.mpr (.inr member))

/-- A search ends with a set that has all readers of its cells and of the cells that were to do. -/
theorem Searching.closed (mirrored : g.Mirrored) (searching : g.Searching rounds todo seen)
    (reads : g.Reads r q) (member : q ∈ todo ∨ q ∈ g.spread rounds todo seen) :
    r ∈ g.spread rounds todo seen := by
  induction rounds generalizing todo seen with
  | zero =>
      have todo_eq := searching.todo_eq_nil
      subst todo_eq
      have q_seen : q ∈ seen := by simpa [spread] using member
      exact searching.done q q_seen List.not_mem_nil r reads
  | succ rounds ih =>
      cases todo with
      | nil =>
          have q_seen : q ∈ seen := by simpa [spread] using member
          exact searching.done q q_seen List.not_mem_nil r reads
      | cons p todo =>
          have later := searching.step mirrored
          rcases member with member | member
          · rcases List.mem_cons.mp member with rfl | member
            · rw [spread_cons]
              apply mem_spread_of_mem
              rw [mem_foldl_insert, mem_freshReaders mirrored]
              by_cases r_seen : r ∈ seen
              · exact .inr r_seen
              · exact .inl ⟨reads, r_seen⟩
            · exact ih later (.inl (List.mem_append_right _ member))
          · exact ih later (.inr member)

theorem searching_start : g.Searching (g.formulaCount + 1) [p] ∅ where
  enough := by simp [Nat.add_comm]
  reading := by simp
  done := by simp

/-- The transitive readers of a cell are the cells that depend on it. -/
theorem mem_allReaders (mirrored : g.Mirrored) : q ∈ g.allReaders p ↔ g.DependsOn q p := by
  constructor
  · intro member
    rcases dependsOn_of_mem_spread mirrored member with seen | ⟨r, r_todo, path⟩
    · exact (Std.ExtTreeSet.not_mem_empty seen).elim
    · rwa [List.mem_singleton.mp r_todo] at path
  · intro path
    induction path using Relation.TransGen.head_induction_on with
    | single reads => exact searching_start.closed mirrored reads (.inl List.mem_cons_self)
    | head reads _ ih => exact searching_start.closed mirrored reads (.inr ih)

/-- What holds of a cell and of all that depend on it can be checked on a list. -/
theorem forall_dependent_iff (mirrored : g.Mirrored) {holds : Position → Prop} :
    (∀ q, q = p ∨ g.DependsOn q p → holds q) ↔ ∀ q ∈ p :: (g.allReaders p).toList, holds q := by
  simp only [List.mem_cons, Std.ExtTreeSet.mem_toList, mem_allReaders mirrored]

end Graph
end Spreadsheet
