import Spreadsheet.Proofs.Dependency.Reading

/-!
# The two directions of a graph

A graph stores its pairs twice, by reader and by cell read. Every operation keeps the two
directions in step and leaves no empty entry behind, and each says exactly which pairs it adds and
removes.
-/

namespace Spreadsheet
namespace Graph

/-! ## Entries of the map of readers -/

section Entries

variable {readers : PositionMap PositionSet} {p q reader r : Position}

/-- No cell has an entry for nothing. -/
def Pruned (sets : PositionMap PositionSet) : Prop :=
  ∀ p : Position, sets[p]? ≠ some ∅

theorem Pruned.insert {sets : PositionMap PositionSet} {s : PositionSet} (pruned : Pruned sets)
    (nonempty : s ≠ ∅) : Pruned (sets.insert p s) := by
  intro q
  rw [Std.ExtTreeMap.getElem?_insert]
  split
  · simpa using nonempty
  · exact pruned q

theorem Pruned.erase {sets : PositionMap PositionSet} (pruned : Pruned sets) :
    Pruned (sets.erase p) := by
  intro q
  rw [Std.ExtTreeMap.getElem?_erase]
  split
  · simp
  · exact pruned q

/-- The entry for a set; there is none for the empty set. -/
def entryFor (s : PositionSet) : Option PositionSet := if s.isEmpty then none else some s

theorem getD_entryFor {s : PositionSet} : (entryFor s).getD ∅ = s := by
  rw [entryFor]
  split
  · rename_i empty
    exact (Std.ExtTreeSet.isEmpty_iff.mp empty).symm
  · rfl

theorem entryFor_ne_some_empty {s : PositionSet} : entryFor s ≠ some ∅ := by
  rw [entryFor]
  split
  · simp
  · rename_i nonempty
    simpa [Std.ExtTreeSet.isEmpty_iff] using nonempty

theorem nodup_toList (s : PositionSet) : s.toList.Nodup :=
  Std.ExtTreeSet.distinct_toList.imp fun distinct same => distinct (by simp [same])

theorem mem_getD_insertReader :
    r ∈ (insertReader readers q reader).getD p ∅ ↔
      (q = p ∧ reader = r) ∨ r ∈ readers.getD p ∅ := by
  rw [insertReader, Std.ExtTreeMap.getD_insert]
  split <;> rename_i same <;> rw [Std.LawfulEqOrd.compare_eq_iff_eq] at same
  · subst same
    simp
  · simp [same]

theorem mem_getD_eraseReader :
    r ∈ (eraseReader readers q reader).getD p ∅ ↔
      r ∈ readers.getD p ∅ ∧ ¬(q = p ∧ reader = r) := by
  by_cases same : q = p
  · subst same
    have rest : r ∈ (eraseReader readers q reader).getD q ∅ ↔
        r ∈ (readers.getD q ∅).erase reader := by
      rw [eraseReader]
      split
      · rename_i empty
        rw [Std.ExtTreeSet.isEmpty_iff] at empty
        simp [empty]
      · simp
    rw [rest]
    simp [and_comm]
  · rw [eraseReader]
    split <;> simp [Std.ExtTreeMap.getD_erase, Std.ExtTreeMap.getD_insert, same]

theorem Pruned.insertReader (pruned : Pruned readers) : Pruned (insertReader readers q reader) :=
  pruned.insert Std.ExtTreeSet.insert_ne_empty

theorem Pruned.eraseReader (pruned : Pruned readers) : Pruned (eraseReader readers q reader) := by
  rw [Graph.eraseReader]
  split
  · exact pruned.erase
  · rename_i nonempty
    exact pruned.insert (by simpa [Std.ExtTreeSet.isEmpty_iff] using nonempty)

theorem mem_getD_foldl_insertReader (precedents : List Position) :
    r ∈ (precedents.foldl (fun readers q => insertReader readers q reader) readers).getD p ∅ ↔
      (p ∈ precedents ∧ reader = r) ∨ r ∈ readers.getD p ∅ := by
  induction precedents generalizing readers with
  | nil => simp
  | cons first rest ih =>
      rw [List.foldl_cons, ih, mem_getD_insertReader, List.mem_cons]
      grind

theorem mem_getD_foldl_eraseReader (precedents : List Position) :
    r ∈ (precedents.foldl (fun readers q => eraseReader readers q reader) readers).getD p ∅ ↔
      r ∈ readers.getD p ∅ ∧ ¬(p ∈ precedents ∧ reader = r) := by
  induction precedents generalizing readers with
  | nil => simp
  | cons first rest ih =>
      rw [List.foldl_cons, ih, mem_getD_eraseReader, List.mem_cons]
      grind

end Entries

/-! ## What the operations do to the precedents -/

variable {g : Graph} {p q r : Position}

@[simp] theorem getElem?_precedents_erase :
    (g.erase p).precedents[q]? = if p = q then none else g.precedents[q]? := by
  simp [erase, Std.ExtTreeMap.getElem?_erase]

@[simp] theorem getElem?_precedents_setPrecedents {precedents : PositionSet} :
    (g.setPrecedents p precedents).precedents[q]? =
      if p = q then entryFor precedents else g.precedents[q]? := by
  rw [setPrecedents, entryFor]
  by_cases empty : precedents.isEmpty <;> by_cases same : p = q <;>
    simp [empty, same, Std.ExtTreeMap.getElem?_insert]

theorem precedentsOf_eq : g.precedentsOf p = g.precedents[p]?.getD ∅ :=
  Std.ExtTreeMap.getD_eq_getD_getElem?

theorem precedentsOf_erase :
    (g.erase p).precedentsOf q = if p = q then ∅ else g.precedentsOf q := by
  rw [precedentsOf_eq, precedentsOf_eq, getElem?_precedents_erase]
  split <;> rfl

theorem precedentsOf_setPrecedents {precedents : PositionSet} :
    (g.setPrecedents p precedents).precedentsOf q =
      if p = q then precedents else g.precedentsOf q := by
  rw [precedentsOf_eq, precedentsOf_eq, getElem?_precedents_setPrecedents]
  split
  · exact getD_entryFor
  · rfl

theorem mem_precedentsOf_addEdge {edge : Position × Position} :
    q ∈ (g.addEdge edge).precedentsOf p ↔
      (edge.1 = p ∧ edge.2 = q) ∨ q ∈ g.precedentsOf p := by
  rw [precedentsOf, addEdge, Std.ExtTreeMap.getD_insert]
  split <;> rename_i same <;> rw [Std.LawfulEqOrd.compare_eq_iff_eq] at same
  · subst same
    simp
  · simp [same, precedentsOf]

/-! ## The two directions agree -/

/-- Both directions of a graph store the same pairs, and neither has an empty entry. -/
structure Mirrored (g : Graph) : Prop where
  /-- A cell is listed among the readers of exactly the cells that it reads. -/
  mem_readersOf_iff : ∀ {p q}, p ∈ g.readersOf q ↔ q ∈ g.precedentsOf p
  /-- A cell that reads nothing has no entry. -/
  precedents_pruned : Pruned g.precedents
  /-- A cell that no cell reads has no entry. -/
  readers_pruned : Pruned g.readers

theorem Mirrored.getElem?_precedents_eq_none (mirrored : g.Mirrored)
    (nothing : ∀ q, ¬ g.Reads p q) : g.precedents[p]? = none := by
  cases stored : g.precedents[p]? with
  | none => rfl
  | some precedents =>
      have empty : precedents = ∅ := by
        apply Std.ExtTreeSet.eq_empty_iff_forall_not_mem.mpr
        intro q member
        exact nothing q (by simpa [Reads, precedentsOf_eq, stored] using member)
      exact (mirrored.precedents_pruned p (empty ▸ stored)).elim

theorem Pruned.getElem?_eq {sets : PositionMap PositionSet} (pruned : Pruned sets) :
    sets[p]? = entryFor (sets.getD p ∅) := by
  rw [Std.ExtTreeMap.getD_eq_getD_getElem?]
  cases stored : sets[p]? with
  | none => simp [entryFor]
  | some s =>
      have nonempty : s ≠ ∅ := fun empty => pruned p (empty ▸ stored)
      rw [Option.getD_some, entryFor,
        if_neg (by simpa [Std.ExtTreeSet.isEmpty_iff] using nonempty)]

/-- What each cell reads determines the graph. -/
theorem Mirrored.eq_of_precedentsOf_eq {g' : Graph} (mirrored : g.Mirrored)
    (mirrored' : g'.Mirrored) (limit : g.maxRangeCells = g'.maxRangeCells)
    (same : ∀ p, g.precedentsOf p = g'.precedentsOf p) : g = g' := by
  have readers_same : ∀ p, g.readersOf p = g'.readersOf p := by
    intro p
    apply Std.ExtTreeSet.ext_mem
    intro q
    rw [mirrored.mem_readersOf_iff, mirrored'.mem_readersOf_iff, same]
  have precedents_eq : g.precedents = g'.precedents := by
    apply Std.ExtTreeMap.ext_getElem?
    intro p
    rw [mirrored.precedents_pruned.getElem?_eq, mirrored'.precedents_pruned.getElem?_eq]
    exact congrArg entryFor (same p)
  have readers_eq : g.readers = g'.readers := by
    apply Std.ExtTreeMap.ext_getElem?
    intro p
    rw [mirrored.readers_pruned.getElem?_eq, mirrored'.readers_pruned.getElem?_eq]
    exact congrArg entryFor (readers_same p)
  obtain ⟨_, _, _⟩ := g
  obtain ⟨_, _, _⟩ := g'
  rw [Graph.mk.injEq]
  exact ⟨precedents_eq, readers_eq, limit⟩

theorem mirrored_empty (maxRangeCells : Nat) : (empty maxRangeCells).Mirrored where
  mem_readersOf_iff := by simp [empty, readersOf, precedentsOf]
  precedents_pruned := by simp [empty, Pruned]
  readers_pruned := by simp [empty, Pruned]

theorem Mirrored.erase (mirrored : g.Mirrored) (p : Position) : (g.erase p).Mirrored where
  mem_readersOf_iff := by
    intro reader q
    rw [precedentsOf_erase, readersOf, Graph.erase, Std.ExtTreeSet.foldl_eq_foldl_toList,
      mem_getD_foldl_eraseReader, ← readersOf, mirrored.mem_readersOf_iff,
      Std.ExtTreeSet.mem_toList]
    by_cases same : p = reader
    · subst same
      simp
    · simp [same]
  precedents_pruned := mirrored.precedents_pruned.erase
  readers_pruned := by
    rw [Graph.erase, Std.ExtTreeSet.foldl_eq_foldl_toList]
    exact List.foldlRecOn _ _ mirrored.readers_pruned fun _ pruned _ _ => pruned.eraseReader

theorem Mirrored.setPrecedents (mirrored : g.Mirrored) (p : Position) (precedents : PositionSet) :
    (g.setPrecedents p precedents).Mirrored where
  mem_readersOf_iff := by
    intro reader q
    have erased := mirrored.erase p
    rw [precedentsOf_setPrecedents, readersOf, Graph.setPrecedents,
      Std.ExtTreeSet.foldl_eq_foldl_toList, mem_getD_foldl_insertReader, ← readersOf,
      erased.mem_readersOf_iff, precedentsOf_erase, Std.ExtTreeSet.mem_toList]
    by_cases same : p = reader
    · subst same
      simp
    · simp [same]
  precedents_pruned := by
    intro q
    rw [getElem?_precedents_setPrecedents]
    split
    · exact entryFor_ne_some_empty
    · exact mirrored.precedents_pruned q
  readers_pruned := by
    rw [Graph.setPrecedents, Std.ExtTreeSet.foldl_eq_foldl_toList]
    exact List.foldlRecOn _ _ (mirrored.erase p).readers_pruned
      fun _ pruned _ _ => pruned.insertReader

theorem Mirrored.setReferences (mirrored : g.Mirrored) (p : Position)
    (references : List Reference) : (g.setReferences p references).Mirrored :=
  mirrored.setPrecedents p _

theorem Mirrored.addEdge (mirrored : g.Mirrored) (edge : Position × Position) :
    (g.addEdge edge).Mirrored where
  mem_readersOf_iff := by
    intro reader q
    rw [mem_precedentsOf_addEdge, readersOf, Graph.addEdge, mem_getD_insertReader, ← readersOf,
      mirrored.mem_readersOf_iff, and_comm]
  precedents_pruned := mirrored.precedents_pruned.insert Std.ExtTreeSet.insert_ne_empty
  readers_pruned := mirrored.readers_pruned.insertReader

/-! ## Moving a graph -/

theorem mem_edges_iff {edge : Position × Position} :
    edge ∈ g.edges ↔ edge.2 ∈ g.precedentsOf edge.1 := by
  obtain ⟨reader, precedent⟩ := edge
  simp only [edges, List.mem_flatMap, List.mem_map, Prod.exists,
    Std.ExtTreeMap.mem_toList_iff_getElem?_eq_some, Std.ExtTreeSet.mem_toList, Prod.mk.injEq]
  rw [precedentsOf_eq]
  constructor
  · rintro ⟨reader', precedents, entry, precedent', member, rfl, rfl⟩
    simpa [entry] using member
  · intro member
    cases entry : g.precedents[reader]? with
    | none => simp [entry] at member
    | some precedents =>
        exact ⟨reader, precedents, entry, precedent, by simpa [entry] using member, rfl, rfl⟩

theorem mem_precedentsOf_foldl_addEdge (edges : List (Position × Position)) :
    q ∈ (edges.foldl addEdge g).precedentsOf p ↔ (p, q) ∈ edges ∨ q ∈ g.precedentsOf p := by
  induction edges generalizing g with
  | nil => simp
  | cons first rest ih =>
      obtain ⟨reader, precedent⟩ := first
      rw [List.foldl_cons, ih, mem_precedentsOf_addEdge, List.mem_cons, Prod.mk.injEq]
      grind

/-- A cell of a moved graph reads the places of the cells that it has read before. -/
theorem mem_precedentsOf_shift {s : Shift} (moves : s.delta ≠ 0) :
    q ∈ (g.shift s).precedentsOf p ↔
      ∃ reader precedent, precedent ∈ g.precedentsOf reader ∧ reader.shift? s = some p ∧
        precedent.shift? s = some q := by
  rw [shift, if_neg moves, mem_precedentsOf_foldl_addEdge]
  simp only [List.mem_filterMap, mem_edges_iff, Prod.exists, Option.bind_eq_bind,
    Option.bind_eq_some_iff, Option.pure_def, Option.some.injEq, Prod.mk.injEq, empty,
    precedentsOf, Std.ExtTreeMap.getD_empty, Std.ExtTreeSet.not_mem_empty, or_false]
  constructor
  · rintro ⟨reader, precedent, member, _, reader_moves, _, precedent_moves, rfl, rfl⟩
    exact ⟨reader, precedent, member, reader_moves, precedent_moves⟩
  · rintro ⟨reader, precedent, member, reader_moves, precedent_moves⟩
    exact ⟨reader, precedent, member, p, reader_moves, q, precedent_moves, rfl, rfl⟩

theorem maxRangeCells_shift (s : Shift) : (g.shift s).maxRangeCells = g.maxRangeCells := by
  rw [shift]
  split
  · rfl
  · apply List.foldlRecOn (motive := fun moved : Graph => moved.maxRangeCells = g.maxRangeCells)
    · rfl
    · exact fun _ kept _ _ => kept

theorem Mirrored.shift (mirrored : g.Mirrored) (s : Shift) : (g.shift s).Mirrored := by
  rw [Graph.shift]
  split
  · exact mirrored
  · exact List.foldlRecOn _ _ (mirrored_empty _) fun _ mirrored edge _ => mirrored.addEdge edge

/-! ## Graphs made by operations -/

/-- What can be done with a graph. -/
inductive Operation where
  /-- A cell is to read what references cover. -/
  | setReferences (p : Position) (references : List Reference)
  /-- A cell is to read the given cells. -/
  | setPrecedents (p : Position) (precedents : PositionSet)
  /-- A cell is to read nothing. -/
  | erase (p : Position)
  /-- The cells are moved. -/
  | shift (s : Shift)
  /-- No cell is to read another. -/
  | clear

/-- Does one thing with a graph. -/
def perform (g : Graph) : Operation → Graph
  | .setReferences p references => g.setReferences p references
  | .setPrecedents p precedents => g.setPrecedents p precedents
  | .erase p => g.erase p
  | .shift s => g.shift s
  | .clear => empty g.maxRangeCells

/-- The graph that operations make, in order, of one in which no cell reads another. -/
def ofOperations (maxRangeCells : Nat) (operations : List Operation) : Graph :=
  operations.foldl perform (empty maxRangeCells)

theorem Mirrored.perform (mirrored : g.Mirrored) (operation : Operation) :
    (g.perform operation).Mirrored := by
  cases operation with
  | setReferences p references => exact mirrored.setReferences p references
  | setPrecedents p precedents => exact mirrored.setPrecedents p precedents
  | erase p => exact mirrored.erase p
  | shift s => exact mirrored.shift s
  | clear => exact mirrored_empty _

/-- Every graph that is made by operations has its two directions in step. -/
theorem mirrored_ofOperations (maxRangeCells : Nat) (operations : List Operation) :
    (ofOperations maxRangeCells operations).Mirrored :=
  List.foldlRecOn operations perform (mirrored_empty maxRangeCells)
    fun _ mirrored operation _ => mirrored.perform operation

end Graph
end Spreadsheet
