import Spreadsheet.Proofs.Dependency.Closure

/-!
# Searching with a queue

The transitive readers of a cell can be searched for breadth first: what has been found waits in a
queue until its own readers are looked at. The readers of one cell are in no particular order.
Whichever is taken, the search ends, also on a graph with cycles, and it has found the transitive
readers then.
-/

namespace Spreadsheet
namespace Graph

/-- A search for the transitive readers of a cell at some moment. -/
structure Search where
  /-- The cells whose readers are still to be looked at. -/
  queue : List Position
  /-- The readers that have been found. -/
  found : PositionSet

namespace Search

/-- Nothing has been found yet. -/
def start (p : Position) : Search := ⟨[p], ∅⟩

/-- One round: the first cell leaves the queue, and those of its readers that have not been found
before are put at the end, in any order. -/
inductive Round (g : Graph) : Search → Search → Prop where
  | take {p : Position} {queue fresh : List Position} {found : PositionSet}
      (same : fresh.Perm (g.freshReaders p found)) :
      Round g ⟨p :: queue, found⟩ ⟨queue ++ fresh, fresh.foldl Std.ExtTreeSet.insert found⟩

variable {g : Graph} {s after : Search} {p q : Position} {result : PositionSet}

/-! ## What has been found -/

/-- What holds of a search for the transitive readers of a cell between two rounds. -/
structure Sound (g : Graph) (p : Position) (s : Search) : Prop where
  /-- What has been found depends on the cell. -/
  dependsOn : ∀ q ∈ s.found, g.DependsOn q p
  /-- Only the cell and what has been found may wait. -/
  queued : ∀ q ∈ s.queue, q = p ∨ q ∈ s.found
  /-- The readers of what waits no more have been found. -/
  done : ∀ q, q = p ∨ q ∈ s.found → q ∉ s.queue → ∀ r, g.Reads r q → r ∈ s.found

theorem sound_start : (start p).Sound g p where
  dependsOn q member := (Std.ExtTreeSet.not_mem_empty member).elim
  queued q member := .inl (List.mem_singleton.mp member)
  done q known waits r _ := by
    rcases known with rfl | member
    · exact (waits List.mem_cons_self).elim
    · exact (Std.ExtTreeSet.not_mem_empty member).elim

/-- The readers of the first cell in the queue have been found after a round. -/
theorem Sound.round (mirrored : g.Mirrored) (sound : s.Sound g p) (round : Round g s after) :
    after.Sound g p := by
  cases round with
  | @take first queue fresh found same =>
    have mem_fresh : ∀ q, q ∈ fresh ↔ g.Reads q first ∧ q ∉ found := fun q =>
      same.mem_iff.trans (mem_freshReaders mirrored)
    refine ⟨?_, ?_, ?_⟩
    · intro q member
      rcases mem_foldl_insert.mp member with member | member
      · have reads := ((mem_fresh q).mp member).1
        rcases sound.queued first List.mem_cons_self with rfl | found_first
        · exact .single reads
        · exact (sound.dependsOn first found_first).trans_reads reads
      · exact sound.dependsOn q member
    · intro q member
      rw [mem_foldl_insert]
      rcases List.mem_append.mp member with member | member
      · exact (sound.queued q (List.mem_cons_of_mem first member)).imp_right .inr
      · exact .inr (.inl member)
    · intro q known waits r reads
      rw [List.mem_append, not_or] at waits
      have known_before : q = p ∨ q ∈ found :=
        known.imp_right fun member => (mem_foldl_insert.mp member).resolve_left waits.2
      rw [mem_foldl_insert, mem_fresh]
      by_cases at_first : q = first
      · subst at_first
        by_cases member : r ∈ found
        · exact .inr member
        · exact .inl ⟨reads, member⟩
      · have waited : q ∉ first :: queue := by simp [at_first, waits.1]
        exact .inr (sound.done q known_before waited r reads)

theorem Sound.rounds (mirrored : g.Mirrored) (sound : s.Sound g p)
    (rounds : Relation.ReflTransGen (Round g) s after) : after.Sound g p := by
  induction rounds with
  | refl => exact sound
  | tail _ round ih => exact ih.round mirrored round

/-- When nothing waits any more, exactly the cells that depend on the first one have been found. -/
theorem Sound.mem_iff (sound : Sound g p ⟨[], result⟩) : q ∈ result ↔ g.DependsOn q p := by
  constructor
  · exact sound.dependsOn q
  · intro path
    induction path using Relation.TransGen.head_induction_on with
    | single reads => exact sound.done p (.inl rfl) List.not_mem_nil _ reads
    | head reads _ ih => exact sound.done _ (.inr ih) List.not_mem_nil _ reads

/-! ## The end of a search -/

/-- How many rounds can follow at most: one for each cell that waits or may still be found. -/
def remaining (g : Graph) (s : Search) : Nat :=
  s.queue.length + (g.formulaCount - s.found.size)

theorem Sound.size_le (sound : s.Sound g p) : s.found.size ≤ g.formulaCount := by
  rw [← Std.ExtTreeSet.length_toList]
  apply length_le_formulaCount (nodup_toList s.found)
  intro q member
  obtain ⟨r, reads, _⟩ := Relation.TransGen.head'_iff.mp
    (sound.dependsOn q (Std.ExtTreeSet.mem_toList.mp member))
  exact ⟨r, reads⟩

theorem Sound.remaining_lt (mirrored : g.Mirrored) (sound : s.Sound g p)
    (round : Round g s after) : after.remaining g < s.remaining g := by
  have bound := (sound.round mirrored round).size_le
  cases round with
  | @take first queue fresh found same =>
    have size_eq : (fresh.foldl Std.ExtTreeSet.insert found).size = found.size + fresh.length := by
      have found_eq : fresh.foldl Std.ExtTreeSet.insert found =
          (g.freshReaders first found).foldl Std.ExtTreeSet.insert found := by
        apply Std.ExtTreeSet.ext_mem
        intro q
        rw [mem_foldl_insert, mem_foldl_insert, same.mem_iff]
      rw [found_eq, size_foldl_insert_freshReaders, same.length_eq]
    simp only [remaining, size_eq, List.length_append, List.length_cons] at bound ⊢
    omega

/-- A search cannot go on for ever. -/
theorem Sound.acc (mirrored : g.Mirrored) (sound : s.Sound g p) :
    Acc (fun after before => Round g before after) s := by
  induction bound : s.remaining g using Nat.strong_induction_on generalizing s with
  | _ count ih =>
    refine .intro s fun after round => ?_
    exact ih _ (bound ▸ sound.remaining_lt mirrored round) (sound.round mirrored round) rfl

/-- A search that cannot go on for ever comes to its end, since there is a round as long as a cell
waits. -/
theorem exists_result (terminates : Acc (fun after before => Round g before after) s) :
    ∃ result, Relation.ReflTransGen (Round g) s ⟨[], result⟩ := by
  induction terminates with
  | intro s _ ih =>
    obtain ⟨queue, found⟩ := s
    cases queue with
    | nil => exact ⟨found, .refl⟩
    | cons first queue =>
        obtain ⟨result, rounds⟩ := ih _ (.take (.refl _))
        exact ⟨result, rounds.head (.take (.refl _))⟩

theorem eq_allReaders (mirrored : g.Mirrored)
    (rounds : Relation.ReflTransGen (Round g) (start p) ⟨[], result⟩) :
    result = g.allReaders p := by
  apply Std.ExtTreeSet.ext_mem
  intro q
  rw [(sound_start.rounds mirrored rounds).mem_iff, mem_allReaders mirrored]

end Search

/-- In every graph that is made by operations, the transitive readers of a cell are the cells from
which a path of pairs leads to it; so the cell is one of them exactly if it lies on a cycle. A
search with a queue ends with them, in whatever order it takes the readers of a cell. -/
theorem allReaders_ofOperations (maxRangeCells : Nat) (operations : List Operation)
    (p : Position) :
    let g := ofOperations maxRangeCells operations
    (∀ q, q ∈ g.allReaders p ↔ g.DependsOn q p) ∧
      Acc (fun after before => Search.Round g before after) (.start p) ∧
      ∀ result, Relation.ReflTransGen (Search.Round g) (.start p) ⟨[], result⟩ ↔
        result = g.allReaders p := by
  intro g
  have mirrored : g.Mirrored := mirrored_ofOperations maxRangeCells operations
  have terminates := Search.sound_start.acc (p := p) mirrored
  refine ⟨fun q => mem_allReaders mirrored, terminates, fun result => ⟨?_, ?_⟩⟩
  · exact Search.eq_allReaders mirrored
  · rintro rfl
    obtain ⟨result, rounds⟩ := Search.exists_result terminates
    rwa [← Search.eq_allReaders mirrored rounds]

end Graph
end Spreadsheet
