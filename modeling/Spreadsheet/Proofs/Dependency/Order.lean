import Mathlib.Data.List.Chain
import Mathlib.Data.List.Nodup
import Spreadsheet.Dependency.Order
import Spreadsheet.Proofs.Dependency.Reading

/-!
# The order of calculation is sound and complete

A walk either finishes the cells that it starts from, each after all cells that it depends on, or
it comes back to a cell of its path and reports the cycle. The cells of a path are distinct and
each of them is read by the next, so a walk never runs out of levels. It fails exactly if a cycle
can be reached.
-/

namespace Spreadsheet
namespace Graph

variable {g : Graph} {members : PositionSet} {path starts : List Position} {before after : Walk}
  {p q : Position} {levels : Nat}

/-! ## Cycles -/

/-- A reported cycle leads from its cell back to it, each cell reading the next one. -/
structure IsCycle (g : Graph) (e : CycleError) : Prop where
  /-- The path begins and ends with the cell. -/
  ends : ∃ inner, e.path = e.cell :: inner ++ [e.cell]
  /-- Each cell of the path reads the next one. -/
  reads : e.path.IsChain g.Reads

theorem dependsOn_of_isChain {inner : List Position}
    (reads : (p :: inner ++ [q]).IsChain g.Reads) : g.DependsOn p q := by
  induction inner generalizing p with
  | nil =>
      have first : g.Reads p q := by simpa using reads
      exact .single first
  | cons next inner ih =>
      rw [List.cons_append, List.cons_append, List.isChain_cons_cons] at reads
      exact (ih reads.2).trans_reads reads.1

theorem IsCycle.dependsOn {e : CycleError} (cycle : g.IsCycle e) : g.DependsOn e.cell e.cell := by
  obtain ⟨inner, path_eq⟩ := cycle.ends
  have reads := cycle.reads
  rw [path_eq] at reads
  exact dependsOn_of_isChain reads

/-- A path down from one cell to the next, latest first, leads to a cell. -/
def LeadsTo (g : Graph) (path : List Position) (p : Position) : Prop :=
  (p :: path).IsChain fun later earlier => g.Reads earlier later

theorem LeadsTo.reading (leads : g.LeadsTo path p) : ∀ q ∈ path, ∃ r, g.Reads q r := by
  induction path generalizing p with
  | nil => simp
  | cons latest path ih =>
      rw [LeadsTo, List.isChain_cons_cons] at leads
      intro q member
      rcases List.mem_cons.mp member with rfl | member
      · exact ⟨p, leads.1⟩
      · exact ih leads.2 q member

theorem eq_takeWhile_append_of_mem (member : p ∈ path) :
    ∃ rest, path = path.takeWhile (· ≠ p) ++ p :: rest := by
  induction path with
  | nil => simp at member
  | cons latest path ih =>
      by_cases same : latest = p
      · exact ⟨path, by simp [same]⟩
      · have later : p ∈ path := (List.mem_cons.mp member).resolve_left (Ne.symm same)
        obtain ⟨rest, path_eq⟩ := ih later
        refine ⟨rest, ?_⟩
        rw [List.takeWhile_cons_of_pos (by simpa using same), List.cons_append, ← path_eq]

/-- A walk that comes back to its path has found a cycle. -/
theorem LeadsTo.isCycle_cycleAt (leads : g.LeadsTo path p) (member : p ∈ path) :
    g.IsCycle (cycleAt p path) where
  ends := ⟨_, rfl⟩
  reads := by
    obtain ⟨rest, path_eq⟩ := eq_takeWhile_append_of_mem member
    have found : (p :: path.takeWhile (· ≠ p) ++ [p]).IsChain
        fun later earlier => g.Reads earlier later := by
      apply leads.infix
      refine ⟨[], rest, ?_⟩
      conv_rhs => rw [path_eq]
      simp
    have reversed := List.isChain_reverse.mpr found
    simpa [cycleAt] using reversed

/-! ## Walks -/

namespace Walk

/-- What holds of the finished cells of a walk. -/
structure Sound (g : Graph) (members : PositionSet) (w : Walk) : Prop where
  /-- All that a finished cell reads is finished. -/
  closed : ∀ q ∈ w.finished, ∀ r, g.Reads q r → r ∈ w.finished
  /-- No cycle can be reached from a finished cell. -/
  notCircular : ∀ q ∈ w.finished, ¬ g.Circular q
  /-- The finished cells that were asked for are listed. -/
  mem_order_iff : ∀ q, q ∈ w.order ↔ q ∈ w.finished ∧ q ∈ members
  /-- They are listed once. -/
  nodup : w.order.Nodup
  /-- No cell depends on one that was finished later. -/
  sorted : w.order.Pairwise fun later earlier => ¬ g.DependsOn earlier later

theorem sound_start (g : Graph) (members : PositionSet) : start.Sound g members where
  closed := by simp [start]
  notCircular := by simp [start]
  mem_order_iff := by simp [start]
  nodup := List.nodup_nil
  sorted := List.Pairwise.nil

theorem Sound.mem_of_dependsOn {w : Walk} (sound : w.Sound g members) (path : g.DependsOn p q)
    (finished : p ∈ w.finished) : q ∈ w.finished := by
  induction path with
  | single reads => exact sound.closed p finished _ reads
  | tail _ reads ih => exact sound.closed _ ih _ reads

@[simp] theorem mem_finished_finish {w : Walk} :
    q ∈ (w.finish members p).finished ↔ p = q ∨ q ∈ w.finished := by
  simp [finish]

/-- A cell may be finished when all that it reads is. -/
theorem Sound.finish {w : Walk} (sound : w.Sound g members)
    (ready : ∀ q, g.Reads p q → q ∈ w.finished) (unfinished : p ∉ w.finished) :
    (w.finish members p).Sound g members := by
  have order_eq : (w.finish members p).order = if p ∈ members then p :: w.order else w.order := by
    simp only [Walk.finish, Std.ExtTreeSet.contains_iff_mem]
  have unlisted : p ∉ w.order := fun listed => unfinished ((sound.mem_order_iff p).mp listed).1
  refine ⟨?_, ?_, ?_, ?_, ?_⟩
  · intro q finished r reads
    rw [mem_finished_finish] at finished ⊢
    rcases finished with rfl | finished
    · exact .inr (ready r reads)
    · exact .inr (sound.closed q finished r reads)
  · intro q finished
    rw [mem_finished_finish] at finished
    rcases finished with rfl | finished
    · intro circular
      obtain ⟨r, reads, circular⟩ := circular_iff_exists_reads.mp circular
      exact sound.notCircular r (ready r reads) circular
    · exact sound.notCircular q finished
  · intro q
    rw [order_eq, mem_finished_finish]
    split
    · rw [List.mem_cons, sound.mem_order_iff]
      grind
    · rw [sound.mem_order_iff]
      grind
  · rw [order_eq]
    split
    · exact List.nodup_cons.mpr ⟨unlisted, sound.nodup⟩
    · exact sound.nodup
  · rw [order_eq]
    split
    · refine List.pairwise_cons.mpr ⟨?_, sound.sorted⟩
      intro earlier listed path
      exact unfinished (sound.mem_of_dependsOn path ((sound.mem_order_iff earlier).mp listed).1)
    · exact sound.sorted

/-- A walk has gone on below a path until certain cells were finished. -/
structure Completes (g : Graph) (members : PositionSet) (path : List Position)
    (starts : List Position) (before after : Walk) : Prop where
  /-- What is finished is so for good reason. -/
  sound : after.Sound g members
  /-- What was finished stays finished. -/
  kept : ∀ q ∈ before.finished, q ∈ after.finished
  /-- The cells of the path are not finished yet. -/
  unfinished : ∀ q ∈ path, q ∉ after.finished
  /-- The cells to start from are. -/
  done : ∀ q ∈ starts, q ∈ after.finished

end Walk

/-- What a walk may answer: it has finished the cells to start from, or they reach a cycle. -/
def Answers (g : Graph) (members : PositionSet) (path starts : List Position) (before : Walk) :
    Except CycleError Walk → Prop
  | .ok after => Walk.Completes g members path starts before after
  | .error e => g.IsCycle e ∧ ∃ p ∈ starts, Relation.ReflTransGen g.Reads p e.cell

/-- Walks from several cells in turn answer for all of them. -/
theorem answers_foldlM {walk : Walk → Position → Except CycleError Walk}
    (each : ∀ p ∈ starts, ∀ before : Walk, before.Sound g members →
      (∀ q ∈ path, q ∉ before.finished) → g.Answers members path [p] before (walk before p))
    (sound : before.Sound g members) (unfinished : ∀ q ∈ path, q ∉ before.finished) :
    g.Answers members path starts before (starts.foldlM walk before) := by
  induction starts generalizing before with
  | nil => exact ⟨sound, fun _ finished => finished, unfinished, by simp⟩
  | cons first rest ih =>
      have first_answers := each first List.mem_cons_self before sound unfinished
      rw [List.foldlM_cons]
      cases walked : walk before first with
      | error e =>
          rw [walked] at first_answers
          obtain ⟨cycle, p, p_first, reach⟩ := first_answers
          rw [List.mem_singleton.mp p_first] at reach
          exact ⟨cycle, first, List.mem_cons_self, reach⟩
      | ok middle =>
          rw [walked] at first_answers
          have rest_answers := ih (fun p member => each p (List.mem_cons_of_mem first member))
            first_answers.sound first_answers.unfinished
          change g.Answers members path (first :: rest) before (rest.foldlM walk middle)
          cases walked_rest : rest.foldlM walk middle with
          | error e =>
              rw [walked_rest] at rest_answers
              obtain ⟨cycle, p, member, reach⟩ := rest_answers
              exact ⟨cycle, p, List.mem_cons_of_mem first member, reach⟩
          | ok after =>
              rw [walked_rest] at rest_answers
              refine ⟨rest_answers.sound, ?_, rest_answers.unfinished, ?_⟩
              · intro q finished
                exact rest_answers.kept q (first_answers.kept q finished)
              · intro q member
                rcases List.mem_cons.mp member with rfl | member
                · exact rest_answers.kept q (first_answers.done q List.mem_cons_self)
                · exact rest_answers.done q member

/-- A visit answers for its cell. The induction is on the levels; a path as long as there are cells
that read something cannot be any longer, so the last level is never reached. -/
theorem answers_visit (levels_eq : levels + path.length = g.formulaCount + 1)
    (distinct : path.Nodup) (leads : g.LeadsTo path p) (sound : before.Sound g members)
    (unfinished : ∀ q ∈ path, q ∉ before.finished) :
    g.Answers members path [p] before (g.visit members levels path before p) := by
  induction levels generalizing path p before with
  | zero =>
      have bound := length_le_formulaCount distinct leads.reading
      omega
  | succ levels ih =>
      rw [visit]
      split
      · rename_i finished
        rw [Std.ExtTreeSet.contains_iff_mem] at finished
        exact ⟨sound, fun _ kept => kept, unfinished, by simpa using finished⟩
      · rename_i p_unfinished
        rw [Std.ExtTreeSet.contains_iff_mem] at p_unfinished
        split
        · rename_i onPath
          exact ⟨leads.isCycle_cycleAt onPath, p, List.mem_cons_self, .refl⟩
        · rename_i notOnPath
          have below_answers : g.Answers members (p :: path) (g.precedentsOf p).toList before
              ((g.precedentsOf p).toList.foldlM (g.visit members levels (p :: path)) before) := by
            apply answers_foldlM _ sound
            · intro q member
              rcases List.mem_cons.mp member with rfl | member
              · exact p_unfinished
              · exact unfinished q member
            · intro q member middle middle_sound middle_unfinished
              have reads : g.Reads p q := Std.ExtTreeSet.mem_toList.mp member
              apply ih _ _ _ middle_sound middle_unfinished
              · rw [List.length_cons]
                omega
              · exact List.nodup_cons.mpr ⟨notOnPath, distinct⟩
              · exact List.isChain_cons_cons.mpr ⟨reads, leads⟩
          cases walked : (g.precedentsOf p).toList.foldlM (g.visit members levels (p :: path))
              before with
          | error e =>
              rw [walked] at below_answers
              obtain ⟨cycle, q, member, reach⟩ := below_answers
              have reads : g.Reads p q := Std.ExtTreeSet.mem_toList.mp member
              exact ⟨cycle, p, List.mem_cons_self, reach.head reads⟩
          | ok below =>
              rw [walked] at below_answers
              have ready : ∀ q, g.Reads p q → q ∈ below.finished := fun q reads =>
                below_answers.done q (Std.ExtTreeSet.mem_toList.mpr reads)
              have open_still := below_answers.unfinished p List.mem_cons_self
              refine ⟨below_answers.sound.finish ready open_still, ?_, ?_, ?_⟩
              · intro q finished
                exact Walk.mem_finished_finish.mpr (.inr (below_answers.kept q finished))
              · intro q member
                rw [Walk.mem_finished_finish, not_or]
                refine ⟨fun same => notOnPath (same ▸ member), ?_⟩
                exact below_answers.unfinished q (List.mem_cons_of_mem p member)
              · simp

theorem answers_visitFrom (sound : before.Sound g members) :
    g.Answers members [] [p] before (g.visitFrom members before p) :=
  answers_visit (by simp) List.nodup_nil (List.isChain_singleton p) sound (by simp)

/-! ## The order of calculation -/

/-- An order of calculation lists the given cells, each once and behind all of them that it depends
on. -/
structure IsCalculationOrder (g : Graph) (members : PositionSet) (order : List Position) :
    Prop where
  /-- The given cells are listed and no others. -/
  mem_iff : ∀ q, q ∈ order ↔ q ∈ members
  /-- They are listed once. -/
  nodup : order.Nodup
  /-- No cell depends on a later one. -/
  sorted : order.Pairwise fun earlier later => ¬ g.DependsOn earlier later

theorem answers_members (g : Graph) (members : PositionSet) :
    g.Answers members [] members.toList .start
      (members.toList.foldlM (g.visitFrom members) .start) :=
  answers_foldlM (fun _ _ _ sound _ => answers_visitFrom sound) (Walk.sound_start g members)
    (by simp)

theorem calculationOrder_eq : g.calculationOrder members =
    (members.toList.foldlM (g.visitFrom members) .start).map fun w => w.order.reverse := by
  rw [calculationOrder]
  cases members.toList.foldlM (g.visitFrom members) Walk.start <;> rfl

/-- A calculation order that is found is one, and its cells reach no cycle. -/
theorem isCalculationOrder_of_eq_ok {order : List Position}
    (found : g.calculationOrder members = .ok order) :
    g.IsCalculationOrder members order ∧ ∀ p ∈ members, ¬ g.Circular p := by
  have answers := g.answers_members members
  rw [calculationOrder_eq] at found
  cases walked : members.toList.foldlM (g.visitFrom members) .start with
  | error e => simp [walked, Except.map] at found
  | ok after =>
      rw [walked] at answers found
      have order_eq : after.order.reverse = order := by simpa [Except.map] using found
      subst order_eq
      have finished : ∀ p ∈ members, p ∈ after.finished := fun p member =>
        answers.done p (Std.ExtTreeSet.mem_toList.mpr member)
      refine ⟨⟨?_, ?_, ?_⟩, ?_⟩
      · intro q
        rw [List.mem_reverse, answers.sound.mem_order_iff]
        exact ⟨And.right, fun member => ⟨finished q member, member⟩⟩
      · exact List.nodup_reverse.mpr answers.sound.nodup
      · exact List.pairwise_reverse.mpr answers.sound.sorted
      · exact fun p member => answers.sound.notCircular p (finished p member)

/-- A reported cycle is one, and it can be reached from one of the given cells. -/
theorem isCycle_of_eq_error {e : CycleError} (failed : g.calculationOrder members = .error e) :
    g.IsCycle e ∧ ∃ p ∈ members, Relation.ReflTransGen g.Reads p e.cell := by
  have answers := g.answers_members members
  rw [calculationOrder_eq] at failed
  cases walked : members.toList.foldlM (g.visitFrom members) .start with
  | ok after => simp [walked, Except.map] at failed
  | error e' =>
      rw [walked] at answers failed
      have error_eq : e' = e := by simpa [Except.map] using failed
      subst error_eq
      obtain ⟨cycle, p, member, reach⟩ := answers
      exact ⟨cycle, p, Std.ExtTreeSet.mem_toList.mp member, reach⟩

theorem exists_circular_of_eq_error {e : CycleError}
    (failed : g.calculationOrder members = .error e) : ∃ p ∈ members, g.Circular p := by
  obtain ⟨cycle, p, member, reach⟩ := isCycle_of_eq_error failed
  exact ⟨p, member, e.cell, reach, cycle.dependsOn⟩

/-- A cell reaches a cycle exactly if a walk from it finds one. -/
theorem reachesCycle_iff : g.reachesCycle p = true ↔ g.Circular p := by
  have answers := answers_visitFrom (p := p) (Walk.sound_start g ∅)
  rw [reachesCycle]
  cases walked : g.visitFrom ∅ .start p with
  | ok after =>
      rw [walked] at answers
      simpa using answers.sound.notCircular p (answers.done p List.mem_cons_self)
  | error e =>
      rw [walked] at answers
      obtain ⟨cycle, q, q_start, reach⟩ := answers
      rw [List.mem_singleton.mp q_start] at reach
      simpa using ⟨e.cell, reach, cycle.dependsOn⟩

instance : Decidable (g.Circular p) := decidable_of_iff _ reachesCycle_iff

instance : Decidable g.Acyclic := decidable_of_iff _ acyclic_iff_forall_mem_keys.symm

end Graph
end Spreadsheet
