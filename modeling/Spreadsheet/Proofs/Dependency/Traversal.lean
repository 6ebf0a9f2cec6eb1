import Spreadsheet.Proofs.Dependency.Order

/-!
# Walking with a stack

The walk along the cells that formulas read needs no recursion and no bound. A stack holds what is
still to be done, every cell that has been met is marked, and the path down to the present cell is
kept apart from both. On every graph such a walk ends, and with the answer of the recursive one:
stack, path and marks always tell how deep the recursion is and what it has finished.
-/

namespace Spreadsheet
namespace Graph

/-- Something to do with a cell. -/
inductive Frame where
  /-- The cell is to be visited. -/
  | enter (p : Position)
  /-- The cell is to be finished, since all that it reads is. -/
  | leave (p : Position)

/-- How far the visit of a cell is. -/
inductive Mark where
  /-- What the cell reads is being visited. -/
  | entered
  /-- The cell is finished. -/
  | left
deriving DecidableEq

/-- A walk with a stack at some moment. -/
structure Traversal where
  /-- The cells that are still to start from. -/
  starts : List Position
  /-- What is still to be done for the present start, next first. -/
  stack : List Frame
  /-- The cells from the present start down to the one that is visited. -/
  path : List Position
  /-- The cells that have been met. -/
  marks : PositionMap Mark
  /-- The finished cells that were asked for. -/
  order : List Position

namespace Traversal

/-- Nothing has been met, and all given cells are to start from. -/
def start (members : PositionSet) : Traversal := ⟨members.toList, [], [], ∅, []⟩

/-- Starts from a cell, unless it has been met. -/
def begin (t : Traversal) (first : Position) (starts : List Position) : Traversal :=
  if t.marks.contains first then { t with starts }
  else { t with starts, stack := [.enter first], path := [] }

/-- Goes down to what a cell reads and is not finished. The cell is to be finished after that. -/
def descend (g : Graph) (t : Traversal) (p : Position) (stack : List Frame) : Traversal :=
  let marks := t.marks.insert p .entered
  let below := (g.precedentsOf p).toList.filter fun q => marks[q]? ≠ some .left
  { t with stack := below.map .enter ++ .leave p :: stack, path := t.path ++ [p], marks }

/-- Visits a cell. Nothing is to be done for a finished one, and one that is being visited already
ends the walk: the path leads from it back to it. -/
def enter (g : Graph) (t : Traversal) (p : Position) (stack : List Frame) :
    Except CycleError Traversal :=
  match t.marks[p]? with
  | some .left => .ok { t with stack }
  | some .entered => .error ⟨p, t.path.drop ((t.path.idxOf? p).getD 0) ++ [p]⟩
  | none => .ok (t.descend g p stack)

/-- Finishes a cell, and lists it if it was asked for. -/
def leave (members : PositionSet) (t : Traversal) (p : Position) (stack : List Frame) :
    Traversal :=
  { t with
    stack
    path := t.path.dropLast
    marks := t.marks.insert p .left
    order := if members.contains p then t.order ++ [p] else t.order }

/-- One step. There is none when nothing is left to do. -/
def next (g : Graph) (members : PositionSet) (t : Traversal) :
    Option (Except CycleError Traversal) :=
  match t.stack, t.starts with
  | .enter p :: stack, _ => some (t.enter g p stack)
  | .leave p :: stack, _ => some (.ok (t.leave members p stack))
  | [], first :: starts => some (.ok (t.begin first starts))
  | [], [] => none

/-- The answer of a walk, if it ends within a number of steps. -/
def run (g : Graph) (members : PositionSet) :
    Nat → Traversal → Option (Except CycleError (List Position))
  | 0, _ => none
  | steps + 1, t =>
    match t.next g members with
    | none => some (.ok t.order)
    | some (.error e) => some (.error e)
    | some (.ok after) => run g members steps after

/-- The walk ends with an answer. -/
def Ends (g : Graph) (members : PositionSet) (t : Traversal)
    (answer : Except CycleError (List Position)) : Prop :=
  ∃ steps, t.run g members steps = some answer

variable {g : Graph} {members : PositionSet} {t after : Traversal}
  {answer other : Except CycleError (List Position)} {path starts : List Position}
  {rest : List Frame} {before w : Walk} {p q : Position} {levels : Nat} {e : CycleError}

/-! ## Runs -/

theorem run_of_le {fewer more : Nat} (le : fewer ≤ more)
    (ended : t.run g members fewer = some answer) : t.run g members more = some answer := by
  induction fewer generalizing t more with
  | zero => simp [run] at ended
  | succ fewer ih =>
      obtain ⟨more, rfl⟩ := Nat.exists_eq_add_of_lt (Nat.lt_of_succ_le le)
      rw [run] at ended ⊢
      cases step : t.next g members with
      | none => simpa [step] using ended
      | some outcome =>
          cases outcome with
          | error e => simpa [step] using ended
          | ok after =>
              rw [step] at ended
              exact ih (by omega) ended

/-- A walk has one answer. -/
theorem Ends.unique (ends : t.Ends g members answer) (ends' : t.Ends g members other) :
    answer = other := by
  obtain ⟨steps, ended⟩ := ends
  obtain ⟨steps', ended'⟩ := ends'
  have both := run_of_le (Nat.le_max_left steps steps') ended
  rw [run_of_le (Nat.le_max_right steps steps') ended'] at both
  exact (Option.some.inj both).symm

theorem Ends.of_next (step : t.next g members = some (.ok after))
    (ends : after.Ends g members answer) : t.Ends g members answer := by
  obtain ⟨steps, ended⟩ := ends
  refine ⟨steps + 1, ?_⟩
  rw [run, step]
  exact ended

theorem ends_of_next_eq_error (step : t.next g members = some (.error e)) :
    t.Ends g members (.error e) :=
  ⟨1, by rw [run, step]⟩

theorem ends_of_next_eq_none (step : t.next g members = none) :
    t.Ends g members (.ok t.order) :=
  ⟨1, by rw [run, step]⟩

/-! ## What stack, path and marks say about the recursion -/

/-- A traversal stands where a walk stands below a path, which is given latest first. -/
structure StandsAt (t : Traversal) (path : List Position) (w : Walk) : Prop where
  /-- The path is the same. -/
  path_eq : t.path = path.reverse
  /-- The cells of the path have been entered and not left. -/
  entered_iff : ∀ q, t.marks[q]? = some .entered ↔ q ∈ path
  /-- The cells that have been left are the finished ones. -/
  left_iff : ∀ q, t.marks[q]? = some .left ↔ q ∈ w.finished
  /-- The same cells are listed. -/
  order_eq : t.order = w.order.reverse

theorem standsAt_start (members : PositionSet) : (start members).StandsAt [] .start where
  path_eq := rfl
  entered_iff := by simp [start]
  left_iff := by simp [start, Walk.start]
  order_eq := rfl

theorem StandsAt.unfinished (stands : t.StandsAt path w) (member : q ∈ path) : q ∉ w.finished := by
  intro finished
  have entered := (stands.entered_iff q).mpr member
  rw [(stands.left_iff q).mpr finished] at entered
  cases entered

theorem StandsAt.getElem?_marks_eq_none (stands : t.StandsAt path w) (notOnPath : p ∉ path)
    (unfinished : p ∉ w.finished) : t.marks[p]? = none := by
  cases mark : t.marks[p]? with
  | none => rfl
  | some mark' =>
      cases mark' with
      | entered => exact (notOnPath ((stands.entered_iff p).mp mark)).elim
      | left => exact (unfinished ((stands.left_iff p).mp mark)).elim

theorem StandsAt.descend (stands : t.StandsAt path w) (unfinished : p ∉ w.finished) :
    (t.descend g p rest).StandsAt (p :: path) w where
  path_eq := by rw [Traversal.descend, stands.path_eq, List.reverse_cons]
  entered_iff q := by
    simp only [Traversal.descend, Std.ExtTreeMap.getElem?_insert,
      Std.LawfulEqOrd.compare_eq_iff_eq, List.mem_cons]
    split
    · rename_i same
      simp [same]
    · rename_i other
      rw [stands.entered_iff]
      simp [Ne.symm other]
  left_iff q := by
    simp only [Traversal.descend, Std.ExtTreeMap.getElem?_insert,
      Std.LawfulEqOrd.compare_eq_iff_eq]
    split
    · rename_i same
      simpa [← same] using unfinished
    · exact stands.left_iff q
  order_eq := stands.order_eq

theorem StandsAt.leave (stands : t.StandsAt (p :: path) w) (notOnPath : p ∉ path) :
    (t.leave members p rest).StandsAt path (w.finish members p) where
  path_eq := by
    rw [Traversal.leave, stands.path_eq, List.reverse_cons, List.dropLast_concat]
  entered_iff q := by
    simp only [Traversal.leave, Std.ExtTreeMap.getElem?_insert,
      Std.LawfulEqOrd.compare_eq_iff_eq]
    split
    · rename_i same
      simpa [← same] using notOnPath
    · rename_i other
      rw [stands.entered_iff, List.mem_cons]
      simp [Ne.symm other]
  left_iff q := by
    simp only [Traversal.leave, Std.ExtTreeMap.getElem?_insert,
      Std.LawfulEqOrd.compare_eq_iff_eq, Walk.mem_finished_finish]
    split
    · rename_i same
      simp [same]
    · rename_i other
      rw [stands.left_iff]
      simp [other]
  order_eq := by
    rw [Traversal.leave, Walk.finish, stands.order_eq]
    split
    · rw [List.reverse_cons]
    · rfl

theorem idxOf?_append_cons {earlier later : List Position} (fresh : p ∉ earlier) :
    (earlier ++ p :: later).idxOf? p = some earlier.length := by
  rw [List.idxOf?_eq_some_iff]
  refine ⟨by simp, by simp, fun i lt same => fresh ?_⟩
  rw [List.getElem_append_left lt] at same
  exact same ▸ List.getElem_mem lt

/-- The part of the path from a cell on is the cycle that the recursion reports. -/
theorem drop_idxOf?_reverse (distinct : path.Nodup) (member : p ∈ path) :
    path.reverse.drop ((path.reverse.idxOf? p).getD 0) ++ [p] = (cycleAt p path).path := by
  obtain ⟨earlier, path_eq⟩ := eq_takeWhile_append_of_mem member
  have fresh : p ∉ earlier.reverse := by
    rw [path_eq] at distinct
    rw [List.mem_reverse]
    exact (List.nodup_cons.mp (List.nodup_append.mp distinct).2.1).1
  have reversed : path.reverse = earlier.reverse ++ p :: (path.takeWhile (· ≠ p)).reverse := by
    conv_lhs => rw [path_eq]
    simp
  rw [reversed, idxOf?_append_cons fresh, Option.getD_some, List.drop_left, cycleAt]

/-! ## The stack does what the recursion does -/

/-- From here on the traversal does what a walk has answered: it ends with the same cycle, or it
comes to stand where the walk has ended, with the rest of the stack still to do. -/
def Imitates (g : Graph) (members : PositionSet) (t : Traversal) (path : List Position)
    (rest : List Frame) : Except CycleError Walk → Prop
  | .error e => t.Ends g members (.error e)
  | .ok w =>
    ∀ answer, (∀ after : Traversal, after.StandsAt path w → after.stack = rest →
      after.starts = t.starts → after.Ends g members answer) → t.Ends g members answer

theorem next_of_enter (stack : t.stack = .enter p :: rest) :
    t.next g members = some (t.enter g p rest) := by
  rw [next]
  split <;> simp_all

theorem next_of_leave (stack : t.stack = .leave p :: rest) :
    t.next g members = some (.ok (t.leave members p rest)) := by
  rw [next]
  split <;> simp_all

theorem visit_of_finished (finished : p ∈ before.finished) :
    g.visit members levels path before p = .ok before := by
  cases levels with
  | zero => rfl
  | succ levels => rw [visit, if_pos (Std.ExtTreeSet.contains_iff_mem.mpr finished)]

/-- If the stack imitates the visit of each of some cells, it imitates the visits of all of them in
turn, also when cells that are finished already are left out. -/
theorem imitates_foldlM {cells : List Position} {keep : Position → Bool}
    (levels_eq : levels + path.length = g.formulaCount + 1) (distinct : path.Nodup)
    (leads : ∀ q ∈ cells, g.LeadsTo path q)
    (each : ∀ q ∈ cells, ∀ {t : Traversal} {before : Walk} {rest : List Frame},
      before.Sound g members → t.StandsAt path before → t.stack = .enter q :: rest →
        t.Imitates g members path rest (g.visit members levels path before q))
    (sound : before.Sound g members) (stands : t.StandsAt path before)
    (left_out : ∀ q ∈ cells, keep q = false → q ∈ before.finished)
    (stack : t.stack = (cells.filter keep).map .enter ++ rest) :
    t.Imitates g members path rest (cells.foldlM (g.visit members levels path) before) := by
  induction cells generalizing t before with
  | nil =>
      intro answer continuation
      exact continuation t stands stack rfl
  | cons first cells ih =>
      rw [List.forall_mem_cons] at leads each left_out
      rw [List.foldlM_cons]
      cases kept : keep first with
      | false =>
          rw [visit_of_finished (left_out.1 kept)]
          rw [List.filter_cons_of_neg (by simp [kept])] at stack
          exact ih leads.2 each.2 sound stands left_out.2 stack
      | true =>
          rw [List.filter_cons_of_pos kept, List.map_cons, List.cons_append] at stack
          have visited := each.1 sound stands stack
          have answers : g.Answers members path [first] before
              (g.visit members levels path before first) :=
            answers_visit levels_eq distinct leads.1 sound fun q member => stands.unfinished member
          cases walked : g.visit members levels path before first with
          | error e =>
              rw [walked] at visited
              exact visited
          | ok middle =>
              rw [walked] at visited answers
              -- Once the first cell has been left, the others are on top of the stack.
              have later : ∀ after : Traversal, after.StandsAt path middle →
                  after.stack = (cells.filter keep).map .enter ++ rest →
                    after.Imitates g members path rest
                      (cells.foldlM (g.visit members levels path) middle) :=
                fun after after_stands after_stack =>
                  ih leads.2 each.2 answers.sound after_stands
                    (fun q member unkept => answers.kept q (left_out.2 q member unkept))
                    after_stack
              change t.Imitates g members path rest
                (cells.foldlM (g.visit members levels path) middle)
              cases walked_later : cells.foldlM (g.visit members levels path) middle with
              | error e =>
                  refine visited (.error e) fun after after_stands after_stack _ => ?_
                  have ends := later after after_stands after_stack
                  rwa [walked_later] at ends
              | ok last =>
                  intro answer continuation
                  refine visited answer fun after after_stands after_stack after_starts => ?_
                  have imitated := later after after_stands after_stack
                  rw [walked_later] at imitated
                  exact imitated answer fun final final_stands final_stack final_starts =>
                    continuation final final_stands final_stack (final_starts.trans after_starts)

/-- With a cell to visit on top, the stack imitates the visit of this cell. The induction is on the
levels of the recursion, of which there are enough. -/
theorem imitates_visit (levels_eq : levels + path.length = g.formulaCount + 1)
    (distinct : path.Nodup) (leads : g.LeadsTo path p) (sound : before.Sound g members)
    (stands : t.StandsAt path before) (stack : t.stack = .enter p :: rest) :
    t.Imitates g members path rest (g.visit members levels path before p) := by
  induction levels generalizing path p before t rest with
  | zero =>
      have bound := length_le_formulaCount distinct leads.reading
      omega
  | succ levels ih =>
      have step : t.next g members = some (t.enter g p rest) := next_of_enter stack
      by_cases finished : p ∈ before.finished
      · rw [visit_of_finished finished]
        rw [enter, (stands.left_iff p).mpr finished] at step
        intro answer continuation
        exact .of_next step (continuation _ ⟨stands.path_eq, stands.entered_iff, stands.left_iff,
          stands.order_eq⟩ rfl rfl)
      · rw [visit, if_neg (by simpa [Std.ExtTreeSet.contains_iff_mem] using finished)]
        split
        · rename_i onPath
          rw [enter, (stands.entered_iff p).mpr onPath, stands.path_eq,
            drop_idxOf?_reverse distinct onPath] at step
          exact ends_of_next_eq_error step
        · rename_i notOnPath
          rw [enter, stands.getElem?_marks_eq_none notOnPath finished] at step
          have distinct_below : (p :: path).Nodup := List.nodup_cons.mpr ⟨notOnPath, distinct⟩
          have levels_below : levels + (p :: path).length = g.formulaCount + 1 := by
            rw [List.length_cons]
            omega
          have leads_below : ∀ q ∈ (g.precedentsOf p).toList, g.LeadsTo (p :: path) q :=
            fun q member => List.isChain_cons_cons.mpr ⟨Std.ExtTreeSet.mem_toList.mp member, leads⟩
          have descended : (t.descend g p rest).StandsAt (p :: path) before :=
            stands.descend finished
          have imitated : (t.descend g p rest).Imitates g members (p :: path) (.leave p :: rest)
              ((g.precedentsOf p).toList.foldlM (g.visit members levels (p :: path)) before) := by
            apply imitates_foldlM levels_below distinct_below leads_below _ sound descended _ rfl
            · exact fun q member _ _ _ => ih levels_below distinct_below (leads_below q member)
            · exact fun q _ skipped => (descended.left_iff q).mp (by simpa [descend] using skipped)
          cases walked : (g.precedentsOf p).toList.foldlM (g.visit members levels (p :: path))
              before with
          | error e =>
              rw [walked] at imitated
              exact .of_next step imitated
          | ok w =>
              rw [walked] at imitated
              intro answer continuation
              apply Ends.of_next step
              refine imitated answer fun after after_stands after_stack after_starts => ?_
              exact .of_next (next_of_leave after_stack)
                (continuation _ (after_stands.leave notOnPath) rfl after_starts)

/-! ## The whole walk -/

/-- Where a walk from several cells is to begin, the traversal ends with its answer. -/
theorem ends_of_starts (sound : before.Sound g members) (stands : t.StandsAt [] before)
    (stack : t.stack = []) (starts_eq : t.starts = starts) :
    t.Ends g members
      ((starts.foldlM (g.visitFrom members) before).map fun w => w.order.reverse) := by
  induction starts generalizing t before with
  | nil =>
      have done : t.next g members = none := by
        rw [next]
        split <;> simp_all
      have ends := ends_of_next_eq_none done
      rw [stands.order_eq] at ends
      exact ends
  | cons first starts ih =>
      have step : t.next g members = some (.ok (t.begin first starts)) := by
        rw [next]
        split <;> simp_all
      apply Ends.of_next step
      rw [List.foldlM_cons]
      by_cases finished : first ∈ before.finished
      · have met : t.marks.contains first := by
          rw [Std.ExtTreeMap.contains_eq_isSome_getElem?, (stands.left_iff first).mpr finished]
          rfl
        rw [visitFrom, visit_of_finished finished, begin, if_pos met]
        exact ih sound ⟨stands.path_eq, stands.entered_iff, stands.left_iff, stands.order_eq⟩
          stack rfl
      · have unmet : ¬ t.marks.contains first := by
          rw [Std.ExtTreeMap.contains_eq_isSome_getElem?,
            stands.getElem?_marks_eq_none List.not_mem_nil finished]
          exact Bool.false_ne_true
        rw [begin, if_neg unmet]
        have answers : g.Answers members [] [first] before (g.visitFrom members before first) :=
          answers_visitFrom sound
        have visited :
            { t with starts, stack := [.enter first], path := [] : Traversal }.Imitates g
              members [] [] (g.visitFrom members before first) :=
          imitates_visit (by simp) List.nodup_nil (List.isChain_singleton first) sound
            ⟨rfl, stands.entered_iff, stands.left_iff, stands.order_eq⟩ rfl
        cases walked : g.visitFrom members before first with
        | error e =>
            rw [walked] at visited
            exact visited
        | ok middle =>
            rw [walked] at visited answers
            exact visited _ fun after after_stands after_stack after_starts =>
              ih answers.sound after_stands after_stack after_starts

/-- A walk with a stack ends with the calculation order or the cycle that the recursive one
finds. -/
theorem ends_start (g : Graph) (members : PositionSet) :
    (start members).Ends g members (g.calculationOrder members) := by
  rw [calculationOrder_eq]
  exact ends_of_starts (Walk.sound_start g members) (standsAt_start members) rfl rfl

end Traversal

/-! ## Orders and cycles -/

variable {members : PositionSet} {order : List Position} {p q : Position} {g : Graph}
  {e : CycleError}

/-- In a calculation order every cell comes behind those that it depends on. -/
theorem IsCalculationOrder.idxOf_lt_idxOf (sorting : g.IsCalculationOrder members order)
    (notCircular : ¬ g.Circular p) (p_member : p ∈ members) (q_member : q ∈ members)
    (path : g.DependsOn p q) : order.idxOf q < order.idxOf p := by
  have p_lt := List.idxOf_lt_length_of_mem ((sorting.mem_iff p).mpr p_member)
  have q_lt := List.idxOf_lt_length_of_mem ((sorting.mem_iff q).mpr q_member)
  by_contra behind
  rcases Nat.eq_or_lt_of_le (Nat.le_of_not_lt behind) with same | before
  · have p_eq : p = q := by
      rw [← List.getElem_idxOf p_lt, ← List.getElem_idxOf q_lt]
      simp only [same]
    exact not_dependsOn_self_of_not_circular notCircular (p_eq ▸ path)
  · have independent := List.pairwise_iff_getElem.mp sorting.sorted _ _ p_lt q_lt before
    rw [List.getElem_idxOf, List.getElem_idxOf] at independent
    exact independent path

theorem IsCycle.ends_with_cell (cycle : g.IsCycle e) :
    2 ≤ e.path.length ∧ e.path.head? = some e.cell ∧ e.path.getLast? = some e.cell := by
  obtain ⟨inner, path_eq⟩ := cycle.ends
  rw [path_eq]
  refine ⟨?_, rfl, List.getLast?_concat⟩
  simp

/-- On every graph and for all given cells, the walk with a stack ends with one answer. It is an
order exactly if no cycle can be reached from the given cells. An order lists the given cells, each
once and behind all of them that it depends on; otherwise the answer is a path around a cycle. -/
theorem orders_or_finds_cycle (g : Graph) (members : PositionSet) :
    (∀ answer, (Traversal.start members).Ends g members answer ↔
        answer = g.calculationOrder members) ∧
      ((∃ order, g.calculationOrder members = .ok order) ↔ ∀ p ∈ members, ¬ g.Circular p) ∧
      match g.calculationOrder members with
      | .ok order =>
        order.Nodup ∧ (∀ p, p ∈ order ↔ p ∈ members) ∧
          ∀ p ∈ members, ∀ q ∈ members, g.DependsOn p q → order.idxOf q < order.idxOf p
      | .error e =>
        2 ≤ e.path.length ∧ e.path.head? = some e.cell ∧ e.path.getLast? = some e.cell ∧
          e.path.IsChain g.Reads := by
  refine ⟨fun answer => ⟨fun ends => ends.unique (Traversal.ends_start g members), ?_⟩, ?_⟩
  · rintro rfl
    exact Traversal.ends_start g members
  · cases found : g.calculationOrder members with
    | ok order =>
        obtain ⟨sorting, notCircular⟩ := isCalculationOrder_of_eq_ok found
        refine ⟨⟨fun _ => notCircular, fun _ => ⟨order, rfl⟩⟩, sorting.nodup, sorting.mem_iff, ?_⟩
        intro p p_member q q_member path
        exact sorting.idxOf_lt_idxOf (notCircular p p_member) p_member q_member path
    | error e =>
        obtain ⟨cycle, -⟩ := isCycle_of_eq_error found
        obtain ⟨length, first, last⟩ := cycle.ends_with_cell
        obtain ⟨p, member, circular⟩ := exists_circular_of_eq_error found
        refine ⟨⟨?_, fun notCircular => ?_⟩, length, first, last, cycle.reads⟩
        · rintro ⟨order, ⟨⟩⟩
        · exact (notCircular p member circular).elim

end Graph
end Spreadsheet
