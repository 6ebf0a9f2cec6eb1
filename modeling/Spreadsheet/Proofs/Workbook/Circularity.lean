import Spreadsheet.Proofs.Workbook.Consistency
import Spreadsheet.Proofs.Workbook.Run

/-!
# Circular formulas

In automatic mode a formula from which a cycle can be reached always holds the error for circular
references, however the cycle has come about. The converse fails: when the readers of a cell reach
a cycle, those of them that reach none are marked as well, and breaking the cycle evaluates only
the readers of the edited cell again.
-/

namespace Spreadsheet

theorem CellValue.error?_eq_some_iff {value : CellValue} {code : ErrorCode} :
    value.error? = some code ↔ value = .error code := by
  cases value <;> simp [CellValue.error?]

instance {value : CellValue} {code : ErrorCode} : Decidable (value = .error code) :=
  decidable_of_iff _ CellValue.error?_eq_some_iff

/-- If the cell has a formula, it holds the error for circular references. -/
def Record.HoldsCircular (r : Record) : Prop :=
  ∀ cell, r.cell = some cell → cell.isFormula →
    cell.value = .error .circular ∧ cell.error = some .circular

namespace Workbook

variable {w : Workbook} {p q : Position} {text formula : String} {cell : Cell}

/-- Every formula from which a cycle can be reached holds the error for circular references. -/
def ShowsCycles (w : Workbook) : Prop := ∀ p, w.graph.Circular p → (w.record p).HoldsCircular

theorem holdsCircular_of_no_formula (absent : w.formula? p = none) :
    (w.record p).HoldsCircular := by
  intro cell present computes
  obtain ⟨formula, own⟩ := Option.isSome_iff_exists.mp computes
  rw [formula?_of_cell present own] at absent
  contradiction

theorem holdsCircular_of_withResult {before : Cell}
    (present : w.get? p = some (before.withResult (.error .circular))) :
    (w.record p).HoldsCircular := by
  intro cell stored _
  have same : before.withResult (.error .circular) = cell :=
    Option.some.inj (present.symm.trans stored)
  rw [← same]
  exact ⟨rfl, rfl⟩

/-! ## Marking -/

theorem holdsCircular_storeResult (w : Workbook) (p : Position) :
    ((w.storeResult p (.error .circular)).record p).HoldsCircular := by
  cases stored : w.formula? p with
  | none => exact holdsCircular_of_no_formula ((formula?_storeResult w p p _).trans stored)
  | some formula =>
      obtain ⟨cell, present, own⟩ := exists_cell_of_formula? stored
      exact holdsCircular_of_withResult (get?_storeResult present own)

/-- When cells are evaluated again and one of them reaches a cycle, all of them are marked. -/
theorem holdsCircular_recalculateCells_of_mem {members : PositionSet} (member : p ∈ members)
    (cyclic : q ∈ members) (circular : w.graph.Circular q) :
    ((w.recalculateCells members).record p).HoldsCircular := by
  rw [recalculateCells]
  cases found : w.graph.calculationOrder members with
  | ok order => exact ((Graph.isCalculationOrder_of_eq_ok found).2 q cyclic circular).elim
  | error cycle =>
      apply ChangesOnly.foldl_establishes (fun _ _ => True) (fun _ r => r.HoldsCircular)
      · exact Graph.nodup_toList members
      · exact fun w p _ => ChangesOnly.storeResult w p _
      · exact fun w p _ _ => holdsCircular_storeResult w p
      · exact fun p _ => trivial
      · exact Std.ExtTreeSet.mem_toList.mpr member

theorem holdsCircular_recalculateCells {members : PositionSet} (member : p ∈ members)
    (circular : w.graph.Circular p) : ((w.recalculateCells members).record p).HoldsCircular :=
  holdsCircular_recalculateCells_of_mem member member circular

/-- After all formulas have been evaluated again, every cycle shows. -/
theorem showsCycles_recalculate (w : Workbook) : w.recalculate.ShowsCycles := by
  intro p circular
  rw [recalculate] at circular ⊢
  rw [graph_recalculateCells] at circular
  by_cases member : p ∈ (.ofList w.sheet.formulas : PositionSet)
  · exact holdsCircular_recalculateCells member circular
  · apply holdsCircular_of_no_formula
    rw [formula?, (ChangesOnly.recalculateCells w _).record p member]
    rw [Std.ExtTreeSet.mem_ofList, List.contains_iff_mem, Sheet.mem_formulas_iff,
      Option.not_isSome_iff_eq_none] at member
    exact member

/-! ## Actions -/

/-- What is typed in is marked if it reaches a cycle. -/
theorem holdsCircular_enter (p : Position) (text : String)
    (circular : (w.enter p text).graph.Circular p) :
    ((w.enter p text).record p).HoldsCircular := by
  rw [enter] at circular ⊢
  split
  · rename_i rest trimmed
    rw [trimmed] at circular
    exact holdsCircular_of_withResult (get?_enterFormula_of_circular circular)
  · exact holdsCircular_of_no_formula (formula?_enterValue w p text)

/-- An edit reaches every cell that has come to reach a cycle; the others were marked before. -/
theorem ShowsCycles.edit (shown : w.ShowsCycles) (tracked : w.Tracked)
    (automatic : w.settings.mode = .automatic) (p : Position) (text : String) :
    (w.edit p text).ShowsCycles := by
  intro q circular
  by_cases reached : q ∈ w.reachedBy p text
  · rw [graph_edit] at circular
    rw [edit_of_automatic automatic, recalculateReaders]
    -- Of the cells reached only the edited one may be no reader of it.
    by_cases member : q ∈ (w.enter p text).graph.allReaders p
    · exact holdsCircular_recalculateCells member circular
    · rw [(ChangesOnly.recalculateCells _ _).record q member]
      obtain rfl : q = p :=
        reached.resolve_right fun path => member (tracked.mem_allReaders_enter.mpr path)
      exact holdsCircular_enter q text circular
  · rw [(tracked.changesOnly_edit p text).record q reached]
    exact shown q ((circular_edit_iff reached).mp circular)

theorem ShowsCycles.shift (shown : w.ShowsCycles) (edit : Shift) : (w.shift edit).ShowsCycles := by
  rw [Workbook.shift]
  split
  · exact shown
  · rename_i moves
    rw [updateReferences, if_neg moves]
    exact showsCycles_recalculate _

theorem ShowsCycles.perform (shown : w.ShowsCycles) (tracked : w.Tracked)
    (automatic : w.settings.mode = .automatic) {action : Action} (keeps : action.keepsMode) :
    (w.perform action).ShowsCycles := by
  apply perform_keeps
  · exact shown.edit tracked automatic
  · exact shown.shift
  · exact showsCycles_recalculate w
  · exact showsCycles_recalculate _
  · exact fun other => (other keeps).elim

theorem ShowsCycles.run (shown : w.ShowsCycles) (tracked : w.Tracked)
    (automatic : w.settings.mode = .automatic) {actions : List Action}
    (keep : ∀ action ∈ actions, action.keepsMode) : (w.run actions).ShowsCycles := by
  -- An action keeps the cycles shown only where the graph is right and readers follow at once.
  have kept : (w.run actions).ShowsCycles ∧ (w.run actions).Tracked ∧
      (w.run actions).settings.mode = .automatic := by
    apply run_keeps (motive := fun w => w.ShowsCycles ∧ w.Tracked ∧ w.settings.mode = .automatic) _
      ⟨shown, tracked, automatic⟩
    rintro action member w ⟨shown, tracked, automatic⟩
    refine ⟨shown.perform tracked automatic (keep action member), tracked.perform action, ?_⟩
    rw [(ChangesOnly.perform (keep action member) w).settings, automatic]
  exact kept.1

theorem showsCycles_empty (library : Library) (settings : Settings) :
    (empty library settings).ShowsCycles := by
  intro p _ cell present
  simp [record, get?, empty] at present

/-- In automatic mode, whatever is done with an empty workbook, a formula from which a cycle can be
reached holds the error for circular references. -/
theorem circular_of_reaches_cycle {library : Library} {settings : Settings} {actions : List Action}
    (automatic : settings.mode = .automatic) (keep : ∀ action ∈ actions, action.keepsMode)
    (present : ((empty library settings).run actions).get? p = some cell)
    (computes : cell.isFormula)
    (circular : ((empty library settings).run actions).graph.Circular p) :
    cell.value = .error .circular ∧ cell.error = some .circular :=
  ((showsCycles_empty library settings).run (tracked_empty library settings) automatic keep)
    p circular cell present computes

/-- Two cells that read each other, and a third one that reads the first. -/
theorem circular_below_cycle_of_two :
    ∃ cell, ((empty (.standard ⟨⟨2000, 1, 1⟩, 0⟩) .default).run
        [.edit ⟨0, 0⟩ "=B1", .edit ⟨1, 0⟩ "=A1", .edit ⟨2, 0⟩ "=A1"]).get? ⟨2, 0⟩ = some cell ∧
      cell.value = .error .circular ∧ cell.error = some .circular := by
  have computes : (((empty (.standard ⟨⟨2000, 1, 1⟩, 0⟩) .default).run
      [.edit ⟨0, 0⟩ "=B1", .edit ⟨1, 0⟩ "=A1", .edit ⟨2, 0⟩ "=A1"]).get? ⟨2, 0⟩).any
        Cell.isFormula = true := by decide +kernel
  obtain ⟨cell, present, computes⟩ := (Option.any_eq_true _ _).mp computes
  refine ⟨cell, present, ?_⟩
  exact circular_of_reaches_cycle rfl (by decide) present computes (by decide +kernel)

/-! ## Breaking a cycle -/

/-- A formula holds the error for circular references but evaluates to something else. -/
def Leftover (w : Workbook) (p : Position) : Prop :=
  ∃ cell formula, w.get? p = some cell ∧ cell.formula = some formula ∧
    cell.value = .error .circular ∧ w.ownValue formula ≠ .error .circular

theorem Consistent.not_leftover (consistent : w.Consistent p) : ¬ w.Leftover p := by
  rintro ⟨cell, formula, present, own, marked, differs⟩
  exact differs ((consistent cell formula present own).symm.trans marked)

theorem ChangesOnly.leftover_iff {cells : Set Position} {before after : Workbook}
    (change : ChangesOnly cells before after) (tracked : before.Tracked) (other : q ∉ cells)
    (unread : ∀ r, before.graph.Reads q r → r ∉ cells) : after.Leftover q ↔ before.Leftover q := by
  rw [Leftover, Leftover, change.get?_eq other]
  refine exists_congr fun cell => exists_congr fun formula => ?_
  refine and_congr_right fun present => and_congr_right fun own => ?_
  rw [change.ownValue_eq tracked (formula?_of_cell present own) unread]

/-- What is left over when an edit has broken the last cycle: marks on cells that the edit does not
reach and that reached no cycle before. -/
theorem Tracked.leftover_edit_iff (tracked : w.Tracked) (automatic : w.settings.mode = .automatic)
    (acyclic : (w.edit p text).graph.Acyclic) :
    (w.edit p text).Leftover q ↔
      w.Leftover q ∧ ¬ w.graph.Circular q ∧ q ∉ w.reachedBy p text := by
  have notCircular := Graph.acyclic_iff_forall_not_circular.mp acyclic
  by_cases reached : q ∈ w.reachedBy p text
  · have consistent : (w.edit p text).Consistent q :=
      tracked.consistent_edit_of_reached automatic (fun r _ => notCircular r) reached
    constructor
    · exact fun leftover => (consistent.not_leftover leftover).elim
    · exact fun ⟨_, _, outside⟩ => (outside reached).elim
  · have same : (w.edit p text).Leftover q ↔ w.Leftover q :=
      (tracked.changesOnly_edit p text).leftover_iff tracked reached
        fun r reads => not_reached_of_reads reached reads
    have q_notCircular : ¬ w.graph.Circular q := fun circular =>
      notCircular q ((circular_edit_iff reached).mpr circular)
    rw [same]
    exact ⟨fun leftover => ⟨leftover, q_notCircular, reached⟩, And.left⟩

/-- In automatic mode an edit that breaks the last cycle leaves no mark behind exactly if it
reaches every cell that was marked without due and without reaching a cycle. -/
theorem no_leftover_edit_iff {library : Library} {settings : Settings} {actions : List Action}
    (automatic : settings.mode = .automatic) (keep : ∀ action ∈ actions, action.keepsMode)
    (p : Position) (text : String)
    (acyclic : (((empty library settings).run actions).edit p text).graph.Acyclic) :
    (∀ q, ¬ (((empty library settings).run actions).edit p text).Leftover q) ↔
      ∀ q, ((empty library settings).run actions).Leftover q →
        ¬ ((empty library settings).run actions).graph.Circular q →
          q ∈ ((empty library settings).run actions).reachedBy p text := by
  have tracked := tracked_run_empty library settings actions
  have still_automatic : ((empty library settings).run actions).settings.mode = .automatic :=
    (congrArg Settings.mode (settings_run keep _)).trans automatic
  simp only [tracked.leftover_edit_iff still_automatic acyclic, not_and, not_not]

instance : Decidable (w.Leftover p) :=
  decidable_of_iff
    ((w.get? p).any fun cell => cell.formula.any fun formula =>
      decide (cell.value = .error .circular ∧ w.ownValue formula ≠ .error .circular))
    (by simp [Leftover, Option.any_eq_true])

/-- Of two cells that read each other, one recovers when the other gets a value. -/
theorem not_leftover_of_broken_cycle_of_two :
    ¬ (((empty (.standard ⟨⟨2000, 1, 1⟩, 0⟩) .default).run
      [.edit ⟨0, 0⟩ "=B1", .edit ⟨1, 0⟩ "=A1"]).edit ⟨1, 0⟩ "TRUE").Leftover ⟨0, 0⟩ := by
  refine (no_leftover_edit_iff rfl (by decide) ⟨1, 0⟩ "TRUE" (by decide +kernel)).mpr ?_ ⟨0, 0⟩
  rintro q ⟨cell, formula, present, _⟩ notCircular
  have circular : ∀ q ∈ ((empty (.standard ⟨⟨2000, 1, 1⟩, 0⟩) .default).run
      [.edit ⟨0, 0⟩ "=B1", .edit ⟨1, 0⟩ "=A1"]).sheet.positions,
      ((empty (.standard ⟨⟨2000, 1, 1⟩, 0⟩) .default).run
        [.edit ⟨0, 0⟩ "=B1", .edit ⟨1, 0⟩ "=A1"]).graph.Circular q := by decide +kernel
  exact (notCircular (circular q (Sheet.mem_positions_iff.mpr ⟨cell, present⟩))).elim

/-- Breaking the last cycle does not always recover all formulas. Here the formula in `C1` reads
`A1` and itself, the one in `B1` reads `A1` only. An edit of `A1` marks both; emptying `C1` breaks
the cycle and does not reach `B1`. -/
theorem not_forall_no_leftover :
    ¬ ∀ actions : List Action, (∀ action ∈ actions, action.keepsMode) → ∀ p text,
      ¬ ((empty (.standard ⟨⟨2000, 1, 1⟩, 0⟩) .default).run actions).graph.Acyclic →
      (((empty (.standard ⟨⟨2000, 1, 1⟩, 0⟩) .default).run actions).edit p text).graph.Acyclic →
      ∀ q, ¬ Leftover
        (((empty (.standard ⟨⟨2000, 1, 1⟩, 0⟩) .default).run actions).edit p text) q := by
  intro recovers
  exact recovers [.edit ⟨1, 0⟩ "=A1", .edit ⟨2, 0⟩ "=A1=C1", .edit ⟨0, 0⟩ "TRUE"] (by decide)
    ⟨2, 0⟩ "" (by decide +kernel) (by decide +kernel) ⟨1, 0⟩ (by decide +kernel)

end Workbook
end Spreadsheet
