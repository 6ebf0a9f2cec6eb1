import Spreadsheet.Proofs.Workbook.Shifting

/-!
# What is stored

A stored cell always holds something: a typed-in value, which is no error, or the result of its
formula with the error that this result is. Typing keeps this for the cell concerned. Loading and
relocating write formulas without a new result, but evaluate all formulas afterwards, in their
order or, if there is a cycle, by marking every one of them.
-/

namespace Spreadsheet

variable {c : Cell} {value : CellValue} {text : String}

/-! ## Cells -/

/-- The cell holds a typed-in value or the result of its formula. -/
structure Cell.IsComplete (c : Cell) : Prop where
  /-- The value is no blank. -/
  filled : c.value ≠ .blank
  /-- The error is the one that the value is. -/
  inStep : c.InStep
  /-- A typed-in value is no error. -/
  typed : c.formula = none → ∀ code, c.value ≠ .error code

theorem Cell.isComplete_withResult (computes : c.formula.isSome) (filled : value ≠ .blank) :
    (c.withResult value).IsComplete where
  filled := filled
  inStep := inStep_withResult
  typed own := by
    rw [show c.formula = none from own] at computes
    contradiction

theorem Entry.isComplete_cell (filled : ¬ (cell text).value.isBlank) : (cell text).IsComplete where
  filled blank := filled (by rw [blank]; rfl)
  inStep := inStep_cell text
  typed _ code entered := by
    have no_error := error?_value text
    rw [show value text = .error code from entered] at no_error
    cases no_error

theorem Value.stored_ne_blank (v : Value) : v.stored ≠ .blank := by
  rw [stored]
  split
  · exact CellValue.noConfusion
  · assumption

/-- If the cell has a formula, it holds its result. -/
def Record.IsCalculated (r : Record) : Prop :=
  ∀ cell, r.cell = some cell → cell.formula.isSome → cell.IsComplete

namespace Workbook

variable {w before after : Workbook} {p : Position} {members : PositionSet}
  {allowed : Change → Prop}

/-! ## Evaluating formulas -/

theorem treeValue_ne_blank (w : Workbook) (p : Position) : w.treeValue p ≠ .blank := by
  rw [treeValue]
  split
  · exact Value.stored_ne_blank _
  · exact CellValue.noConfusion

theorem isCalculated_of_no_formula (absent : w.formula? p = none) : (w.record p).IsCalculated := by
  intro cell present computes
  obtain ⟨formula, own⟩ := Option.isSome_iff_exists.mp computes
  rw [formula?_of_cell present own] at absent
  contradiction

theorem isCalculated_of_withResult (present : w.get? p = some (c.withResult value))
    (filled : value ≠ .blank) : (w.record p).IsCalculated := by
  intro cell stored computes
  obtain rfl : c.withResult value = cell := Option.some.inj (present.symm.trans stored)
  exact Cell.isComplete_withResult computes filled

theorem isCalculated_storeResult (w : Workbook) (p : Position) (filled : value ≠ .blank) :
    ((w.storeResult p value).record p).IsCalculated := by
  cases stored : w.formula? p with
  | none => exact isCalculated_of_no_formula ((formula?_storeResult w p p _).trans stored)
  | some formula =>
      obtain ⟨cell, present, own⟩ := exists_cell_of_formula? stored
      exact isCalculated_of_withResult (get?_storeResult present own) filled

theorem isCalculated_recalculateCell (w : Workbook) (p : Position) :
    ((w.recalculateCell p).record p).IsCalculated := by
  cases stored : w.formula? p with
  | none => exact isCalculated_of_no_formula ((formula?_recalculateCell w p p).trans stored)
  | some formula =>
      obtain ⟨cell, present, own⟩ := exists_cell_of_formula? stored
      exact isCalculated_of_withResult (get?_recalculateCell present own) (treeValue_ne_blank w p)

/-- Evaluating formulas again gives each of them a result, whether their cells can be put in order
or not. -/
theorem isCalculated_recalculateCells (member : p ∈ members) :
    ((w.recalculateCells members).record p).IsCalculated := by
  rw [recalculateCells]
  cases found : w.graph.calculationOrder members with
  | ok order =>
      have sorting := (Graph.isCalculationOrder_of_eq_ok found).1
      apply ChangesOnly.foldl_establishes (fun _ _ => True) (fun _ r => r.IsCalculated)
      · exact sorting.nodup
      · exact fun w p _ => ChangesOnly.recalculateCell w p
      · exact fun w p _ _ => isCalculated_recalculateCell w p
      · exact fun p _ => trivial
      · exact (sorting.mem_iff p).mpr member
  | error cycle =>
      apply ChangesOnly.foldl_establishes (fun _ _ => True) (fun _ r => r.IsCalculated)
      · exact Graph.nodup_toList members
      · exact fun w p _ => ChangesOnly.storeResult w p _
      · exact fun w p _ _ => isCalculated_storeResult w p CellValue.noConfusion
      · exact fun p _ => trivial
      · exact Std.ExtTreeSet.mem_toList.mpr member

/-! ## Typed-in values -/

/-- What is stored without a formula was stored before, at the same place. -/
def KeepsValues (before after : Workbook) : Prop :=
  ∀ p cell, after.get? p = some cell → cell.formula = none → before.get? p = some cell

theorem keepsValues_foldl {step : Workbook → Position → Workbook}
    (each : ∀ w p, KeepsValues w (step w p)) (w : Workbook) (list : List Position) :
    KeepsValues w (list.foldl step w) := by
  apply List.foldlRecOn (motive := fun after => KeepsValues w after) list step
  · exact fun p cell present _ => present
  · intro after keeps p _ q cell present own
    exact keeps q cell (each after p q cell present own) own

theorem keepsValues_setCell (computes : c.formula.isSome) : KeepsValues w (w.setCell p c) := by
  intro q stored present own
  rw [get?_setCell] at present
  split at present
  · obtain rfl := Option.some.inj present
    rw [own] at computes
    contradiction
  · exact present

/-- Where there is no formula, the input is what is stored. -/
theorem keepsValues_of_input_eq (same : ∀ p, after.input p = before.input p) :
    KeepsValues before after := by
  intro p cell present own
  have absent : after.formula? p = none := by
    rw [formula?_eq, present]
    exact own
  have absent_before : before.formula? p = none := (formula?_congr (same p)).symm.trans absent
  rw [← input_of_no_formula absent_before, ← same p, input_of_no_formula absent]
  exact present

/-! ## Complete workbooks -/

/-- Every stored cell holds something. -/
def IsComplete (w : Workbook) : Prop := ∀ p cell, w.get? p = some cell → cell.IsComplete

/-- Every stored cell without a formula holds something. -/
def HasValues (w : Workbook) : Prop :=
  ∀ p cell, w.get? p = some cell → cell.formula = none → cell.IsComplete

theorem IsComplete.hasValues (complete : w.IsComplete) : w.HasValues :=
  fun p cell present _ => complete p cell present

theorem HasValues.of_keepsValues (values : before.HasValues) (keeps : KeepsValues before after) :
    after.HasValues :=
  fun p cell present own => values p cell (keeps p cell present own) own

/-- When all cells without a result are evaluated again, all cells hold something. -/
theorem HasValues.isComplete_recalculateCells (values : w.HasValues)
    (others : ∀ p cell, p ∉ members → w.get? p = some cell → cell.IsComplete) :
    (w.recalculateCells members).IsComplete := by
  intro p cell present
  by_cases member : p ∈ members
  · cases own : cell.formula with
    | some formula =>
        exact isCalculated_recalculateCells member cell present (by rw [own, Option.isSome_some])
    | none =>
        have keeps : KeepsValues w (w.recalculateCells members) :=
          keepsValues_of_input_eq fun q => input_recalculateCells w members
        exact values p cell (keeps p cell present own) own
  · rw [(ChangesOnly.recalculateCells w members).get?_eq member] at present
    exact others p cell member present

theorem HasValues.recalculate (values : w.HasValues) : w.recalculate.IsComplete := by
  apply values.isComplete_recalculateCells
  intro p cell outside present
  rw [mem_ofList_formulas_iff, Option.not_isSome_iff_eq_none, formula?_eq, present] at outside
  exact values p cell present outside

/-! ## Typing -/

theorem IsComplete.setCell (complete : w.IsComplete) (c_complete : c.IsComplete) :
    (w.setCell p c).IsComplete := by
  intro q stored present
  rw [get?_setCell] at present
  split at present
  · exact Option.some.inj present ▸ c_complete
  · exact complete q stored present

theorem IsComplete.removeCell (complete : w.IsComplete) : (w.removeCell p).IsComplete := by
  intro q cell present
  rw [get?, Workbook.removeCell, Sheet.get?_erase] at present
  split at present
  · contradiction
  · exact complete q cell present

theorem IsComplete.enter (complete : w.IsComplete) (p : Position) (text : String) :
    (w.enter p text).IsComplete := by
  have untracked : (w.untrack p).IsComplete := complete
  rw [enter_eq]
  split
  · rw [enterFormula]
    dsimp only
    split
    · exact untracked.setCell (Cell.isComplete_withResult rfl CellValue.noConfusion)
    · rename_i e _
      have tracked : (w.track p e).IsComplete := complete
      apply tracked.setCell (Cell.isComplete_withResult rfl _)
      split
      · exact CellValue.noConfusion
      · exact Value.stored_ne_blank _
  · rw [enterValue]
    split
    · exact untracked.removeCell
    · rename_i filled
      exact untracked.setCell (Entry.isComplete_cell filled)

theorem IsComplete.edit (complete : w.IsComplete) (p : Position) (text : String) :
    (w.edit p text).IsComplete := by
  have entered := complete.enter p text
  rw [Workbook.edit]
  split
  · exact entered.hasValues.isComplete_recalculateCells fun q cell _ => entered q cell
  · exact entered

/-! ## Loading and relocating -/

/-- Loading makes formulas of values, but no values. -/
theorem keepsValues_loadCell (w : Workbook) (p : Position) : KeepsValues w (w.loadCell p) := by
  rw [loadCell]
  split
  · exact fun q cell present _ => present
  · rename_i cell _
    split
    · exact fun q cell present _ => present
    · rename_i formula _
      have stored :
          KeepsValues w (if cell.isFormula then w else w.setCell p (.ofFormula formula)) := by
        split
        · exact fun q cell present _ => present
        · exact keepsValues_setCell rfl
      dsimp only
      split <;> exact stored

theorem keepsValues_relocateCell (edit : Shift) (w : Workbook) (p : Position) :
    KeepsValues w (w.relocateCell edit p) := by
  rw [relocateCell]
  split
  · exact fun q cell present _ => present
  · split
    · exact fun q cell present _ => present
    · dsimp only
      split
      · exact keepsValues_setCell (w := w.track p _) rfl
      · exact keepsValues_setCell (w := w.untrack p) rfl

theorem HasValues.load (values : w.HasValues) : w.load.IsComplete := by
  rw [Workbook.load]
  apply HasValues.recalculate
  exact HasValues.of_keepsValues values (keepsValues_foldl keepsValues_loadCell _ _)

theorem IsComplete.updateReferences (complete : w.IsComplete) (edit : Shift) :
    (w.updateReferences edit).IsComplete := by
  rw [Workbook.updateReferences]
  split
  · exact complete
  · apply HasValues.recalculate
    exact HasValues.of_keepsValues complete.hasValues
      (keepsValues_foldl (keepsValues_relocateCell edit) _ _)

theorem IsComplete.shift (complete : w.IsComplete) (edit : Shift) : (w.shift edit).IsComplete := by
  rw [Workbook.shift]
  split
  · exact complete
  · rename_i moves
    apply IsComplete.updateReferences
    intro q cell present
    obtain ⟨p, _, present⟩ := (Sheet.get?_shift_eq_some_iff moves).mp present
    exact complete p cell present

/-! ## Runs -/

theorem isComplete_empty (library : Library) (settings : Settings) :
    (empty library settings).IsComplete := by
  intro p cell present
  simp [get?, empty] at present

theorem IsComplete.perform (complete : w.IsComplete) (action : Action) :
    (w.perform action).IsComplete := by
  apply perform_keeps
  · exact complete.edit
  · exact complete.shift
  · exact complete.hasValues.recalculate
  · exact complete.hasValues.load
  · exact fun _ _ => complete

theorem IsComplete.undergo (complete : w.IsComplete) (c : Change) : (w.undergo c).IsComplete := by
  cases c with
  | act action => exact complete.perform action
  | define d => exact complete
  | updateReferences edit => exact complete.updateReferences edit

theorem ComesFromEmpty.isComplete (comes : w.ComesFromEmpty allowed) : w.IsComplete :=
  comes.invariant isComplete_empty fun _ c _ complete => complete.undergo c

theorem IsComplete.valueAt_eq_blank_iff (complete : w.IsComplete) :
    w.valueAt p = .blank ↔ w.get? p = none := by
  rw [valueAt, Sheet.valueAt, show w.sheet.get? p = w.get? p from rfl]
  cases present : w.get? p with
  | none => exact ⟨fun _ => rfl, fun _ => rfl⟩
  | some cell =>
      constructor
      · exact fun blank => ((complete p cell present).filled blank).elim
      · exact fun absent => (Option.some_ne_none cell absent).elim

/-- Whatever changes an empty workbook, no stored cell is blank, its error is the one that its
value is, and without a formula it holds no error. So exactly the blank positions are not
stored. -/
theorem stored_cells_hold_results (comes : w.ComesFromEmpty allowed) (p : Position) :
    (∀ cell, w.get? p = some cell → cell.value ≠ .blank ∧ cell.error = cell.value.error? ∧
        (cell.formula = none → ∀ code, cell.value ≠ .error code)) ∧
      (w.valueAt p = .blank ↔ w.get? p = none) := by
  have complete := comes.isComplete
  refine ⟨fun cell present => ?_, complete.valueAt_eq_blank_iff⟩
  obtain ⟨filled, inStep, typed⟩ := complete p cell present
  exact ⟨filled, inStep, typed⟩

/-- Formulas that read each other and one that cannot be read have results, also after the
references are updated for a row below them. -/
theorem stored_cells_hold_results_of_cycle :
    let w := ((empty .empty ⟨.manual, 4⟩).run
      [.edit ⟨0, 0⟩ "=B1", .edit ⟨1, 0⟩ "=A1", .edit ⟨2, 0⟩ "=1+", .load]).updateReferences
        ⟨.row, 5, 1⟩
    ∀ p ∈ [(⟨0, 0⟩ : Position), ⟨1, 0⟩, ⟨2, 0⟩], ∃ cell, w.get? p = some cell ∧
      cell.value ≠ .blank ∧ cell.error = cell.value.error? ∧ w.valueAt p ≠ .blank := by
  intro w p member
  have comes : w.ComesFromEmpty fun _ => True :=
    .undergo (.run (.empty _ _) (fun _ => trivial) _) (c := .updateReferences _) trivial
  have stored : ∀ p ∈ [(⟨0, 0⟩ : Position), ⟨1, 0⟩, ⟨2, 0⟩], (w.get? p).isSome := by decide +kernel
  have present := stored p member
  obtain ⟨cells, blank_iff⟩ := stored_cells_hold_results comes p
  obtain ⟨cell, at_p⟩ := Option.isSome_iff_exists.mp present
  have filled : w.valueAt p ≠ .blank := by
    intro blank
    rw [blank_iff.mp blank] at present
    contradiction
  exact ⟨cell, at_p, (cells cell at_p).1, (cells cell at_p).2.1, filled⟩

end Workbook
end Spreadsheet
