import Spreadsheet.Proofs.Extent
import Spreadsheet.Proofs.Workbook.Reach
import Spreadsheet.Proofs.Workbook.Run

/-!
# Inputs and results

What a cell holds is either typed in or calculated. The inputs of a workbook are the values and the
formula texts without any results; recalculation leaves them as they are. The results are kept in
order: the error of a cell is always the one that its value is, and the extent of the sheet is
always the one in use.
-/

namespace Spreadsheet

/-! ## Cells -/

namespace Cell

/-- The cell as it was before its formula was calculated; a value stays as it is. -/
def uncalculated (c : Cell) : Cell :=
  match c.formula with
  | some formula => .ofFormula formula
  | none => c

/-- The error of the cell is the one that its value is. -/
def InStep (c : Cell) : Prop := c.error = c.value.error?

variable {c d : Cell} {formula : String}

@[simp] theorem formula_uncalculated : c.uncalculated.formula = c.formula := by
  rw [uncalculated]
  split
  · rename_i formula own
    exact own.symm
  · rfl

theorem uncalculated_of_formula (own : c.formula = some formula) :
    c.uncalculated = ofFormula formula := by
  rw [uncalculated, own]

theorem uncalculated_of_value (own : c.formula = none) : c.uncalculated = c := by
  rw [uncalculated, own]

/-- Formulas with the same text differ in their results only, and values do not differ at all. -/
theorem eq_of_uncalculated_eq (same : c.uncalculated = d.uncalculated) (c_inStep : c.InStep)
    (d_inStep : d.InStep) (value : c.formula.isSome → c.value = d.value) : c = d := by
  have formula_eq : c.formula = d.formula := by
    rw [← formula_uncalculated, same, formula_uncalculated]
  cases own : c.formula with
  | none =>
      rw [uncalculated_of_value own, uncalculated_of_value (formula_eq ▸ own)] at same
      exact same
  | some formula =>
      have value_eq : c.value = d.value := value (by rw [own, Option.isSome_some])
      rw [InStep, value_eq] at c_inStep
      obtain ⟨_, _, _⟩ := c
      obtain ⟨_, _, _⟩ := d
      rw [Cell.mk.injEq]
      exact ⟨formula_eq, value_eq, c_inStep.trans d_inStep.symm⟩

theorem inStep_withResult {value : CellValue} : (c.withResult value).InStep := rfl

theorem inStep_ofFormula : (ofFormula formula).InStep := rfl

end Cell

namespace Entry

/-- The formula that a typed-in text is. -/
def formula? (text : String) : Option String :=
  match Text.trimList text.toList with
  | '=' :: rest => some (String.ofList ('=' :: rest))
  | _ => none

/-- What is stored for a typed-in text before anything is calculated. -/
def input? (text : String) : Option Cell :=
  match formula? text with
  | some formula => some (.ofFormula formula)
  | none => if (cell text).value.isBlank then none else some (cell text)

/-- A typed-in value is never an error. -/
theorem error?_value (text : String) : (value text).error? = none := by
  rw [value]
  split
  · rfl
  · split
    · rfl
    · split <;> rfl

theorem inStep_cell (text : String) : (cell text).InStep := (error?_value text).symm

end Entry

/-! ## Sheets -/

namespace Sheet

variable {s : Sheet} {p : Position} {cell : Cell}

/-- The extent is the one in use, and the error of every cell is the one that its value is. -/
structure WellKept (s : Sheet) : Prop where
  /-- The extent is the one in use. -/
  fitted : s.Fitted
  /-- Errors and values are in step. -/
  inStep : ∀ p cell, s.get? p = some cell → cell.InStep

theorem wellKept_empty : empty.WellKept where
  fitted := fitted_empty
  inStep p cell present := by simp at present

theorem WellKept.set (kept : s.WellKept) (p : Position) (inStep : cell.InStep) :
    (s.set p cell).WellKept where
  fitted := kept.fitted.set p cell
  inStep q stored present := by
    rw [get?_set] at present
    split at present
    · exact Option.some.inj present ▸ inStep
    · exact kept.inStep q stored present

theorem WellKept.erase (kept : s.WellKept) (p : Position) : (s.erase p).WellKept where
  fitted := kept.fitted.erase p
  inStep q stored present := by
    rw [get?_erase] at present
    split at present
    · contradiction
    · exact kept.inStep q stored present

theorem WellKept.shift (kept : s.WellKept) (edit : Shift) : (s.shift edit).WellKept where
  fitted := kept.fitted.shift edit
  inStep q stored present := by
    by_cases moves : edit.delta = 0
    · rw [Sheet.shift, if_pos moves] at present
      exact kept.inStep q stored present
    · obtain ⟨p, _, present⟩ := (get?_shift_eq_some_iff moves).mp present
      exact kept.inStep p stored present

end Sheet

namespace Workbook

variable {w : Workbook} {p q : Position} {text formula : String} {cell : Cell}

/-- What a position holds, results apart. -/
def input (w : Workbook) (p : Position) : Option Cell := (w.get? p).map Cell.uncalculated

theorem formula?_eq_input (w : Workbook) (p : Position) :
    w.formula? p = (w.input p).bind Cell.formula := by
  rw [formula?_eq, input]
  cases w.get? p with
  | none => rfl
  | some cell => exact Cell.formula_uncalculated.symm

theorem formula?_congr {w' : Workbook} (same : w'.input p = w.input p) :
    w'.formula? p = w.formula? p := by
  rw [formula?_eq_input, formula?_eq_input, same]

/-- Only the inputs of a formula can differ from what is stored. -/
theorem input_of_no_formula (absent : w.formula? p = none) : w.input p = w.get? p := by
  rw [formula?_eq] at absent
  rw [input]
  cases present : w.get? p with
  | none => rfl
  | some cell =>
      rw [present, Option.bind_some] at absent
      exact congrArg some (Cell.uncalculated_of_value absent)

/-! ## Inputs -/

theorem input_setCell : (w.setCell p cell).input q =
    if p = q then some cell.uncalculated else w.input q := by
  rw [input, get?_setCell]
  split <;> rfl

@[simp] theorem input_storeResult (w : Workbook) (p q : Position) (value : CellValue) :
    (w.storeResult p value).input q = w.input q := by
  rw [storeResult]
  split
  · rename_i cell present
    split
    · rename_i computes
      obtain ⟨formula, own⟩ := Option.isSome_iff_exists.mp computes
      have same : (cell.withResult value).uncalculated = cell.uncalculated := by
        rw [Cell.uncalculated_of_formula own]
        exact Cell.uncalculated_of_formula own
      rw [input_setCell, same]
      split
      · rename_i at_p
        rw [← at_p, input, present, Option.map_some]
      · rfl
    · rfl
  · rfl

@[simp] theorem input_recalculateCell (w : Workbook) (p q : Position) :
    (w.recalculateCell p).input q = w.input q := by
  rw [recalculateCell]
  split
  · rw [input_storeResult, input, get?, (evaluateFormula_sheet w p _).1]
    rfl
  · rfl

@[simp] theorem input_recalculateCells (w : Workbook) (members : PositionSet) :
    (w.recalculateCells members).input q = w.input q := by
  rw [recalculateCells]
  split
  · exact List.foldlRecOn (motive := fun after : Workbook => after.input q = w.input q) _ _ rfl
      fun after same p _ => (input_recalculateCell after p q).trans same
  · exact List.foldlRecOn (motive := fun after : Workbook => after.input q = w.input q) _ _ rfl
      fun after same p _ => (input_storeResult after p q _).trans same

/-- Recalculation changes results only. -/
@[simp] theorem input_recalculate (w : Workbook) (q : Position) :
    w.recalculate.input q = w.input q :=
  input_recalculateCells w _

theorem enter_eq (w : Workbook) (p : Position) (text : String) :
    w.enter p text =
      match Entry.formula? text with
      | some formula => w.enterFormula p formula
      | none => w.enterValue p text := by
  rw [enter, Entry.formula?]
  generalize Text.trimList text.toList = trimmed
  split
  · rfl
  · simp only

theorem input_enterFormula : (w.enterFormula p formula).input p = some (.ofFormula formula) := by
  rw [enterFormula]
  dsimp only
  split <;> rw [input_setCell, if_pos rfl] <;> rfl

theorem input_enterValue :
    (w.enterValue p text).input p =
      if (Entry.cell text).value.isBlank then none else some (Entry.cell text) := by
  rw [enterValue]
  split
  · change Option.map _ (((w.untrack p).removeCell p).record p).cell = none
    rw [record_removeCell, if_pos rfl]
    rfl
  · rw [input_setCell, if_pos rfl]
    rfl

/-- What is typed in becomes the input of its cell. -/
theorem input_edit (w : Workbook) (p q : Position) (text : String) :
    (w.edit p text).input q = if p = q then Entry.input? text else w.input q := by
  have entered : (w.enter p text).input q = if p = q then Entry.input? text else w.input q := by
    split
    · rename_i at_p
      rw [← at_p, enter_eq, Entry.input?]
      split
      · exact input_enterFormula
      · exact input_enterValue
    · rename_i other
      exact congrArg (Option.map Cell.uncalculated)
        ((ChangesOnly.enter w p text).get?_eq (Ne.symm other))
  rw [edit]
  split
  · exact (input_recalculateCells _ _).trans entered
  · exact entered

/-! ## Results -/

theorem wellKept_storeResult (kept : w.sheet.WellKept) (p : Position) (value : CellValue) :
    (w.storeResult p value).sheet.WellKept := by
  rw [storeResult]
  split
  · split
    · exact kept.set p Cell.inStep_withResult
    · exact kept
  · exact kept

theorem wellKept_recalculateCell (kept : w.sheet.WellKept) (p : Position) :
    (w.recalculateCell p).sheet.WellKept := by
  rw [recalculateCell]
  split
  · rename_i formula _
    have evaluated : (w.evaluateFormula p formula).2.sheet.WellKept := by
      rw [(evaluateFormula_sheet w p formula).1]
      exact kept
    exact wellKept_storeResult evaluated p _
  · exact kept

theorem wellKept_foldl {step : Workbook → Position → Workbook} {list : List Position}
    (each : ∀ w : Workbook, w.sheet.WellKept → ∀ p, (step w p).sheet.WellKept)
    (kept : w.sheet.WellKept) : (list.foldl step w).sheet.WellKept :=
  List.foldlRecOn list step kept fun w kept p _ => each w kept p

theorem wellKept_recalculateCells (kept : w.sheet.WellKept) (members : PositionSet) :
    (w.recalculateCells members).sheet.WellKept := by
  rw [recalculateCells]
  split
  · exact wellKept_foldl (fun _ => wellKept_recalculateCell) kept
  · exact wellKept_foldl (fun _ kept p => wellKept_storeResult kept p _) kept

theorem wellKept_enter (kept : w.sheet.WellKept) (p : Position) (text : String) :
    (w.enter p text).sheet.WellKept := by
  rw [enter_eq]
  split
  · rw [enterFormula]
    dsimp only
    split <;> exact kept.set p Cell.inStep_withResult
  · rw [enterValue]
    split
    · exact kept.erase p
    · exact kept.set p (Entry.inStep_cell text)

theorem wellKept_edit (kept : w.sheet.WellKept) (p : Position) (text : String) :
    (w.edit p text).sheet.WellKept := by
  rw [edit]
  split
  · exact wellKept_recalculateCells (wellKept_enter kept p text) _
  · exact wellKept_enter kept p text

theorem wellKept_loadCell (kept : w.sheet.WellKept) (p : Position) :
    (w.loadCell p).sheet.WellKept := by
  rw [loadCell]
  split
  · exact kept
  · rename_i cell present
    split
    · exact kept
    · rename_i formula loaded
      have stored :
          (if cell.isFormula then w else w.setCell p (.ofFormula formula)).sheet.WellKept :=
        by
          split
          · exact kept
          · exact kept.set p Cell.inStep_ofFormula
      dsimp only
      split <;> exact stored

theorem wellKept_load (kept : w.sheet.WellKept) : w.load.sheet.WellKept := by
  rw [load]
  apply wellKept_recalculateCells
  exact wellKept_foldl (fun _ => wellKept_loadCell) kept

theorem wellKept_relocateCell (edit : Shift) (kept : w.sheet.WellKept) (p : Position) :
    (w.relocateCell edit p).sheet.WellKept := by
  rw [relocateCell]
  split
  · exact kept
  · rename_i cell present
    split
    · exact kept
    · have inStep : cell.InStep := kept.inStep p cell present
      dsimp only
      split <;> exact kept.set p inStep

theorem wellKept_updateReferences (kept : w.sheet.WellKept) (edit : Shift) :
    (w.updateReferences edit).sheet.WellKept := by
  rw [updateReferences]
  split
  · exact kept
  · apply wellKept_recalculateCells
    exact wellKept_foldl (fun _ => wellKept_relocateCell edit) kept

theorem wellKept_shift (kept : w.sheet.WellKept) (edit : Shift) :
    (w.shift edit).sheet.WellKept := by
  rw [shift]
  split
  · exact kept
  · exact wellKept_updateReferences (kept.shift edit) edit

theorem wellKept_perform (kept : w.sheet.WellKept) (action : Action) :
    (w.perform action).sheet.WellKept := by
  apply perform_keeps (motive := fun w => w.sheet.WellKept)
  · exact wellKept_edit kept
  · exact wellKept_shift kept
  · exact wellKept_recalculateCells kept _
  · exact wellKept_load kept
  · exact fun _ _ => kept

theorem wellKept_undergo (kept : w.sheet.WellKept) (c : Change) :
    (w.undergo c).sheet.WellKept := by
  cases c with
  | act action => exact wellKept_perform kept action
  | define d => exact kept
  | updateReferences edit => exact wellKept_updateReferences kept edit

/-- Every workbook that has come from an empty one has a well-kept sheet. -/
theorem ComesFromEmpty.wellKept {allowed : Change → Prop} (comes : w.ComesFromEmpty allowed) :
    w.sheet.WellKept :=
  comes.invariant (motive := fun w => w.sheet.WellKept) (fun _ _ => Sheet.wellKept_empty)
    fun _ c _ kept => wellKept_undergo kept c

end Workbook
end Spreadsheet
