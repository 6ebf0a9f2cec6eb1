import Spreadsheet.Proofs.Double.Display
import Spreadsheet.Proofs.Formula.Trimmed
import Spreadsheet.Proofs.Workbook.Entering
import Spreadsheet.Proofs.Workbook.Shifting

/-!
# Typing in what is edited

The text that is edited at a cell stands for the input that is stored there. So typing it in again
changes no input, and in a consistent workbook without cycles it changes nothing at all. This rests
on an invariant of runs: every input of a workbook is one that some text stands for, also after
references have been relocated.
-/

namespace Spreadsheet

/-! ## Texts that are edited -/

namespace Entry

variable {text : String} {cell : Cell}

/-- Nothing that is shown for a typed-in value is a formula. -/
theorem formula?_display (untyped : formula? text = none) :
    formula? (value text).display = none := by
  cases entered : value text with
  | blank => decide
  | boolean b => cases b <;> decide
  | text content =>
      have same : content = text := eq_of_value_cell_eq_text entered
      rw [CellValue.display, same]
      exact untyped
  | number x =>
      exact formula?_eq_none_iff.mpr (Double.head?_toText_ne (Double.isFinite_of_value entered))
  | error code =>
      have no_error := error?_value text
      rw [entered] at no_error
      cases no_error

/-- What is shown for a typed-in value is read as this value, provided that a number is read from
its decimal notation. -/
theorem value_display
    (readsBack : ∀ x, value text = .number x → x.isFinite →
      Double.ofText? (Double.toText x) = some x) :
    value (value text).display = value text := by
  cases entered : value text with
  | blank => rfl
  | boolean b => cases b <;> rfl
  | text content =>
      have same : content = text := eq_of_value_cell_eq_text entered
      rw [CellValue.display, same, entered, same]
  | number x =>
      have finite := Double.isFinite_of_value entered
      exact Double.value_toText finite (readsBack x entered finite)
  | error code =>
      have no_error := error?_value text
      rw [entered] at no_error
      cases no_error

/-- The text that is edited for an input stands for this input again. -/
theorem input?_inputText (typed : input? text = some cell)
    (readsBack : ∀ x, cell = .ofValue (.number x) → x.isFinite →
      Double.ofText? (Double.toText x) = some x) :
    input? cell.inputText = some cell := by
  rw [input?] at typed
  split at typed
  · rename_i formula typed_formula
    obtain rfl := Option.some.inj typed
    rw [input?, show (Cell.ofFormula formula).inputText = formula from rfl,
      formula?_formula typed_formula]
  · rename_i untyped
    split at typed
    · cases typed
    · rename_i some_value
      obtain rfl := Option.some.inj typed
      have shown : (cell text).inputText = (value text).display := rfl
      have again : cell (value text).display = cell text := by
        rw [cell, cell, value_display fun x entered => readsBack x (by rw [cell, entered])]
      rw [shown, input?, formula?_display untyped, again]
      exact if_neg some_value

end Entry

theorem Cell.inputText_uncalculated (c : Cell) : c.uncalculated.inputText = c.inputText := by
  cases own : c.formula with
  | none => rw [uncalculated_of_value own]
  | some formula =>
      rw [uncalculated_of_formula own, inputText, inputText, own]
      rfl

namespace Workbook

variable {w : Workbook} {p : Position}

/-! ## Inputs that have been typed in -/

/-- Every input of the workbook is one that some text stands for. -/
def HasTypedInputs (w : Workbook) : Prop :=
  ∀ p cell, w.input p = some cell → ∃ text, Entry.input? text = some cell

theorem HasTypedInputs.of_input_eq {w' : Workbook} (typed : w.HasTypedInputs)
    (same : ∀ p, w'.input p = w.input p) : w'.HasTypedInputs :=
  fun p cell stored => typed p cell ((same p).symm.trans stored)

theorem HasTypedInputs.edit (typed : w.HasTypedInputs) (p : Position) (text : String) :
    (w.edit p text).HasTypedInputs := by
  intro q cell stored
  rw [input_edit] at stored
  split at stored
  · exact ⟨text, stored⟩
  · exact typed q cell stored

/-- Relocating the references of an input makes another input. -/
theorem exists_input?_relocate {cell : Cell} {text : String} (edit : Shift)
    (typed : Entry.input? text = some cell) :
    ∃ text', Entry.input? text' = some (cell.relocate edit) := by
  have typed_cell := typed
  rw [Entry.input?] at typed_cell
  split at typed_cell
  · rename_i formula typed_formula
    obtain rfl := Option.some.inj typed_cell
    have relocated := Formula.formula?_relocate (s := edit) (Entry.formula?_formula typed_formula)
    exact ⟨Formula.relocate edit formula, by rw [Entry.input?, relocated]; rfl⟩
  · split at typed_cell
    · cases typed_cell
    · obtain rfl := Option.some.inj typed_cell
      exact ⟨text, typed.trans (congrArg some (Cell.relocate_of_value rfl).symm)⟩

theorem HasTypedInputs.shift (typed : w.HasTypedInputs) (edit : Shift) :
    (w.shift edit).HasTypedInputs := by
  by_cases still : edit.delta = 0
  · rw [Workbook.shift, if_pos still]
    exact typed
  · intro q cell stored
    obtain ⟨_, present, _⟩ := Option.map_eq_some_iff.mp stored
    obtain ⟨p, arrives, _⟩ := exists_source_of_get?_shift still present
    rw [input_shift still arrives] at stored
    obtain ⟨before, stored_before, rfl⟩ := Option.map_eq_some_iff.mp stored
    obtain ⟨text, typed_before⟩ := typed p before stored_before
    exact exists_input?_relocate edit typed_before

/-- A value that some text stands for is not taken for a formula. -/
theorem HasTypedInputs.loadedFormula?_eq_none {cell : Cell} (typed : w.HasTypedInputs)
    (present : w.get? p = some cell) (own : cell.formula = none) : loadedFormula? cell = none := by
  have stored : w.input p = some cell := by
    rw [input, present, Option.map_some, Cell.uncalculated_of_value own]
  obtain ⟨text, typed_cell⟩ := typed p cell stored
  exact loadedFormula?_of_input? typed_cell own

theorem HasTypedInputs.perform (typed : w.HasTypedInputs) (action : Action) :
    (w.perform action).HasTypedInputs := by
  apply perform_keeps
  · exact typed.edit
  · exact typed.shift
  · exact typed.of_input_eq (input_recalculate w)
  · exact typed.of_input_eq
      (input_load fun _ _ present own => typed.loadedFormula?_eq_none present own)
  · exact fun _ mode => typed.of_input_eq fun _ => rfl

theorem HasTypedInputs.undergo {c : Change} (typed : w.HasTypedInputs) (followed : c.isFollowed) :
    (w.undergo c).HasTypedInputs := by
  cases c with
  | act action => exact typed.perform action
  | define d => exact typed
  | updateReferences edit => cases followed

theorem hasTypedInputs_empty (library : Library) (settings : Settings) :
    (empty library settings).HasTypedInputs := by
  intro p cell stored
  simp [input, get?, empty] at stored

theorem Reachable.hasTypedInputs (reachable : w.Reachable) : w.HasTypedInputs :=
  reachable.invariant hasTypedInputs_empty fun _ _ followed typed => typed.undergo followed

/-! ## Typing the edited text in again -/

/-- Typing in the text that is edited at a cell changes no input. -/
theorem HasTypedInputs.sameInputs_edit_inputText (typed : w.HasTypedInputs)
    (readsBack : ∀ x, w.get? p = some (.ofValue (.number x)) → x.isFinite →
      Double.ofText? (Double.toText x) = some x) :
    SameInputs w (w.edit p (w.inputText p)) := by
  have change := ChangesOnly.edit w p (w.inputText p)
  refine ⟨change.library, change.settings, fun q => ?_⟩
  rw [input_edit]
  split
  · rename_i at_p
    subst at_p
    rw [inputText, input]
    cases present : w.get? p with
    | none => rfl
    | some cell =>
        obtain ⟨text, typed_cell⟩ :=
          typed p cell.uncalculated (by rw [input, present, Option.map_some])
        rw [Option.map_some, Option.map_some, Option.getD_some, ← Cell.inputText_uncalculated]
        apply Entry.input?_inputText typed_cell
        intro x literal
        apply readsBack x
        have own : cell.formula = none := by
          rw [← Cell.formula_uncalculated, literal]
          rfl
        rw [present, ← literal, Cell.uncalculated_of_value own]
  · rfl

/-- Typing in the text that is edited at a cell, whether anything is stored there or not, changes
neither the sheet nor the graph. -/
theorem edit_inputText (reachable : w.Reachable) (automatic : w.settings.mode = .automatic)
    (acyclic : w.graph.Acyclic) (consistent : ∀ q, w.Consistent q) (p : Position)
    (readsBack : ∀ x, w.get? p = some (.ofValue (.number x)) → x.isFinite →
      Double.ofText? (Double.toText x) = some x) :
    (w.edit p (w.inputText p)).sheet = w.sheet ∧ (w.edit p (w.inputText p)).graph = w.graph := by
  have tracked := reachable.tracked
  have same := reachable.hasTypedInputs.sameInputs_edit_inputText readsBack
  have graph_eq : (w.edit p (w.inputText p)).graph = w.graph := by
    rw [(tracked.edit p _).graph_eq_textGraph, same.textGraph_eq, tracked.graph_eq_textGraph]
  refine ⟨?_, graph_eq⟩
  apply same.sheet_eq _ consistent _ reachable.wellKept (wellKept_edit reachable.wellKept p _)
  · rw [← tracked.graph_eq_textGraph]
    exact acyclic
  · apply tracked.consistent_edit_of_acyclic automatic consistent
    rw [graph_eq]
    exact acyclic

/-- A percentage is edited as the decimal fraction that it stands for. -/
theorem edit_inputText_of_percentage :
    let w := (empty .empty ⟨.automatic, 4⟩).typeAll [(⟨0, 0⟩, "50%"), (⟨1, 0⟩, "=A1+1")]
    (w.edit ⟨0, 0⟩ (w.inputText ⟨0, 0⟩)).sheet = w.sheet ∧
      (w.edit ⟨0, 0⟩ (w.inputText ⟨0, 0⟩)).graph = w.graph := by
  have distinct : ([(⟨0, 0⟩, "50%"), (⟨1, 0⟩, "=A1+1")].map Prod.fst : List Position).Nodup := by
    decide
  have acyclic : ((empty .empty ⟨.automatic, 4⟩).writeAll
      [(⟨0, 0⟩, "50%"), (⟨1, 0⟩, "=A1+1")]).textGraph.Acyclic := by decide +kernel
  have calculates := calculates_typeAll .empty rfl distinct acyclic
  have half : (((empty .empty ⟨.automatic, 4⟩).typeAll
      [(⟨0, 0⟩, "50%"), (⟨1, 0⟩, "=A1+1")]).valueAt ⟨0, 0⟩).toNumber.toModel =
        (0.5 : Float).toModel := by
    decide +kernel
  have reads : (Double.ofText? (Double.toText 0.5)).map Float.toModel =
      some (0.5 : Float).toModel := by
    decide +kernel
  refine edit_inputText (reachable_run_empty _ _ _) (by decide +kernel)
    (calculates.graph_eq ▸ acyclic) calculates.consistent ⟨0, 0⟩ fun x stored _ => ?_
  have valueAt_eq : ((empty .empty ⟨.automatic, 4⟩).typeAll
      [(⟨0, 0⟩, "50%"), (⟨1, 0⟩, "=A1+1")]).valueAt ⟨0, 0⟩ = .number x :=
    congrArg (fun cell : Option Cell => (cell.map Cell.value).getD .blank) stored
  rw [valueAt_eq] at half
  obtain rfl : x = 0.5 := congrArg Float.ofModel half
  obtain ⟨y, read, y_eq⟩ := Option.map_eq_some_iff.mp reads
  rw [read]
  exact congrArg (fun model => some (Float.ofModel model)) y_eq

end Workbook
end Spreadsheet
