import Spreadsheet.Proofs.Workbook.Rebuilding

/-!
# Runs

A workbook is used by doing one thing after the other with it. What every single action keeps holds
after every run, and what every single change keeps holds of every workbook that has come from an
empty one.
-/

namespace Spreadsheet

/-- What can be done with a workbook. -/
inductive Action where
  /-- A text is typed into a cell. -/
  | edit (p : Position) (text : String)
  /-- A cell is emptied. -/
  | clear (p : Position)
  /-- Rows are inserted in front of a row. -/
  | insertRows (first count : UInt32)
  /-- Rows are deleted from a row on. -/
  | deleteRows (first count : UInt32)
  /-- Columns are inserted in front of a column. -/
  | insertColumns (first count : UInt32)
  /-- Columns are deleted from a column on. -/
  | deleteColumns (first count : UInt32)
  /-- All formulas are evaluated again. -/
  | recalculate
  /-- All formulas are tracked anew and evaluated. -/
  | load
  /-- The calculation mode is changed. -/
  | setMode (mode : Mode)

/-- The action lets the calculation mode be. -/
def Action.keepsMode : Action → Bool
  | setMode _ => false
  | _ => true

/-- Something that changes a workbook. -/
inductive Change where
  /-- Something is done with the workbook. -/
  | act (action : Action)
  /-- A function is added. -/
  | define (d : Library.Definition)
  /-- References are updated for cells that have been moved already. -/
  | updateReferences (edit : Shift)

/-- The graph follows the change. References that are updated alone move the graph away from the
cells, which stay where they are. -/
def Change.isFollowed : Change → Bool
  | updateReferences _ => false
  | _ => true

namespace Workbook

variable {w : Workbook} {c : Change} {allowed : Change → Prop}

/-- Does one thing with a workbook. -/
def perform (w : Workbook) : Action → Workbook
  | .edit p text => w.edit p text
  | .clear p => w.clear p
  | .insertRows first count => w.insertRows first count
  | .deleteRows first count => w.deleteRows first count
  | .insertColumns first count => w.insertColumns first count
  | .deleteColumns first count => w.deleteColumns first count
  | .recalculate => w.recalculate
  | .load => w.load
  | .setMode mode => w.setMode mode

/-- Does several things with a workbook, in order. -/
def run (w : Workbook) (actions : List Action) : Workbook := actions.foldl perform w

/-- What holds after an edit, after a move and after an evaluation of all formulas holds after an
action. Only if the action changes the mode, it must hold in another mode too. -/
theorem perform_keeps {motive : Workbook → Prop} {action : Action}
    (edit : ∀ p text, motive (w.edit p text)) (shift : ∀ edit, motive (w.shift edit))
    (recalculate : motive w.recalculate) (load : motive w.load)
    (setMode : ¬ action.keepsMode → ∀ mode, motive (w.setMode mode)) :
    motive (w.perform action) := by
  cases action with
  | edit p text => exact edit p text
  | clear p => exact edit p ""
  | insertRows | deleteRows | insertColumns | deleteColumns => exact shift _
  | recalculate => exact recalculate
  | load => exact load
  | setMode mode => exact setMode Bool.false_ne_true mode

/-- What every single action keeps holds after a run of them. -/
theorem run_keeps {motive : Workbook → Prop} {actions : List Action}
    (each : ∀ action ∈ actions, ∀ w, motive w → motive (w.perform action)) (start : motive w) :
    motive (w.run actions) := by
  induction actions generalizing w with
  | nil => exact start
  | cons first rest ih =>
      have first_kept := each first List.mem_cons_self w start
      exact ih (fun action member => each action (List.mem_cons_of_mem first member)) first_kept

/-! ## Functions and settings -/

theorem ChangesOnly.shift (w : Workbook) (edit : Shift) :
    ChangesOnly Set.univ w (w.shift edit) := by
  rw [Workbook.shift]
  split
  · exact refl w
  · rename_i moves
    rw [updateReferences, if_neg moves]
    have moved : ChangesOnly Set.univ w
        { w with sheet := w.sheet.shift edit, graph := w.graph.shift edit, parsed := ∅ } :=
      ⟨rfl, rfl, Graph.maxRangeCells_shift edit, fun mirrored => mirrored.shift edit,
        fun q outside => (outside (Set.mem_univ q)).elim⟩
    apply moved.trans
    apply (foldl (fun w p _ => relocateCell edit w p) _).everywhere.trans
    exact (recalculateCells _ _).everywhere

theorem ChangesOnly.load (w : Workbook) : ChangesOnly Set.univ w w.load := by
  have bare : ChangesOnly Set.univ w
      { w with graph := .empty w.graph.maxRangeCells, parsed := ∅ } :=
    ⟨rfl, rfl, rfl, fun _ => Graph.mirrored_empty _,
      fun q outside => (outside (Set.mem_univ q)).elim⟩
  apply bare.trans
  apply (foldl (fun w p _ => loadCell w p) _).everywhere.trans
  exact (recalculateCells _ _).everywhere

/-- Whatever an action does to the cells, the functions and the settings stay. -/
theorem ChangesOnly.perform {action : Action} (keeps : action.keepsMode) (w : Workbook) :
    ChangesOnly Set.univ w (w.perform action) := by
  apply perform_keeps
  · exact fun p text => (ChangesOnly.edit w p text).everywhere
  · exact ChangesOnly.shift w
  · exact (recalculateCells w _).everywhere
  · exact ChangesOnly.load w
  · exact fun other => (other keeps).elim

theorem settings_run {actions : List Action} (keep : ∀ action ∈ actions, action.keepsMode)
    (w : Workbook) : (w.run actions).settings = w.settings := by
  apply run_keeps (motive := fun after => after.settings = w.settings) _ rfl
  intro action member after same
  rw [(ChangesOnly.perform (keep action member) after).settings, same]

theorem maxRangeCells_perform (w : Workbook) (action : Action) :
    (w.perform action).settings.maxRangeCells = w.settings.maxRangeCells := by
  by_cases keeps : action.keepsMode
  · rw [(ChangesOnly.perform keeps w).settings]
  · cases action with
    | setMode mode => rfl
    | _ => exact (keeps rfl).elim

theorem maxRangeCells_run (w : Workbook) (actions : List Action) :
    (w.run actions).settings.maxRangeCells = w.settings.maxRangeCells := by
  apply run_keeps (motive := fun after =>
    after.settings.maxRangeCells = w.settings.maxRangeCells) _ rfl
  intro action _ after same
  rw [maxRangeCells_perform, same]

/-! ## Tracking -/

theorem Tracked.perform (tracked : w.Tracked) (action : Action) : (w.perform action).Tracked := by
  apply perform_keeps
  · exact tracked.edit
  · exact tracked.shift
  · exact tracked.recalculate
  · exact tracked.load
  · exact fun _ => tracked.setMode

theorem Tracked.run (tracked : w.Tracked) (actions : List Action) : (w.run actions).Tracked :=
  run_keeps (fun action _ _ tracked => tracked.perform action) tracked

/-- Every workbook that is made from an empty one is tracked. -/
theorem tracked_run_empty (library : Library) (settings : Settings) (actions : List Action) :
    ((empty library settings).run actions).Tracked :=
  (tracked_empty library settings).run actions

/-- After every run from an empty workbook the graph has for a cell exactly what the stored formula
reads, with no entry if that is nothing, and every tree that is kept is the parse of the formula
that is stored at its cell. -/
theorem graph_and_trees_match_run (library : Library) (settings : Settings) (actions : List Action)
    (p : Position) :
    ((empty library settings).run actions).graph.precedents[p]? =
        (((empty library settings).run actions).expression? p).bind
          (fun e => Graph.entryFor (e.precedents settings.maxRangeCells)) ∧
      ∀ e, ((empty library settings).run actions).parsed[p]? = some e →
        ∃ formula, ((empty library settings).run actions).formula? p = some formula ∧
          Formula.parse formula = .ok e := by
  have matched := (tracked_run_empty library settings actions).matching p
  rw [maxRangeCells_run] at matched
  refine ⟨matched.precedents_eq, ?_⟩
  intro e kept
  exact Record.expression?_eq_some_iff.mp (matched.expression_eq e kept)

/-! ## Workbooks that have come from an empty one -/

/-- Changes a workbook. -/
def undergo (w : Workbook) : Change → Workbook
  | .act action => w.perform action
  | .define d => w.define d
  | .updateReferences edit => w.updateReferences edit

/-- The workbook has come from an empty one, and all changes on the way are allowed. -/
inductive ComesFromEmpty (allowed : Change → Prop) : Workbook → Prop where
  /-- A workbook may be empty. -/
  | empty (library : Library) (settings : Settings) :
      ComesFromEmpty allowed (.empty library settings)
  /-- It may be changed. -/
  | undergo {w : Workbook} {c : Change} (comes : ComesFromEmpty allowed w)
      (permitted : allowed c) : ComesFromEmpty allowed (w.undergo c)

/-- What empty workbooks have and every single change keeps. -/
theorem ComesFromEmpty.invariant {motive : Workbook → Prop} (comes : w.ComesFromEmpty allowed)
    (initially : ∀ library settings, motive (.empty library settings))
    (preserved : ∀ w c, allowed c → motive w → motive (w.undergo c)) : motive w := by
  induction comes with
  | empty library settings => exact initially library settings
  | undergo _ permitted ih => exact preserved _ _ permitted ih

theorem ComesFromEmpty.run (comes : w.ComesFromEmpty allowed)
    (permitted : ∀ action, allowed (.act action)) (actions : List Action) :
    (w.run actions).ComesFromEmpty allowed :=
  run_keeps (fun action _ _ comes => comes.undergo (permitted action)) comes

/-- The workbook has been made from an empty one, and the graph has followed. -/
def Reachable (w : Workbook) : Prop := w.ComesFromEmpty fun c => c.isFollowed

theorem reachable_run_empty (library : Library) (settings : Settings) (actions : List Action) :
    ((empty library settings).run actions).Reachable :=
  ComesFromEmpty.run (.empty library settings) (fun _ => rfl) actions

theorem Tracked.undergo (tracked : w.Tracked) (followed : c.isFollowed) :
    (w.undergo c).Tracked := by
  cases c with
  | act action => exact tracked.perform action
  | define d => exact ⟨tracked.maxRangeCells_eq, tracked.mirrored, tracked.matching⟩
  | updateReferences edit => cases followed

theorem Reachable.tracked (reachable : w.Reachable) : w.Tracked :=
  reachable.invariant tracked_empty fun _ _ followed tracked => tracked.undergo followed

end Workbook
end Spreadsheet
