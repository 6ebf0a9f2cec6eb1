import Spreadsheet.Proofs.Dependency.Closure
import Spreadsheet.Proofs.Workbook.Tracking

/-!
# What an edit reaches

Recalculation stores values and leaves the graph and all formulas as they are. So an edit changes
what the edited cell reads, and beyond that only values of cells that depend on it afterwards. A
cell that is not reached reads none that is.
-/

namespace Spreadsheet
namespace Workbook

variable {w : Workbook} {p q r : Position} {text : String}

/-! ## Recalculation -/

@[simp] theorem graph_storeResult (w : Workbook) (p : Position) (value : CellValue) :
    (w.storeResult p value).graph = w.graph := by
  rw [storeResult]
  split
  · split <;> rfl
  · rfl

@[simp] theorem formula?_storeResult (w : Workbook) (p q : Position) (value : CellValue) :
    (w.storeResult p value).formula? q = w.formula? q := by
  by_cases same : q = p
  · rw [same]
    exact (record_storeResult w p value).1
  · exact (ChangesOnly.storeResult w p value).formula?_eq same

theorem evaluateFormula_sheet (w : Workbook) (p : Position) (formula : String) :
    (w.evaluateFormula p formula).2.sheet = w.sheet ∧
      (w.evaluateFormula p formula).2.graph = w.graph := by
  rw [evaluateFormula]
  split
  · exact ⟨rfl, rfl⟩
  · split <;> exact ⟨rfl, rfl⟩

@[simp] theorem graph_recalculateCell (w : Workbook) (p : Position) :
    (w.recalculateCell p).graph = w.graph := by
  rw [recalculateCell]
  split
  · rw [graph_storeResult, (evaluateFormula_sheet w p _).2]
  · rfl

@[simp] theorem formula?_recalculateCell (w : Workbook) (p q : Position) :
    (w.recalculateCell p).formula? q = w.formula? q := by
  rw [recalculateCell]
  split
  · rw [formula?_storeResult, formula?_eq, get?, (evaluateFormula_sheet w p _).1]
    rfl
  · rfl

@[simp] theorem graph_recalculateCells (w : Workbook) (members : PositionSet) :
    (w.recalculateCells members).graph = w.graph := by
  rw [recalculateCells]
  split
  · exact List.foldlRecOn (motive := fun after : Workbook => after.graph = w.graph) _ _ rfl
      fun after same p _ => (graph_recalculateCell after p).trans same
  · exact List.foldlRecOn (motive := fun after : Workbook => after.graph = w.graph) _ _ rfl
      fun after same p _ => (graph_storeResult after p _).trans same

/-! ## Editing -/

/-- What is typed into a cell changes only what this cell reads. -/
theorem sameExceptAt_enter (w : Workbook) (p : Position) (text : String) :
    Graph.SameExceptAt p w.graph (w.enter p text).graph := by
  intro q other
  rw [Graph.precedentsOf_eq, Graph.precedentsOf_eq]
  exact congrArg (fun r : Record => r.precedents.getD ∅)
    ((ChangesOnly.enter w p text).record q other)

theorem graph_edit (w : Workbook) (p : Position) (text : String) :
    (w.edit p text).graph = (w.enter p text).graph := by
  rw [edit]
  split
  · exact graph_recalculateCells _ _
  · rfl

theorem edit_of_automatic (automatic : w.settings.mode = .automatic) (p : Position)
    (text : String) :
    w.edit p text = (w.enter p text).recalculateReaders p := by
  have entered : (w.enter p text).settings.mode = .automatic :=
    (congrArg Settings.mode (ChangesOnly.enter w p text).settings).trans automatic
  rw [edit, entered]

theorem edit_of_manual (manual : w.settings.mode = .manual) (p : Position) (text : String) :
    w.edit p text = w.enter p text := by
  have entered : (w.enter p text).settings.mode = .manual :=
    (congrArg Settings.mode (ChangesOnly.enter w p text).settings).trans manual
  rw [edit, entered]

/-- The cells that an edit reaches: the edited one and those that depend on it afterwards. -/
def reachedBy (w : Workbook) (p : Position) (text : String) : Set Position :=
  {q | q = p ∨ (w.edit p text).graph.DependsOn q p}

theorem mem_allReaders_enter (mirrored : w.graph.Mirrored) :
    q ∈ (w.enter p text).graph.allReaders p ↔ (w.edit p text).graph.DependsOn q p := by
  rw [graph_edit]
  exact Graph.mem_allReaders ((ChangesOnly.enter w p text).mirrored mirrored)

/-- An edit concerns only the cells that it reaches. -/
theorem ChangesOnly.edit_reached (mirrored : w.graph.Mirrored) (p : Position) (text : String) :
    ChangesOnly (w.reachedBy p text) w (w.edit p text) :=
  (ChangesOnly.edit w p text).mono fun _ member =>
    member.imp_right (mem_allReaders_enter mirrored).mp

theorem Tracked.mem_allReaders_enter (tracked : w.Tracked) :
    q ∈ (w.enter p text).graph.allReaders p ↔ (w.edit p text).graph.DependsOn q p :=
  Workbook.mem_allReaders_enter tracked.mirrored

theorem Tracked.changesOnly_edit (tracked : w.Tracked) (p : Position) (text : String) :
    ChangesOnly (w.reachedBy p text) w (w.edit p text) :=
  ChangesOnly.edit_reached tracked.mirrored p text

/-- A cell that an edit does not reach reads the same cells as before, and none that is reached. -/
theorem not_reached_of_reads (outside : q ∉ w.reachedBy p text) (reads : w.graph.Reads q r) :
    r ∉ w.reachedBy p text := by
  have other : q ≠ p := fun same => outside (.inl same)
  have reads_after : (w.edit p text).graph.Reads q r := by
    rw [graph_edit]
    exact ((sameExceptAt_enter w p text).reads_iff other).mpr reads
  rintro (rfl | path)
  · exact outside (.inr (.single reads_after))
  · exact outside (.inr (path.trans_reads reads_after))

/-- Whether a cell reaches a cycle changes only where the edit reaches. -/
theorem circular_edit_iff (outside : q ∉ w.reachedBy p text) :
    (w.edit p text).graph.Circular q ↔ w.graph.Circular q := by
  rw [reachedBy, graph_edit] at outside
  rw [graph_edit]
  exact (sameExceptAt_enter w p text).circular_iff (fun same => outside (.inl same))
    (fun path => outside (.inr path))

end Workbook
end Spreadsheet
