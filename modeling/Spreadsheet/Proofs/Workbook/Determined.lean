import Spreadsheet.Proofs.Workbook.Consistency
import Spreadsheet.Proofs.Workbook.Input

/-!
# What the inputs determine

The stored texts ask for a graph, and a tracked workbook has exactly that one. Where it has no
cycle, the inputs determine all results: by induction along the reading relation, two workbooks
with the same inputs and consistent formulas hold the same values.
-/

namespace Spreadsheet
namespace Workbook

variable {w w' : Workbook} {p q : Position}

/-! ## The graph of the stored texts -/

/-- What the formula at a position reads according to its stored text. -/
def textPrecedents (w : Workbook) (p : Position) : PositionSet :=
  ((w.expression? p).map (Expr.precedents w.settings.maxRangeCells)).getD ∅

/-- The graph that the stored formulas ask for. -/
def textGraph (w : Workbook) : Graph :=
  w.sheet.formulas.foldl (fun g p => g.setPrecedents p (w.textPrecedents p))
    (.empty w.settings.maxRangeCells)

theorem textPrecedents_of_no_formula (absent : w.formula? p = none) : w.textPrecedents p = ∅ := by
  have unread : w.expression? p = none := by
    rw [expression?, Record.expression?, show (w.record p).formula? = none from absent]
    rfl
  rw [textPrecedents, unread]
  rfl

theorem precedentsOf_foldl_setPrecedents {precedents : Position → PositionSet} {limit : Nat}
    (list : List Position) :
    (list.foldl (fun g p => g.setPrecedents p (precedents p)) (Graph.empty limit)).precedentsOf q =
      if q ∈ list then precedents q else ∅ := by
  induction list using List.reverseRecOn with
  | nil => simp [Graph.empty, Graph.precedentsOf]
  | append_singleton init p ih =>
      rw [List.foldl_append, List.foldl_cons, List.foldl_nil, Graph.precedentsOf_setPrecedents, ih]
      by_cases same : p = q
      · simp [same]
      · simp [same, Ne.symm same]

@[simp] theorem precedentsOf_textGraph (w : Workbook) (p : Position) :
    w.textGraph.precedentsOf p = w.textPrecedents p := by
  rw [textGraph, precedentsOf_foldl_setPrecedents]
  split
  · rfl
  · rename_i outside
    rw [Sheet.mem_formulas_iff, Option.not_isSome_iff_eq_none] at outside
    exact (textPrecedents_of_no_formula outside).symm

theorem mirrored_textGraph (w : Workbook) : w.textGraph.Mirrored :=
  List.foldlRecOn _ _ (Graph.mirrored_empty _) fun _ mirrored p _ => mirrored.setPrecedents p _

theorem maxRangeCells_textGraph (w : Workbook) :
    w.textGraph.maxRangeCells = w.settings.maxRangeCells :=
  List.foldlRecOn (motive := fun g : Graph => g.maxRangeCells = w.settings.maxRangeCells) _ _ rfl
    fun _ same _ _ => same

theorem Tracked.precedentsOf_eq (tracked : w.Tracked) (p : Position) :
    w.graph.precedentsOf p = w.textPrecedents p := by
  rw [textPrecedents]
  cases read : w.expression? p with
  | some e => exact tracked.precedentsOf_of_expression read
  | none =>
      apply Std.ExtTreeSet.eq_empty_iff_forall_not_mem.mpr
      intro q reads
      obtain ⟨e, read', _⟩ := tracked.exists_expression_of_reads reads
      rw [read] at read'
      contradiction

/-- A tracked workbook has the graph that its stored texts ask for. -/
theorem Tracked.graph_eq_textGraph (tracked : w.Tracked) : w.graph = w.textGraph := by
  apply tracked.mirrored.eq_of_precedentsOf_eq w.mirrored_textGraph
  · rw [tracked.maxRangeCells_eq, maxRangeCells_textGraph]
  · intro p
    rw [tracked.precedentsOf_eq, precedentsOf_textGraph]

/-! ## Workbooks with the same inputs -/

/-- Two workbooks differ in results only: they have the same functions, settings and inputs. -/
structure SameInputs (w w' : Workbook) : Prop where
  /-- The functions are the same. -/
  library : w'.library = w.library
  /-- The settings are the same. -/
  settings : w'.settings = w.settings
  /-- The inputs are the same. -/
  input : ∀ p, w'.input p = w.input p

namespace SameInputs

theorem formula?_eq (same : SameInputs w w') (p : Position) : w'.formula? p = w.formula? p :=
  formula?_congr (same.input p)

theorem textPrecedents_eq (same : SameInputs w w') (p : Position) :
    w'.textPrecedents p = w.textPrecedents p := by
  have read : w'.expression? p = w.expression? p := Record.expression?_congr (same.formula?_eq p)
  rw [textPrecedents, textPrecedents, same.settings, read]

theorem textGraph_eq (same : SameInputs w w') : w'.textGraph = w.textGraph := by
  apply w'.mirrored_textGraph.eq_of_precedentsOf_eq w.mirrored_textGraph
  · rw [maxRangeCells_textGraph, maxRangeCells_textGraph, same.settings]
  · intro p
    rw [precedentsOf_textGraph, precedentsOf_textGraph, same.textPrecedents_eq]

/-- A formula evaluates to the same where all that it reads has the same values. -/
theorem ownValue_eq {formula : String} (same : SameInputs w w')
    (stored : w.formula? p = some formula)
    (valueAt : ∀ q, w.textGraph.Reads p q → w'.valueAt q = w.valueAt q) :
    w'.ownValue formula = w.ownValue formula := by
  rw [ownValue, ownValue]
  split
  · rename_i e parse
    have read : w.expression? p = some e :=
      Record.expression?_eq_some_iff.mpr ⟨formula, stored, parse⟩
    rw [evaluate, evaluate]
    congr 1
    apply Expr.value_eq_of_precedents same.library
    · exact congrArg Settings.maxRangeCells same.settings
    · intro q covered
      apply valueAt
      rw [Graph.Reads, precedentsOf_textGraph, textPrecedents, read]
      exact covered
  · rfl

/-- Without cycles, consistent formulas with the same inputs have the same values. -/
theorem valueAt_eq (same : SameInputs w w') (acyclic : w.textGraph.Acyclic)
    (consistent : ∀ p, w.Consistent p) (consistent' : ∀ p, w'.Consistent p) (p : Position) :
    w'.valueAt p = w.valueAt p := by
  induction p using acyclic.wellFounded.induction with
  | h p ih =>
      have formula_eq := same.formula?_eq p
      cases stored : w.formula? p with
      | none =>
          have input_eq := same.input p
          rw [input_of_no_formula stored,
            input_of_no_formula (formula_eq.trans stored)] at input_eq
          exact congrArg (fun cell : Option Cell => (cell.map Cell.value).getD .blank) input_eq
      | some formula =>
          obtain ⟨cell, present, own⟩ := exists_cell_of_formula? stored
          obtain ⟨cell', present', own'⟩ := exists_cell_of_formula? (formula_eq.trans stored)
          have value_eq : cell'.value = cell.value := by
            rw [consistent p cell formula present own, consistent' p cell' formula present' own']
            exact same.ownValue_eq stored ih
          rw [valueAt, valueAt, Sheet.valueAt, Sheet.valueAt,
            show w'.sheet.get? p = _ from present', show w.sheet.get? p = _ from present]
          exact value_eq

/-- Without cycles, consistent formulas with the same inputs make the same sheet. -/
theorem sheet_eq (same : SameInputs w w') (acyclic : w.textGraph.Acyclic)
    (consistent : ∀ p, w.Consistent p) (consistent' : ∀ p, w'.Consistent p)
    (kept : w.sheet.WellKept) (kept' : w'.sheet.WellKept) : w'.sheet = w.sheet := by
  apply kept'.fitted.eq_of_get? kept.fitted
  intro p
  have input_eq := same.input p
  have value_eq := same.valueAt_eq acyclic consistent consistent' p
  rw [Workbook.input, Workbook.input, get?, get?] at input_eq
  rw [valueAt, valueAt, Sheet.valueAt, Sheet.valueAt] at value_eq
  cases present : w.sheet.get? p with
  | none => simpa [present] using input_eq
  | some cell =>
      cases present' : w'.sheet.get? p with
      | none => simp [present, present'] at input_eq
      | some cell' =>
          rw [present, present'] at input_eq value_eq
          congr 1
          exact Cell.eq_of_uncalculated_eq (Option.some.inj input_eq)
            (kept'.inStep p cell' present') (kept.inStep p cell present) fun _ => value_eq

end SameInputs

end Workbook
end Spreadsheet
