import Spreadsheet.Proofs.Workbook.Circularity
import Spreadsheet.Proofs.Workbook.Determined

/-!
# Evaluating all formulas again

Whatever results a workbook holds, evaluating all formulas again makes them right: without a cycle
all formulas are consistent and what comes out depends on the inputs only, and with a cycle all
formulas are marked. Only results change.
-/

namespace Spreadsheet
namespace Workbook

variable {w w' : Workbook} {p q : Position} {formula : String}

/-! ## Without a cycle -/

theorem consistent_of_no_formula (absent : w.formula? p = none) : w.Consistent p := by
  intro cell formula present own
  rw [formula?_of_cell present own] at absent
  contradiction

theorem mem_ofList_formulas_iff :
    p ∈ (.ofList w.sheet.formulas : PositionSet) ↔ (w.formula? p).isSome := by
  rw [Std.ExtTreeSet.mem_ofList, List.contains_iff_mem, Sheet.mem_formulas_iff]
  rfl

/-- In a graph without cycles all formulas are consistent once they have been evaluated again. -/
theorem Tracked.consistent_recalculate (tracked : w.Tracked) (acyclic : w.graph.Acyclic)
    (p : Position) : w.recalculate.Consistent p := by
  have notCircular := Graph.acyclic_iff_forall_not_circular.mp acyclic
  by_cases member : p ∈ (.ofList w.sheet.formulas : PositionSet)
  · exact tracked.consistent_recalculateCells (fun q _ => notCircular q) p member
  · apply consistent_of_no_formula
    rw [mem_ofList_formulas_iff, Option.not_isSome_iff_eq_none] at member
    exact (formula?_congr (input_recalculate w p)).trans member

/-! ## The trees that are kept -/

theorem parsed_evaluateFormula {limit : Nat} (matched : (w.record p).Matches limit)
    (stored : w.formula? p = some formula) :
    ((w.evaluateFormula p formula).2.record p).parsed = (w.record p).expression? := by
  rw [evaluateFormula]
  cases kept : w.parsed[p]? with
  | some e =>
      have read := matched.expression_eq e kept
      exact kept.trans read.symm
  | none =>
      have expression_eq := expression?_of_formula? stored
      cases parse : Formula.parse formula with
      | ok e =>
          change ((w.remember p e).record p).parsed = _
          rw [record_remember, if_pos rfl, expression_eq, parse]
          rfl
      | error cause =>
          rw [expression_eq, parse]
          exact kept

theorem parsed_recalculateCell {limit : Nat} (matched : (w.record p).Matches limit)
    (stored : w.formula? p = some formula) :
    ((w.recalculateCell p).record p).parsed = (w.record p).expression? := by
  rw [recalculateCell]
  rw [formula?_eq] at stored
  rw [stored]
  exact (record_storeResult _ p _).2.2.trans (parsed_evaluateFormula matched stored)

/-- Evaluating all formulas again keeps no tree where there is no formula. -/
theorem Tracked.parsed_recalculate_of_no_formula (tracked : w.Tracked)
    (absent : w.formula? p = none) :
    (w.recalculate.record p).parsed = (w.record p).expression? := by
  have unread : (w.record p).expression? = none := by
    rw [Record.expression?, show (w.record p).formula? = none from absent]
    rfl
  have outside : p ∉ (.ofList w.sheet.formulas : PositionSet) := by
    rw [mem_ofList_formulas_iff, absent]
    exact Bool.false_ne_true
  rw [Workbook.recalculate, (ChangesOnly.recalculateCells w _).record p outside, unread]
  cases kept : (w.record p).parsed with
  | none => rfl
  | some e =>
      have read := (tracked.matching p).expression_eq e kept
      rw [unread] at read
      contradiction

/-- Where no cycle stops it, evaluating all formulas again keeps the tree of each of them. -/
theorem Tracked.parsed_recalculate_of_formula (tracked : w.Tracked) (acyclic : w.graph.Acyclic)
    (computes : (w.formula? p).isSome) :
    (w.recalculate.record p).parsed = (w.record p).expression? := by
  have notCircular := Graph.acyclic_iff_forall_not_circular.mp acyclic
  rw [Workbook.recalculate, Workbook.recalculateCells]
  cases found : w.graph.calculationOrder (.ofList w.sheet.formulas) with
  | error cycle =>
      obtain ⟨q, _, circular⟩ := Graph.exists_circular_of_eq_error found
      exact (notCircular q circular).elim
  | ok order =>
      have sorting := (Graph.isCalculationOrder_of_eq_ok found).1
      have expression_eq : (w.recalculate.record p).expression? = (w.record p).expression? :=
        Record.expression?_congr (formula?_congr (input_recalculate w p))
      rw [Workbook.recalculate, Workbook.recalculateCells, found] at expression_eq
      rw [← expression_eq]
      apply ChangesOnly.foldl_establishes
        (fun limit r => r.Matches limit ∧ r.formula?.isSome)
        (fun _ r => r.parsed = r.expression?) sorting.nodup
      · exact fun w p _ => ChangesOnly.recalculateCell w p
      · rintro w p - ⟨matched, computes⟩
        obtain ⟨formula, stored⟩ := Option.isSome_iff_exists.mp computes
        rw [parsed_recalculateCell matched stored]
        exact (Record.expression?_congr (formula?_recalculateCell w p p)).symm
      · intro q listed
        rw [tracked.maxRangeCells_eq]
        exact ⟨tracked.matching q, mem_ofList_formulas_iff.mp ((sorting.mem_iff q).mp listed)⟩
      · exact (sorting.mem_iff p).mpr (mem_ofList_formulas_iff.mpr computes)

/-- Without cycles, evaluating all formulas again makes the kept trees those of the texts. -/
theorem Tracked.parsed_recalculate (tracked : w.Tracked) (acyclic : w.graph.Acyclic)
    (p : Position) : (w.recalculate.record p).parsed = (w.record p).expression? := by
  cases stored : w.formula? p with
  | none => exact tracked.parsed_recalculate_of_no_formula stored
  | some formula =>
      exact tracked.parsed_recalculate_of_formula acyclic (by rw [stored]; rfl)

/-! ## The inputs decide -/

/-- Without cycles, evaluating all formulas again makes the same workbook of the same inputs. -/
theorem SameInputs.recalculate_eq (same : SameInputs w w') (tracked : w.Tracked)
    (tracked' : w'.Tracked) (acyclic : w.graph.Acyclic) (kept : w.sheet.WellKept)
    (kept' : w'.sheet.WellKept) : w'.recalculate = w.recalculate := by
  have graph_eq : w'.graph = w.graph := by
    rw [tracked'.graph_eq_textGraph, tracked.graph_eq_textGraph, same.textGraph_eq]
  have acyclic' : w'.graph.Acyclic := graph_eq ▸ acyclic
  have change : ChangesOnly _ w w.recalculate := ChangesOnly.recalculateCells w _
  have change' : ChangesOnly _ w' w'.recalculate := ChangesOnly.recalculateCells w' _
  have same_after : SameInputs w.recalculate w'.recalculate := by
    refine ⟨?_, ?_, fun p => ?_⟩
    · rw [change.library, change'.library, same.library]
    · rw [change.settings, change'.settings, same.settings]
    · rw [input_recalculate, input_recalculate, same.input]
  have graph_after : w'.recalculate.graph = w.recalculate.graph := by
    rw [recalculate, recalculate, graph_recalculateCells, graph_recalculateCells, graph_eq]
  have sheet_after : w'.recalculate.sheet = w.recalculate.sheet := by
    apply same_after.sheet_eq
    · rw [← tracked.recalculate.graph_eq_textGraph, recalculate, graph_recalculateCells]
      exact acyclic
    · exact tracked.consistent_recalculate acyclic
    · exact tracked'.consistent_recalculate acyclic'
    · exact wellKept_recalculateCells kept _
    · exact wellKept_recalculateCells kept' _
  have parsed_after : w'.recalculate.parsed = w.recalculate.parsed := by
    apply Std.ExtTreeMap.ext_getElem?
    intro p
    calc
      w'.recalculate.parsed[p]? = w'.expression? p := tracked'.parsed_recalculate acyclic' p
      _ = w.expression? p := Record.expression?_congr (same.formula?_eq p)
      _ = w.recalculate.parsed[p]? := (tracked.parsed_recalculate acyclic p).symm
  cases after : w.recalculate
  cases after' : w'.recalculate
  rw [after, after'] at graph_after sheet_after parsed_after same_after
  rw [Workbook.mk.injEq]
  exact ⟨sheet_after, graph_after, same_after.library, same_after.settings, parsed_after⟩

/-! ## Any results before -/

/-- Stores results in all formulas, right or wrong. -/
def overwrite (w : Workbook) (results : Position → CellValue) : Workbook :=
  w.sheet.formulas.foldl (fun w p => w.storeResult p (results p)) w

theorem sameInputs_overwrite (w : Workbook) (results : Position → CellValue) :
    SameInputs w (w.overwrite results) := by
  have change : ChangesOnly {q | q ∈ w.sheet.formulas} w (w.overwrite results) :=
    ChangesOnly.foldl (fun w p _ => ChangesOnly.storeResult w p _) w
  refine ⟨change.library, change.settings, fun q => ?_⟩
  exact List.foldlRecOn (motive := fun after : Workbook => after.input q = w.input q) _ _ rfl
    fun after same p _ => (input_storeResult after p q _).trans same

theorem Tracked.overwrite (tracked : w.Tracked) (results : Position → CellValue) :
    (w.overwrite results).Tracked :=
  tracked.foldl (fun p tracked => tracked.storeResult p _) _

theorem wellKept_overwrite (kept : w.sheet.WellKept) (results : Position → CellValue) :
    (w.overwrite results).sheet.WellKept :=
  wellKept_foldl (fun _ kept p => wellKept_storeResult kept p _) kept

theorem sameInputs_recalculate (w : Workbook) : SameInputs w w.recalculate where
  library := (ChangesOnly.recalculateCells w _).library
  settings := (ChangesOnly.recalculateCells w _).settings
  input := input_recalculate w

/-! ## With a cycle -/

/-- If one formula reaches a cycle, all formulas are marked when they are evaluated again. -/
theorem holdsCircular_recalculate (computes : (w.formula? q).isSome)
    (circular : w.graph.Circular q) (p : Position) : (w.recalculate.record p).HoldsCircular := by
  by_cases member : p ∈ (.ofList w.sheet.formulas : PositionSet)
  · apply holdsCircular_recalculateCells_of_mem member _ circular
    exact mem_ofList_formulas_iff.mpr computes
  · apply holdsCircular_of_no_formula
    rw [mem_ofList_formulas_iff, Option.not_isSome_iff_eq_none] at member
    exact (formula?_congr (input_recalculate w p)).trans member

/-- If there is a cycle, all formulas are marked when they are evaluated again. -/
theorem Tracked.holdsCircular_recalculate (tracked : w.Tracked) (cyclic : ¬ w.graph.Acyclic)
    (p : Position) : (w.recalculate.record p).HoldsCircular := by
  rw [Graph.acyclic_iff_forall_not_circular, not_forall_not] at cyclic
  obtain ⟨q, circular⟩ := cyclic
  obtain ⟨r, reads, _⟩ := Graph.circular_iff_exists_reads.mp circular
  obtain ⟨formula, stored⟩ := tracked.exists_formula_of_reads reads
  have computes : (w.formula? q).isSome := by
    rw [stored]
    rfl
  exact Workbook.holdsCircular_recalculate computes circular p

/-! ## Every backlog -/

/-- Whatever has been done with a workbook, in whatever mode, evaluating all formulas again leaves
formula texts and values as they are. Without a cycle it makes all formulas consistent, whatever
results they held before, and doing it twice changes nothing; with a cycle all formulas hold the
error for circular references. -/
theorem recalculate_repairs (reachable : w.Reachable) :
    (w.graph.Acyclic →
      (∀ p, w.recalculate.Consistent p) ∧
        (∀ results, (w.overwrite results).recalculate = w.recalculate) ∧
        w.recalculate.recalculate = w.recalculate) ∧
      (¬ w.graph.Acyclic → ∀ p, (w.recalculate.record p).HoldsCircular) ∧
      ∀ p, w.recalculate.formula? p = w.formula? p ∧
        (w.formula? p = none → w.recalculate.get? p = w.get? p) := by
  have tracked := reachable.tracked
  have kept := reachable.wellKept
  refine ⟨fun acyclic => ⟨tracked.consistent_recalculate acyclic, fun results => ?_, ?_⟩,
    tracked.holdsCircular_recalculate, fun p => ⟨formula?_congr (input_recalculate w p), ?_⟩⟩
  · exact (sameInputs_overwrite w results).recalculate_eq tracked (tracked.overwrite results)
      acyclic kept (wellKept_overwrite kept results)
  · exact (sameInputs_recalculate w).recalculate_eq tracked tracked.recalculate acyclic kept
      (wellKept_recalculateCells kept _)
  · intro absent
    rw [← input_of_no_formula absent, ← input_recalculate w p, input_of_no_formula]
    exact (formula?_congr (input_recalculate w p)).trans absent

/-- In manual mode a formula is typed in before the cell that it reads gets a value. -/
theorem consistent_recalculate_of_manual :
    (((empty .empty ⟨.manual, 4⟩).run
      [.edit ⟨1, 0⟩ "=A1", .edit ⟨0, 0⟩ "TRUE"]).recalculate).Consistent ⟨1, 0⟩ :=
  ((recalculate_repairs (reachable_run_empty _ _ _)).1 (by decide +kernel)).1 ⟨1, 0⟩

end Workbook
end Spreadsheet
