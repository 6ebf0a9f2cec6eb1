import Spreadsheet.Proofs.Workbook.Tracking

/-!
# Building the graph anew

Loading reads the graph off the cells; a structural edit moves it and then tracks every formula
whose references it has relocated. Both leave a tracked workbook.
-/

namespace Spreadsheet
namespace Workbook

variable {w : Workbook} {p q : Position}

/-- Steps that make the cells of a list match, one each, track a workbook in which the other cells
match already. -/
theorem tracked_foldl_of_matches {step : Workbook → Position → Workbook} {list : List Position}
    (ready : Record → Prop) (distinct : list.Nodup)
    (each : ∀ w, ∀ p ∈ list, ChangesOnly {p} w (step w p))
    (establish : ∀ w p, ready (w.record p) →
      ((step w p).record p).Matches w.graph.maxRangeCells)
    (limit : w.graph.maxRangeCells = w.settings.maxRangeCells) (mirrored : w.graph.Mirrored)
    (listed : ∀ p ∈ list, ready (w.record p))
    (others : ∀ q, q ∉ list → (w.record q).Matches w.settings.maxRangeCells) :
    (list.foldl step w).Tracked := by
  have change : ChangesOnly {q | q ∈ list} w (list.foldl step w) := ChangesOnly.foldl each w
  refine ⟨?_, change.mirrored mirrored, ?_⟩
  · rw [change.maxRangeCells, change.settings, limit]
  · intro q
    rw [change.settings]
    by_cases member : q ∈ list
    · rw [← limit]
      exact ChangesOnly.foldl_establishes (fun _ => ready) (fun limit r => r.Matches limit)
        distinct each (fun w p _ => establish w p) w listed q member
    · rw [change.record q member]
      exact others q member

/-! ## Loading -/

theorem loadedFormula?_of_formula {cell : Cell} {formula : String}
    (stored : cell.formula = some formula) : loadedFormula? cell = some formula := by
  rw [loadedFormula?, stored]

/-- What is stored before a loaded formula is tracked. -/
private def storeLoaded (w : Workbook) (p : Position) (cell : Cell) (formula : String) :
    Workbook :=
  if cell.isFormula then w else w.setCell p (.ofFormula formula)

private theorem storeLoaded_graph (w : Workbook) (p : Position) (cell : Cell) (formula : String) :
    (w.storeLoaded p cell formula).graph = w.graph := by
  rw [storeLoaded]
  split <;> rfl

private theorem record_storeLoaded {cell : Cell} {formula : String}
    (present : w.get? p = some cell) (loaded : loadedFormula? cell = some formula) :
    ∃ cell' : Cell, cell'.formula = some formula ∧
      (w.storeLoaded p cell formula).record p = { w.record p with cell := some cell' } := by
  rw [storeLoaded]
  split
  · rename_i computes
    obtain ⟨own, stored⟩ := Option.isSome_iff_exists.mp computes
    rw [loadedFormula?_of_formula stored] at loaded
    exact ⟨cell, loaded ▸ stored, by rw [record, ← present]⟩
  · exact ⟨.ofFormula formula, rfl, by rw [record_setCell, if_pos rfl]⟩

theorem matches_loadCell (w : Workbook) (p : Position)
    (precedents : (w.record p).precedents = none) (parsed : (w.record p).parsed = none) :
    ((w.loadCell p).record p).Matches w.graph.maxRangeCells := by
  rw [loadCell]
  split
  · rename_i absent
    have no_formula : w.formula? p = none := congrArg (Option.bind · Cell.formula) absent
    exact Record.matches_of_no_formula no_formula precedents parsed
  · rename_i cell present
    split
    · rename_i unloaded
      apply Record.matches_of_no_formula _ precedents parsed
      cases stored : cell.formula with
      | none => exact (congrArg (Option.bind · Cell.formula) present).trans stored
      | some formula => rw [loadedFormula?_of_formula stored] at unloaded; contradiction
    · rename_i formula loaded
      obtain ⟨cell', stored, kept⟩ := record_storeLoaded present loaded
      cases parse : Formula.parse formula with
      | ok e =>
          change (((w.storeLoaded p cell formula).track p e).record p).Matches _
          rw [record_track, if_pos rfl, kept, storeLoaded_graph]
          exact Record.matches_of_parse stored parse rfl rfl
      | error cause =>
          change ((w.storeLoaded p cell formula).record p).Matches _
          rw [kept]
          exact Record.matches_of_syntax_error stored parse precedents parsed

/-- Whatever the graph and the trees were, loading makes them match the stored texts, before
anything is evaluated. -/
theorem tracked_foldl_loadCell (limit : w.graph.maxRangeCells = w.settings.maxRangeCells) :
    (w.sheet.positions.foldl loadCell
      { w with graph := .empty w.graph.maxRangeCells, parsed := ∅ }).Tracked := by
  apply tracked_foldl_of_matches fun r => r.precedents = none ∧ r.parsed = none
  · exact w.sheet.nodup_positions
  · exact fun w p _ => ChangesOnly.loadCell w p
  · exact fun w p bare => matches_loadCell w p bare.1 bare.2
  · exact limit
  · exact Graph.mirrored_empty _
  · exact fun p _ => ⟨Std.ExtTreeMap.getElem?_empty, Std.ExtTreeMap.getElem?_empty⟩
  · intro q outside
    apply Record.matches_of_no_formula _ Std.ExtTreeMap.getElem?_empty
      Std.ExtTreeMap.getElem?_empty
    cases present : w.get? q with
    | none => exact congrArg (Option.bind · Cell.formula) present
    | some cell => exact absurd (Sheet.mem_positions_iff.mpr ⟨cell, present⟩) outside

theorem tracked_load (limit : w.graph.maxRangeCells = w.settings.maxRangeCells) :
    w.load.Tracked :=
  (tracked_foldl_loadCell limit).recalculate

theorem Tracked.load (tracked : w.Tracked) : w.load.Tracked :=
  tracked_load tracked.maxRangeCells_eq

/-! ## Moving -/

theorem matches_relocateCell (edit : Shift) (w : Workbook) (p : Position)
    (computes : (w.record p).formula?.isSome) :
    ((w.relocateCell edit p).record p).Matches w.graph.maxRangeCells := by
  obtain ⟨formula, stored⟩ := Option.isSome_iff_exists.mp computes
  obtain ⟨cell, present, own⟩ := exists_cell_of_formula? stored
  rw [relocateCell, present]
  dsimp only
  rw [own]
  dsimp only
  rw [record_setCell, if_pos rfl]
  split
  · rename_i e parse
    rw [record_track, if_pos rfl]
    exact Record.matches_of_parse rfl parse rfl rfl
  · rename_i cause parse
    rw [record_untrack, if_pos rfl]
    exact Record.matches_of_syntax_error rfl parse rfl rfl

/-- Where no formula arrives, the moved graph has no entry. -/
theorem Tracked.getElem?_precedents_shift (tracked : w.Tracked) {edit : Shift}
    (moves : edit.delta ≠ 0)
    (absent : ((w.sheet.shift edit).get? q).bind Cell.formula = none) :
    (w.graph.shift edit).precedents[q]? = none := by
  apply (tracked.mirrored.shift edit).getElem?_precedents_eq_none
  intro precedent reads
  -- The pair has been moved here, and with it the formula of its reader.
  obtain ⟨p, _, reads, arrives, _⟩ := (Graph.mem_precedentsOf_shift moves).mp reads
  obtain ⟨formula, stored⟩ := tracked.exists_formula_of_reads reads
  obtain ⟨cell, present, own⟩ := exists_cell_of_formula? stored
  have present_after := (Sheet.get?_shift_eq_some_iff moves).mpr ⟨p, arrives, present⟩
  rw [present_after, Option.bind_some, own] at absent
  contradiction

/-- The workbook after a structural edit before its formulas are evaluated. -/
def relocated (w : Workbook) (edit : Shift) : Workbook :=
  (w.sheet.shift edit).formulas.foldl (relocateCell edit)
    { w with sheet := w.sheet.shift edit, graph := w.graph.shift edit, parsed := ∅ }

theorem shift_eq_recalculate {edit : Shift} (moves : edit.delta ≠ 0) (w : Workbook) :
    w.shift edit = (w.relocated edit).recalculate := by
  rw [Workbook.shift, if_neg moves, updateReferences, if_neg moves]
  rfl

theorem Tracked.relocated (tracked : w.Tracked) {edit : Shift} (moves : edit.delta ≠ 0) :
    (w.relocated edit).Tracked := by
  -- The moved graph has only to be right where no formula is: the others are tracked anew.
  apply tracked_foldl_of_matches fun r => r.formula?.isSome
  · exact Sheet.nodup_formulas _
  · exact fun w p _ => ChangesOnly.relocateCell edit w p
  · exact fun w p computes => matches_relocateCell edit w p computes
  · exact (Graph.maxRangeCells_shift edit).trans tracked.maxRangeCells_eq
  · exact tracked.mirrored.shift edit
  · exact fun p member => Sheet.mem_formulas_iff.mp member
  · intro q outside
    have absent : ((w.sheet.shift edit).get? q).bind Cell.formula = none := by
      rw [Sheet.mem_formulas_iff, Option.not_isSome_iff_eq_none] at outside
      exact outside
    exact Record.matches_of_no_formula absent (tracked.getElem?_precedents_shift moves absent)
      Std.ExtTreeMap.getElem?_empty

theorem Tracked.shift (tracked : w.Tracked) (edit : Shift) : (w.shift edit).Tracked := by
  by_cases still : edit.delta = 0
  · rw [Workbook.shift, if_pos still]
    exact tracked
  · rw [shift_eq_recalculate still]
    exact (tracked.relocated still).recalculate

end Workbook
end Spreadsheet
