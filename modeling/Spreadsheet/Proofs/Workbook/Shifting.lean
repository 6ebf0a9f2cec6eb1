import Spreadsheet.Proofs.Workbook.Moving

/-!
# Structural edits

What a structural edit leaves of a workbook: the cells that survive, each at its new place and with
the references of its formula relocated. If the references of the surviving formulas move as a
whole, all values and errors move with the cells.
-/

namespace Spreadsheet

/-- The cell with the references of its formula relocated. -/
def Cell.relocate (edit : Shift) (c : Cell) : Cell :=
  { c with formula := c.formula.map (Formula.relocate edit) }

theorem Cell.relocate_of_value {edit : Shift} {c : Cell} (own : c.formula = none) :
    c.relocate edit = c := by
  obtain ⟨_, _, _⟩ := c
  obtain rfl : _ = none := own
  rfl

theorem Cell.uncalculated_relocate {edit : Shift} {c : Cell} :
    (c.relocate edit).uncalculated = c.uncalculated.relocate edit := by
  cases own : c.formula with
  | none => rw [relocate_of_value own, uncalculated_of_value own, relocate_of_value own]
  | some formula =>
      have relocated : (c.relocate edit).formula = some (Formula.relocate edit formula) := by
        rw [relocate, own, Option.map_some]
      rw [uncalculated_of_formula relocated, uncalculated_of_formula own]
      rfl

/-- A cell that survives an edit is stored at its new place. -/
theorem Sheet.get?_shift {s : Sheet} {edit : Shift} {p q : Position} (moves : edit.delta ≠ 0)
    (arrives : p.shift? edit = some q) : (s.shift edit).get? q = s.get? p := by
  apply Option.ext
  intro cell
  rw [get?_shift_eq_some_iff moves]
  constructor
  · rintro ⟨p', arrives', present⟩
    obtain rfl := Position.shift?_injective arrives arrives'
    exact present
  · exact fun present => ⟨p, arrives, present⟩

namespace Workbook

variable {w : Workbook} {p q : Position} {edit : Shift}

/-! ## What is stored -/

theorem get?_relocateCell (edit : Shift) (w : Workbook) (p : Position) :
    (w.relocateCell edit p).get? p = (w.get? p).map (Cell.relocate edit) := by
  rw [relocateCell]
  split
  · rename_i absent
    rw [absent, Option.map_none]
  · rename_i cell present
    split
    · rename_i own
      rw [present, Option.map_some, Cell.relocate_of_value own]
    · rename_i formula own
      rw [get?_setCell, if_pos rfl, present, Option.map_some, Cell.relocate, own, Option.map_some]

theorem get?_foldl_relocateCell {list : List Position} (distinct : list.Nodup) (w : Workbook)
    (q : Position) : (list.foldl (relocateCell edit) w).get? q =
      if q ∈ list then (w.get? q).map (Cell.relocate edit) else w.get? q := by
  induction list generalizing w with
  | nil => simp
  | cons first rest ih =>
      obtain ⟨first_notin, distinct⟩ := List.nodup_cons.mp distinct
      rw [List.foldl_cons, ih distinct]
      by_cases same : q = first
      · subst same
        rw [if_neg first_notin, if_pos List.mem_cons_self, get?_relocateCell]
      · rw [(ChangesOnly.relocateCell edit w first).get?_eq same]
        simp [same]

/-- A structural edit stores the cells of the moved sheet with their formulas relocated. -/
theorem get?_relocated (w : Workbook) (edit : Shift) (q : Position) :
    (w.relocated edit).get? q = ((w.sheet.shift edit).get? q).map (Cell.relocate edit) := by
  rw [relocated, get?_foldl_relocateCell (Sheet.nodup_formulas _)]
  split
  · rfl
  · rename_i outside
    rw [Sheet.mem_formulas_iff, Option.not_isSome_iff_eq_none] at outside
    change (w.sheet.shift edit).get? q = _
    cases present : (w.sheet.shift edit).get? q with
    | none => rfl
    | some cell =>
        rw [present, Option.bind_some] at outside
        rw [Option.map_some, Cell.relocate_of_value outside]

/-- The inputs after a structural edit are the moved inputs with their formulas relocated. -/
theorem input_shift (moves : edit.delta ≠ 0) (arrives : p.shift? edit = some q) :
    (w.shift edit).input q = (w.input p).map (Cell.relocate edit) := by
  rw [shift_eq_recalculate moves, input_recalculate, input, get?_relocated,
    Sheet.get?_shift moves arrives, input, get?, Option.map_map, Option.map_map]
  congr 1
  funext cell
  exact Cell.uncalculated_relocate

theorem formula?_shift (moves : edit.delta ≠ 0) (arrives : p.shift? edit = some q) :
    (w.shift edit).formula? q = (w.formula? p).map (Formula.relocate edit) := by
  rw [formula?_eq_input, input_shift moves arrives, formula?_eq_input]
  cases w.input p <;> rfl

/-- A value is stored at its new place as it is. -/
theorem get?_shift_of_no_formula (moves : edit.delta ≠ 0) (arrives : p.shift? edit = some q)
    (absent : w.formula? p = none) : (w.shift edit).get? q = w.get? p := by
  have absent_after : (w.shift edit).formula? q = none := by
    rw [formula?_shift moves arrives, absent, Option.map_none]
  rw [← input_of_no_formula absent_after, input_shift moves arrives, input_of_no_formula absent]
  cases present : w.get? p with
  | none => rfl
  | some cell =>
      have own : cell.formula = none := by
        rw [formula?_eq, present, Option.bind_some] at absent
        exact absent
      rw [Option.map_some, Cell.relocate_of_value own]

/-- Every cell that is stored after a structural edit has been stored before. -/
theorem exists_source_of_get?_shift {cell : Cell} (moves : edit.delta ≠ 0)
    (present : (w.shift edit).get? q = some cell) :
    ∃ p, p.shift? edit = some q ∧ (w.get? p).isSome := by
  have stored : ((w.shift edit).input q).isSome := by
    rw [input, present]
    rfl
  rw [shift_eq_recalculate moves, input_recalculate, input, get?_relocated, Option.isSome_map,
    Option.isSome_map] at stored
  obtain ⟨cell', present'⟩ := Option.isSome_iff_exists.mp stored
  obtain ⟨p, arrives, present⟩ := (Sheet.get?_shift_eq_some_iff moves).mp present'
  exact ⟨p, arrives, by rw [get?, present]; rfl⟩

/-! ## Values -/

/-- If a structural edit leaves no cycle, every formula is consistent after it. -/
theorem consistent_shift (tracked : w.Tracked) (moves : edit.delta ≠ 0)
    (acyclic : (w.shift edit).graph.Acyclic) : ∀ p, (w.shift edit).Consistent p := by
  rw [shift_eq_recalculate moves, recalculate, graph_recalculateCells] at acyclic
  rw [shift_eq_recalculate moves]
  exact (tracked.relocated moves).consistent_recalculate acyclic

/-- A structural edit keeps what a formula says. -/
structure Movable (edit : Shift) (formula : String) : Prop where
  /-- The text is a formula without colons in the names of calls, and its references move as a
  whole. -/
  exists_parse : ∃ e, Formula.parse formula = .ok e ∧
    (∀ name ∈ e.functionNames, ':' ∉ name.toList) ∧
      ∀ reference ∈ e.references, reference.MovesWhole edit
  /-- The relocated text is not too long. -/
  short : (Formula.relocate edit formula).length ≤ Formula.maxChars

theorem carried_shift (moves : edit.delta ≠ 0)
    (movable : ∀ p formula, (p.shift? edit).isSome → w.formula? p = some formula →
      Movable edit formula) : Carried (Position.shift? edit) w (w.shift edit) where
  library := (ChangesOnly.shift w edit).library
  maxRangeCells := congrArg Settings.maxRangeCells (ChangesOnly.shift w edit).settings
  injective := Position.shift?_injective
  cell {p q} arrives := by
    cases stored : w.formula? p with
    | none => exact .inl ⟨rfl, get?_shift_of_no_formula moves arrives stored⟩
    | some formula =>
        obtain ⟨⟨e, parsed, plain, whole⟩, short⟩ :=
          movable p formula (by rw [arrives]; rfl) stored
        have means := (Formula.parse_eq_ok_iff_means.mp parsed).2
        have fits : ∀ reference ∈ e.references, reference.Fits edit := fun reference member =>
          (whole reference member).follows.fits (means.proper reference member)
        have relocated := Formula.parse_eq_ok_iff_means.mpr ⟨short, means.relocate plain fits⟩
        have stored_after : (w.shift edit).formula? q = some (Formula.relocate edit formula) := by
          rw [formula?_shift moves arrives, stored, Option.map_some]
        exact .inr ⟨e, e.shift edit, Record.expression?_eq_some_iff.mpr ⟨formula, stored, parsed⟩,
          Record.expression?_eq_some_iff.mpr ⟨_, stored_after, relocated⟩,
          Expr.carried_shift means.proper whole⟩
  source present := by
    obtain ⟨p, arrives, _⟩ := exists_source_of_get?_shift moves present
    exact ⟨p, arrives⟩

/-- A structural edit moves values and errors with the cells. If the references of all surviving
formulas move as a whole, every cell that survives has the same value and the same error at its new
place, and no other cell is stored. -/
theorem result_shift (reachable : w.Reachable) (acyclic : w.graph.Acyclic)
    (consistent : ∀ p, w.Consistent p) (edit : Shift)
    (movable : ∀ p formula, (p.shift? edit).isSome → w.formula? p = some formula →
      Movable edit formula) :
    (∀ p q, p.shift? edit = some q →
        ((w.shift edit).get? q).map Cell.result = (w.get? p).map Cell.result) ∧
      ∀ q cell, (w.shift edit).get? q = some cell →
        ∃ p, p.shift? edit = some q ∧ (w.get? p).isSome := by
  by_cases still : edit.delta = 0
  · rw [shift, if_pos still]
    refine ⟨fun p q arrives => ?_, fun q cell present => ⟨q, q.shift?_of_delta_eq_zero still, ?_⟩⟩
    · rw [p.shift?_of_delta_eq_zero still, Option.some.injEq] at arrives
      rw [arrives]
    · rw [present]
      rfl
  · have tracked := reachable.tracked
    have carried := carried_shift still movable
    have acyclic_after := carried.acyclic tracked (tracked.shift edit) acyclic
    have consistent_after := consistent_shift tracked still acyclic_after
    refine ⟨fun p q arrives => ?_, fun q cell => exists_source_of_get?_shift still⟩
    exact carried.result_eq tracked acyclic consistent consistent_after reachable.wellKept
      (wellKept_shift reachable.wellKept edit) arrives

/-- A row is deleted between two cells and the formula that reads them. -/
theorem result_shift_deleted_row :
    let w := (empty .empty ⟨.automatic, 4⟩).run
      [.edit ⟨0, 0⟩ "TRUE", .edit ⟨0, 2⟩ "=A1", .edit ⟨0, 3⟩ "=A1&A3", .recalculate]
    ((w.deleteRows 1 1).get? ⟨0, 2⟩).map Cell.result = (w.get? ⟨0, 3⟩).map Cell.result := by
  intro w
  have reachable : w.Reachable := reachable_run_empty _ _ _
  have acyclic : w.graph.Acyclic := by decide +kernel
  have consistent : ∀ p, w.Consistent p := by
    have before := tracked_run_empty .empty ⟨.automatic, 4⟩
      [.edit ⟨0, 0⟩ "TRUE", .edit ⟨0, 2⟩ "=A1", .edit ⟨0, 3⟩ "=A1&A3"]
    exact before.consistent_recalculate (by decide +kernel)
  have formulas : w.sheet.formulas = [⟨0, 2⟩, ⟨0, 3⟩] := by decide +kernel
  refine (result_shift reachable acyclic consistent ⟨.row, 1, -1⟩ ?_).1 ⟨0, 3⟩ ⟨0, 2⟩
    (by decide +kernel)
  intro p formula _ stored
  have member := mem_formulas_of_formula? stored
  rw [formulas] at member
  simp only [List.mem_cons, List.not_mem_nil, or_false] at member
  rcases member with rfl | rfl
  · have text : w.formula? ⟨0, 2⟩ = some "=A1" := by decide +kernel
    obtain rfl := Option.some.inj (stored.symm.trans text)
    have parsed : Formula.parse "=A1" = .ok (.cell ⟨0, 0, false, false⟩) := by
      with_unfolding_all rfl
    exact ⟨⟨_, parsed, by decide, by decide⟩, by decide +kernel⟩
  · have text : w.formula? ⟨0, 3⟩ = some "=A1&A3" := by decide +kernel
    obtain rfl := Option.some.inj (stored.symm.trans text)
    have parsed : Formula.parse "=A1&A3" =
        .ok (.binary .concat (.cell ⟨0, 0, false, false⟩) (.cell ⟨0, 2, false, false⟩)) := by
      with_unfolding_all rfl
    exact ⟨⟨_, parsed, by decide, by decide⟩, by decide +kernel⟩

end Workbook
end Spreadsheet
