import Spreadsheet.Proofs.Formula.Undoing
import Spreadsheet.Proofs.Workbook.Shifting

/-!
# Undoing an insertion in a workbook

Inserting rows or columns and deleting them again restores a workbook. Every stored cell returns to
its place, every formula returns to a text that is read as before, and so the graph and all results
return.
-/

namespace Spreadsheet
namespace Workbook

variable {w : Workbook} {p q : Position} {edit : Shift}

/-- The workbook after an insertion and the deletion of what has been inserted. -/
def restored (w : Workbook) (edit : Shift) : Workbook := (w.shift edit).shift edit.undo

/-- An insertion pushes no stored cell to the last coordinate. -/
def HasRoom (w : Workbook) (edit : Shift) : Prop :=
  ∀ p, (w.get? p).isSome → (p.coordinate edit.axis).toNat + edit.delta < 0xFFFFFFFF

/-- A formula moves without loss: it has no colons in the names of calls, and the corners of each
reference move together. -/
def Undoable (edit : Shift) (formula : String) : Prop :=
  ∃ e, Formula.parse formula = .ok e ∧ (∀ name ∈ e.functionNames, ':' ∉ name.toList) ∧
    ∀ reference ∈ e.references, reference.MovesTogether edit

/-! ## What is stored -/

theorem undo_ne_zero (inserts : 0 < edit.delta) : edit.undo.delta ≠ 0 :=
  Int.neg_ne_zero.mpr (Int.ne_of_gt inserts)

theorem HasRoom.exists_place (room : w.HasRoom edit) (inserts : 0 < edit.delta)
    (stored : (w.get? p).isSome) : ∃ q, p.shift? edit = some q ∧ q.shift? edit.undo = some p := by
  have below := room p stored
  obtain ⟨q, arrives⟩ :=
    Position.exists_shift?_of_inserts (p := p) (s := edit) (by omega) (by omega)
  exact ⟨q, arrives, Position.shift?_undo arrives⟩

/-- Undoing an insertion stores no new cell. -/
theorem get?_restored_of_absent (inserts : 0 < edit.delta) (absent : w.get? p = none) :
    (w.restored edit).get? p = none := by
  rw [Option.eq_none_iff_forall_ne_some]
  intro cell present
  obtain ⟨q, comes, stored⟩ := exists_source_of_get?_shift (undo_ne_zero inserts) present
  obtain ⟨cell', present'⟩ := Option.isSome_iff_exists.mp stored
  obtain ⟨p', goes, stored⟩ := exists_source_of_get?_shift (Int.ne_of_gt inserts) present'
  obtain rfl := Option.some.inj (comes.symm.trans (Position.shift?_undo goes))
  rw [absent] at stored
  contradiction

/-- After the insertion and its undoing every formula has been relocated twice. -/
theorem formula?_restored (room : w.HasRoom edit) (inserts : 0 < edit.delta) (p : Position) :
    (w.restored edit).formula? p =
      (w.formula? p).map fun formula =>
        Formula.relocate edit.undo (Formula.relocate edit formula) := by
  cases present : w.get? p with
  | none =>
      rw [formula?_eq, formula?_eq, get?_restored_of_absent inserts present, present]
      rfl
  | some cell =>
      obtain ⟨q, goes, comes⟩ := room.exists_place inserts (by rw [present]; rfl)
      rw [restored, formula?_shift (undo_ne_zero inserts) comes,
        formula?_shift (Int.ne_of_gt inserts) goes, Option.map_map]
      rfl

/-- Values are stored as before. -/
theorem get?_restored_of_no_formula (room : w.HasRoom edit) (inserts : 0 < edit.delta)
    (absent : w.formula? p = none) : (w.restored edit).get? p = w.get? p := by
  cases present : w.get? p with
  | none => exact get?_restored_of_absent inserts present
  | some cell =>
      obtain ⟨q, goes, comes⟩ := room.exists_place inserts (by rw [present]; rfl)
      have absent_between : (w.shift edit).formula? q = none := by
        rw [formula?_shift (Int.ne_of_gt inserts) goes, absent, Option.map_none]
      rw [restored, get?_shift_of_no_formula (undo_ne_zero inserts) comes absent_between,
        get?_shift_of_no_formula (Int.ne_of_gt inserts) goes absent, present]

/-- Formulas are read as before. -/
theorem expression?_restored (room : w.HasRoom edit) (inserts : 0 < edit.delta)
    (undoable : ∀ p formula, w.formula? p = some formula → Undoable edit formula) (p : Position) :
    (w.restored edit).expression? p = w.expression? p := by
  have relocated := formula?_restored room inserts p
  cases stored : w.formula? p with
  | none =>
      rw [stored, Option.map_none] at relocated
      exact Record.expression?_congr (relocated.trans stored.symm)
  | some formula =>
      obtain ⟨e, parsed, plain, together⟩ := undoable p formula stored
      -- In between the text may be too long to be a formula; only what comes back has to be one.
      have parsed_back := Formula.parse_relocate_undo parsed inserts plain together
      have read : w.expression? p = some e :=
        Record.expression?_eq_some_iff.mpr ⟨_, stored, parsed⟩
      rw [stored, Option.map_some] at relocated
      rw [read]
      exact Record.expression?_eq_some_iff.mpr ⟨_, relocated, parsed_back⟩

/-! ## Results -/

theorem carried_restored (room : w.HasRoom edit) (inserts : 0 < edit.delta)
    (undoable : ∀ p formula, w.formula? p = some formula → Undoable edit formula) :
    Carried some w (w.restored edit) where
  library := (ChangesOnly.shift _ edit.undo).library.trans (ChangesOnly.shift w edit).library
  maxRangeCells := congrArg Settings.maxRangeCells
    ((ChangesOnly.shift _ edit.undo).settings.trans (ChangesOnly.shift w edit).settings)
  injective same same' := Option.some.inj (same.trans same'.symm)
  cell {p q} same := by
    obtain rfl := Option.some.inj same
    cases stored : w.formula? p with
    | none => exact .inl ⟨rfl, get?_restored_of_no_formula room inserts stored⟩
    | some formula =>
        obtain ⟨e, parsed, _⟩ := undoable p formula stored
        have read : w.expression? p = some e :=
          Record.expression?_eq_some_iff.mpr ⟨_, stored, parsed⟩
        exact .inr ⟨e, e, read, (expression?_restored room inserts undoable p).trans read,
          e.carried_refl _⟩
  source {q _} _ := ⟨q, rfl⟩

/-- The graph is determined by what the formulas are read as. -/
theorem Tracked.graph_eq_of_expression?_eq {w' : Workbook} (tracked : w.Tracked)
    (tracked' : w'.Tracked) (settings : w'.settings = w.settings)
    (same : ∀ p, w'.expression? p = w.expression? p) :
    w'.graph = w.graph := by
  apply tracked'.mirrored.eq_of_precedentsOf_eq tracked.mirrored
  · rw [tracked'.maxRangeCells_eq, tracked.maxRangeCells_eq, settings]
  · intro p
    rw [tracked'.precedentsOf_eq, tracked.precedentsOf_eq, textPrecedents, textPrecedents,
      settings, same]

/-- Deleting what has just been inserted restores a workbook. It stores cells at the same places
with the same values and errors, its formulas are read as before, and its graph is the same. -/
theorem delete_inserted (reachable : w.Reachable) (acyclic : w.graph.Acyclic)
    (consistent : ∀ p, w.Consistent p) (axis : Axis) (first count : UInt32)
    (room : w.HasRoom ⟨axis, first, count.toNat⟩)
    (undoable : ∀ p formula, w.formula? p = some formula →
      Undoable ⟨axis, first, count.toNat⟩ formula) :
    let back := (w.shift ⟨axis, first, count.toNat⟩).shift ⟨axis, first, -count.toNat⟩
    (∀ p, (back.get? p).map Cell.result = (w.get? p).map Cell.result) ∧
      (∀ p, w.formula? p = none → back.get? p = w.get? p) ∧
      (∀ p, back.expression? p = w.expression? p) ∧ back.graph = w.graph := by
  intro back
  by_cases still : (count.toNat : Int) = 0
  · have same : back = w := by
      change (w.shift ⟨axis, first, count.toNat⟩).shift ⟨axis, first, -count.toNat⟩ = w
      rw [shift, if_pos (Int.neg_eq_zero.mpr still), shift, if_pos still]
    rw [same]
    exact ⟨fun _ => rfl, fun _ _ => rfl, fun _ => rfl, rfl⟩
  · have inserts : (0 : Int) < count.toNat := by omega
    have tracked := reachable.tracked
    have tracked_back : back.Tracked := (tracked.shift _).shift _
    have carried := carried_restored room inserts undoable
    have acyclic_back := carried.acyclic tracked tracked_back acyclic
    have consistent_back := consistent_shift (tracked.shift _) (undo_ne_zero inserts) acyclic_back
    have expressions := expression?_restored room inserts undoable
    refine ⟨fun p => ?_, fun p => get?_restored_of_no_formula room inserts, expressions, ?_⟩
    · exact carried.result_eq tracked acyclic consistent consistent_back reachable.wellKept
        (wellKept_shift (wellKept_shift reachable.wellKept _) _) rfl
    · exact tracked.graph_eq_of_expression?_eq tracked_back
        ((ChangesOnly.shift _ _).settings.trans (ChangesOnly.shift w _).settings) expressions

/-- Two rows are inserted into a range and deleted again. The text comes back spelled differently:
without the zero in front of a row, and with the corners of the range in order. -/
theorem delete_inserted_rows :
    let w := (empty .empty ⟨.automatic, 4⟩).run
      [.edit ⟨0, 0⟩ "TRUE", .edit ⟨0, 2⟩ "=$A$01&B1", .edit ⟨0, 3⟩ "=a03&SUM(A3:$A1)",
        .recalculate]
    let back := (w.insertRows 1 2).deleteRows 1 2
    (∀ p, (back.get? p).map Cell.result = (w.get? p).map Cell.result) ∧ back.graph = w.graph ∧
      back.formula? ⟨0, 3⟩ = some "=A3&SUM(A1:$A3)" := by
  intro w back
  have reachable : w.Reachable := reachable_run_empty _ _ _
  have acyclic : w.graph.Acyclic := by decide +kernel
  have consistent : ∀ p, w.Consistent p := by
    have before := tracked_run_empty .empty ⟨.automatic, 4⟩
      [.edit ⟨0, 0⟩ "TRUE", .edit ⟨0, 2⟩ "=$A$01&B1", .edit ⟨0, 3⟩ "=a03&SUM(A3:$A1)"]
    exact before.consistent_recalculate (by decide +kernel)
  have positions : w.sheet.positions = [⟨0, 0⟩, ⟨0, 2⟩, ⟨0, 3⟩] := by decide +kernel
  have formulas : w.sheet.formulas = [⟨0, 2⟩, ⟨0, 3⟩] := by decide +kernel
  have room : w.HasRoom ⟨.row, 1, (2 : UInt32).toNat⟩ := by
    have each : ∀ p ∈ w.sheet.positions,
        (p.coordinate .row).toNat + ((2 : UInt32).toNat : Int) < 0xFFFFFFFF := by
      rw [positions]
      decide
    exact fun p stored => each p (Sheet.mem_positions_iff.mpr (Option.isSome_iff_exists.mp stored))
  have back_eq := delete_inserted reachable acyclic consistent .row 1 2 room ?_
  · exact ⟨back_eq.1, back_eq.2.2.2, by decide +kernel⟩
  · intro p formula stored
    have member := mem_formulas_of_formula? stored
    rw [formulas] at member
    simp only [List.mem_cons, List.not_mem_nil, or_false] at member
    rcases member with rfl | rfl
    · have text : w.formula? ⟨0, 2⟩ = some "=$A$01&B1" := by decide +kernel
      obtain rfl := Option.some.inj (stored.symm.trans text)
      have parsed : Formula.parse "=$A$01&B1" =
          .ok (.binary .concat (.cell ⟨0, 0, true, true⟩) (.cell ⟨1, 0, false, false⟩)) := by
        with_unfolding_all rfl
      exact ⟨_, parsed, by decide, by decide⟩
    · have text : w.formula? ⟨0, 3⟩ = some "=a03&SUM(A3:$A1)" := by decide +kernel
      obtain rfl := Option.some.inj (stored.symm.trans text)
      have parsed : Formula.parse "=a03&SUM(A3:$A1)" =
          .ok (.binary .concat (.cell ⟨0, 2, false, false⟩)
            (.call "SUM" [.range ⟨⟨0, 0, false, false⟩, ⟨0, 2, true, false⟩⟩])) := by
        with_unfolding_all rfl
      exact ⟨_, parsed, by decide, by decide⟩

end Workbook
end Spreadsheet
