import Spreadsheet.Proofs.Coverage
import Spreadsheet.Proofs.Extent

/-!
# Sheets made by operations

Cells are stored, removed and moved. After any such operations the last column and the last row of
a sheet are the greatest ones in use, and a shift takes every cell that survives it to a place of
its own. The order in which the cells are moved makes no difference.
-/

namespace Spreadsheet

/-! ## Survival -/

/-- The coordinate is moved beyond the last one. -/
def Shift.PushesOut (s : Shift) (value : UInt32) : Prop :=
  s.pivot ≤ value ∧ (UInt32.size : Int) ≤ value.toNat + s.delta

/-- A cell survives a shift unless it is deleted or pushed beyond the last coordinate. -/
theorem Position.isSome_shift?_iff {s : Shift} {p : Position} :
    (p.shift? s).isSome ↔
      ¬ s.Deletes (p.coordinate s.axis) ∧ ¬ s.PushesOut (p.coordinate s.axis) := by
  rw [← Option.ne_none_iff_isSome, ne_eq, shift?_eq, Option.map_eq_none_iff,
    Shift.coordinate?_eq_none_iff, ← not_or, Shift.Deletes, Shift.PushesOut,
    UInt32.le_iff_toNat_le, UInt32.size, and_or_left]
  rfl

namespace Sheet

variable {s : Sheet} {p q : Position} {cell : Cell}

/-! ## Moving in any order -/

/-- A moved sheet stores a cell exactly where a stored cell has been moved to, also if the shift
moves nothing. -/
theorem get?_shift_iff (s : Sheet) (edit : Shift) :
    (s.shift edit).get? q = some cell ↔ ∃ p, p.shift? edit = some q ∧ s.get? p = some cell := by
  by_cases still : edit.delta = 0
  · simp [shift, still, Position.shift?_of_delta_eq_zero]
  · exact get?_shift_eq_some_iff still

/-- Moving the cells one after the other gives the moved sheet, in whatever order they are
taken. -/
theorem ofList_filterMap_moveCell? (edit : Shift) {entries : List (Position × Cell)}
    (perm : entries.Perm s.cells.toList) :
    .ofList (entries.filterMap edit.moveCell?) = (s.shift edit).cells := by
  apply Std.ExtTreeMap.ext_getElem?
  intro q
  apply Option.ext
  intro cell
  rw [getElem?_ofList_filterMap_moveCell? edit perm]
  exact (get?_shift_iff s edit).symm

/-! ## Operations -/

/-- What can be done with a sheet. -/
inductive Operation where
  /-- A cell is stored. -/
  | set (p : Position) (cell : Cell)
  /-- A cell is removed. -/
  | erase (p : Position)
  /-- The cells are moved. -/
  | shift (edit : Shift)

/-- Does one thing with a sheet. -/
def perform (s : Sheet) : Operation → Sheet
  | .set p cell => s.set p cell
  | .erase p => s.erase p
  | .shift edit => s.shift edit

/-- The sheet that operations make, in order, of one without cells. -/
def ofOperations (operations : List Operation) : Sheet := operations.foldl perform empty

theorem Fitted.perform (fitted : s.Fitted) (operation : Operation) :
    (s.perform operation).Fitted := by
  cases operation with
  | set p cell => exact fitted.set p cell
  | erase p => exact fitted.erase p
  | shift edit => exact fitted.shift edit

theorem fitted_ofOperations (operations : List Operation) : (ofOperations operations).Fitted :=
  List.foldlRecOn operations perform fitted_empty fun _ fitted operation _ =>
    fitted.perform operation

/-- A sheet that is made by operations ends at the greatest column and row of its cells. Whatever
shift comes next, the cells that it neither deletes nor pushes out are stored at their places, no
two of them at the same one, and nothing else is stored; and they may be moved in any order. -/
theorem moves_survivors_to_own_places (operations : List Operation) :
    let s := ofOperations operations
    (s.lastCol = (s.positions.map Position.col).max?.getD 0 ∧
      s.lastRow = (s.positions.map Position.row).max?.getD 0) ∧
    ∀ edit : Shift,
      (∀ p : Position, (p.shift? edit).isSome ↔
        ¬ edit.Deletes (p.coordinate edit.axis) ∧ ¬ edit.PushesOut (p.coordinate edit.axis)) ∧
      (∀ p p' q : Position, p.shift? edit = some q → p'.shift? edit = some q → p = p') ∧
      (∀ q cell, (s.shift edit).get? q = some cell ↔
        ∃ p, p.shift? edit = some q ∧ s.get? p = some cell) ∧
      ∀ entries : List (Position × Cell), entries.Perm s.cells.toList →
        .ofList (entries.filterMap edit.moveCell?) = (s.shift edit).cells := by
  intro s
  have fitted : s.Fitted := fitted_ofOperations operations
  refine ⟨⟨fitted.col.eq_max?, fitted.row.eq_max?⟩, fun edit => ⟨?_, ?_, ?_, ?_⟩⟩
  · exact fun p => Position.isSome_shift?_iff
  · exact fun p p' q => Position.shift?_injective
  · exact fun q cell => get?_shift_iff s edit
  · exact fun entries => ofList_filterMap_moveCell? edit

/-- The lowest of three cells has been removed. Two columns are deleted, and the cell behind them
moves to their place, which no other cell reaches; to move the last cells first makes no
difference. -/
theorem moves_survivors_of_deleted_columns :
    let behind : Cell := .ofFormula "=A1"
    let s := ofOperations [.set ⟨0, 0⟩ (.ofValue (.boolean true)), .set ⟨1, 4⟩ .blank,
      .set ⟨3, 2⟩ behind, .erase ⟨1, 4⟩]
    let edit : Shift := ⟨.column, 1, -2⟩
    s.lastCol = 3 ∧ s.lastRow = 2 ∧ (s.shift edit).get? ⟨1, 2⟩ = some behind ∧
      Position.shift? edit ⟨1, 2⟩ ≠ some ⟨1, 2⟩ ∧
      .ofList (s.cells.toList.reverse.filterMap edit.moveCell?) = (s.shift edit).cells := by
  intro behind s edit
  obtain ⟨⟨lastCol, lastRow⟩, moves⟩ := moves_survivors_to_own_places
    [.set ⟨0, 0⟩ (.ofValue (.boolean true)), .set ⟨1, 4⟩ .blank, .set ⟨3, 2⟩ behind, .erase ⟨1, 4⟩]
  obtain ⟨_, apart, stored, ordered⟩ := moves edit
  have arrives : Position.shift? edit ⟨3, 2⟩ = some ⟨1, 2⟩ := by decide
  refine ⟨lastCol.trans ?_, lastRow.trans ?_, (stored _ _).mpr ⟨⟨3, 2⟩, arrives, ?_⟩,
    fun moves => ?_, ordered _ (List.reverse_perm _)⟩
  · decide +kernel
  · decide +kernel
  · simp [ofOperations, perform]
  · exact absurd (apart _ _ _ moves arrives) (by decide)

end Sheet
end Spreadsheet
