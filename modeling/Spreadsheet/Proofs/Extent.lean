import Mathlib.Data.List.Induction
import Spreadsheet.Proofs.Movement

/-!
# The used extent of a sheet

Every operation keeps the last column and the last row equal to the greatest ones in use. So the
extent of a sheet is determined by its cells, and to store again what is stored changes nothing.
-/

namespace Spreadsheet

/-! ## The greatest coordinate -/

/-- The greatest coordinate of some positions; it is zero if there are none. -/
structure IsLast (coordinate : Position → UInt32) (positions : List Position) (last : UInt32) :
    Prop where
  /-- No position lies behind it. -/
  le : ∀ p ∈ positions, coordinate p ≤ last
  /-- Some position lies at it. -/
  attained : last = 0 ∨ ∃ p ∈ positions, coordinate p = last

namespace IsLast

variable {coordinate : Position → UInt32} {positions more fewer : List Position}
  {last other : UInt32} {p : Position}

theorem unique (greatest : IsLast coordinate positions last)
    (same : IsLast coordinate positions other) : last = other := by
  have le : ∀ {a b}, IsLast coordinate positions a → IsLast coordinate positions b → a ≤ b := by
    intro a b a_last b_last
    rcases a_last.attained with rfl | ⟨p, member, rfl⟩
    · exact UInt32.zero_le
    · exact b_last.le p member
  exact UInt32.le_antisymm (le greatest same) (le same greatest)

/-- One more position. -/
theorem insert (greatest : IsLast coordinate positions last)
    (mem_iff : ∀ q, q ∈ more ↔ p = q ∨ q ∈ positions) :
    IsLast coordinate more (max last (coordinate p)) := by
  have max_eq : max last (coordinate p) = if last ≤ coordinate p then coordinate p else last := rfl
  rw [max_eq]
  split
  · rename_i behind
    refine ⟨fun q member => ?_, .inr ⟨p, (mem_iff p).mpr (.inl rfl), rfl⟩⟩
    rcases (mem_iff q).mp member with rfl | member
    · exact UInt32.le_refl _
    · exact UInt32.le_trans (greatest.le q member) behind
  · rename_i before
    refine ⟨fun q member => ?_, greatest.attained.imp_right fun ⟨q, member, at_last⟩ =>
      ⟨q, (mem_iff q).mpr (.inr member), at_last⟩⟩
    rcases (mem_iff q).mp member with rfl | member
    · exact UInt32.le_of_lt (UInt32.not_le.mp before)
    · exact greatest.le q member

/-- A position that does not lie at the greatest coordinate may be dropped. -/
theorem erase (greatest : IsLast coordinate positions last) (inside : coordinate p ≠ last)
    (mem_iff : ∀ q, q ∈ fewer ↔ p ≠ q ∧ q ∈ positions) : IsLast coordinate fewer last where
  le q member := greatest.le q ((mem_iff q).mp member).2
  attained := greatest.attained.imp_right fun ⟨q, member, at_last⟩ =>
    ⟨q, (mem_iff q).mpr ⟨fun same => inside (same ▸ at_last), member⟩, at_last⟩

theorem foldl_max (coordinate : Position → UInt32) (positions : List Position) :
    IsLast coordinate positions ((positions.map coordinate).foldl max 0) := by
  induction positions using List.reverseRecOn with
  | nil => exact ⟨by simp, .inl rfl⟩
  | append_singleton init p ih =>
      rw [List.map_append, List.foldl_append]
      exact ih.insert fun q => by simp [or_comm, eq_comm]

theorem eq_max? (greatest : IsLast coordinate positions last) :
    last = (positions.map coordinate).max?.getD 0 := by
  rw [greatest.unique (foldl_max coordinate positions)]
  cases positions with
  | nil => rfl
  | cons p rest =>
      have from_first : max 0 (coordinate p) = coordinate p := if_pos UInt32.zero_le
      rw [List.map_cons, List.foldl_cons, from_first]
      rfl

end IsLast

/-! ## Sheets -/

namespace Sheet

variable {s t : Sheet} {p q : Position} {cell : Cell}

/-- The extent of a sheet is the one in use. -/
structure Fitted (s : Sheet) : Prop where
  /-- The last column is the greatest one. -/
  col : IsLast Position.col s.positions s.lastCol
  /-- The last row is the greatest one. -/
  row : IsLast Position.row s.positions s.lastRow

theorem mem_positions_set : q ∈ (s.set p cell).positions ↔ p = q ∨ q ∈ s.positions := by
  simp only [mem_positions_iff, get?_set]
  by_cases same : p = q <;> simp [same]

theorem mem_positions_erase : q ∈ (s.erase p).positions ↔ p ≠ q ∧ q ∈ s.positions := by
  simp only [mem_positions_iff, get?_erase]
  by_cases same : p = q <;> simp [same]

theorem fitted_refit (s : Sheet) : s.refit.Fitted :=
  ⟨IsLast.foldl_max _ _, IsLast.foldl_max _ _⟩

theorem fitted_empty : empty.Fitted := fitted_refit empty

theorem Fitted.set (fitted : s.Fitted) (p : Position) (cell : Cell) : (s.set p cell).Fitted where
  col := fitted.col.insert fun _ => mem_positions_set
  row := fitted.row.insert fun _ => mem_positions_set

theorem Fitted.erase (fitted : s.Fitted) (p : Position) : (s.erase p).Fitted := by
  have mem_iff : ∀ q, q ∈ (s.erase p).positions ↔ p ≠ q ∧ q ∈ s.positions :=
    fun _ => mem_positions_erase
  rw [Sheet.erase] at mem_iff ⊢
  split
  · exact fitted_refit _
  · rename_i inside
    obtain ⟨row_ne, col_ne⟩ := not_or.mp inside
    rw [if_neg inside] at mem_iff
    exact ⟨fitted.col.erase col_ne mem_iff, fitted.row.erase row_ne mem_iff⟩

theorem Fitted.shift (fitted : s.Fitted) (edit : Shift) : (s.shift edit).Fitted := by
  rw [Sheet.shift]
  split
  · exact fitted
  · exact fitted_refit _

/-- The cells of a sheet determine its extent. -/
theorem Fitted.eq_of_get? (fitted : s.Fitted) (t_fitted : t.Fitted)
    (same : ∀ p, s.get? p = t.get? p) : s = t := by
  obtain ⟨cells, lastCol, lastRow⟩ := s
  obtain ⟨cells', lastCol', lastRow'⟩ := t
  obtain rfl : cells = cells' := Std.ExtTreeMap.ext_getElem? same
  obtain rfl : lastCol = lastCol' := fitted.col.unique t_fitted.col
  obtain rfl : lastRow = lastRow' := fitted.row.unique t_fitted.row
  rfl

end Sheet
end Spreadsheet
