import Mathlib.Tactic.ByContra
import Spreadsheet.Sheet

/-!
# What a sheet stores

Storing, removing and moving cells, seen through the cell at each position. A shift moves different
positions to different places, so no cell is overwritten by another one that moves.
-/

namespace Spreadsheet

/-! ## Moving positions -/

/-- A coordinate stays in front of the pivot, or moves by the amount without crossing the pivot. -/
theorem Shift.coordinate?_eq_some_iff {s : Shift} {value target : UInt32} :
    s.coordinate? value = some target ↔
      (value.toNat < s.pivot.toNat ∧ target = value) ∨
        (s.pivot.toNat ≤ value.toNat ∧ s.pivot.toNat ≤ target.toNat ∧
          (target.toNat : Int) = value.toNat + s.delta) := by
  have value_lt := value.toNat_lt
  have target_lt := target.toNat_lt
  rw [coordinate?]
  split
  · rename_i front
    rw [UInt32.lt_iff_toNat_lt] at front
    rw [Option.some.injEq]
    constructor
    · intro same
      exact .inl ⟨front, same.symm⟩
    · rintro (⟨_, same⟩ | ⟨behind, _⟩)
      · exact same.symm
      · omega
  · rename_i behind
    rw [UInt32.lt_iff_toNat_lt] at behind
    split
    · rename_i lost
      constructor
      · simp
      · rintro (⟨front, _⟩ | ⟨_, target_behind, moved⟩) <;> omega
    · rename_i kept
      split
      · rename_i small
        have fits : (value.toNat + s.delta).toNat < UInt32.size := by
          rw [UInt32.size] at small ⊢
          omega
        rw [Option.some.injEq, ← UInt32.toNat_inj, UInt32.toNat_ofNat_of_lt' fits]
        constructor
        · intro same
          exact .inr ⟨by omega, by omega, by omega⟩
        · rintro (⟨front, _⟩ | ⟨_, target_behind, moved⟩) <;> omega
      · rename_i large
        rw [UInt32.size] at large
        constructor
        · simp
        · rintro (⟨front, _⟩ | ⟨_, _, moved⟩) <;> omega

theorem Shift.coordinate?_injective {s : Shift} {first second target : UInt32}
    (first_moves : s.coordinate? first = some target)
    (second_moves : s.coordinate? second = some target) : first = second := by
  rw [coordinate?_eq_some_iff] at first_moves second_moves
  rcases first_moves with ⟨front, rfl⟩ | ⟨behind, target_behind, moved⟩
  · rcases second_moves with ⟨_, rfl⟩ | ⟨_, target_behind, _⟩
    · rfl
    · omega
  · rcases second_moves with ⟨front, rfl⟩ | ⟨_, _, second_moved⟩
    · omega
    · rw [← UInt32.toNat_inj]
      omega

theorem Position.shift?_eq_some_iff {s : Shift} {p target : Position} :
    p.shift? s = some target ↔
      match s.axis with
      | .row => s.coordinate? p.row = some target.row ∧ p.col = target.col
      | .column => s.coordinate? p.col = some target.col ∧ p.row = target.row := by
  obtain ⟨col, row⟩ := p
  obtain ⟨targetCol, targetRow⟩ := target
  obtain ⟨axis, pivot, delta⟩ := s
  cases axis with
  | row =>
      cases moved : Shift.coordinate? ⟨.row, pivot, delta⟩ row <;>
        simp [shift?, Address.shift?, Address.isAbsolute, Address.relative, Address.coordinate,
          Address.withCoordinate, Address.position, moved, and_comm]
  | column =>
      cases moved : Shift.coordinate? ⟨.column, pivot, delta⟩ col <;>
        simp [shift?, Address.shift?, Address.isAbsolute, Address.relative, Address.coordinate,
          Address.withCoordinate, Address.position, moved]

/-- Different positions move to different places. -/
theorem Position.shift?_injective {s : Shift} {p q target : Position}
    (p_moves : p.shift? s = some target) (q_moves : q.shift? s = some target) : p = q := by
  rw [shift?_eq_some_iff] at p_moves q_moves
  obtain ⟨pCol, pRow⟩ := p
  obtain ⟨qCol, qRow⟩ := q
  rw [Position.mk.injEq]
  cases axis : s.axis with
  | row =>
      rw [axis] at p_moves q_moves
      exact ⟨p_moves.2.trans q_moves.2.symm, Shift.coordinate?_injective p_moves.1 q_moves.1⟩
  | column =>
      rw [axis] at p_moves q_moves
      exact ⟨Shift.coordinate?_injective p_moves.1 q_moves.1, p_moves.2.trans q_moves.2.symm⟩

/-- Where a stored cell goes. -/
def Shift.moveCell? (s : Shift) (entry : Position × Cell) : Option (Position × Cell) :=
  (entry.1.shift? s).map fun target => (target, entry.2)

theorem Shift.moveCell?_eq_some_iff {s : Shift} {entry : Position × Cell} {q : Position}
    {cell : Cell} :
    s.moveCell? entry = some (q, cell) ↔ entry.1.shift? s = some q ∧ entry.2 = cell := by
  rw [moveCell?, Option.map_eq_some_iff]
  constructor
  · rintro ⟨_, moves, ⟨⟩⟩
    exact ⟨moves, rfl⟩
  · rintro ⟨moves, rfl⟩
    exact ⟨q, moves, rfl⟩

/-- A map built from entries for different positions has these entries. -/
theorem getElem?_ofList_eq_some_iff {α : Type} {entries : List (Position × α)} {q : Position}
    {v : α} (distinct : entries.Pairwise fun a b => ¬ compare a.1 b.1 = .eq) :
    (Std.ExtTreeMap.ofList entries : PositionMap α)[q]? = some v ↔ (q, v) ∈ entries := by
  have stored : ∀ content, (q, content) ∈ entries →
      (Std.ExtTreeMap.ofList entries : PositionMap α)[q]? = some content := fun content member =>
    Std.ExtTreeMap.getElem?_ofList_of_mem Std.ReflCmp.compare_self distinct member
  constructor
  · intro found
    have listed : q ∈ entries.map Prod.fst := by
      by_contra absent
      rw [Std.ExtTreeMap.getElem?_ofList_of_contains_eq_false (by simpa using absent)] at found
      simp at found
    obtain ⟨⟨target, content⟩, member, rfl⟩ := List.mem_map.mp listed
    rw [stored content member, Option.some.injEq] at found
    exact found ▸ member
  · exact stored v

namespace Sheet

variable {s : Sheet} {p q : Position} {cell : Cell}

/-! ## Storing and removing -/

@[simp] theorem get?_empty : empty.get? p = none := by
  simp [empty, get?]

@[simp] theorem get?_set : (s.set p cell).get? q = if p = q then some cell else s.get? q := by
  simp [set, get?, Std.ExtTreeMap.getElem?_insert]

@[simp] theorem get?_erase : (s.erase p).get? q = if p = q then none else s.get? q := by
  rw [erase]
  split <;> simp [refit, get?, Std.ExtTreeMap.getElem?_erase]

theorem mem_positions_iff : p ∈ s.positions ↔ ∃ cell, s.get? p = some cell := by
  rw [positions, Std.ExtTreeMap.mem_keys, Std.ExtTreeMap.mem_iff_isSome_getElem?,
    Option.isSome_iff_exists]
  rfl

theorem nodup_positions (s : Sheet) : s.positions.Nodup := Std.ExtTreeMap.nodup_keys

theorem mem_formulas_iff : p ∈ s.formulas ↔ ((s.get? p).bind Cell.formula).isSome := by
  rw [formulas, List.mem_filter, mem_positions_iff]
  cases stored : s.get? p with
  | none => simp
  | some cell => simp [Cell.isFormula]

theorem nodup_formulas (s : Sheet) : s.formulas.Nodup := s.nodup_positions.filter _

/-! ## Moving -/

/-- Entries for different positions go to different places. -/
theorem distinct_filterMap_moveCell? (edit : Shift) {entries : List (Position × Cell)}
    (distinct : entries.Pairwise fun a b => ¬ compare a.1 b.1 = .eq) :
    (entries.filterMap edit.moveCell?).Pairwise fun a b => ¬ compare a.1 b.1 = .eq := by
  apply distinct.filterMap
  rintro ⟨p, _⟩ ⟨q, _⟩ p_ne_q ⟨target, _⟩ p_moves ⟨target', _⟩ q_moves same
  obtain rfl : target = target' := Std.LawfulEqOrd.compare_eq_iff_eq.mp same
  have p_eq_q := Position.shift?_injective (Shift.moveCell?_eq_some_iff.mp p_moves).1
    (Shift.moveCell?_eq_some_iff.mp q_moves).1
  exact p_ne_q (Std.LawfulEqOrd.compare_eq_iff_eq.mpr p_eq_q)

/-- Entries that are moved one after the other arrive at their places, whatever their order. -/
theorem getElem?_ofList_filterMap_moveCell? (edit : Shift) {entries : List (Position × Cell)}
    (perm : entries.Perm s.cells.toList) :
    (Std.ExtTreeMap.ofList (entries.filterMap edit.moveCell?) : PositionMap Cell)[q]? = some cell ↔
      ∃ p, p.shift? edit = some q ∧ s.get? p = some cell := by
  have distinct : entries.Pairwise fun a b => ¬ compare a.1 b.1 = .eq :=
    (perm.pairwise_iff fun apart same => apart (Std.OrientedCmp.eq_symm same)).mpr
      Std.ExtTreeMap.distinct_keys_toList
  rw [getElem?_ofList_eq_some_iff (distinct_filterMap_moveCell? edit distinct)]
  simp only [List.mem_filterMap, Prod.exists, perm.mem_iff,
    Std.ExtTreeMap.mem_toList_iff_getElem?_eq_some, Shift.moveCell?_eq_some_iff]
  constructor
  · rintro ⟨p, content, stored, move, rfl⟩
    exact ⟨p, move, stored⟩
  · rintro ⟨p, move, stored⟩
    exact ⟨p, cell, stored, move, rfl⟩

/-- A moved sheet stores a cell exactly where a stored cell has been moved to. -/
theorem get?_shift_eq_some_iff {edit : Shift} (moves : edit.delta ≠ 0) :
    (s.shift edit).get? q = some cell ↔ ∃ p, p.shift? edit = some q ∧ s.get? p = some cell := by
  rw [shift, if_neg moves]
  exact getElem?_ofList_filterMap_moveCell? edit (.refl _)

end Sheet
end Spreadsheet
