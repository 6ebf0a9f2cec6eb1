import Spreadsheet.Proofs.Coverage

/-!
# What is left of a range

A deletion takes the cells of its span out of a range and no others, so the range is lost exactly
if the span has all of them. An insertion takes no cell away. But when it pushes the end of a range
beyond the last coordinate, the end counts as deleted, and the range keeps only the cells in front
of the insertion.
-/

namespace Spreadsheet

/-! ## Deletions -/

section Deletion

variable {axis : Axis} {pivot : UInt32} {count : Nat} {r : Range} {p : Position}

/-- The cell lies in the span of so many coordinates from the given one on. -/
def Position.InSpan (axis : Axis) (start : UInt32) (count : Nat) (p : Position) : Prop :=
  start ≤ p.coordinate axis ∧ (p.coordinate axis).toNat < start.toNat + count

instance (axis : Axis) (start : UInt32) (count : Nat) :
    DecidablePred (Position.InSpan axis start count) := fun p =>
  inferInstanceAs (Decidable
    (start ≤ p.coordinate axis ∧ (p.coordinate axis).toNat < start.toNat + count))

/-- A cell survives a deletion exactly if it lies outside the span. -/
theorem Position.isSome_shift?_iff_not_inSpan :
    (p.shift? ⟨axis, pivot, -(count : Int)⟩).isSome ↔ ¬ p.InSpan axis pivot count := by
  have small := (p.coordinate axis).toNat_lt
  rw [← Option.ne_none_iff_isSome, ne_eq, shift?_eq, Option.map_eq_none_iff,
    Shift.coordinate?_eq_none_iff, InSpan, UInt32.le_iff_toNat_le]
  dsimp only
  omega

namespace Range

theorem Ordered.contains_first (ordered : r.Ordered) : r.contains r.first.position := by
  simp [contains, Address.position, ordered.1, ordered.2]

/-- A deletion neither tears a range apart nor pushes it beyond the last coordinate. -/
theorem Ordered.heldBy_deletion (ordered : r.Ordered) (axis : Axis) (pivot : UInt32)
    (count : Nat) :
    r.HeldBy ⟨axis, pivot, -(count : Int)⟩ where
  ordered := ordered.coordinate axis
  unsplit inserts := by
    dsimp only at inserts
    omega
  fits _ := by
    have small := (r.last.coordinate axis).toNat_lt
    dsimp only
    omega

/-- A deletion leaves something of a range exactly if a cell of the range lies outside the deleted
span, and what is left covers exactly the places of the cells that do. -/
theorem deletion_leaves_survivors (ordered : r.Ordered) (relative : r.IsRelative axis)
    (pivot : UInt32) (count : Nat) :
    let s : Shift := ⟨axis, pivot, -(count : Int)⟩
    (∀ p : Position, (p.shift? s).isSome ↔ ¬ p.InSpan axis pivot count) ∧
      ((r.shift? s).isSome ↔ ∃ p, r.contains p ∧ ¬ p.InSpan axis pivot count) ∧
      ∀ shifted, r.shift? s = some shifted → ∀ q, shifted.contains q ↔
        ∃ p, r.contains p ∧ ¬ p.InSpan axis pivot count ∧ p.shift? s = some q := by
  intro s
  have held : r.HeldBy s := ordered.heldBy_deletion axis pivot count
  have survives (p : Position) : (p.shift? s).isSome ↔ ¬ p.InSpan axis pivot count :=
    Position.isSome_shift?_iff_not_inSpan
  refine ⟨survives, ⟨fun left => ?_, ?_⟩, fun shifted moves q => ?_⟩
  -- What is left has a first cell, and this one comes from somewhere.
  · obtain ⟨shifted, moves⟩ := Option.isSome_iff_exists.mp left
    have covers := (ordered_of_shift? (s := s) relative ordered held moves).contains_first
    obtain ⟨p, member, arrives⟩ :=
      (exists_contains_shift?_iff (s := s) relative held).mp ⟨shifted, moves, covers⟩
    exact ⟨p, member, (survives p).mp (by rw [arrives, Option.isSome_some])⟩
  · rintro ⟨p, member, outside⟩
    obtain ⟨q, arrives⟩ := Option.isSome_iff_exists.mp ((survives p).mpr outside)
    obtain ⟨shifted, moves, _⟩ :=
      (exists_contains_shift?_iff (s := s) relative held).mpr ⟨p, member, arrives⟩
    rw [moves, Option.isSome_some]
  · have covers_iff := exists_contains_shift?_iff (s := s) (q := q) relative held
    simp only [moves, Option.mem_some_iff, exists_eq_left'] at covers_iff
    rw [covers_iff]
    constructor
    · rintro ⟨p, member, arrives⟩
      exact ⟨p, member, (survives p).mp (by rw [arrives, Option.isSome_some]), arrives⟩
    · rintro ⟨p, member, _, arrives⟩
      exact ⟨p, member, arrives⟩

/-- Nine rows are deleted, of which a range has the last two: a cell in front of them stays
covered. -/
theorem deletion_leaves_survivors_of_last_rows :
    let r : Range := ⟨⟨1, 1, true, false⟩, ⟨3, 5, false, false⟩⟩
    ∃ shifted, r.shift? ⟨.row, 4, -9⟩ = some shifted ∧ shifted.contains ⟨2, 3⟩ := by
  intro r
  have relative : r.IsRelative .row := ⟨by decide, by decide⟩
  obtain ⟨_, left_iff, covers_iff⟩ := deletion_leaves_survivors (by decide) relative 4 9
  obtain ⟨shifted, moves⟩ :=
    Option.isSome_iff_exists.mp (left_iff.mpr ⟨⟨2, 3⟩, by decide, by decide⟩)
  exact ⟨shifted, moves,
    (covers_iff shifted moves _).mpr ⟨⟨2, 3⟩, by decide, by decide, by decide⟩⟩

end Range

end Deletion

/-! ## Insertions -/

namespace Shift

variable {s : Shift} {first last last' value target : UInt32}

/-- An insertion that keeps the end of an interval keeps every other coordinate that it moves. -/
theorem exists_interval?_of_last (inserts : 0 ≤ s.delta) (first_le : first ≤ value)
    (le_last : value ≤ last) (goes : s.coordinate? value = some target)
    (last_goes : s.coordinate? last = some last') :
    ∃ ends ∈ s.interval? first last, ends.1 ≤ target ∧ target ≤ ends.2 := by
  cases first_goes : s.coordinate? first with
  -- An insertion loses a start only beyond the last coordinate, and with it everything behind.
  | none =>
      have last'_lt := last'.toNat_lt
      rw [coordinate?_eq_none_iff] at first_goes
      rw [coordinate?_eq_some_iff] at last_goes
      rw [UInt32.le_iff_toNat_le] at first_le le_last
      omega
  | some first' =>
      have goes_to : (first', last') ∈ s.interval? first last := by
        rw [interval?, first_goes, last_goes, Option.mem_some_iff]
      refine ⟨(first', last'), goes_to, ?_, ?_⟩
      · exact coordinate?_mono inserts first_le first_goes goes
      · exact coordinate?_mono inserts le_last goes last_goes

/-- An interval whose end is lost to an insertion keeps the coordinates in front of the pivot. -/
theorem exists_interval?_iff_of_last_lost (inserts : 0 ≤ s.delta) (first_le : first ≤ value)
    (goes : s.coordinate? value = some target) (lost : s.coordinate? last = none) :
    (∃ ends ∈ s.interval? first last, ends.1 ≤ target ∧ target ≤ ends.2) ↔ value < s.pivot := by
  rw [interval?_eq_close?, lost, ← lt_pivot_iff_of_coordinate? goes]
  -- The end is pulled in to the last coordinate in front of the pivot, as it is for a deletion.
  cases first_goes : s.coordinate? first with
  | none =>
      have behind : ¬ target < s.pivot := by
        rw [coordinate?_eq_none_iff] at first_goes
        rw [UInt32.le_iff_toNat_le] at first_le
        rw [lt_pivot_iff_of_coordinate? goes, UInt32.lt_iff_toNat_lt]
        omega
      simp [close?, behind]
  | some first' =>
      have starts : first' ≤ target := coordinate?_mono inserts first_le first_goes goes
      by_cases front : first' < s.pivot
      · have before_pivot : target ≤ s.pivot - 1 ↔ target < s.pivot := by
          rw [UInt32.le_iff_toNat_le, UInt32.lt_iff_toNat_lt, toNat_pivot_pred front]
          rw [UInt32.lt_iff_toNat_lt] at front
          omega
        simp [close?, front, starts, before_pivot]
      · have behind : ¬ target < s.pivot :=
          fun target_front => front (UInt32.lt_of_le_of_lt starts target_front)
        simp [close?, front, behind]

/-- Only the end of an interval can be pushed beyond the last coordinate and leave others
behind. -/
theorem exists_interval?_iff_of_inserts (inserts : 0 ≤ s.delta) (first_le : first ≤ value)
    (le_last : value ≤ last) (goes : s.coordinate? value = some target) :
    (∃ ends ∈ s.interval? first last, ends.1 ≤ target ∧ target ≤ ends.2) ↔
      value < s.pivot ∨ last.toNat + s.delta < UInt32.size := by
  rw [UInt32.size]
  cases last_goes : s.coordinate? last with
  | none =>
      rw [exists_interval?_iff_of_last_lost inserts first_le goes last_goes]
      rw [coordinate?_eq_none_iff] at last_goes
      exact (or_iff_left (by omega)).symm
  | some last' =>
      have last'_lt := last'.toNat_lt
      have covered := exists_interval?_of_last inserts first_le le_last goes last_goes
      refine iff_of_true covered ?_
      rw [UInt32.le_iff_toNat_le] at le_last
      rw [UInt32.lt_iff_toNat_lt]
      rcases coordinate?_eq_some_iff.mp last_goes with ⟨front, _⟩ | ⟨_, _, moved⟩
      · exact .inl (by omega)
      · exact .inr (by omega)

end Shift

namespace Range

variable {axis : Axis} {pivot : UInt32} {count : Nat} {r : Range} {p q : Position}

/-- After an insertion a range covers the new place of one of its cells exactly if the cell lies in
front of the insertion or the last cell of the range stays within 32 bits. -/
theorem covers_moved_cell_iff (relative : r.IsRelative axis) (covers : r.contains p)
    (moves : p.shift? ⟨axis, pivot, count⟩ = some q) :
    (∃ shifted, r.shift? ⟨axis, pivot, count⟩ = some shifted ∧ shifted.contains q) ↔
      p.coordinate axis < pivot ∨ (r.last.coordinate axis).toNat + count < UInt32.size := by
  obtain ⟨⟨first_le, le_last⟩, across⟩ := (contains_iff axis).mp covers
  obtain ⟨goes, same⟩ := Position.shift?_eq_some_iff_coordinate.mp moves
  have along := Shift.exists_interval?_iff_of_inserts (s := ⟨axis, pivot, count⟩)
    (Int.natCast_nonneg count) first_le le_last goes
  have covered := exists_contains_shift?_iff_interval? (s := ⟨axis, pivot, count⟩)
    (q := q) relative
  rw [along, ← same, and_iff_left across] at covered
  exact covered.trans (or_congr_right Int.ofNat_lt)

/-- A range ends at the fourth row from the last. With four rows inserted it covers the new place
of a cell behind them, with five it does not. -/
theorem covers_moved_cell_of_last_rows :
    let r : Range := ⟨⟨0, 3, false, false⟩, ⟨0, 4294967291, false, false⟩⟩
    (∃ shifted, r.shift? ⟨.row, 7, 4⟩ = some shifted ∧ shifted.contains ⟨0, 12⟩) ∧
      ¬ ∃ shifted, r.shift? ⟨.row, 7, 5⟩ = some shifted ∧ shifted.contains ⟨0, 13⟩ := by
  intro r
  have relative : r.IsRelative .row := ⟨by decide, by decide⟩
  have covers : r.contains ⟨0, 8⟩ := by decide
  have four : Position.shift? ⟨.row, 7, (4 : Nat)⟩ ⟨0, 8⟩ = some ⟨0, 12⟩ := by decide
  have five : Position.shift? ⟨.row, 7, (5 : Nat)⟩ ⟨0, 8⟩ = some ⟨0, 13⟩ := by decide
  constructor
  · exact (covers_moved_cell_iff relative covers four).mpr (.inr (by decide))
  · intro covered
    have beside := (covers_moved_cell_iff relative covers five).mp covered
    exact absurd beside (by decide)

/-- An insertion may drop surviving cells from a range with corners in front of the last
coordinates: two rows are inserted in front of the second one, and of all rows but the last only
the first one is left. -/
theorem not_forall_covers_moved_cell :
    ¬ ∀ (r : Range) (axis : Axis) (pivot count : UInt32) (p q : Position),
      r.Ordered → r.IsRelative axis → r.first.Writable → r.last.Writable → 1 ≤ count →
      r.contains p → p.shift? ⟨axis, pivot, count.toNat⟩ = some q →
      ∃ shifted, r.shift? ⟨axis, pivot, count.toNat⟩ = some shifted ∧ shifted.contains q := by
  intro covered
  obtain ⟨shifted, moves, covers⟩ := covered ⟨⟨0, 0, false, false⟩, ⟨0, 4294967294, false, false⟩⟩
    .row 1 2 ⟨0, 1⟩ ⟨0, 3⟩ (by decide) ⟨by decide, by decide⟩ ⟨by decide, by decide⟩
    ⟨by decide, by decide⟩ (by decide) (by decide) (by decide)
  have first_row : Range.shift? ⟨.row, 1, 2⟩
      ⟨⟨0, 0, false, false⟩, ⟨0, 4294967294, false, false⟩⟩ =
      some ⟨⟨0, 0, false, false⟩, ⟨0, 0, false, false⟩⟩ := by decide
  obtain rfl := Option.some.inj (first_row.symm.trans moves)
  exact absurd covers (by decide)

end Range

end Spreadsheet
