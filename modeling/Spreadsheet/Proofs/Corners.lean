import Mathlib.Tactic.WLOG
import Spreadsheet.Proofs.Coverage

/-!
# The order of corners

A range may be given by its corners in either order: both cover the same cells, and they still do
so after a shift, with one exception. The corners may have the same coordinate and only one of them
an absolute one. When a shift loses this coordinate, the range is lost if the absolute corner comes
first, but kept if it comes last.
-/

namespace Spreadsheet

/-! ## Between two corners -/

/-- The coordinate lies between two others, whatever the order of these. -/
def LiesBetween (a b value : UInt32) : Prop := a ≤ value ∧ value ≤ b ∨ b ≤ value ∧ value ≤ a

theorem liesBetween_comm {a b value : UInt32} : LiesBetween a b value ↔ LiesBetween b a value :=
  or_comm

theorem liesBetween_iff_of_le {a b value : UInt32} (ordered : a ≤ b) :
    LiesBetween a b value ↔ a ≤ value ∧ value ≤ b := by
  rw [LiesBetween, or_iff_left_of_imp]
  rintro ⟨b_le, le_a⟩
  exact ⟨UInt32.le_trans ordered b_le, UInt32.le_trans le_a ordered⟩

/-- The coordinate along an axis and whether it is absolute. -/
def Address.edge (a : Address) (axis : Axis) : UInt32 × Bool :=
  (a.coordinate axis, a.isAbsolute axis)

theorem Address.target?_congr {a b : Address} {s : Shift} (same : a.edge s.axis = b.edge s.axis) :
    a.target? s = b.target? s := by
  obtain ⟨coordinate, absolute⟩ := Prod.mk.inj same
  rw [target?, target?, coordinate, absolute]

theorem Address.exists_target? {a : Address} {s : Shift} {value : UInt32}
    (goes : s.coordinate? (a.coordinate s.axis) = some value) : ∃ x, a.target? s = some x := by
  rw [target?]
  split
  · exact ⟨_, rfl⟩
  · exact ⟨value, goes⟩

namespace Range

variable {a b : Address} {s : Shift} {axis : Axis} {p : Position}

/-- Corners that are in order along an axis keep their edges. -/
theorem edge_between_of_le (ordered : a.coordinate axis ≤ b.coordinate axis) :
    (between a b).first.edge axis = a.edge axis ∧ (between a b).last.edge axis = b.edge axis := by
  cases axis with
  | row =>
      have rows : a.row ≤ b.row := ordered
      simp only [between, if_pos rows]
      exact ⟨rfl, rfl⟩
  | column =>
      have columns : a.col ≤ b.col := ordered
      simp only [between, if_pos columns]
      exact ⟨rfl, rfl⟩

/-- Corners that are not in order along an axis exchange their edges. -/
theorem edge_between_of_not_le (reversed : ¬ a.coordinate axis ≤ b.coordinate axis) :
    (between a b).first.edge axis = b.edge axis ∧ (between a b).last.edge axis = a.edge axis := by
  cases axis with
  | row =>
      have rows : ¬ a.row ≤ b.row := reversed
      simp only [between, if_neg rows]
      exact ⟨rfl, rfl⟩
  | column =>
      have columns : ¬ a.col ≤ b.col := reversed
      simp only [between, if_neg columns]
      exact ⟨rfl, rfl⟩

/-- Corners with different coordinates may be exchanged. -/
theorem edge_between_comm (apart : a.coordinate axis ≠ b.coordinate axis) :
    (between a b).first.edge axis = (between b a).first.edge axis ∧
      (between a b).last.edge axis = (between b a).last.edge axis := by
  wlog ordered : a.coordinate axis ≤ b.coordinate axis generalizing a b
  · obtain ⟨first, last⟩ := this apart.symm ((UInt32.le_total _ _).resolve_left ordered)
    exact ⟨first.symm, last.symm⟩
  · have reversed : ¬ b.coordinate axis ≤ a.coordinate axis :=
      fun le => apart (UInt32.le_antisymm ordered le)
    obtain ⟨first, last⟩ := edge_between_of_le ordered
    obtain ⟨first', last'⟩ := edge_between_of_not_le reversed
    exact ⟨first.trans first'.symm, last.trans last'.symm⟩

theorem within_between_iff (a b : Address) (axis : Axis) (value : UInt32) :
    ((between a b).first.coordinate axis ≤ value ∧ value ≤ (between a b).last.coordinate axis) ↔
      LiesBetween (a.coordinate axis) (b.coordinate axis) value := by
  by_cases ordered : a.coordinate axis ≤ b.coordinate axis
  · obtain ⟨first, last⟩ := edge_between_of_le ordered
    rw [(Prod.mk.inj first).1, (Prod.mk.inj last).1, liesBetween_iff_of_le ordered]
  · have reversed := (UInt32.le_total _ _).resolve_left ordered
    obtain ⟨first, last⟩ := edge_between_of_not_le ordered
    rw [(Prod.mk.inj first).1, (Prod.mk.inj last).1, liesBetween_comm,
      liesBetween_iff_of_le reversed]

/-- The range between two corners covers what lies between them along both axes. -/
theorem contains_between_iff (axis : Axis) : (between a b).contains p ↔
    LiesBetween (a.coordinate axis) (b.coordinate axis) (p.coordinate axis) ∧
      LiesBetween (a.coordinate axis.other) (b.coordinate axis.other)
        (p.coordinate axis.other) := by
  rw [contains_iff axis, within_between_iff, within_between_iff]

theorem contains_between_comm (a b : Address) (p : Position) :
    (between a b).contains p ↔ (between b a).contains p := by
  rw [contains_between_iff .row, contains_between_iff .row, liesBetween_comm,
    liesBetween_comm (a := a.coordinate Axis.row.other)]

/-! ## Shifting -/

/-- Two ranges cover the same cells when the corners of each are put in order. -/
def CoversAlike (r r' : Range) : Prop :=
  ∀ p, (between r.first r.last).contains p ↔ (between r'.first r'.last).contains p

/-- The ends of an interval are those of another one, in the same order or in the other one. -/
def SameEnds (ends ends' : UInt32 × UInt32) : Prop := ends = ends' ∨ ends = ends'.swap

theorem rel_sameEnds_refl (left : Option (UInt32 × UInt32)) : Option.Rel SameEnds left left := by
  cases left with
  | none => exact .none
  | some ends => exact .some (.inl rfl)

theorem SameEnds.liesBetween_iff {ends ends' : UInt32 × UInt32} {value : UInt32}
    (same : SameEnds ends ends') :
    LiesBetween ends.1 ends.2 value ↔ LiesBetween ends'.1 ends'.2 value := by
  rcases same with rfl | rfl
  · exact Iff.rfl
  · exact liesBetween_comm

theorem liesBetween_between_iff (a b : Address) (axis : Axis) (value : UInt32) :
    LiesBetween ((between a b).first.coordinate axis) ((between a b).last.coordinate axis) value ↔
      LiesBetween (a.coordinate axis) (b.coordinate axis) value := by
  have ordered : (between a b).Ordered := ordered_between a b
  rw [liesBetween_iff_of_le (ordered.coordinate axis), within_between_iff]

/-- Ranges with the same corners in other orders cover alike if their ends are the same. -/
theorem coversAlike_withCoordinate (a b : Address) (axis : Axis) {ends ends' : UInt32 × UInt32}
    (same : SameEnds ends ends') :
    CoversAlike
      ⟨(between a b).first.withCoordinate axis ends.1,
        (between a b).last.withCoordinate axis ends.2⟩
      ⟨(between b a).first.withCoordinate axis ends'.1,
        (between b a).last.withCoordinate axis ends'.2⟩ := by
  intro p
  simp only [contains_between_iff axis, Address.coordinate_withCoordinate,
    Address.coordinate_other_withCoordinate, liesBetween_between_iff]
  rw [same.liesBetween_iff, liesBetween_comm (a := a.coordinate axis.other)]

/-- The places to which the corners go decide whether the shifted ranges cover alike. -/
theorem rel_shift?_of_close? (a b : Address) (s : Shift)
    (same : Option.Rel SameEnds
      (s.close? ((between a b).first.target? s) ((between a b).last.target? s))
      (s.close? ((between b a).first.target? s) ((between b a).last.target? s))) :
    Option.Rel CoversAlike ((between a b).shift? s) ((between b a).shift? s) := by
  rw [shift?_eq_close?, shift?_eq_close?]
  generalize s.close? ((between a b).first.target? s) _ = left at same ⊢
  generalize s.close? ((between b a).first.target? s) _ = left' at same ⊢
  cases same with
  | none => exact .none
  | some same => exact .some (coversAlike_withCoordinate a b s.axis same)

/-- Corners whose order is clear move to the same ends whichever comes first. -/
theorem target?_between_comm (apart : a.coordinate s.axis ≠ b.coordinate s.axis) :
    (between a b).first.target? s = (between b a).first.target? s ∧
      (between a b).last.target? s = (between b a).last.target? s := by
  obtain ⟨first, last⟩ := edge_between_comm apart
  exact ⟨Address.target?_congr first, Address.target?_congr last⟩

/-- Of two corners with the same coordinate the one that comes first stays there. -/
theorem target?_between_of_eq (tie : a.coordinate s.axis = b.coordinate s.axis) :
    (between a b).first.target? s = a.target? s ∧ (between a b).last.target? s = b.target? s := by
  obtain ⟨first, last⟩ := edge_between_of_le (UInt32.le_of_eq tie)
  exact ⟨Address.target?_congr first, Address.target?_congr last⟩

/-- A shift that keeps the common coordinate of two corners, or moves both corners alike, closes
the interval between them in the same way whichever comes first. -/
theorem rel_close?_of_eq (tie : a.coordinate s.axis = b.coordinate s.axis)
    (clear : a.isAbsolute s.axis = b.isAbsolute s.axis ∨
      s.coordinate? (a.coordinate s.axis) ≠ none) :
    Option.Rel SameEnds (s.close? (a.target? s) (b.target? s))
      (s.close? (b.target? s) (a.target? s)) := by
  rcases clear with unmixed | kept
  -- Corners that move alike have one and the same target.
  · rw [Address.target?_congr (Prod.ext tie unmixed)]
    exact rel_sameEnds_refl _
  · obtain ⟨value, goes⟩ := Option.ne_none_iff_exists'.mp kept
    obtain ⟨x, a_goes⟩ := Address.exists_target? goes
    obtain ⟨y, b_goes⟩ := Address.exists_target? (tie ▸ goes)
    -- Both corners stay in the sheet, and an interval is not put in order again.
    rw [a_goes, b_goes]
    exact .some (.inr rfl)

/-- Of two corners with the same coordinate only the first is absolute, and the shift loses the
coordinate: the range is lost, but with its corners exchanged it is kept. -/
theorem shift?_between_of_lost (tie : a.coordinate s.axis = b.coordinate s.axis)
    (a_absolute : a.isAbsolute s.axis) (b_relative : ¬ b.isAbsolute s.axis)
    (lost : s.coordinate? (a.coordinate s.axis) = none) :
    (between a b).shift? s = none ∧ ∃ kept, (between b a).shift? s = some kept := by
  have behind : ¬ a.coordinate s.axis < s.pivot := by
    rw [Shift.coordinate?_eq_none_iff] at lost
    rw [UInt32.lt_iff_toNat_lt]
    omega
  have a_stays : a.target? s = some (a.coordinate s.axis) := if_pos a_absolute
  have b_lost : b.target? s = none := (if_neg b_relative).trans (tie ▸ lost)
  obtain ⟨first, last⟩ := target?_between_of_eq tie
  obtain ⟨first', last'⟩ := target?_between_of_eq tie.symm
  rw [shift?_eq_close?, shift?_eq_close?, first, last, first', last', a_stays, b_lost,
    Shift.close?, Shift.close?, if_neg behind, if_neg behind]
  exact ⟨rfl, _, rfl⟩

/-- A common coordinate that is absolute for one corner only and that the shift loses tells the
orders of the corners apart. -/
theorem isSome_shift?_ne_of_lost (tie : a.coordinate s.axis = b.coordinate s.axis)
    (mixed : a.isAbsolute s.axis ≠ b.isAbsolute s.axis)
    (lost : s.coordinate? (a.coordinate s.axis) = none) :
    ((between a b).shift? s).isSome ≠ ((between b a).shift? s).isSome := by
  wlog absolute : a.isAbsolute s.axis generalizing a b
  · have b_absolute : b.isAbsolute s.axis := eq_true_of_ne_false fun b_relative =>
      mixed ((eq_false_of_ne_true absolute).trans b_relative.symm)
    exact (this tie.symm mixed.symm (tie ▸ lost) b_absolute).symm
  · have relative : ¬ b.isAbsolute s.axis :=
      fun b_absolute => mixed (absolute.trans b_absolute.symm)
    obtain ⟨gone, kept, moves⟩ := shift?_between_of_lost tie absolute relative lost
    rw [gone, moves]
    exact Bool.false_ne_true

theorem isSome_eq_of_rel {left left' : Option Range} (alike : Option.Rel CoversAlike left left') :
    left.isSome = left'.isSome := by
  cases alike <;> rfl

/-- The corners of a range may be given in either order, before a shift and for it, except when
they share a coordinate that the shift loses and only one of them is absolute. -/
theorem swapped_corners_alike_iff (a b : Address) (s : Shift) :
    (∀ p, (between a b).contains p ↔ (between b a).contains p) ∧
      (Option.Rel CoversAlike ((between a b).shift? s) ((between b a).shift? s) ↔
        ¬ (a.coordinate s.axis = b.coordinate s.axis ∧ a.isAbsolute s.axis ≠ b.isAbsolute s.axis ∧
          s.coordinate? (a.coordinate s.axis) = none)) := by
  refine ⟨contains_between_comm a b, ?_, fun clear => rel_shift?_of_close? a b s ?_⟩
  · rintro alike ⟨tie, mixed, lost⟩
    exact isSome_shift?_ne_of_lost tie mixed lost (isSome_eq_of_rel alike)
  · by_cases tie : a.coordinate s.axis = b.coordinate s.axis
    · obtain ⟨first, last⟩ := target?_between_of_eq tie
      obtain ⟨first', last'⟩ := target?_between_of_eq tie.symm
      rw [first, last, first', last']
      apply rel_close?_of_eq tie
      by_contra! torn
      exact clear ⟨tie, torn⟩
    · obtain ⟨first, last⟩ := target?_between_comm tie
      rw [first, last]
      exact rel_sameEnds_refl _

/-- The fifth row is deleted. A range from its absolute to its relative address is lost, the range
the other way round is not. -/
theorem not_forall_swapped_corners_alike :
    ¬ ∀ (a b : Address) (s : Shift), a.Writable → b.Writable →
      (∀ p, (between a b).contains p ↔ (between b a).contains p) ∧
        Option.Rel CoversAlike ((between a b).shift? s) ((between b a).shift? s) := by
  intro always_alike
  obtain ⟨_, alike⟩ := always_alike ⟨0, 4, false, true⟩ ⟨0, 4, false, false⟩ ⟨.row, 4, -1⟩
    ⟨by decide, by decide⟩ ⟨by decide, by decide⟩
  have gone : (between ⟨0, 4, false, true⟩ ⟨0, 4, false, false⟩).shift? ⟨.row, 4, -1⟩ = none := by
    decide
  have kept : (between ⟨0, 4, false, false⟩ ⟨0, 4, false, true⟩).shift? ⟨.row, 4, -1⟩ =
      some ⟨⟨0, 4, false, false⟩, ⟨0, 4, false, true⟩⟩ := by
    decide
  have same := isSome_eq_of_rel alike
  rw [gone, kept] at same
  exact Bool.false_ne_true same

end Range
end Spreadsheet
