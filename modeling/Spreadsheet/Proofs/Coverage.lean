import Spreadsheet.Proofs.Formula.TreeShift

/-!
# What shifted ranges cover

A range moves by its corners and a sheet moves cell by cell. The two agree: the cells of a shifted
range are the places of those cells of the range that survive, unless an insertion falls into the
range or pushes it beyond the last coordinate.
-/

namespace Spreadsheet

/-! ## Axes -/

/-- The other axis. -/
def Axis.other : Axis → Axis
  | row => column
  | column => row

@[simp] theorem Address.coordinate_other_withCoordinate (a : Address) (axis : Axis)
    (value : UInt32) :
    (a.withCoordinate axis value).coordinate axis.other = a.coordinate axis.other := by
  cases axis <;> rfl

/-- Where the coordinate of an address along the axis of a shift goes. -/
def Address.target? (s : Shift) (a : Address) : Option UInt32 :=
  if a.isAbsolute s.axis then some (a.coordinate s.axis) else s.coordinate? (a.coordinate s.axis)

theorem Address.shift?_eq_target? (s : Shift) (a : Address) :
    a.shift? s = (a.target? s).map (a.withCoordinate s.axis) := by
  rw [shift?, target?]
  split
  · rw [Option.map_some, withCoordinate_coordinate]
  · rfl

namespace Position

variable {s : Shift} {p q : Position} {axis : Axis}

/-- The coordinate along an axis. -/
def coordinate (p : Position) : Axis → UInt32
  | .row => p.row
  | .column => p.col

/-- Replaces the coordinate along an axis. -/
def withCoordinate (p : Position) (axis : Axis) (value : UInt32) : Position :=
  match axis with
  | .row => { p with row := value }
  | .column => { p with col := value }

@[simp] theorem coordinate_withCoordinate (p : Position) (axis : Axis) (value : UInt32) :
    (p.withCoordinate axis value).coordinate axis = value := by
  cases axis <;> rfl

@[simp] theorem coordinate_other_withCoordinate (p : Position) (axis : Axis) (value : UInt32) :
    (p.withCoordinate axis value).coordinate axis.other = p.coordinate axis.other := by
  cases axis <;> rfl

/-- A cell moves along one axis. -/
theorem shift?_eq (s : Shift) (p : Position) :
    p.shift? s = (s.coordinate? (p.coordinate s.axis)).map (p.withCoordinate s.axis) := by
  have moves : ¬ (Address.relative p).isAbsolute s.axis := by
    cases s.axis <;> exact Bool.false_ne_true
  rw [shift?, Address.shift?, if_neg moves, Option.map_map]
  cases s.axis <;> rfl

theorem shift?_eq_some_iff_coordinate :
    p.shift? s = some q ↔ s.coordinate? (p.coordinate s.axis) = some (q.coordinate s.axis) ∧
      p.coordinate s.axis.other = q.coordinate s.axis.other := by
  rw [shift?_eq_some_iff]
  cases s.axis <;> rfl

/-- The place of the cell after a shift; a cell that is lost stays where it is. -/
def moved (s : Shift) (p : Position) : Position := (p.shift? s).getD p

theorem moved_eq_of_shift? (moves : p.shift? s = some q) : p.moved s = q := by
  rw [moved, moves, Option.getD_some]

theorem moved_eq_withCoordinate (s : Shift) (p : Position) : p.moved s =
    p.withCoordinate s.axis
      ((s.coordinate? (p.coordinate s.axis)).getD (p.coordinate s.axis)) := by
  rw [moved, shift?_eq]
  cases s.coordinate? (p.coordinate s.axis) with
  | none => cases s.axis <;> rfl
  | some value => rfl

end Position

/-! ## Intervals of coordinates -/

namespace Shift

variable {s : Shift} {first last first' last' value target : UInt32}

/-- Only a coordinate from the pivot on is lost, in the deleted span or beyond 32 bits. -/
theorem coordinate?_eq_none_iff :
    s.coordinate? value = none ↔ s.pivot.toNat ≤ value.toNat ∧
      ((value.toNat : Int) + s.delta < s.pivot.toNat ∨ 4294967296 ≤ value.toNat + s.delta) := by
  have value_lt := value.toNat_lt
  rw [coordinate?, UInt32.size]
  simp only [UInt32.lt_iff_toNat_lt]
  split
  · simp
    omega
  · split
    · simp
      omega
    · split
      · simp
        omega
      · simp
        omega

/-- A coordinate moves in front of the pivot exactly if it lies there. -/
theorem lt_pivot_iff_of_coordinate? (goes : s.coordinate? value = some target) :
    target < s.pivot ↔ value < s.pivot := by
  rw [UInt32.lt_iff_toNat_lt, UInt32.lt_iff_toNat_lt]
  rcases coordinate?_eq_some_iff.mp goes with ⟨_, rfl⟩ | ⟨behind, target_behind, _⟩
  · exact Iff.rfl
  · omega

/-- An insertion keeps the order of coordinates. -/
theorem coordinate?_mono {value' target' : UInt32} (inserts : 0 ≤ s.delta) (le : value ≤ value')
    (goes : s.coordinate? value = some target) (goes' : s.coordinate? value' = some target') :
    target ≤ target' := by
  rw [UInt32.le_iff_toNat_le] at le ⊢
  rcases coordinate?_eq_some_iff.mp goes with ⟨_, rfl⟩ | ⟨_, _, moved⟩ <;>
    rcases coordinate?_eq_some_iff.mp goes' with ⟨_, rfl⟩ | ⟨_, _, moved'⟩ <;> omega

/-- Every coordinate behind the pivot is reached from the one that lies the amount before it. -/
theorem exists_coordinate?_eq_some (behind : s.pivot.toNat ≤ target.toNat)
    (comes : (s.pivot.toNat : Int) ≤ target.toNat - s.delta)
    (fits : (target.toNat : Int) - s.delta < 4294967296) :
    ∃ value, (value.toNat : Int) = target.toNat - s.delta ∧ s.coordinate? value = some target := by
  have source : (UInt32.ofNat (target.toNat - s.delta).toNat).toNat =
      (target.toNat - s.delta).toNat :=
    UInt32.toNat_ofNat_of_lt' (by rw [UInt32.size]; omega)
  refine ⟨.ofNat (target.toNat - s.delta).toNat, by omega, ?_⟩
  rw [coordinate?_eq_some_iff]
  omega

/-- Where an interval of relative coordinates goes. An end in the deleted span moves to the nearest
coordinate that is left. -/
def interval? (s : Shift) (first last : UInt32) : Option (UInt32 × UInt32) :=
  match s.coordinate? first, s.coordinate? last with
  | some first', some last' => some (first', last')
  | none, some last' => if last' < s.pivot then none else some (s.pivot, last')
  | some first', none => if first' < s.pivot then some (first', s.pivot - 1) else none
  | none, none => none

/-- An interval between the places to which its ends go. An end that is lost is taken to lie in the
deleted span. -/
def close? (s : Shift) : Option UInt32 → Option UInt32 → Option (UInt32 × UInt32)
  | some first, some last => some (first, last)
  | none, some last => if last < s.pivot then none else some (s.pivot, last)
  | some first, none => if first < s.pivot then some (first, s.pivot - 1) else none
  | none, none => none

theorem interval?_eq_close? (s : Shift) (first last : UInt32) :
    s.interval? first last = s.close? (s.coordinate? first) (s.coordinate? last) := by
  rw [interval?]
  cases s.coordinate? first <;> cases s.coordinate? last <;> rfl

theorem toNat_pivot_pred (front : first < s.pivot) : (s.pivot - 1).toNat = s.pivot.toNat - 1 := by
  rw [UInt32.lt_iff_toNat_lt] at front
  have one_le : 1 ≤ s.pivot := by
    rw [UInt32.le_iff_toNat_le, UInt32.toNat_one]
    omega
  rw [UInt32.toNat_sub_of_le _ _ one_le, UInt32.toNat_one]

/-- An interval that a shift does not tear apart or push beyond the last coordinate. -/
structure Holds (s : Shift) (first last : UInt32) : Prop where
  /-- The ends are in order. -/
  ordered : first ≤ last
  /-- An insertion does not fall into the interval. -/
  unsplit : 0 < s.delta → ¬ (first < s.pivot ∧ s.pivot ≤ last)
  /-- The last coordinate stays within 32 bits. -/
  fits : s.pivot ≤ last → last.toNat + s.delta < 4294967296

/-- One interval is what is left of another one after the shift. -/
structure Remains (s : Shift) (first last first' last' : UInt32) : Prop where
  /-- The ends are in order. -/
  ordered : first'.toNat ≤ last'.toNat
  /-- The interval has not grown. -/
  length_le : last'.toNat - first'.toNat ≤ last.toNat - first.toNat
  /-- In front of the pivot nothing changes. -/
  front : ∀ n < s.pivot.toNat,
    (first'.toNat ≤ n ∧ n ≤ last'.toNat ↔ first.toNat ≤ n ∧ n ≤ last.toNat)
  /-- From the pivot on everything comes from behind it. -/
  behind : ∀ n ≥ s.pivot.toNat,
    (first'.toNat ≤ n ∧ n ≤ last'.toNat ↔ (s.pivot.toNat : Int) ≤ n - s.delta ∧
      (first.toNat : Int) ≤ n - s.delta ∧ (n : Int) - s.delta ≤ last.toNat)

theorem Remains.exists_iff (remains : s.Remains first last first' last') :
    first' ≤ target ∧ target ≤ last' ↔
      ∃ value, (first ≤ value ∧ value ≤ last) ∧ s.coordinate? value = some target := by
  have last_lt := last.toNat_lt
  simp only [UInt32.le_iff_toNat_le]
  constructor
  · intro within
    rcases Nat.lt_or_ge target.toNat s.pivot.toNat with front | behind
    · refine ⟨target, (remains.front _ front).mp within, ?_⟩
      exact coordinate?_eq_some_iff.mpr (.inl ⟨front, rfl⟩)
    · obtain ⟨comes, first_le, le_last⟩ := (remains.behind _ behind).mp within
      obtain ⟨value, source, goes⟩ := exists_coordinate?_eq_some behind comes (by omega)
      exact ⟨value, ⟨by omega, by omega⟩, goes⟩
  · rintro ⟨value, ⟨first_le, le_last⟩, goes⟩
    rcases coordinate?_eq_some_iff.mp goes with ⟨front, rfl⟩ | ⟨from_behind, behind, moved⟩
    · exact (remains.front _ front).mpr ⟨first_le, le_last⟩
    · exact (remains.behind _ behind).mpr ⟨by omega, by omega, by omega⟩

/-- What is left of an interval is found from its ends. -/
theorem Holds.remains (holds : s.Holds first last)
    (moves : s.interval? first last = some (first', last')) :
    s.Remains first last first' last' := by
  obtain ⟨ordered, unsplit, fits⟩ := holds
  simp only [UInt32.le_iff_toNat_le, UInt32.lt_iff_toNat_lt] at ordered unsplit fits
  rw [interval?] at moves
  split at moves
  · rename_i first' last' first_goes last_goes
    obtain ⟨rfl, rfl⟩ := Prod.mk.inj (Option.some.inj moves)
    rw [coordinate?_eq_some_iff, ← UInt32.toNat_inj] at first_goes last_goes
    constructor <;> omega
  · rename_i last' first_lost last_goes
    split at moves
    · contradiction
    · obtain ⟨rfl, rfl⟩ := Prod.mk.inj (Option.some.inj moves)
      rw [coordinate?_eq_none_iff] at first_lost
      rw [coordinate?_eq_some_iff, ← UInt32.toNat_inj] at last_goes
      constructor <;> omega
  · rename_i first' first_goes last_lost
    split at moves
    · rename_i front
      obtain ⟨rfl, rfl⟩ := Prod.mk.inj (Option.some.inj moves)
      have pred := toNat_pivot_pred front
      rw [UInt32.lt_iff_toNat_lt] at front
      rw [coordinate?_eq_some_iff, ← UInt32.toNat_inj] at first_goes
      rw [coordinate?_eq_none_iff] at last_lost
      constructor <;> omega
    · contradiction
  · contradiction

/-- An interval is lost only if all its coordinates are. -/
theorem Holds.coordinate?_eq_none (holds : s.Holds first last)
    (lost : s.interval? first last = none)
    (first_le : first ≤ value) (le_last : value ≤ last) : s.coordinate? value = none := by
  have value_lt := value.toNat_lt
  obtain ⟨ordered, unsplit, fits⟩ := holds
  simp only [UInt32.le_iff_toNat_le, UInt32.lt_iff_toNat_lt] at *
  rw [coordinate?_eq_none_iff]
  rw [interval?] at lost
  split at lost
  · contradiction
  · rename_i last' first_lost last_goes
    split at lost
    · rename_i front
      rw [UInt32.lt_iff_toNat_lt] at front
      rw [coordinate?_eq_none_iff] at first_lost
      rw [coordinate?_eq_some_iff, ← UInt32.toNat_inj] at last_goes
      omega
    · contradiction
  · rename_i first' first_goes last_lost
    split at lost
    · contradiction
    · rename_i behind
      rw [UInt32.lt_iff_toNat_lt] at behind
      rw [coordinate?_eq_some_iff, ← UInt32.toNat_inj] at first_goes
      rw [coordinate?_eq_none_iff] at last_lost
      omega
  · rename_i first_lost last_lost
    rw [coordinate?_eq_none_iff] at first_lost last_lost
    omega

/-- The coordinates in a shifted interval are those to which the coordinates of the interval go. -/
theorem Holds.exists_interval?_iff (holds : s.Holds first last) (target : UInt32) :
    (∃ ends ∈ s.interval? first last, ends.1 ≤ target ∧ target ≤ ends.2) ↔
      ∃ value, (first ≤ value ∧ value ≤ last) ∧ s.coordinate? value = some target := by
  cases moves : s.interval? first last with
  | none =>
      constructor
      · rintro ⟨_, nothing, _⟩
        contradiction
      · rintro ⟨value, ⟨first_le, le_last⟩, goes⟩
        rw [holds.coordinate?_eq_none moves first_le le_last] at goes
        contradiction
  | some ends =>
      rw [← (holds.remains moves).exists_iff]
      simp

/-- The coordinate lies in the deleted span. -/
def Deletes (s : Shift) (value : UInt32) : Prop :=
  s.pivot ≤ value ∧ (value.toNat : Int) + s.delta < s.pivot.toNat

/-- All coordinates of an interval move by the same amount if none of them is deleted. -/
theorem Holds.exists_amount (holds : s.Holds first last)
    (kept : ∀ value, first ≤ value → value ≤ last → ¬ s.Deletes value) :
    ∃ amount : Int, ∀ value, first ≤ value → value ≤ last →
      ∃ target, s.coordinate? value = some target ∧
        (target.toNat : Int) = value.toNat + amount := by
  obtain ⟨ordered, unsplit, fits⟩ := holds
  have pivot_kept := kept s.pivot
  have first_kept := kept first (UInt32.le_refl _) ordered
  simp only [Deletes, UInt32.le_iff_toNat_le, UInt32.lt_iff_toNat_lt] at *
  by_cases front : last.toNat < s.pivot.toNat ∨ s.delta = 0
  · refine ⟨0, fun value first_le le_last => ⟨value, coordinate?_eq_some_iff.mpr ?_, by omega⟩⟩
    rcases Nat.lt_or_ge value.toNat s.pivot.toNat with value_front | value_behind
    · exact .inl ⟨value_front, rfl⟩
    · exact .inr ⟨value_behind, value_behind, by omega⟩
  · have behind : s.pivot.toNat ≤ first.toNat := by omega
    refine ⟨s.delta, fun value first_le le_last => ?_⟩
    have small : (value.toNat + s.delta).toNat < UInt32.size := by
      rw [UInt32.size]
      omega
    have target := UInt32.toNat_ofNat_of_lt' small
    refine ⟨.ofNat (value.toNat + s.delta).toNat, coordinate?_eq_some_iff.mpr ?_, by omega⟩
    omega

end Shift

/-! ## Ranges -/

namespace Range

variable {s : Shift} {r shifted : Range} {p q : Position} {axis : Axis}

/-- The corners of the range are in order on both axes. -/
def Ordered (r : Range) : Prop := r.first.col ≤ r.last.col ∧ r.first.row ≤ r.last.row

theorem Ordered.coordinate (ordered : r.Ordered) (axis : Axis) :
    r.first.coordinate axis ≤ r.last.coordinate axis := by
  cases axis with
  | row => exact ordered.2
  | column => exact ordered.1

theorem ordered_iff (axis : Axis) : r.Ordered ↔ r.first.coordinate axis ≤ r.last.coordinate axis ∧
    r.first.coordinate axis.other ≤ r.last.coordinate axis.other := by
  cases axis with
  | row => exact and_comm
  | column => exact Iff.rfl

/-- The range covers a position if it does so along both axes. -/
theorem contains_iff (axis : Axis) : r.contains p ↔
    (r.first.coordinate axis ≤ p.coordinate axis ∧ p.coordinate axis ≤ r.last.coordinate axis) ∧
      r.first.coordinate axis.other ≤ p.coordinate axis.other ∧
        p.coordinate axis.other ≤ r.last.coordinate axis.other := by
  simp only [contains, Bool.and_eq_true, decide_eq_true_eq]
  cases axis with
  | row => exact ⟨fun ⟨⟨⟨a, b⟩, c⟩, d⟩ => ⟨⟨c, d⟩, a, b⟩, fun ⟨⟨c, d⟩, a, b⟩ => ⟨⟨⟨a, b⟩, c⟩, d⟩⟩
  | column =>
      exact ⟨fun ⟨⟨⟨a, b⟩, c⟩, d⟩ => ⟨⟨a, b⟩, c, d⟩, fun ⟨⟨a, b⟩, c, d⟩ => ⟨⟨⟨a, b⟩, c⟩, d⟩⟩

/-- The coordinates from one to another, in order. -/
def span (first last : UInt32) : List UInt32 :=
  (List.range' first.toNat (last.toNat + 1 - first.toNat)).map UInt32.ofNat

theorem mem_span {first last value : UInt32} :
    value ∈ span first last ↔ first ≤ value ∧ value ≤ last := by
  have last_lt := last.toNat_lt
  simp only [span, List.mem_map, List.mem_range'_1, UInt32.le_iff_toNat_le]
  constructor
  · rintro ⟨n, bounds, rfl⟩
    rw [UInt32.toNat_ofNat_of_lt' (by rw [UInt32.size]; omega)]
    omega
  · intro bounds
    exact ⟨value.toNat, by omega, UInt32.ofNat_toNat⟩

/-- The listed positions are those that the range covers. -/
theorem mem_positions : p ∈ r.positions ↔ r.contains p := by
  rw [contains_iff .column, positions, positionRows]
  simp only [List.mem_flatten, List.mem_map]
  constructor
  · rintro ⟨_, ⟨row, row_member, rfl⟩, member⟩
    obtain ⟨col, col_member, rfl⟩ := List.mem_map.mp member
    exact ⟨mem_span.mp col_member, mem_span.mp row_member⟩
  · rintro ⟨col_member, row_member⟩
    exact ⟨_, ⟨p.row, mem_span.mpr row_member, rfl⟩,
      List.mem_map.mpr ⟨p.col, mem_span.mpr col_member, rfl⟩⟩

/-- How many coordinates the range covers along an axis. -/
def extent (r : Range) (axis : Axis) : Nat :=
  (r.last.coordinate axis).toNat + 1 - (r.first.coordinate axis).toNat

theorem count_eq (axis : Axis) : r.count = r.extent axis * r.extent axis.other := by
  cases axis with
  | row => exact Nat.mul_comm _ _
  | column => rfl

/-- Both corners move along an axis. -/
def IsRelative (r : Range) (axis : Axis) : Prop :=
  ¬ r.first.isAbsolute axis ∧ ¬ r.last.isAbsolute axis

/-- A range moves by the places to which its corners go. -/
theorem shift?_eq_close? (r : Range) (s : Shift) :
    r.shift? s = (s.close? (r.first.target? s) (r.last.target? s)).map fun ends =>
      ⟨r.first.withCoordinate s.axis ends.1, r.last.withCoordinate s.axis ends.2⟩ := by
  rw [shift?, Address.shift?_eq_target?, Address.shift?_eq_target?]
  cases r.first.target? s with
  | none =>
      cases r.last.target? s with
      | none => rfl
      | some last => simp [Shift.close?, apply_ite]
  | some first =>
      cases r.last.target? s with
      | none => simp [Shift.close?, apply_ite]
      | some last => rfl

/-- A range moves as the interval of its coordinates does. -/
theorem shift?_eq (relative : r.IsRelative s.axis) :
    r.shift? s =
      (s.interval? (r.first.coordinate s.axis) (r.last.coordinate s.axis)).map fun ends =>
      ⟨r.first.withCoordinate s.axis ends.1, r.last.withCoordinate s.axis ends.2⟩ := by
  rw [shift?_eq_close?, Address.target?, Address.target?, if_neg relative.1, if_neg relative.2,
    Shift.interval?_eq_close?]

theorem shift?_eq_some_iff (relative : r.IsRelative s.axis) : r.shift? s = some shifted ↔
    ∃ first last,
      s.interval? (r.first.coordinate s.axis) (r.last.coordinate s.axis) = some (first, last) ∧
      shifted = ⟨r.first.withCoordinate s.axis first, r.last.withCoordinate s.axis last⟩ := by
  rw [shift?_eq relative, Option.map_eq_some_iff, Prod.exists]
  simp only [eq_comm]

/-- The shift does not tear the range apart or push it beyond the last coordinate. -/
def HeldBy (r : Range) (s : Shift) : Prop :=
  s.Holds (r.first.coordinate s.axis) (r.last.coordinate s.axis)

theorem ordered_of_shift? (relative : r.IsRelative s.axis) (ordered : r.Ordered)
    (held : r.HeldBy s) (moves : r.shift? s = some shifted) : shifted.Ordered := by
  obtain ⟨first, last, ends, rfl⟩ := (shift?_eq_some_iff relative).mp moves
  rw [ordered_iff s.axis]
  simp [UInt32.le_iff_toNat_le.mpr (held.remains ends).ordered, ordered.coordinate]

theorem count_le_of_shift? (relative : r.IsRelative s.axis) (held : r.HeldBy s)
    (moves : r.shift? s = some shifted) : shifted.count ≤ r.count := by
  obtain ⟨first, last, ends, rfl⟩ := (shift?_eq_some_iff relative).mp moves
  have remains := held.remains ends
  have ordered := UInt32.le_iff_toNat_le.mp held.ordered
  rw [count_eq s.axis, count_eq s.axis]
  apply Nat.mul_le_mul
  · have := remains.length_le
    have := remains.ordered
    simp only [extent, Address.coordinate_withCoordinate]
    omega
  · simp [extent]

/-- Along the other axis a shifted range covers what the range does. -/
theorem exists_contains_shift?_iff_interval? (relative : r.IsRelative s.axis) :
    (∃ shifted ∈ r.shift? s, shifted.contains q) ↔
      (∃ ends ∈ s.interval? (r.first.coordinate s.axis) (r.last.coordinate s.axis),
        ends.1 ≤ q.coordinate s.axis ∧ q.coordinate s.axis ≤ ends.2) ∧
      r.first.coordinate s.axis.other ≤ q.coordinate s.axis.other ∧
        q.coordinate s.axis.other ≤ r.last.coordinate s.axis.other := by
  simp only [Option.mem_def, shift?_eq_some_iff relative]
  constructor
  · rintro ⟨_, ⟨first, last, ends, rfl⟩, covers⟩
    rw [contains_iff s.axis] at covers
    simp only [Address.coordinate_withCoordinate,
      Address.coordinate_other_withCoordinate] at covers
    exact ⟨⟨(first, last), ends, covers.1⟩, covers.2⟩
  · rintro ⟨⟨⟨first, last⟩, ends, along⟩, across⟩
    refine ⟨_, ⟨first, last, ends, rfl⟩, (contains_iff s.axis).mpr ?_⟩
    simpa using ⟨along, across⟩

/-- A shifted range covers the places of the cells of the range that survive, and no others. -/
theorem exists_contains_shift?_iff (relative : r.IsRelative s.axis) (held : r.HeldBy s) :
    (∃ shifted ∈ r.shift? s, shifted.contains q) ↔ ∃ p, r.contains p ∧ p.shift? s = some q := by
  rw [exists_contains_shift?_iff_interval? relative, held.exists_interval?_iff]
  simp only [contains_iff s.axis, Position.shift?_eq_some_iff_coordinate]
  constructor
  · rintro ⟨⟨value, within, goes⟩, across⟩
    refine ⟨q.withCoordinate s.axis value, ?_, ?_⟩
    · simpa using ⟨within, across⟩
    · simpa using goes
  · rintro ⟨p, ⟨within, across⟩, goes, same⟩
    exact ⟨⟨_, within, goes⟩, same ▸ across⟩

/-! ### Ranges that lose no cell -/

theorem span_eq_map (first last : UInt32) : span first last =
    (List.range (last.toNat + 1 - first.toNat)).map fun i => UInt32.ofNat (first.toNat + i) := by
  rw [span, List.range'_eq_map_range, List.map_map]
  rfl

/-- An interval whose coordinates move by the same amount is moved coordinate by coordinate. -/
theorem span_map {first last first' last' : UInt32} (move : UInt32 → UInt32) {amount : Int}
    (ordered : first ≤ last) (first_eq : (first'.toNat : Int) = first.toNat + amount)
    (last_eq : (last'.toNat : Int) = last.toNat + amount)
    (each : ∀ value, first ≤ value → value ≤ last →
      ((move value).toNat : Int) = value.toNat + amount) :
    span first' last' = (span first last).map move := by
  have last_lt := last.toNat_lt
  have last'_lt := last'.toNat_lt
  rw [UInt32.le_iff_toNat_le] at ordered
  rw [span_eq_map, span_eq_map, List.map_map,
    show last'.toNat + 1 - first'.toNat = last.toNat + 1 - first.toNat by omega]
  apply List.map_congr_left
  intro i member
  rw [List.mem_range] at member
  have source : (UInt32.ofNat (first.toNat + i)).toNat = first.toNat + i :=
    UInt32.toNat_ofNat_of_lt' (by rw [UInt32.size]; omega)
  have target : (UInt32.ofNat (first'.toNat + i)).toNat = first'.toNat + i :=
    UInt32.toNat_ofNat_of_lt' (by rw [UInt32.size]; omega)
  have moved := each (.ofNat (first.toNat + i)) (by rw [UInt32.le_iff_toNat_le]; omega)
    (by rw [UInt32.le_iff_toNat_le]; omega)
  rw [Function.comp_apply, ← UInt32.toNat_inj]
  omega

/-- No cell of the range lies in the deleted span. -/
def KeptBy (r : Range) (s : Shift) : Prop := ∀ p, r.contains p → ¬ s.Deletes (p.coordinate s.axis)

theorem KeptBy.not_deletes (kept : r.KeptBy s) (ordered : r.Ordered) :
    ∀ value, r.first.coordinate s.axis ≤ value → value ≤ r.last.coordinate s.axis →
      ¬ s.Deletes value := by
  intro value first_le le_last
  have covered : r.contains (r.first.position.withCoordinate s.axis value) := by
    rw [contains_iff s.axis, Position.coordinate_withCoordinate,
      Position.coordinate_other_withCoordinate]
    exact ⟨⟨first_le, le_last⟩, UInt32.le_refl _, ordered.coordinate _⟩
  simpa using kept _ covered

/-- An insertion deletes nothing, and a deletion nothing in front of its span or behind it. -/
theorem keptBy_iff : r.KeptBy s ↔ (r.Ordered → 0 ≤ s.delta ∨ r.last.coordinate s.axis < s.pivot ∨
    (s.pivot.toNat : Int) ≤ (r.first.coordinate s.axis).toNat + s.delta) := by
  constructor
  · intro kept ordered
    have corners := ordered.coordinate s.axis
    have first_kept := kept.not_deletes ordered _ (UInt32.le_refl _) corners
    have pivot_kept := kept.not_deletes ordered s.pivot
    simp only [Shift.Deletes, UInt32.le_iff_toNat_le, UInt32.lt_iff_toNat_lt] at *
    omega
  · rintro beside p covers ⟨behind, lost⟩
    rw [contains_iff s.axis] at covers
    have beside := beside ((ordered_iff s.axis).mpr
      ⟨UInt32.le_trans covers.1.1 covers.1.2, UInt32.le_trans covers.2.1 covers.2.2⟩)
    simp only [UInt32.le_iff_toNat_le, UInt32.lt_iff_toNat_lt] at covers behind beside
    omega

instance : Decidable r.Ordered :=
  inferInstanceAs (Decidable (r.first.col ≤ r.last.col ∧ r.first.row ≤ r.last.row))

instance : Decidable (r.KeptBy s) := decidable_of_iff _ keptBy_iff.symm

/-- All cells of such a range survive. -/
theorem exists_shift?_of_contains (ordered : r.Ordered) (held : r.HeldBy s) (kept : r.KeptBy s)
    (covers : r.contains p) : ∃ q, p.shift? s = some q := by
  obtain ⟨amount, each⟩ := held.exists_amount (kept.not_deletes ordered)
  rw [contains_iff s.axis] at covers
  obtain ⟨target, goes, _⟩ := each _ covers.1.1 covers.1.2
  rw [Position.shift?_eq, goes]
  exact ⟨_, rfl⟩

/-- A range that keeps its size moves cell by cell. -/
structure MovesTo (s : Shift) (r shifted : Range) : Prop where
  /-- The range is shifted. -/
  shift?_eq : r.shift? s = some shifted
  /-- No cell is lost. -/
  count_eq : shifted.count = r.count
  /-- The cells stay in order. -/
  positionRows_eq : shifted.positionRows = r.positionRows.map (List.map (Position.moved s))

theorem positionRows_eq (r : Range) : r.positionRows =
    (span r.first.row r.last.row).map fun row =>
      (span r.first.col r.last.col).map fun col => ⟨col, row⟩ := rfl

/-- A range with no cell in the deleted span moves cell by cell. -/
theorem exists_movesTo (relative : r.IsRelative s.axis) (ordered : r.Ordered) (held : r.HeldBy s)
    (kept : r.KeptBy s) : ∃ shifted, MovesTo s r shifted := by
  obtain ⟨amount, each⟩ := held.exists_amount (kept.not_deletes ordered)
  obtain ⟨first, first_goes, first_eq⟩ := each _ (UInt32.le_refl _) held.ordered
  obtain ⟨last, last_goes, last_eq⟩ := each _ held.ordered (UInt32.le_refl _)
  refine ⟨_, (shift?_eq_some_iff relative).mpr ⟨first, last, ?_, rfl⟩, ?_, ?_⟩
  · rw [Shift.interval?, first_goes, last_goes]
  · rw [count_eq s.axis, count_eq s.axis]
    congr 1
    · simp only [extent, Address.coordinate_withCoordinate]
      omega
    · simp [extent]
  · have row_eq := span_map (fun value => (s.coordinate? value).getD value) held.ordered
      first_eq last_eq fun value first_le le_last => by
        obtain ⟨target, goes, target_eq⟩ := each value first_le le_last
        rw [goes, Option.getD_some, target_eq]
    have moved_eq := Position.moved_eq_withCoordinate s
    rw [positionRows_eq, positionRows_eq]
    cases axis : s.axis with
    | row =>
        rw [axis] at row_eq moved_eq
        simp only [Address.coordinate, Address.withCoordinate] at row_eq ⊢
        rw [row_eq, List.map_map, List.map_map]
        simp [moved_eq, Position.coordinate, Position.withCoordinate, Function.comp_def]
    | column =>
        rw [axis] at row_eq moved_eq
        simp only [Address.coordinate, Address.withCoordinate] at row_eq ⊢
        rw [row_eq]
        simp [moved_eq, Position.coordinate, Position.withCoordinate, Function.comp_def]

end Range
end Spreadsheet
