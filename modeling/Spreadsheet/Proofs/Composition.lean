import Spreadsheet.Proofs.Coverage

/-!
# Shifts at one pivot

Two deletions at one pivot delete what one deletion of both counts does, and two insertions
likewise. For a single coordinate this is a matter of sums. A range may have lost a corner to the
first shift, which pulled the corner in to the pivot or to the coordinate in front of it. From
there the second shift has to leave what a single shift leaves of a range whose corner is lost.
-/

namespace Spreadsheet

/-- Two amounts have the same direction: both delete or both insert. -/
def Shift.OneWay (amount amount' : Int) : Prop :=
  amount ≤ 0 ∧ amount' ≤ 0 ∨ 0 ≤ amount ∧ 0 ≤ amount'

section Composition

variable {s : Shift} {axis : Axis} {pivot first last : UInt32} {amount amount' : Int}

namespace Shift

/-! ## Coordinates and intervals -/

/-- A coordinate that two shifts in one direction keep moves by the sum of their amounts, and one
that either of them loses is lost to the sum. -/
theorem bind_coordinate? (oneWay : OneWay amount amount') (value : UInt32) :
    (coordinate? ⟨axis, pivot, amount⟩ value).bind (coordinate? ⟨axis, pivot, amount'⟩) =
      coordinate? ⟨axis, pivot, amount + amount'⟩ value := by
  have value_lt := value.toNat_lt
  rw [OneWay] at oneWay
  symm
  cases goes : coordinate? ⟨axis, pivot, amount⟩ value with
  | none =>
      rw [coordinate?_eq_none_iff] at goes
      rw [Option.bind_none, coordinate?_eq_none_iff]
      dsimp only at goes ⊢
      omega
  | some middle =>
      rw [coordinate?_eq_some_iff, ← UInt32.toNat_inj] at goes
      rw [Option.bind_some]
      cases goes' : coordinate? ⟨axis, pivot, amount'⟩ middle with
      | none =>
          rw [coordinate?_eq_none_iff] at goes' ⊢
          dsimp only at goes goes' ⊢
          omega
      | some target =>
          rw [coordinate?_eq_some_iff, ← UInt32.toNat_inj] at goes' ⊢
          dsimp only at goes goes' ⊢
          omega

/-- For a deletion, a start at the pivot is as good as lost. -/
theorem interval?_pivot (deletes : s.delta ≤ 0) (behind : s.pivot ≤ last) :
    s.interval? s.pivot last = s.close? none (s.coordinate? last) := by
  rw [interval?_eq_close?]
  cases goes : s.coordinate? s.pivot with
  | none => rfl
  | some target =>
      -- Only a deletion of nothing keeps the pivot.
      obtain rfl : target = s.pivot := by
        rw [coordinate?_eq_some_iff] at goes
        rw [← UInt32.toNat_inj]
        omega
      cases last_goes : s.coordinate? last with
      | none => simp [close?]
      | some last' =>
          have kept : ¬ last' < s.pivot := by
            rw [lt_pivot_iff_of_coordinate? last_goes]
            exact UInt32.not_lt.mpr behind
          rw [close?, close?, if_neg kept]

/-- An end in front of the pivot is as good as lost. -/
theorem interval?_pivot_pred (front : first < s.pivot) :
    s.interval? first (s.pivot - 1) = s.close? (s.coordinate? first) none := by
  have end_front : s.pivot - 1 < s.pivot := by
    have pred := toNat_pivot_pred front
    rw [UInt32.lt_iff_toNat_lt] at front ⊢
    omega
  rw [interval?_eq_close?, coordinate?, if_pos front, coordinate?, if_pos end_front,
    close?, close?, if_pos front]

theorem close?_none_of_behind (behind : ¬ first < s.pivot) :
    s.close? (s.coordinate? first) none = none := by
  cases goes : s.coordinate? first with
  | none => rfl
  | some first' =>
      have kept_behind : ¬ first' < s.pivot := by rwa [lt_pivot_iff_of_coordinate? goes]
      rw [close?, if_neg kept_behind]

/-- Only a deletion loses a coordinate and keeps a later one, which is then behind the pivot. -/
theorem deletes_of_lost {last' : UInt32} (ordered : first ≤ last)
    (lost : s.coordinate? first = none) (kept : s.coordinate? last = some last') :
    s.delta < 0 ∧ s.pivot ≤ last' := by
  have last'_lt := last'.toNat_lt
  rw [coordinate?_eq_none_iff] at lost
  rw [coordinate?_eq_some_iff, ← UInt32.toNat_inj] at kept
  rw [UInt32.le_iff_toNat_le] at ordered ⊢
  omega

/-- What two shifts in one direction leave of an interval is what a shift by the sum of their
amounts leaves. -/
theorem bind_interval? (oneWay : OneWay amount amount') (ordered : first ≤ last) :
    (interval? ⟨axis, pivot, amount⟩ first last).bind
        (fun ends => interval? ⟨axis, pivot, amount'⟩ ends.1 ends.2) =
      interval? ⟨axis, pivot, amount + amount'⟩ first last := by
  -- Closing an interval depends on the pivot only.
  have closed (a b : Option UInt32) :
      close? ⟨axis, pivot, amount + amount'⟩ a b = close? ⟨axis, pivot, amount'⟩ a b := rfl
  rw [interval?_eq_close? _ first last,
    interval?_eq_close? ⟨axis, pivot, amount + amount'⟩, closed, ← bind_coordinate? oneWay,
    ← bind_coordinate? oneWay]
  cases first_goes : coordinate? ⟨axis, pivot, amount⟩ first with
  | some first' =>
      cases last_goes : coordinate? ⟨axis, pivot, amount⟩ last with
      | some last' => exact interval?_eq_close? _ _ _
      | none =>
          rw [Option.bind_some, Option.bind_none, close?]
          split
          · rename_i front
            exact interval?_pivot_pred front
          · rename_i behind
            exact (close?_none_of_behind (s := ⟨axis, pivot, amount'⟩) behind).symm
  | none =>
      cases last_goes : coordinate? ⟨axis, pivot, amount⟩ last with
      | none => rfl
      | some last' =>
          -- An insertion would have lost the end as well.
          obtain ⟨deletes, behind⟩ := deletes_of_lost ordered first_goes last_goes
          have still_deletes : amount' ≤ 0 := by
            rw [OneWay] at oneWay
            dsimp only at deletes
            omega
          rw [Option.bind_some, Option.bind_none, close?, if_neg (UInt32.not_lt.mpr behind)]
          exact interval?_pivot still_deletes behind

end Shift

/-! ## Addresses and ranges -/

theorem Address.bind_shift? (oneWay : Shift.OneWay amount amount') (a : Address) :
    (a.shift? ⟨axis, pivot, amount⟩).bind (shift? ⟨axis, pivot, amount'⟩) =
      a.shift? ⟨axis, pivot, amount + amount'⟩ := by
  by_cases absolute : a.isAbsolute axis
  · simp [shift?, absolute]
  · rw [shift?, if_neg absolute, shift?, if_neg absolute, ← Shift.bind_coordinate? oneWay,
      Option.bind_map, Option.map_bind]
    congr 1
    funext value
    have twice : (a.withCoordinate axis value).withCoordinate axis = a.withCoordinate axis :=
      funext (a.withCoordinate_withCoordinate axis value)
    simp [shift?, absolute, twice]

theorem Range.bind_shift? {r : Range} (oneWay : Shift.OneWay amount amount') (ordered : r.Ordered)
    (relative : r.IsRelative axis) :
    (r.shift? ⟨axis, pivot, amount⟩).bind (shift? ⟨axis, pivot, amount'⟩) =
      r.shift? ⟨axis, pivot, amount + amount'⟩ := by
  rw [shift?_eq (s := ⟨axis, pivot, amount⟩) relative,
    shift?_eq (s := ⟨axis, pivot, amount + amount'⟩) relative,
    ← Shift.bind_interval? oneWay (ordered.coordinate axis), Option.bind_map, Option.map_bind]
  congr 1
  funext ends
  let between : Range := ⟨r.first.withCoordinate axis ends.1, r.last.withCoordinate axis ends.2⟩
  have still_relative : between.IsRelative axis := by
    simpa [between, IsRelative] using relative
  have moves := shift?_eq (s := ⟨axis, pivot, amount'⟩) still_relative
  simpa [between] using moves

end Composition

/-- Two deletions at one pivot leave the same as one deletion of both counts, and two insertions
the same as one insertion of both: of every address, and of every range whose corners are in order
and move. What either of the two loses, the one loses. -/
theorem Shift.counts_at_pivot_add (axis : Axis) (pivot : UInt32) (n m : Nat) :
    let deletion (count : Nat) : Shift := ⟨axis, pivot, -(count : Int)⟩
    let insertion (count : Nat) : Shift := ⟨axis, pivot, count⟩
    (∀ a : Address,
      (a.shift? (deletion n)).bind (Address.shift? (deletion m)) = a.shift? (deletion (n + m)) ∧
      (a.shift? (insertion n)).bind (Address.shift? (insertion m)) =
        a.shift? (insertion (n + m))) ∧
    ∀ r : Range, r.Ordered → r.IsRelative axis →
      (r.shift? (deletion n)).bind (Range.shift? (deletion m)) = r.shift? (deletion (n + m)) ∧
      (r.shift? (insertion n)).bind (Range.shift? (insertion m)) =
        r.shift? (insertion (n + m)) := by
  intro deletion insertion
  have deletes : OneWay (-(n : Int)) (-(m : Int)) := .inl (by omega)
  have inserts : OneWay n m := .inr (by omega)
  have deletion_add : deletion (n + m) = ⟨axis, pivot, -(n : Int) + -(m : Int)⟩ := by
    simp only [deletion, Int.natCast_add, Int.neg_add]
  have insertion_add : insertion (n + m) = ⟨axis, pivot, (n : Int) + m⟩ := by
    simp only [insertion, Int.natCast_add]
  rw [deletion_add, insertion_add]
  constructor
  · intro a
    exact ⟨a.bind_shift? deletes, a.bind_shift? inserts⟩
  · intro r ordered relative
    exact ⟨r.bind_shift? deletes ordered relative, r.bind_shift? inserts ordered relative⟩

/-- The start of a range is deleted and pulled in to the pivot, where the next deletion finds
it. -/
theorem Shift.counts_at_pivot_add_of_clamped_range :
    let r : Range := ⟨⟨0, 5, true, false⟩, ⟨2, 9, false, false⟩⟩
    r.shift? ⟨.row, 4, -3⟩ = some ⟨⟨0, 4, true, false⟩, ⟨2, 6, false, false⟩⟩ ∧
      (r.shift? ⟨.row, 4, -3⟩).bind (Range.shift? ⟨.row, 4, -2⟩) =
        some ⟨⟨0, 4, true, false⟩, ⟨2, 4, false, false⟩⟩ := by
  intro r
  have relative : r.IsRelative .row := ⟨by decide, by decide⟩
  obtain ⟨deletions, _⟩ := (counts_at_pivot_add .row 4 3 2).2 r (by decide) relative
  exact ⟨by decide, deletions.trans (by decide)⟩

end Spreadsheet
