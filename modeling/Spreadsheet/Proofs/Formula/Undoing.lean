import Spreadsheet.Proofs.Formula.TextLength

/-!
# Undoing an insertion

Deleting what has been inserted takes every coordinate back to where it was. So a reference returns
if its corners move together and stay in front of the last coordinate. A text whose references
return stands for the same tree as before, and it is no longer than before.
-/

namespace Spreadsheet

variable {s : Shift}

namespace Shift

variable {value target : UInt32}

/-- The deletion of what a shift inserts. -/
def undo (s : Shift) : Shift := { s with delta := -s.delta }

theorem coordinate?_undo (goes : s.coordinate? value = some target) :
    s.undo.coordinate? target = some value := by
  rw [coordinate?_eq_some_iff] at goes ⊢
  rcases goes with ⟨front, rfl⟩ | ⟨behind, target_behind, moved⟩
  · exact .inl ⟨front, rfl⟩
  · refine .inr ⟨target_behind, behind, ?_⟩
    simp only [undo]
    omega

/-- An insertion loses a coordinate only beyond 32 bits. -/
theorem exists_target (inserts : 0 ≤ s.delta) (below : value.toNat + s.delta < 4294967296) :
    ∃ target, s.coordinate? value = some target ∧
      (target.toNat : Int) ≤ value.toNat + s.delta := by
  cases goes : s.coordinate? value with
  | none =>
      rw [coordinate?_eq_none_iff] at goes
      omega
  | some target =>
      refine ⟨target, rfl, ?_⟩
      rcases coordinate?_eq_some_iff.mp goes with ⟨_, rfl⟩ | ⟨_, _, moved⟩ <;> omega

end Shift

namespace Position

variable {p q : Position}

theorem shift?_undo (goes : p.shift? s = some q) : q.shift? s.undo = some p := by
  rw [shift?_eq_some_iff_coordinate] at goes ⊢
  exact ⟨Shift.coordinate?_undo goes.1, goes.2.symm⟩

theorem exists_shift?_of_inserts (inserts : 0 ≤ s.delta)
    (below : (p.coordinate s.axis).toNat + s.delta < 4294967296) : ∃ q, p.shift? s = some q := by
  obtain ⟨target, goes, _⟩ := Shift.exists_target inserts below
  rw [shift?_eq, goes]
  exact ⟨_, rfl⟩

end Position

namespace Address

variable {a b : Address}

theorem shift?_undo (goes : a.shift? s = some b) : b.shift? s.undo = some a := by
  rw [shift?] at goes
  split at goes
  · rename_i absolute
    obtain rfl := Option.some.inj goes
    exact if_pos absolute
  · rename_i relative
    obtain ⟨value, moves, rfl⟩ := Option.map_eq_some_iff.mp goes
    have relative_after : ¬ (a.withCoordinate s.axis value).isAbsolute s.undo.axis := by
      rwa [isAbsolute_withCoordinate]
    rw [shift?_eq_of_relative relative_after, show s.undo.axis = s.axis from rfl,
      coordinate_withCoordinate, Shift.coordinate?_undo moves, Option.map_some]
    cases s.axis <;> rfl

/-- An address that is not pushed to the last coordinate survives an insertion, and it returns. -/
theorem exists_returning (inserts : 0 ≤ s.delta)
    (below : (a.coordinate s.axis).toNat + s.delta < 0xFFFFFFFF) :
    ∃ b, a.shift? s = some b ∧ b.shift? s.undo = some a ∧
      a.coordinate s.axis ≠ 0xFFFFFFFF ∧ b.coordinate s.axis ≠ 0xFFFFFFFF := by
  have inside : a.coordinate s.axis ≠ 0xFFFFFFFF := ne_last_of_toNat_lt (by omega)
  by_cases absolute : a.isAbsolute s.axis
  · have stays : a.shift? s = some a := by rw [shift?, if_pos absolute]
    exact ⟨a, stays, shift?_undo stays, inside, inside⟩
  · have room : (a.coordinate s.axis).toNat + s.delta < 4294967296 := by omega
    obtain ⟨target, goes, target_le⟩ := Shift.exists_target inserts room
    have moves : a.shift? s = some (a.withCoordinate s.axis target) := by
      rw [shift?_eq_of_relative absolute, goes, Option.map_some]
    refine ⟨_, moves, shift?_undo moves, inside, ?_⟩
    rw [coordinate_withCoordinate]
    exact ne_last_of_toNat_lt (by omega)

end Address

namespace Range

variable {r : Range} {first last : Address}

theorem shift?_of_corners (first_goes : r.first.shift? s = some first)
    (last_goes : r.last.shift? s = some last) : r.shift? s = some ⟨first, last⟩ := by
  rw [shift?, first_goes, last_goes]

/-- An insertion keeps the order of corners that move together. -/
theorem Ordered.shift?_of_inserts (ordered : r.Ordered) (inserts : 0 ≤ s.delta)
    (unmixed : r.first.isAbsolute s.axis = r.last.isAbsolute s.axis)
    (first_goes : r.first.shift? s = some first) (last_goes : r.last.shift? s = some last) :
    Ordered ⟨first, last⟩ := by
  rw [Address.shift?] at first_goes last_goes
  by_cases absolute : r.last.isAbsolute s.axis
  · rw [if_pos (unmixed.trans absolute)] at first_goes
    rw [if_pos absolute] at last_goes
    obtain rfl := Option.some.inj first_goes
    obtain rfl := Option.some.inj last_goes
    exact ordered
  · rw [if_neg (unmixed ▸ absolute)] at first_goes
    rw [if_neg absolute] at last_goes
    obtain ⟨value, goes, rfl⟩ := Option.map_eq_some_iff.mp first_goes
    obtain ⟨value', goes', rfl⟩ := Option.map_eq_some_iff.mp last_goes
    rw [ordered_iff s.axis]
    simp [Shift.coordinate?_mono inserts (ordered.coordinate s.axis) goes goes',
      ordered.coordinate]

end Range

namespace Reference

variable {back : Shift} {reference moved : Reference}

/-- The second shift takes the reference back to where it was before the first. -/
def Returns (s back : Shift) (reference : Reference) : Prop :=
  ∃ moved, reference.shift? s = some moved ∧ moved.shift? back = some reference

/-- A reference whose corners move together, or not at all, and stay in front of the last
coordinate. -/
structure MovesTogether (s : Shift) (reference : Reference) : Prop where
  /-- Both corners are relative, or both are absolute. -/
  unmixed : reference.block.first.isAbsolute s.axis = reference.block.last.isAbsolute s.axis
  /-- The last coordinate is not reached. -/
  below : (reference.block.last.coordinate s.axis).toNat + s.delta < 0xFFFFFFFF

instance (s : Shift) : DecidablePred (MovesTogether s) := fun reference =>
  decidable_of_iff
    (reference.block.first.isAbsolute s.axis = reference.block.last.isAbsolute s.axis ∧
      (reference.block.last.coordinate s.axis).toNat + s.delta < 0xFFFFFFFF)
    ⟨fun ⟨unmixed, below⟩ => ⟨unmixed, below⟩, fun together => ⟨together.unmixed, together.below⟩⟩

/-- Such a reference survives an insertion, and it returns. -/
theorem MovesTogether.exists_moved (together : reference.MovesTogether s)
    (proper : reference.Proper) (inserts : 0 ≤ s.delta) :
    ∃ moved, reference.shift? s = some moved ∧ moved.shift? s.undo = some reference ∧
      reference.Fits s ∧ moved.Fits s.undo := by
  obtain ⟨unmixed, below⟩ := together
  have ordered := UInt32.le_iff_toNat_le.mp (proper.ordered.coordinate s.axis)
  have first_below : (reference.block.first.coordinate s.axis).toNat + s.delta < 0xFFFFFFFF := by
    omega
  obtain ⟨first, first_goes, first_returns, first_inside, first_inside_after⟩ :=
    Address.exists_returning inserts first_below
  obtain ⟨last, last_goes, last_returns, last_inside, last_inside_after⟩ :=
    Address.exists_returning inserts below
  cases reference with
  | cell a =>
      change a.shift? s = some last at last_goes
      change last.shift? s.undo = some a at last_returns
      refine ⟨cell last, ?_, ?_, fun shifted moves => ?_, fun shifted moves => ?_⟩
      · rw [shift?, last_goes, Option.map_some]
      · rw [shift?, last_returns, Option.map_some]
      · obtain rfl := Option.some.inj (last_goes.symm.trans moves)
        exact last_inside_after
      · obtain rfl := Option.some.inj (last_returns.symm.trans moves)
        exact last_inside
  | range r =>
      change r.last.shift? s = some last at last_goes
      change r.first.shift? s = some first at first_goes
      have goes := Range.shift?_of_corners first_goes last_goes
      have ordered_after := proper.ordered.shift?_of_inserts inserts unmixed first_goes last_goes
      have returns : Range.shift? s.undo ⟨first, last⟩ = some r :=
        Range.shift?_of_corners first_returns last_returns
      have ordered_back : r.Ordered := proper.ordered
      refine ⟨range ⟨first, last⟩, ?_, ?_, fun shifted moves => ?_, fun shifted moves => ?_⟩
      · rw [shift?, goes, Option.map_some, Range.between_of_le ordered_after.1 ordered_after.2]
      · rw [shift?, returns, Option.map_some, Range.between_of_le ordered_back.1 ordered_back.2]
      · obtain rfl := Option.some.inj (goes.symm.trans moves)
        exact ⟨first_inside_after, last_inside_after⟩
      · obtain rfl := Option.some.inj (returns.symm.trans moves)
        exact ⟨first_inside, last_inside⟩

end Reference

/-! ## Trees -/

namespace Expr

variable {back : Shift}

mutual

/-- A tree whose references return returns itself. -/
theorem shift_shift : ∀ e : Expr, (∀ reference ∈ e.references, reference.Returns s back) →
    (e.shift s).shift back = e
  | literal _, _ => by rw [shift, shift]
  | cell a, returns => by
      obtain ⟨_, goes, comes⟩ := returns _ (List.mem_singleton_self _)
      obtain ⟨b, a_goes, rfl⟩ := Option.map_eq_some_iff.mp goes
      obtain ⟨a', b_comes, same⟩ := Option.map_eq_some_iff.mp comes
      rw [shift, a_goes]
      dsimp only
      rw [shift, b_comes]
      exact congrArg cell (Reference.cell.inj same)
  | range r, returns => by
      obtain ⟨_, goes, comes⟩ := returns _ (List.mem_singleton_self _)
      obtain ⟨shifted, r_goes, rfl⟩ := Option.map_eq_some_iff.mp goes
      obtain ⟨r', comes_back, same⟩ := Option.map_eq_some_iff.mp comes
      rw [shift, r_goes]
      dsimp only
      rw [shift, comes_back]
      exact congrArg range (Reference.range.inj same)
  | unary _ operand, returns => by rw [shift, shift, shift_shift operand returns]
  | binary _ left right, returns => by
      obtain ⟨left_returns, right_returns⟩ := List.forall_mem_append.mp returns
      rw [shift, shift, shift_shift left left_returns, shift_shift right right_returns]
  | call _ arguments, returns => by rw [shift, shift, shiftAll_shiftAll arguments returns]

theorem shiftAll_shiftAll : ∀ es : List Expr,
    (∀ reference ∈ referencesOfAll es, reference.Returns s back) →
      shiftAll back (shiftAll s es) = es
  | [], _ => rfl
  | first :: rest, returns => by
      obtain ⟨first_returns, rest_returns⟩ := List.forall_mem_append.mp returns
      rw [shiftAll, shiftAll, shift_shift first first_returns, shiftAll_shiftAll rest rest_returns]

end

end Expr

/-! ## Texts -/

namespace Formula

variable {back : Shift} {text : String} {e : Expr} {references : List Reference}

/-- What is written for references that survive is the text of the shifted references. -/
theorem sum_textAfter
    (survive : ∀ reference ∈ references, ∃ moved, reference.shift? s = some moved) :
    (references.map fun reference => (reference.textAfter s).length).sum =
      ((references.filterMap (Reference.shift? s)).map fun reference =>
        reference.text.length).sum := by
  induction references with
  | nil => rfl
  | cons reference references ih =>
      obtain ⟨⟨moved, goes⟩, survive⟩ := List.forall_mem_cons.mp survive
      rw [List.filterMap_cons_some goes, List.map_cons, List.map_cons, List.sum_cons,
        List.sum_cons, ih survive, Reference.textAfter, goes]

/-- A text whose references return does not grow. -/
theorem Means.length_relocate_relocate_le (means : Means text e)
    (plain : ∀ name ∈ e.functionNames, ':' ∉ name.toList) (moves : s.delta ≠ 0)
    (comes : back.delta ≠ 0) (fits : ∀ reference ∈ e.references, reference.Fits s)
    (returns : ∀ reference ∈ e.references, reference.Returns s back) :
    (Formula.relocate back (Formula.relocate s text)).length ≤ text.length := by
  -- What the references need more on the way there they need less on the way back.
  have there := means.length_relocate_le plain moves
  have home := (means.relocate plain fits).length_relocate_le (by simpa using plain) comes
  have survive : ∀ reference ∈ e.references, ∃ moved, reference.shift? s = some moved :=
    fun reference member => (returns reference member).imp fun _ => And.left
  have survive_back :
      ∀ moved ∈ (e.shift s).references, ∃ reference, moved.shift? back = some reference := by
    intro moved member
    rw [Expr.references_shift, List.mem_filterMap] at member
    obtain ⟨reference, member, goes⟩ := member
    obtain ⟨moved', goes', home⟩ := returns reference member
    obtain rfl := Option.some.inj (goes.symm.trans goes')
    exact ⟨reference, home⟩
  rw [sum_textAfter survive, ← Expr.references_shift] at there
  rw [sum_textAfter survive_back, ← Expr.references_shift, Expr.shift_shift e returns] at home
  omega

/-- Deleting what has been inserted takes a formula back to a text that is read as before. -/
theorem parse_relocate_undo (parsed : parse text = .ok e) (inserts : 0 < s.delta)
    (plain : ∀ name ∈ e.functionNames, ':' ∉ name.toList)
    (together : ∀ reference ∈ e.references, reference.MovesTogether s) :
    parse (relocate s.undo (relocate s text)) = .ok e := by
  obtain ⟨short, means⟩ := parse_eq_ok_iff_means.mp parsed
  have each := fun reference (member : reference ∈ e.references) =>
    (together reference member).exists_moved (means.proper reference member) (Int.le_of_lt inserts)
  choose moved goes home fits fits_home using each
  have returns : ∀ reference ∈ e.references, reference.Returns s s.undo := fun reference member =>
    ⟨moved reference member, goes reference member, home reference member⟩
  have fits_back : ∀ moved ∈ (e.shift s).references, moved.Fits s.undo := by
    intro shifted member
    rw [Expr.references_shift, List.mem_filterMap] at member
    obtain ⟨reference, member, shifted_eq⟩ := member
    obtain rfl := Option.some.inj (shifted_eq.symm.trans (goes reference member))
    exact fits_home reference member
  have means_back := (means.relocate plain fits).relocate (by simpa using plain) fits_back
  rw [Expr.shift_shift e returns] at means_back
  have comes : s.undo.delta ≠ 0 := by
    simp only [Shift.undo]
    omega
  have length_le :=
    means.length_relocate_relocate_le plain (Int.ne_of_gt inserts) comes fits returns
  exact parse_eq_ok_iff_means.mpr ⟨length_le.trans short, means_back⟩

end Formula
end Spreadsheet
