import Spreadsheet.Proofs.Library.Bodies

/-!
# Look-up functions do not crash

The index that a search reports is that of one of the values searched, and in a rectangle every
index of a row and of a column has an item.
-/

namespace Spreadsheet

namespace IsRectangle

variable {rows : List (List Value)} {row column : Nat}

/-- The first row of a rectangle is as long as any other. -/
theorem length_eq_width (rectangle : IsRectangle rows) {items : List Value}
    (member : items ∈ rows) :
    items.length = Library.LookUp.width rows := by
  obtain ⟨width, -, equal⟩ := rectangle.exists_width
  obtain ⟨first, rest, rfl⟩ := List.exists_cons_of_ne_nil rectangle.nonempty
  exact (equal items member).trans (equal first List.mem_cons_self).symm

theorem width_pos (rectangle : IsRectangle rows) : 0 < Library.LookUp.width rows := by
  obtain ⟨width, positive, equal⟩ := rectangle.exists_width
  obtain ⟨first, rest, rfl⟩ := List.exists_cons_of_ne_nil rectangle.nonempty
  exact Nat.lt_of_lt_of_eq positive (equal first List.mem_cons_self).symm

/-- A rectangle has an item at every index. -/
theorem exists_item (rectangle : IsRectangle rows) (rowIn : row < rows.length)
    (columnIn : column < Library.LookUp.width rows) :
    ∃ value, Library.LookUp.item? rows row column = some value := by
  have member : rows[row] ∈ rows := List.getElem_mem rowIn
  have inside : column < rows[row].length := by rwa [rectangle.length_eq_width member]
  refine ⟨rows[row][column], ?_⟩
  rw [Library.LookUp.item?, List.getElem?_eq_getElem rowIn, Option.bind_some,
    List.getElem?_eq_getElem inside]

/-- The items of a rectangle are regular. -/
theorem isRegular_of_item? (rectangle : IsRectangle rows) {value : Value}
    (there : Library.LookUp.item? rows row column = some value) : value.IsRegular := by
  obtain ⟨items, rowThere, columnThere⟩ := Option.bind_eq_some_iff.mp there
  exact rectangle.isRegular_of_mem (List.mem_of_getElem? rowThere)
    (List.mem_of_getElem? columnThere)

/-- Every row of a rectangle has a first item. -/
theorem exists_head (rectangle : IsRectangle rows) {items : List Value} (member : items ∈ rows) :
    ∃ value, items.head? = some value := by
  have positive : 0 < items.length := rectangle.length_eq_width member ▸ rectangle.width_pos
  obtain ⟨value, rest, rfl⟩ := List.exists_cons_of_length_pos positive
  exact ⟨value, rfl⟩

end IsRectangle

namespace Library
namespace LookUp

variable {argument target : Value} {values : List Value} {rows : List (List Value)}

/-! ## Indices -/

theorem ensures_index :
    Ensures (fun i : Nat => (i : Int) < Int64.maxValue.toInt) (index argument) := by
  refine ensuresUnless_bind.mpr (ensures_integer.mpr fun n read => ?_)
  have upper := (bounds_of_integer read).2
  refine ensuresUnless_ite.mpr ⟨fun _ => trivial, fun positive => ?_⟩
  have lower : Int64.minValue.toInt ≤ n - 1 := Int.le_trans (by decide) (show 0 ≤ n - 1 by omega)
  refine (ensures_signed lower (by omega)).bind fun m same => ?_
  rw [ensuresUnless_pure]
  omega

theorem lt_of_lastBefore {stops : Value → Bool} {current bound i : Nat} {found : Option Nat}
    (inside : current + values.length ≤ bound) (foundIn : ∀ j ∈ found, j < bound)
    (last : lastBefore stops current found values = some i) : i < bound := by
  fun_induction lastBefore stops current found values with
  | case1 current found => exact foundIn i last
  | case2 current found value values blank ih =>
      exact ih (by rw [List.length_cons] at inside; omega) foundIn last
  | case3 current found value values filled stopped => exact foundIn i last
  | case4 current found value values filled goesOn ih =>
      rw [List.length_cons] at inside
      exact ih (by omega) (by simp; omega) last

/-- What is found is the index of a value. -/
theorem lt_of_find? {approximate : Bool} {i : Nat}
    (found : find? approximate target values = some i) :
    i < values.length := by
  rw [find?] at found
  split at found
  · exact lt_of_lastBefore (by omega) (by simp) found
  · exact (List.findIdx?_eq_some_iff_findIdx_eq.mp found).1

@[simp] theorem ensures_orNotFound {α : Type} {found : Option α} {property : α → Prop} :
    Ensures property (orNotFound found) ↔ ∀ result, found = some result → property result := by
  cases found <;> simp [orNotFound]

/-! ## Bodies -/

/-- The first items of all rows. -/
theorem ensures_heads (rectangle : IsRectangle rows) :
    Ensures (fun keys => keys.length = rows.length) (rows.mapM fun row => orCrash row.head?) :=
  (ensuresUnless_mapM fun _ member => (ensures_orCrash (rectangle.exists_head member)).imp
    fun _ _ => trivial).imp fun _ holds => holds.1

theorem ensures_byColumn {tableArgument columnArgument : Value} {approximate : Option Value}
    (regular : tableArgument.IsRegular) :
    Ensures Value.IsRegular (byColumn target tableArgument columnArgument approximate) := by
  refine ensuresUnless_bind.mpr (ensures_scalar.mpr fun value _ => ?_)
  refine ensuresUnless_bind.mpr (ensures_rowsOf.mpr fun rows read => ?_)
  have rectangle := isRectangle_of_rowsOf regular read
  refine ensures_index.bind fun column _ => ?_
  refine (ensures_optional fun _ => by simp).bind fun byOrder _ => ?_
  refine ensuresUnless_ite.mpr ⟨fun _ => trivial, fun inside => ?_⟩
  refine (ensures_heads rectangle).bind fun keys length => ?_
  refine ensuresUnless_bind.mpr (ensures_orNotFound.mpr fun row found => ?_)
  have there := rectangle.exists_item (length ▸ lt_of_find? found) (Nat.lt_of_not_le inside)
  exact (ensures_orCrash there).imp fun _ => rectangle.isRegular_of_item?

theorem ensures_byRow {tableArgument rowArgument : Value} {approximate : Option Value}
    (regular : tableArgument.IsRegular) :
    Ensures Value.IsRegular (byRow target tableArgument rowArgument approximate) := by
  refine ensuresUnless_bind.mpr (ensures_scalar.mpr fun value _ => ?_)
  refine ensuresUnless_bind.mpr (ensures_rowsOf.mpr fun rows read => ?_)
  have rectangle := isRectangle_of_rowsOf regular read
  refine ensures_index.bind fun row _ => ?_
  refine (ensures_optional fun _ => by simp).bind fun byOrder _ => ?_
  refine ensuresUnless_ite.mpr ⟨fun _ => trivial, fun inside => ?_⟩
  obtain ⟨keys, rest, rfl⟩ := List.exists_cons_of_ne_nil rectangle.nonempty
  refine (ensures_orCrash ⟨keys, rfl⟩).bind fun first same => ?_
  obtain rfl := Option.some.inj same
  refine ensuresUnless_bind.mpr (ensures_orNotFound.mpr fun column found => ?_)
  have there := rectangle.exists_item (Nat.lt_of_not_le inside) (lt_of_find? found)
  exact (ensures_orCrash there).imp fun _ => rectangle.isRegular_of_item?

theorem ensures_vector (rectangle : IsRectangle rows) : Ensures (fun _ => True) (vector rows) := by
  refine ensuresUnless_ite.mpr ⟨fun _ => ?_, fun _ =>
    ensuresUnless_ite.mpr ⟨fun _ => ?_, fun _ => trivial⟩⟩
  · obtain ⟨first, rest, rfl⟩ := List.exists_cons_of_ne_nil rectangle.nonempty
    trivial
  · exact (ensures_heads rectangle).imp fun _ _ => trivial

theorem ensures_matched {vectorArgument : Value} {typeArgument : Option Value}
    (regular : vectorArgument.IsRegular) :
    Ensures Value.IsRegular (matched target vectorArgument typeArgument) := by
  refine ensuresUnless_bind.mpr (ensures_scalar.mpr fun value _ => ?_)
  refine ensuresUnless_bind.mpr (ensures_rowsOf.mpr fun rows read => ?_)
  refine (ensures_optional fun _ => by simp).bind fun kind _ => ?_
  refine (ensures_vector (isRectangle_of_rowsOf regular read)).bind fun values _ => ?_
  exact ensuresUnless_bind.mpr (ensures_orNotFound.mpr fun _ _ => trivial)

theorem ensures_indexInside : Ensures (fun _ => True) (indexInside argument) := by
  rw [indexInside]
  split
  · trivial
  · exact ensures_index.imp fun _ _ => trivial

theorem ensures_indexed {tableArgument first : Value} {second : Option Value}
    (regular : tableArgument.IsRegular) :
    Ensures Value.IsRegular (indexed tableArgument first second) := by
  refine ensuresUnless_bind.mpr (ensures_rowsOf.mpr fun rows read => ?_)
  have rectangle := isRectangle_of_rowsOf regular read
  refine ensures_indexInside.bind fun i _ => ?_
  cases second with
  | none =>
      dsimp only [bind, Except.bind]
      split
      · exact rectangle.isRegular_of_item? ‹_›
      · trivial
  | some argument =>
      refine ensures_indexInside.bind fun j _ => ?_
      dsimp only [bind, Except.bind, pure, Except.pure]
      split
      · exact rectangle.isRegular_of_item? ‹_›
      · trivial

theorem ensures_chosen {which : Value} {values : List Value}
    (regular : ∀ argument ∈ which :: values, argument.IsRegular) :
    Ensures Value.IsRegular (chosen (which :: values)) := by
  rw [chosen]
  refine (ensures_orCrash ⟨which, rfl⟩).bind fun first _ => ?_
  refine ensures_index.bind fun i bounded => ?_
  rw [Int64.toInt_maxValue] at bounded
  have below : i + 1 < UInt64.size := by rw [UInt64.size]; omega
  refine (ensures_successor below).bind fun place _ => ?_
  exact ensures_orWrong.mpr fun value there => regular value (List.mem_of_getElem? there)

theorem isSafe_choose : (Definition.mk "CHOOSE" ⟨2, none⟩ chosen).IsSafe := by
  intro arguments regular accepted
  match arguments with
  | which :: values => exact ensures_chosen regular
  | [] => simp [Arity.accepts] at accepted

theorem isSafe_of_mem : ∀ d ∈ definitions, d.IsSafe := by
  simp only [definitions, List.forall_mem_cons, List.not_mem_nil, false_imp_iff, implies_true,
    and_true]
  exact ⟨isSafe_threeOrFour fun _ _ _ _ _ regular _ _ => ensures_byColumn regular,
    isSafe_threeOrFour fun _ _ _ _ _ regular _ _ => ensures_byRow regular,
    isSafe_twoOrThree fun _ _ _ _ regular _ => ensures_matched regular,
    isSafe_twoOrThree fun _ _ _ regular _ _ => ensures_indexed regular,
    isSafe_choose,
    isSafe_unary fun _ _ => by simp [rowCount],
    isSafe_unary fun _ _ => by simp [columnCount]⟩

end LookUp
end Library
end Spreadsheet
