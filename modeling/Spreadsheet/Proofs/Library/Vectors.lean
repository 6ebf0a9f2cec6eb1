import Mathlib.Order.Bounds.Basic
import Spreadsheet.Proofs.Comparison
import Spreadsheet.Proofs.Library.Calling
import Spreadsheet.Proofs.Library.Outcome

/-!
# Places in sorted vectors

A look-up by order walks along a row or a column, passes over blanks and stops at the first entry
on the wrong side of its target. Where the entries are sorted, every later one lies on the wrong
side too, so that the last entry in front of the stop is the last one of all on the right side.
-/

namespace Spreadsheet

/-- The value is not NaN. -/
def Value.IsProper (v : Value) : Prop := v.comparand.IsProper

theorem Value.comparand_ne_blank {v : Value} (filled : ¬ v.isBlank) : v.comparand ≠ .blank := by
  cases v with
  | table rows => exact nofun
  | single value => exact fun blank => filled (CellValue.isBlank_iff.mpr blank)

namespace Library
namespace LookUp

variable {stops : Value → Bool} {value : Value} {values : List Value} {i : ℕ}

/-! ## Walks -/

/-- The indices of the entries that are neither blank nor stop a walk. -/
def passed (stops : Value → Bool) (values : List Value) : Set ℕ :=
  {i | ∃ value, values[i]? = some value ∧ ¬ value.isBlank ∧ ¬ stops value}

/-- Behind an entry that stops a walk, every entry other than a blank stops it. -/
def StopsForGood (stops : Value → Bool) (values : List Value) : Prop :=
  (values.filter (! ·.isBlank)).Pairwise fun v w => stops v → stops w

theorem zero_mem_passed_cons :
    0 ∈ passed stops (value :: values) ↔ ¬ value.isBlank ∧ ¬ stops value := by
  simp [passed]

theorem succ_mem_passed_cons : i + 1 ∈ passed stops (value :: values) ↔ i ∈ passed stops values :=
  Iff.rfl

theorem passed_cons_eq_empty (first : value.isBlank ∨ stops value)
    (rest : passed stops values = ∅) :
    passed stops (value :: values) = ∅ := by
  refine Set.eq_empty_iff_forall_notMem.mpr fun i member => ?_
  cases i with
  | zero =>
      obtain ⟨filled, goesOn⟩ := zero_mem_passed_cons.mp member
      exact first.elim filled goesOn
  | succ i => exact Set.eq_empty_iff_forall_notMem.mp rest i (succ_mem_passed_cons.mp member)

theorem isGreatest_passed_cons (greatest : IsGreatest (passed stops values) i) :
    IsGreatest (passed stops (value :: values)) (i + 1) := by
  refine ⟨succ_mem_passed_cons.mpr greatest.1, fun j member => ?_⟩
  cases j with
  | zero => exact Nat.zero_le _
  | succ j => exact Nat.succ_le_succ (greatest.2 (succ_mem_passed_cons.mp member))

theorem StopsForGood.tail (good : StopsForGood stops (value :: values)) :
    StopsForGood stops values :=
  List.Pairwise.sublist ((List.sublist_cons_self value values).filter _) good

/-- Nothing is passed behind an entry that stops. -/
theorem StopsForGood.passed_eq_empty (good : StopsForGood stops (value :: values))
    (filled : ¬ value.isBlank) (stopped : stops value) : passed stops values = ∅ := by
  refine Set.eq_empty_iff_forall_notMem.mpr ?_
  rintro i ⟨later, there, laterFilled, goesOn⟩
  rw [StopsForGood, List.filter_cons_of_pos (by simpa using filled)] at good
  refine goesOn ((List.pairwise_cons.mp good).1 later ?_ stopped)
  exact List.mem_filter.mpr ⟨List.mem_of_getElem? there, by simpa using laterFilled⟩

/-- A walk ends at the last entry that can be passed, and where it began if there is none. -/
theorem lastBefore_spec (current : ℕ) (found : Option ℕ) (good : StopsForGood stops values) :
    (∃ i, IsGreatest (passed stops values) i ∧
        lastBefore stops current found values = some (current + i)) ∨
      passed stops values = ∅ ∧ lastBefore stops current found values = found := by
  induction values generalizing current found with
  | nil => exact .inr ⟨by simp [passed], rfl⟩
  | cons value values ih =>
      rw [lastBefore]
      by_cases blank : value.isBlank
      · rw [if_pos blank]
        rcases ih (current + 1) _ good.tail with ⟨i, greatest, last⟩ | ⟨none, last⟩
        · exact .inl ⟨i + 1, isGreatest_passed_cons greatest, by rw [last]; congr 1; omega⟩
        · exact .inr ⟨passed_cons_eq_empty (.inl blank) none, last⟩
      · rw [if_neg blank]
        by_cases stopped : stops value
        · rw [if_pos stopped]
          exact .inr ⟨passed_cons_eq_empty (.inr stopped)
            (good.passed_eq_empty blank stopped), rfl⟩
        · rw [if_neg stopped]
          rcases ih (current + 1) _ good.tail with ⟨i, greatest, last⟩ | ⟨none, last⟩
          · exact .inl ⟨i + 1, isGreatest_passed_cons greatest, by rw [last]; congr 1; omega⟩
          · refine .inl ⟨0, ⟨zero_mem_passed_cons.mpr ⟨blank, stopped⟩, fun j member => ?_⟩, last⟩
            cases j with
            | zero => exact Nat.le_refl 0
            | succ j => exact absurd (succ_mem_passed_cons.mp member) (none ▸ Set.notMem_empty j)

/-! ## Order -/

variable {wrong : Ordering} {target : Value}

/-- None of the entries other than blanks compares in the wrong way with a later one. -/
def IsSorted (wrong : Ordering) (values : List Value) : Prop :=
  (values.filter (! ·.isBlank)).Pairwise fun v w => v.compareTo w ≠ wrong

/-- No entry is greater than a later one, blanks aside. -/
abbrev IsAscending : List Value → Prop := IsSorted .gt

/-- No entry is less than a later one, blanks aside. -/
abbrev IsDescending : List Value → Prop := IsSorted .lt

/-- The indices of the entries other than blanks that do not compare in the wrong way with a
target. -/
def indicesNot (wrong : Ordering) (target : Value) (values : List Value) : Set ℕ :=
  {i | ∃ value, values[i]? = some value ∧ ¬ value.isBlank ∧ value.compareTo target ≠ wrong}

theorem passed_eq_indicesNot :
    passed (·.compareTo target == wrong) values = indicesNot wrong target values := by
  simp [passed, indicesNot]

/-- In sorted values, a walk that stops would stop at every later entry. -/
theorem IsSorted.stopsForGood (sorted : IsSorted wrong values) (strict : wrong ≠ .eq)
    (proper : ∀ value ∈ values, value.IsProper) (targetProper : target.IsProper)
    (targetFilled : ¬ target.isBlank) : StopsForGood (·.compareTo target == wrong) values := by
  refine List.Pairwise.imp_of_mem (fun {v w} vIn wIn inOrder stopped => ?_) sorted
  obtain ⟨vIn, vFilled⟩ := List.mem_filter.mp vIn
  obtain ⟨wIn, wFilled⟩ := List.mem_filter.mp wIn
  rw [Bool.not_eq_true', ← Bool.not_eq_true] at vFilled wFilled
  rw [beq_iff_eq] at stopped ⊢
  by_contra goesOn
  exact CellValue.compareTo_ne_trans (proper v vIn) (proper w wIn) targetProper
    (Value.comparand_ne_blank vFilled) (Value.comparand_ne_blank wFilled)
    (Value.comparand_ne_blank targetFilled) strict inOrder goesOn stopped

/-! ## Places -/

/-- The place of an index, counted from one, as the result of a call. -/
def placeOf : Option ℕ → Value
  | some i => .count (i + 1)
  | none => .error .notAvailable

/-- A call reports the last of some indices: it ends in the place of the greatest, and in the error
for what is not found exactly if there is none. -/
structure ReportsLast (indices : Set ℕ) (result : Value) : Prop where
  /-- The greatest index is reported. -/
  greatest : indices.Nonempty → ∃ i, IsGreatest indices i ∧ result = .count (i + 1)
  /-- Nothing is found only if there is nothing. -/
  notFound : result = .error .notAvailable ↔ indices = ∅

/-- In sorted values, a walk reports the last entry on the right side of its target. -/
theorem IsSorted.reportsLast (sorted : IsSorted wrong values) (strict : wrong ≠ .eq)
    (proper : ∀ value ∈ values, value.IsProper) (targetProper : target.IsProper)
    (targetFilled : ¬ target.isBlank) :
    ReportsLast (indicesNot wrong target values)
      (placeOf (lastBefore (·.compareTo target == wrong) 0 none values)) := by
  have good := sorted.stopsForGood strict proper targetProper targetFilled
  rw [← passed_eq_indicesNot]
  rcases lastBefore_spec 0 none good with ⟨i, greatest, last⟩ | ⟨empty, last⟩
  · rw [last, Nat.zero_add]
    refine ⟨fun _ => ⟨i, greatest, rfl⟩, fun reported => absurd reported (number_ne_error _ _),
      fun empty => ?_⟩
    exact absurd greatest.1 (empty ▸ Set.notMem_empty i)
  · rw [last, empty]
    exact ⟨fun nonempty => absurd nonempty Set.not_nonempty_empty, fun _ => rfl, fun _ => rfl⟩

/-! ## Vectors -/

/-- The argument is a single row or a single column of values, or one value, which is both. -/
inductive IsVector : Value → List Value → Prop where
  | row (values : List Value) : IsVector (.table [values]) values
  | column (values : List Value) : IsVector (.table (values.map fun value => [value])) values
  | single {value : CellValue} (noError : ∀ code, value ≠ .error code) :
      IsVector (.single value) [.single value]

variable {argument targetArgument vectorArgument : Value} {typeArgument : Option Value} {kind : ℤ}
  {now : Moment}

theorem scalar_of_ne_error (noError : ∀ code, argument.scalar ≠ .error code) :
    scalar argument = .ok argument.scalar := by
  rw [scalar]
  split
  · exact absurd ‹_› (noError _)
  · rfl

theorem IsVector.exists_rows (isVector : IsVector argument values) :
    ∃ rows, rowsOf argument = .ok rows ∧ vector rows = .ok values := by
  cases isVector with
  | row => exact ⟨[values], rfl, rfl⟩
  | column =>
      refine ⟨_, rfl, ?_⟩
      rw [vector]
      split
      · rename_i alone
        rw [List.length_map] at alone
        obtain ⟨value, rfl⟩ := List.length_eq_one_iff.mp alone
        rfl
      · rw [if_pos (by simp), mapM_orCrash (by simp), List.filterMap_map]
        exact congrArg Except.ok List.filterMap_some
  | @single value noError =>
      cases value with
      | error code => exact absurd rfl (noError code)
      | _ => exact ⟨_, rfl, rfl⟩

/-- The index that a look-up in a vector finds, by its type. -/
def searched (kind : ℤ) (target : Value) (values : List Value) : Option ℕ :=
  if kind = 0 then exactIndex? target values
  else if 0 < kind then lastNotGreater? target values
  else lastNotLess? target values

theorem find?_match : (standard now).find? "MATCH" = some (.twoOrThree "MATCH" matched) := by
  with_unfolding_all rfl

/-- A look-up in a vector ends in the place of what it finds. -/
theorem call_match (isVector : IsVector vectorArgument values)
    (noError : ∀ code, targetArgument.scalar ≠ .error code)
    (read : optional integer 1 typeArgument = .ok kind) :
    (standard now).call "MATCH" (targetArgument :: vectorArgument :: typeArgument.toList) =
      placeOf (searched kind (.single targetArgument.scalar) values) := by
  obtain ⟨rows, readRows, isRow⟩ := isVector.exists_rows
  rw [call_twoOrThree find?_match, matched, scalar_of_ne_error noError, readRows, read]
  dsimp only [bind, Except.bind]
  rw [isRow]
  dsimp only
  rw [← searched]
  cases searched kind (.single targetArgument.scalar) values <;> rfl

/-- Look-ups by order in a sorted row or column report the last entry that is not greater than the
target if the entries ascend, and the last one that is not less if they descend. Blanks may stand
anywhere. -/
theorem match_in_sorted_vector (now : Moment) (targetArgument : Value)
    (typeArgument : Option Value) (isVector : IsVector vectorArgument values)
    (proper : ∀ value ∈ values, value.IsProper) (targetOrdered : targetArgument.scalar.IsOrdered)
    (targetFilled : targetArgument.scalar ≠ .blank)
    (read : optional integer 1 typeArgument = .ok kind) :
    (0 < kind → IsAscending values →
        ReportsLast (indicesNot .gt (.single targetArgument.scalar) values)
          ((standard now).call "MATCH"
            (targetArgument :: vectorArgument :: typeArgument.toList))) ∧
      (kind < 0 → IsDescending values →
        ReportsLast (indicesNot .lt (.single targetArgument.scalar) values)
          ((standard now).call "MATCH"
            (targetArgument :: vectorArgument :: typeArgument.toList))) := by
  rw [call_match isVector targetOrdered.ne_error read, searched]
  have filled : ¬ (Value.single targetArgument.scalar).isBlank :=
    fun blank => targetFilled (CellValue.isBlank_iff.mp blank)
  refine ⟨fun positive ascending => ?_, fun negative descending => ?_⟩
  · rw [if_neg positive.ne', if_pos positive]
    exact ascending.reportsLast (by decide) proper targetOrdered.isProper filled
  · rw [if_neg negative.ne, if_neg negative.not_gt]
    exact descending.reportsLast (by decide) proper targetOrdered.isProper filled

/-- In a column of mixed kinds the last of two texts that differ in case only is reported, past a
blank. In a descending row nothing is found for a text that comes behind all entries. -/
theorem match_in_sorted_vector_of_mixed_kinds :
    let library := standard ⟨⟨2000, 1, 1⟩, 0⟩
    let column : List Value :=
      [.single .blank, .number 1.5, .text "b", .single .blank, .text "B", .boolean true]
    let row : List Value := [.text "b", .single .blank, .number 1.5]
    (∀ value ∈ column ++ row, value.IsProper) ∧ IsAscending column ∧ IsDescending row ∧
      optional integer 1 none = .ok 1 ∧ optional integer 1 (some (.number (-1.0))) = .ok (-1) ∧
      library.call "MATCH" [.text "b", .table (column.map fun value => [value])] = .count 5 ∧
      library.call "MATCH" [.text "c", .table [row], .number (-1.0)] = .error .notAvailable := by
  intro library column row
  have proper : ∀ value ∈ column ++ row, value.IsProper := by
    have notNaN : (Value.number 1.5).IsProper := show ¬ (1.5 : Float).isNaN by decide
    simp only [column, row, List.cons_append, List.nil_append, List.forall_mem_cons]
    exact ⟨trivial, notNaN, trivial, trivial, trivial, trivial, trivial, trivial, notNaN, nofun⟩
  have ascending : IsAscending column := by
    change List.Pairwise _ [_, _, _, _]
    decide
  have descending : IsDescending row := by
    change List.Pairwise _ [_, _]
    decide
  have last : IsGreatest (indicesNot .gt (.text "b") column) 4 := by
    refine ⟨⟨.text "B", rfl, by decide, by decide⟩, ?_⟩
    rintro i ⟨value, there, -, side⟩
    have inside : i < 6 := (List.getElem?_eq_some_iff.mp there).1
    by_contra above
    obtain rfl : i = 5 := by omega
    obtain rfl := Option.some.inj there
    exact side (by decide)
  have absent : indicesNot .lt (.text "c") row = ∅ := by
    refine Set.eq_empty_iff_forall_notMem.mpr ?_
    rintro i ⟨value, there, filled, side⟩
    have member := List.mem_of_getElem? there
    simp only [row, List.mem_cons, List.not_mem_nil, or_false] at member
    rcases member with rfl | rfl | rfl
    · exact side (by decide)
    · exact filled rfl
    · exact side (by decide)
  have found := (match_in_sorted_vector ⟨⟨2000, 1, 1⟩, 0⟩ (.text "b") none (.column column)
    (fun value member => proper value (List.mem_append_left row member)) trivial nofun rfl).1
    (by decide) ascending
  have missed :=
    (match_in_sorted_vector ⟨⟨2000, 1, 1⟩, 0⟩ (.text "c") (some (.number (-1.0))) (.row row)
      (fun value member => proper value (List.mem_append_right column member)) trivial nofun rfl).2
    (by decide) descending
  obtain ⟨i, greatest, reported⟩ := found.greatest ⟨4, last.1⟩
  obtain rfl := greatest.unique last
  exact ⟨proper, ascending, descending, rfl, rfl, reported, missed.notFound.mpr absent⟩

end LookUp
end Library
end Spreadsheet
