import Spreadsheet.Evaluation
import Spreadsheet.Proofs.Formula.ReferenceShift
import Spreadsheet.Proofs.Library.Ranking
import Spreadsheet.Proofs.Library.Slicing
import Spreadsheet.Proofs.Library.Tables

/-!
# Evaluation with the built-in functions

Every part of a formula has a regular value: the ranges that a formula can name have their corners
in order, so that a range is a table with at least one item, operators give single values, and
functions that are given regular values give regular ones. So no built-in function meets arguments
that it has no rule for; what is left of crashes is the order of many numbers with NaN among them.
-/

namespace Spreadsheet

open Formula

variable {s : Surroundings}

/-! ## Built-in functions -/

namespace Library

/-- The built-in functions are safe, unless they put disorderly numbers in order. -/
theorem isSafeUnless_of_mem_standard (now : Moment) :
    ∀ d ∈ (standard now).definitions, d.IsSafeUnless (Statistics.MeetsDisorder d.name) := by
  have lift {definitions : List Definition} (safe : ∀ d ∈ definitions, d.IsSafe) :
      ∀ d ∈ definitions, d.IsSafeUnless (Statistics.MeetsDisorder d.name) :=
    fun d member => (safe d member).unless _
  simp only [standard, List.forall_mem_append]
  exact ⟨⟨⟨⟨⟨⟨⟨⟨⟨lift Arithmetic.isSafe_of_mem, lift Rounding.isSafe_of_mem⟩,
    lift Logic.isSafe_of_mem⟩, lift Inspection.isSafe_of_mem⟩, lift Texts.isSafe_of_mem⟩,
    lift LookUp.isSafe_of_mem⟩,
    lift Counting.isSafe_of_mem⟩, Statistics.isSafeUnless_of_mem⟩, lift Criteria.isSafe_of_mem⟩,
    lift (Dates.isSafe_of_mem now)⟩

variable {arguments : List Value}

theorem Definition.isRegular_call {d : Definition} {exception : List Value → Prop}
    (safe : d.IsSafeUnless exception) (regular : ∀ argument ∈ arguments, argument.IsRegular) :
    (d.call arguments).IsRegular := by
  rw [call]
  split
  · rename_i accepted
    have ensured := safe regular accepted
    split
    · rename_i result ended
      rwa [ended] at ensured
    all_goals trivial
  · trivial

theorem mem_of_find? {l : Library} {name : String} {d : Definition}
    (found : l.find? name = some d) :
    d ∈ l.definitions := by
  rw [find?] at found
  exact List.mem_of_find?_eq_some found

/-- A built-in function, known or not, makes a regular value of regular ones. -/
theorem isRegular_call_standard (now : Moment) (name : String)
    (regular : ∀ argument ∈ arguments, argument.IsRegular) :
    ((standard now).call name arguments).IsRegular := by
  rw [call]
  cases found : (standard now).find? name with
  | none => trivial
  | some d =>
      exact d.isRegular_call (isSafeUnless_of_mem_standard now d (mem_of_find? found)) regular

end Library

/-! ## Ranges and operators -/

theorem isRectangle_map {α β : Type} {xs : List α} {ys : List β} (f : α → β → CellValue)
    (xs_ne : xs ≠ []) (ys_ne : ys ≠ []) :
    IsRectangle (xs.map fun x => ys.map fun y => .single (f x y)) where
  nonempty := fun none => xs_ne (List.map_eq_nil_iff.mp none)
  exists_width := ⟨ys.length, List.length_pos_iff.mpr ys_ne, by simp⟩
  single := by simp

/-- The values of a range with its corners in order form a rectangle. -/
theorem Range.isRegular_value {r : Range} (ordered : r.Ordered) : (r.value s).IsRegular := by
  obtain ⟨columnsLe, rowsLe⟩ := ordered
  rw [UInt32.le_iff_toNat_le] at columnsLe rowsLe
  have rows_ne : r.rows ≠ [] := by simp [rows, height]; omega
  have columns_ne : r.columns ≠ [] := by simp [columns, width]; omega
  rw [value]
  split
  · trivial
  · rw [valueRows, positionRows, List.map_map, List.map_map]
    simp only [Function.comp_def, List.map_map]
    exact isRectangle_map (fun row col => s.valueAt ⟨col, row⟩) rows_ne columns_ne

namespace Formula

theorem Arithmetic.isRegular_result (operation : Arithmetic) (x y : Float) :
    (operation.result x y).IsRegular := by
  rw [result]
  split
  · trivial
  · split <;> trivial

theorem Operator.isRegular_value (operator : Operator) (left right : Value) :
    (operator.value left right).IsRegular := by
  fun_cases value operator left right with
  | case3 v w _ _ =>
      cases operator with
      | compare comparison => trivial
      | concat => trivial
      | arithmetic operation => exact operation.isRegular_result _ _
  | _ => trivial

theorem Sign.isRegular_value (sign : Sign) (operand : Value) : (sign.value operand).IsRegular := by
  fun_cases value sign operand <;> trivial

end Formula

/-! ## Expressions -/

namespace Expr

/-- An expression is another one or lies inside of it. -/
inductive IsPartOf : Expr → Expr → Prop where
  | whole {e} : IsPartOf e e
  | operand {part sign operand} : IsPartOf part operand → IsPartOf part (unary sign operand)
  | left {part operator left right} : IsPartOf part left →
      IsPartOf part (binary operator left right)
  | right {part operator left right} : IsPartOf part right →
      IsPartOf part (binary operator left right)
  | argument {part name arguments argument} : argument ∈ arguments → IsPartOf part argument →
      IsPartOf part (call name arguments)

variable {e part : Expr} {es : List Expr}

theorem references_subset_referencesOfAll (member : e ∈ es) :
    e.references ⊆ referencesOfAll es := by
  induction es with
  | nil => contradiction
  | cons first rest ih =>
      rw [referencesOfAll]
      rcases List.mem_cons.mp member with rfl | member
      · exact List.subset_append_left _ _
      · exact List.subset_append_of_subset_right _ (ih member)

/-- A part has no other references than the whole. -/
theorem IsPartOf.references_subset (isPart : part.IsPartOf e) :
    part.references ⊆ e.references := by
  induction isPart with
  | whole => exact List.Subset.refl _
  | operand _ ih => exact ih
  | left _ ih => exact List.subset_append_of_subset_left _ ih
  | right _ ih => exact List.subset_append_of_subset_right _ ih
  | argument member _ ih => exact List.Subset.trans ih (references_subset_referencesOfAll member)

@[simp] theorem length_values (es : List Expr) : (values s es).length = es.length := by
  induction es with
  | nil => rfl
  | cons first rest ih => exact congrArg Nat.succ ih

mutual

/-- With the built-in functions, an expression whose ranges are in order has a regular value. -/
theorem isRegular_value {now : Moment} (builtIn : s.library = .standard now) :
    ∀ e : Expr, (∀ reference ∈ e.references, reference.Proper) → (e.value s).IsRegular
  | literal v, _ => by cases v <;> trivial
  | cell _, _ => trivial
  | range r, proper => r.isRegular_value (proper (.range r) List.mem_cons_self).ordered
  | unary sign _, _ => sign.isRegular_value _
  | binary operator _ _, _ => operator.isRegular_value _ _
  | call name arguments, proper => by
      rw [value, builtIn]
      exact Library.isRegular_call_standard now name (isRegular_values builtIn arguments proper)

theorem isRegular_values {now : Moment} (builtIn : s.library = .standard now) :
    ∀ es : List Expr, (∀ reference ∈ referencesOfAll es, reference.Proper) →
      ∀ v ∈ values s es, v.IsRegular
  | [], _ => by simp [values]
  | first :: rest, proper => by
      rw [referencesOfAll, List.forall_mem_append] at proper
      rw [values, List.forall_mem_cons]
      exact ⟨isRegular_value builtIn first proper.1, isRegular_values builtIn rest proper.2⟩

end

end Expr

namespace Formula

variable {text : String} {e : Expr} {now : Moment}

open Library.Statistics in
/-- Whatever the cells hold and however large ranges may be, every part of a formula has a regular
value. A built-in function that is given regular values, as many as it takes, crashes only in
putting disorderly numbers in order, and so does a call in the formula. -/
theorem crashes_only_on_disorder (parsed : parse text = .ok e)
    (builtIn : s.library = .standard now) :
    (∀ part : Expr, part.IsPartOf e → (part.value s).IsRegular) ∧
      (∀ d ∈ s.library.definitions, ∀ arguments, (∀ argument ∈ arguments, argument.IsRegular) →
        d.arity.accepts arguments.length → d.body arguments = .error .crash →
          MeetsDisorder d.name arguments) ∧
      ∀ name operands d, (Expr.call name operands).IsPartOf e → s.library.find? name = some d →
        d.arity.accepts operands.length → d.body (Expr.values s operands) = .error .crash →
          MeetsDisorder d.name (Expr.values s operands) := by
  have proper := (parse_eq_ok_iff_means.mp parsed).2.proper
  have crashes (d : Library.Definition) (member : d ∈ s.library.definitions)
      (arguments : List Value) (regular : ∀ argument ∈ arguments, argument.IsRegular)
      (accepted : d.arity.accepts arguments.length)
      (crashed : d.body arguments = .error .crash) : MeetsDisorder d.name arguments := by
    rw [builtIn] at member
    have ensured := Library.isSafeUnless_of_mem_standard now d member regular accepted
    rwa [crashed] at ensured
  refine ⟨fun part isPart => ?_, crashes, fun name operands d isPart found accepted => ?_⟩
  · exact Expr.isRegular_value builtIn part fun reference member =>
      proper reference (isPart.references_subset member)
  · refine crashes d (Library.mem_of_find? found) _ (Expr.isRegular_values builtIn operands ?_) ?_
    · exact fun reference member => proper reference (isPart.references_subset member)
    · rwa [Expr.length_values]

/-- In a grid of threes, the table of a look-up is a rectangle, and the look-up does not crash. -/
theorem lookUp_among_threes_ne_crash :
    let s : Surroundings := ⟨fun _ => .number 3, .standard ⟨⟨2000, 1, 1⟩, 0⟩, 4⟩
    let table := (Expr.range ⟨⟨0, 0, false, false⟩, ⟨1, 1, false, false⟩⟩).value s
    table.IsRegular ∧
      Library.LookUp.byColumn (.number 3) table (.number 2) none ≠ .error .crash := by
  intro s table
  have parsed : parse "=VLOOKUP(3,B2:A1,2)" = .ok (.call "VLOOKUP" [.literal (.number 3),
      .range ⟨⟨0, 0, false, false⟩, ⟨1, 1, false, false⟩⟩, .literal (.number 2)]) := by
    with_unfolding_all rfl
  obtain ⟨regular, crashes, -⟩ := crashes_only_on_disorder (s := s) parsed rfl
  have tableRegular : table.IsRegular := regular _ (.argument (by simp) .whole)
  refine ⟨tableRegular, fun crashed => ?_⟩
  have disorder := crashes (.threeOrFour "VLOOKUP" Library.LookUp.byColumn)
    (by simp [s, Library.standard, Library.LookUp.definitions]) [.number 3, table, .number 2]
    (by simp [tableRegular]) (by decide) crashed
  simp [Library.Statistics.MeetsDisorder, Library.Definition.threeOrFour] at disorder

/-- The comparison by which numbers are put in order is not an order if NaN is among them: a median
of 21 numbers can crash. -/
theorem not_forall_call_ne_crash :
    ¬ ∀ (s : Surroundings) (now : Moment) (text : String) (e : Expr), s.library = .standard now →
      parse text = .ok e → ∀ name operands d, (Expr.call name operands).IsPartOf e →
        s.library.find? name = some d → d.arity.accepts operands.length →
          d.body (Expr.values s operands) ≠ .error .crash := by
  intro safe
  -- NaN stays the last of the first four numbers, and the merge with the next four takes 2 and 3
  -- from both ends.
  let s : Surroundings := ⟨fun _ => .number (0.0 / 0.0), .standard ⟨⟨2000, 1, 1⟩, 0⟩, 0⟩
  let operands : List Expr := ([11, 1, 12].map fun x => .literal (.number x)) ++
    .cell ⟨0, 0, false, false⟩ ::
      ([2, 13, 3, 14, 4, 15, 5, 16, 6, 17, 7, 18, 8, 19, 9, 20, 10].map fun x =>
        .literal (.number x))
  have parsed : parse "=MEDIAN(11,1,12,A1,2,13,3,14,4,15,5,16,6,17,7,18,8,19,9,20,10)" =
      .ok (.call "MEDIAN" operands) := by
    with_unfolding_all rfl
  have found : s.library.find? "MEDIAN" = some (.variadic "MEDIAN" Library.Statistics.median) := by
    with_unfolding_all rfl
  refine safe s _ _ _ rfl parsed "MEDIAN" operands _ .whole found (by decide) ?_
  decide +kernel

end Formula
end Spreadsheet
