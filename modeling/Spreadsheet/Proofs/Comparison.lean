import Mathlib.Order.Compare
import Spreadsheet.Evaluation
import Spreadsheet.Proofs.Double.Order

/-!
# The order of values

Values that are neither errors nor NaN are compared by keys: first by their kinds, and within a
kind as numbers, as texts in lowercase or as truth values. A blank is compared as a value of the
other side's kind, so the blank does not fit into one order with all other values, but any two
values are compared in one way. The comparison operators agree with each other for this reason.
-/

namespace Spreadsheet
namespace CellValue

/-- The value is neither an error nor NaN. -/
def IsOrdered : CellValue → Prop
  | number x => ¬ x.isNaN
  | error _ => False
  | _ => True

/-- The value is not NaN. -/
def IsProper : CellValue → Prop
  | number x => ¬ x.isNaN
  | _ => True

theorem IsOrdered.isProper {v : CellValue} (ordered : v.IsOrdered) : v.IsProper := by
  cases v with
  | number x => exact ordered
  | _ => trivial

/-! ## Keys -/

/-- What numbers are compared by. -/
def numberKey : CellValue → ℤ ×ₗ ℤ ×ₗ ℤ
  | number x => Double.key x
  | _ => toLex (0, toLex (0, 0))

/-- What texts are compared by. -/
def textKey : CellValue → List Char
  | text s => Text.lowerList s.toList
  | _ => []

/-- What truth values are compared by. -/
def truthKey : CellValue → Bool
  | boolean b => b
  | _ => false

/-- Compares two values by their kinds and then by what values of their kind are compared by. -/
def compareKeys : CellValue → CellValue → Ordering :=
  compareLex (compareOn rank) <| compareLex (compareOn numberKey) <|
    compareLex (compareOn textKey) (compareOn truthKey)

instance : Std.TransCmp compareKeys :=
  inferInstanceAs (Std.TransCmp (compareLex (compareOn rank) (compareLex (compareOn numberKey)
    (compareLex (compareOn textKey) (compareOn truthKey)))))

variable {u v w : CellValue} {x y : Float}

theorem compareKeys_eq : compareKeys v w = (compare v.rank w.rank).then
    ((compare v.numberKey w.numberKey).then
      ((compare v.textKey w.textKey).then (compare v.truthKey w.truthKey))) := rfl

theorem compareKeys_of_rank_ne (other : v.rank ≠ w.rank) :
    compareKeys v w = compare v.rank w.rank := by
  rw [compareKeys_eq]
  cases ranks : compare v.rank w.rank with
  | eq => exact absurd (compare_eq_iff_eq.mp ranks) other
  | lt | gt => rfl

/-- Doubles other than NaN are compared as their keys are. -/
theorem compareNumbers_eq (properX : ¬ x.isNaN) (properY : ¬ y.isNaN) :
    compareNumbers x y = compare (Double.key x) (Double.key y) := by
  rw [compareNumbers]
  simp only [Double.lt_iff_key_lt properX properY, Double.lt_iff_key_lt properY properX]
  rcases lt_trichotomy (Double.key x) (Double.key y) with less | same | greater
  · rw [if_pos less, compare_lt_iff_lt.mpr less]
  · rw [same, if_neg (lt_irrefl _), if_neg (lt_irrefl _), compare_eq_iff_eq.mpr rfl]
  · rw [if_neg greater.not_gt, if_pos greater, compare_gt_iff_gt.mpr greater]

theorem compareFilled_of_rank_ne (other : v.rank ≠ w.rank) :
    compareFilled v w = compare v.rank w.rank := by
  cases v <;> cases w <;> first | rfl | exact absurd rfl other

/-- Values other than blanks are compared by their keys. -/
theorem compareFilled_eq (proper_left : v.IsProper) (proper_right : w.IsProper)
    (filled : v ≠ blank) : compareFilled v w = compareKeys v w := by
  by_cases same : v.rank = w.rank
  · cases v with
    | blank => contradiction
    | error code =>
        cases w with
        | blank | error => rfl
        | _ => simp [rank] at same
    | number x =>
        cases w with
        | number y =>
            simp [compareFilled, compareNumbers_eq proper_left proper_right, compareKeys_eq, rank,
              numberKey, textKey, truthKey]
        | _ => simp [rank] at same
    | text s =>
        cases w with
        | text t => simp [compareFilled, compareKeys_eq, rank, numberKey, textKey, truthKey]
        | _ => simp [rank] at same
    | boolean b =>
        cases w with
        | boolean c => simp [compareFilled, compareKeys_eq, rank, numberKey, textKey, truthKey]
        | _ => simp [rank] at same
  · rw [compareFilled_of_rank_ne same, compareKeys_of_rank_ne same]

theorem rank_lt_three (ordered : v.IsOrdered) (filled : v ≠ blank) : v.rank < 3 := by
  cases v with
  | blank | error => contradiction
  | number | text | boolean => simp [rank]

theorem IsOrdered.ne_error (ordered : v.IsOrdered) (code : ErrorCode) : v ≠ error code := by
  rintro rfl
  exact ordered

/-! ## Blanks -/

theorem isBlank_iff : v.isBlank ↔ v = blank := by
  cases v <;> simp [isBlank]

/-- No blank is left when a value is compared. -/
theorem filledLike_ne_blank : v.filledLike w ≠ blank := by
  cases v with
  | blank => cases w <;> simp [filledLike]
  | _ => simp [filledLike]

theorem filledLike_of_ne_blank (filled : v ≠ blank) : v.filledLike w = v := by
  cases v with
  | blank => contradiction
  | _ => rfl

theorem isOrdered_filledLike (ordered : v.IsOrdered) : (v.filledLike w).IsOrdered := by
  have zero : ¬ (0.0 : Float).isNaN := by decide
  cases v with
  | blank =>
      cases w with
      | text | boolean => trivial
      | _ => exact zero
  | _ => exact ordered

/-- It does not matter which side is filled first. -/
theorem filledLike_filledLike : w.filledLike (v.filledLike w) = w.filledLike v := by
  cases v <;> cases w <;> rfl

/-! ## Comparing -/

/-- Two values are compared by the keys of what they are filled with. -/
theorem compareTo_eq (ordered_left : v.IsOrdered) (ordered_right : w.IsOrdered) :
    v.compareTo w = compareKeys (v.filledLike w) (w.filledLike v) := by
  rw [compareTo, filledLike_filledLike,
    compareFilled_eq (isOrdered_filledLike ordered_left).isProper
    (isOrdered_filledLike ordered_right).isProper filledLike_ne_blank]

/-- Values other than blanks are compared by their own keys, errors included. -/
theorem compareTo_eq_of_ne_blank (proper_left : v.IsProper) (proper_right : w.IsProper)
    (filled_left : v ≠ blank) (filled_right : w ≠ blank) : v.compareTo w = compareKeys v w := by
  rw [compareTo, filledLike_of_ne_blank filled_left, filledLike_of_ne_blank filled_right,
    compareFilled_eq proper_left proper_right filled_left]

theorem compareTo_swap (ordered_left : v.IsOrdered) (ordered_right : w.IsOrdered) :
    v.compareTo w = (w.compareTo v).swap := by
  rw [compareTo_eq ordered_left ordered_right, compareTo_eq ordered_right ordered_left]
  exact Std.OrientedCmp.eq_swap

/-- Equality is what the order leaves open. -/
theorem equalTo_iff (ordered_left : v.IsOrdered) (ordered_right : w.IsOrdered) :
    v.equalTo w ↔ v.compareTo w = .eq := by
  have small : (v.filledLike w).rank < 3 :=
    rank_lt_three (isOrdered_filledLike ordered_left) filledLike_ne_blank
  have same_rank (equal : v.compareTo w = .eq) :
      (v.filledLike w).rank = (w.filledLike v).rank := by
    rw [compareTo_eq ordered_left ordered_right, compareKeys_eq, Ordering.then_eq_eq] at equal
    exact compare_eq_iff_eq.mp equal.1
  simp only [equalTo, Bool.and_eq_true, beq_iff_eq, decide_eq_true_eq]
  exact ⟨fun equal => equal.2, fun equal => ⟨⟨same_rank equal, small⟩, equal⟩⟩

/-- Values other than blanks are in one order, whichever side it is read from. -/
theorem compareTo_ne_trans {side : Ordering} (proper_first : u.IsProper)
    (proper_second : v.IsProper) (proper_third : w.IsProper) (filled_first : u ≠ blank)
    (filled_second : v ≠ blank)
    (filled_third : w ≠ blank) (strict : side ≠ .eq) (first : u.compareTo v ≠ side)
    (second : v.compareTo w ≠ side) : u.compareTo w ≠ side := by
  rw [compareTo_eq_of_ne_blank proper_first proper_second filled_first filled_second] at first
  rw [compareTo_eq_of_ne_blank proper_second proper_third filled_second filled_third] at second
  rw [compareTo_eq_of_ne_blank proper_first proper_third filled_first filled_third]
  cases side with
  | eq => contradiction
  | gt =>
      rw [ne_eq, Ordering.ne_gt_iff_isLE] at first second ⊢
      exact Std.TransCmp.isLE_trans first second
  | lt =>
      rw [ne_eq, Ordering.ne_lt_iff_isGE] at first second ⊢
      exact Std.TransCmp.isGE_trans first second

/-- Values other than blanks are in order. -/
theorem compareTo_isLE_trans (ordered_first : u.IsOrdered) (ordered_second : v.IsOrdered)
    (ordered_third : w.IsOrdered) (filled_first : u ≠ blank) (filled_second : v ≠ blank)
    (filled_third : w ≠ blank) (first : (u.compareTo v).isLE) (second : (v.compareTo w).isLE) :
    (u.compareTo w).isLE := by
  rw [← Ordering.ne_gt_iff_isLE] at first second ⊢
  exact compareTo_ne_trans ordered_first.isProper ordered_second.isProper ordered_third.isProper
    filled_first filled_second filled_third (by decide) first second

theorem compareTo_of_rank_lt (filled_left : v ≠ blank) (filled_right : w ≠ blank)
    (before : v.rank < w.rank) : v.compareTo w = .lt := by
  rw [compareTo, filledLike_of_ne_blank filled_left, filledLike_of_ne_blank filled_right,
    compareFilled_of_rank_ne before.ne, compare_lt_iff_lt.mpr before]

end CellValue

/-! ## The comparison operators -/

namespace Formula

open CellValue

variable {u v w : CellValue} {comparison : Comparison}

/-- The comparison of two single values evaluates to `TRUE`. -/
def Comparison.IsTrue (comparison : Comparison) (v w : CellValue) : Prop :=
  (Operator.compare comparison).value (.single v) (.single w) = .boolean true

/-- A comparison of values that are no errors has a truth value. -/
theorem value_compare (no_error_left : ∀ code, v ≠ .error code)
    (no_error_right : ∀ code, w ≠ .error code) :
    (Operator.compare comparison).value (.single v) (.single w) =
      .boolean (comparison.holds v w) := by
  cases v with
  | error code => exact absurd rfl (no_error_left code)
  | _ =>
    cases w with
    | error code => exact absurd rfl (no_error_right code)
    | _ => rfl

theorem isTrue_iff (ordered_left : v.IsOrdered) (ordered_right : w.IsOrdered) :
    comparison.IsTrue v w ↔ comparison.holds v w := by
  rw [Comparison.IsTrue, value_compare ordered_left.ne_error ordered_right.ne_error]
  simp [Value.boolean]

/-- What each operator says of the order. -/
theorem isTrue_iff_compareTo (ordered_left : v.IsOrdered) (ordered_right : w.IsOrdered) :
    comparison.IsTrue v w ↔ match comparison with
      | .equal => v.compareTo w = .eq
      | .notEqual => v.compareTo w ≠ .eq
      | .less => v.compareTo w = .lt
      | .greater => v.compareTo w = .gt
      | .lessEqual => v.compareTo w ≠ .gt
      | .greaterEqual => v.compareTo w ≠ .lt := by
  rw [isTrue_iff ordered_left ordered_right]
  cases comparison with
  | equal => exact equalTo_iff ordered_left ordered_right
  | notEqual =>
      simp only [Comparison.holds, ← equalTo_iff ordered_left ordered_right, Bool.not_eq_true',
        ne_eq, Bool.not_eq_true]
  | less | greater => exact beq_iff_eq
  | lessEqual | greaterEqual => exact bne_iff_ne

/-- Two values are related in exactly one of three ways. -/
theorem existsUnique_isTrue (ordered_left : v.IsOrdered) (ordered_right : w.IsOrdered) :
    ∃! comparison : Comparison,
      comparison ∈ [.less, .equal, .greater] ∧ comparison.IsTrue v w := by
  simp only [isTrue_iff_compareTo ordered_left ordered_right]
  cases v.compareTo w with
  | lt => exact ⟨.less, by simp, by rintro (_ | _) <;> simp⟩
  | eq => exact ⟨.equal, by simp, by rintro (_ | _) <;> simp⟩
  | gt => exact ⟨.greater, by simp, by rintro (_ | _) <;> simp⟩

/-- A value of an earlier kind is less, NaN included. -/
theorem isTrue_less_of_rank_lt (before : v.rank < w.rank) (known : w.rank < 3)
    (filled_left : v ≠ .blank) (filled_right : w ≠ .blank) : Comparison.less.IsTrue v w := by
  have no_error {u : CellValue} (small : u.rank < 3) (code : ErrorCode) : u ≠ .error code := by
    rintro rfl
    exact Nat.lt_irrefl 3 small
  rw [Comparison.IsTrue, value_compare (no_error (before.trans known)) (no_error known),
    Comparison.holds, compareTo_of_rank_lt filled_left filled_right before]
  rfl

/-- The comparison operators agree with each other. Two values that are neither errors nor NaN are
related in exactly one of three ways, the other operators are negations of these, and the order can
be read from either side. Values other than blanks are in one order, numbers before texts and texts
before truth values. -/
theorem comparisons_coherent (ordered_first : u.IsOrdered) (ordered_second : v.IsOrdered)
    (ordered_third : w.IsOrdered) :
    ((∀ comparison, ∃ b,
        (Operator.compare comparison).value (.single u) (.single v) = .boolean b) ∧
      (∃! comparison : Comparison,
        comparison ∈ [.less, .equal, .greater] ∧ comparison.IsTrue u v) ∧
      (Comparison.lessEqual.IsTrue u v ↔ ¬ Comparison.greater.IsTrue u v) ∧
      (Comparison.greaterEqual.IsTrue u v ↔ ¬ Comparison.less.IsTrue u v) ∧
      (Comparison.notEqual.IsTrue u v ↔ ¬ Comparison.equal.IsTrue u v) ∧
      (Comparison.less.IsTrue u v ↔ Comparison.greater.IsTrue v u)) ∧
    (u ≠ .blank → v ≠ .blank → w ≠ .blank → Comparison.lessEqual.IsTrue u v →
      Comparison.lessEqual.IsTrue v w → Comparison.lessEqual.IsTrue u w) ∧
    (∀ x s, Comparison.less.IsTrue (.number x) (.text s)) ∧
    (∀ s b, Comparison.less.IsTrue (.text s) (.boolean b)) ∧
    (∀ x b, Comparison.less.IsTrue (.number x) (.boolean b)) := by
  refine ⟨⟨fun comparison => ⟨comparison.holds u v, ?_⟩,
    existsUnique_isTrue ordered_first ordered_second, ?_, ?_, ?_, ?_⟩,
    fun filled_first filled_second filled_third first second => ?_, fun x s => ?_, fun s b => ?_,
    fun x b => ?_⟩
  · exact value_compare ordered_first.ne_error ordered_second.ne_error
  · simp only [isTrue_iff_compareTo ordered_first ordered_second]
  · simp only [isTrue_iff_compareTo ordered_first ordered_second]
  · simp only [isTrue_iff_compareTo ordered_first ordered_second]
  · simp only [isTrue_iff_compareTo ordered_first ordered_second,
      isTrue_iff_compareTo ordered_second ordered_first]
    rw [compareTo_swap ordered_first ordered_second, Ordering.swap_eq_lt]
  · simp only [isTrue_iff_compareTo, ordered_first, ordered_second, ordered_third, ne_eq,
      Ordering.ne_gt_iff_isLE] at first second ⊢
    exact compareTo_isLE_trans ordered_first ordered_second ordered_third filled_first
      filled_second
      filled_third first second
  · exact isTrue_less_of_rank_lt (by simp [rank]) (by simp [rank]) (by simp) (by simp)
  · exact isTrue_less_of_rank_lt (by simp [rank]) (by simp [rank]) (by simp) (by simp)
  · exact isTrue_less_of_rank_lt (by simp [rank]) (by simp [rank]) (by simp) (by simp)

/-- A number comes before a text, which equals another one up to case, so the number comes before
that one. A blank is compared with a text as the empty text, from either side. -/
theorem comparisons_coherent_of_texts :
    ¬ (1.5 : Float).isNaN ∧ Comparison.lessEqual.IsTrue (.number 1.5) (.text "b") ∧
      Comparison.lessEqual.IsTrue (.text "b") (.text "B") ∧
      Comparison.lessEqual.IsTrue (.number 1.5) (.text "B") ∧
      Comparison.less.IsTrue .blank (.text "b") ∧
      Comparison.greater.IsTrue (.text "b") .blank := by
  have proper : ¬ (1.5 : Float).isNaN := by decide
  have first : Comparison.lessEqual.IsTrue (.number 1.5) (.text "b") := rfl
  have second : Comparison.lessEqual.IsTrue (.text "b") (.text "B") := by with_unfolding_all rfl
  have blank_less : Comparison.less.IsTrue .blank (.text "b") := by with_unfolding_all rfl
  have chain := comparisons_coherent (u := .number 1.5) (v := .text "b") (w := .text "B") proper
    trivial trivial
  have pair := comparisons_coherent (u := .blank) (v := .text "b")
    (w := .blank) trivial trivial trivial
  obtain ⟨_, transitive, _⟩ := chain
  obtain ⟨⟨_, _, _, _, _, turned⟩, _⟩ := pair
  exact ⟨proper, first, second, transitive (by simp) (by simp) (by simp) first second, blank_less,
    turned.mp blank_less⟩

end Formula
end Spreadsheet
