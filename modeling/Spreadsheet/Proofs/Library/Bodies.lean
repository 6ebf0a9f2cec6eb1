import Spreadsheet.Library
import Spreadsheet.Proofs.Library.Arguments

/-!
# Bodies that do not crash

A function is safe if its body ends in regular values and does not crash, given as many regular
arguments as it takes. Most bodies read their arguments and compute with what they have read; only
tables that are passed on need a look at their shape.
-/

namespace Spreadsheet
namespace Library

/-- On regular arguments, as many as the function takes, its body ends in regular values, and there
is no crash without the exception. -/
def Definition.IsSafeUnless (exception : List Value → Prop) (d : Definition) : Prop :=
  ∀ ⦃arguments⦄, (∀ argument ∈ arguments, argument.IsRegular) → d.arity.accepts arguments.length →
    EnsuresUnless (exception arguments) Value.IsRegular (d.body arguments)

/-- On regular arguments, as many as the function takes, its body ends in regular values without a
crash. -/
abbrev Definition.IsSafe (d : Definition) : Prop := d.IsSafeUnless fun _ => False

theorem Definition.IsSafe.unless {d : Definition} (safe : d.IsSafe)
    (exception : List Value → Prop) :
    d.IsSafeUnless exception :=
  fun _ regular accepted => (safe regular accepted).mono False.elim

variable {name : String} {exception : List Value → Prop}

/-! ## Arities -/

theorem Arity.accepts_some_iff {min max count : Nat} :
    (Arity.mk min (some max)).accepts count ↔ min ≤ count ∧ count ≤ max := by
  simp [accepts]

theorem isSafe_nullary {result : Value} (regular : result.IsRegular) :
    (Definition.nullary name result).IsSafe :=
  fun _ _ _ => regular

theorem isSafe_unary {f : Value → Outcome Value}
    (safe : ∀ x, x.IsRegular → Ensures Value.IsRegular (f x)) :
    (Definition.unary name f).IsSafe := by
  intro arguments regular accepted
  match arguments with
  | [x] => exact safe x (regular x (by simp))
  | [] | _ :: _ :: _ => grind [Arity.accepts_some_iff.mp accepted]

theorem isSafeUnless_binary {f : Value → Value → Outcome Value}
    (safe : ∀ x y, x.IsRegular → y.IsRegular →
      EnsuresUnless (exception [x, y]) Value.IsRegular (f x y)) :
    (Definition.binary name f).IsSafeUnless exception := by
  intro arguments regular accepted
  match arguments with
  | [x, y] => exact safe x y (regular x (by simp)) (regular y (by simp))
  | [] | [_] | _ :: _ :: _ :: _ => grind [Arity.accepts_some_iff.mp accepted]

theorem isSafe_ternary {f : Value → Value → Value → Outcome Value}
    (safe : ∀ x y z, x.IsRegular → y.IsRegular → z.IsRegular → Ensures Value.IsRegular (f x y z)) :
    (Definition.ternary name f).IsSafe := by
  intro arguments regular accepted
  match arguments with
  | [x, y, z] => exact safe x y z (regular x (by simp)) (regular y (by simp)) (regular z (by simp))
  | [] | [_] | [_, _] | _ :: _ :: _ :: _ :: _ => grind [Arity.accepts_some_iff.mp accepted]

/-- An argument that is left out, or a regular one. -/
def IsRegularIfGiven (choice : Option Value) : Prop := ∀ argument ∈ choice, argument.IsRegular

theorem isSafe_oneOrTwo {f : Value → Option Value → Outcome Value}
    (safe : ∀ x choice, x.IsRegular → IsRegularIfGiven choice →
      Ensures Value.IsRegular (f x choice)) :
    (Definition.oneOrTwo name f).IsSafe := by
  intro arguments regular accepted
  match arguments with
  | [x] => exact safe x none (regular x (by simp)) (by simp [IsRegularIfGiven])
  | [x, y] => exact safe x (some y) (regular x (by simp)) (by simp [IsRegularIfGiven, regular])
  | [] | _ :: _ :: _ :: _ => grind [Arity.accepts_some_iff.mp accepted]

theorem isSafe_twoOrThree {f : Value → Value → Option Value → Outcome Value}
    (safe : ∀ x y choice, x.IsRegular → y.IsRegular → IsRegularIfGiven choice →
      Ensures Value.IsRegular (f x y choice)) : (Definition.twoOrThree name f).IsSafe := by
  intro arguments regular accepted
  match arguments with
  | [x, y] =>
      exact safe x y none (regular x (by simp)) (regular y (by simp)) (by simp [IsRegularIfGiven])
  | [x, y, z] =>
      exact safe x y (some z) (regular x (by simp)) (regular y (by simp))
        (by simp [IsRegularIfGiven, regular])
  | [] | [_] | _ :: _ :: _ :: _ :: _ => grind [Arity.accepts_some_iff.mp accepted]

theorem isSafe_threeOrFour {f : Value → Value → Value → Option Value → Outcome Value}
    (safe : ∀ x y z choice, x.IsRegular → y.IsRegular → z.IsRegular → IsRegularIfGiven choice →
      Ensures Value.IsRegular (f x y z choice)) : (Definition.threeOrFour name f).IsSafe := by
  intro arguments regular accepted
  match arguments with
  | [x, y, z] =>
      exact safe x y z none (regular x (by simp)) (regular y (by simp)) (regular z (by simp))
        (by simp [IsRegularIfGiven])
  | [x, y, z, w] =>
      exact safe x y z (some w) (regular x (by simp)) (regular y (by simp)) (regular z (by simp))
        (by simp [IsRegularIfGiven, regular])
  | [] | [_] | [_, _] | _ :: _ :: _ :: _ :: _ :: _ => grind [Arity.accepts_some_iff.mp accepted]

theorem isSafeUnless_variadic {f : List Value → Outcome Value}
    (safe : ∀ arguments, EnsuresUnless (exception arguments) Value.IsRegular (f arguments)) :
    (Definition.variadic name f).IsSafeUnless exception :=
  fun arguments _ _ => safe arguments

/-! ## Arithmetic and rounding -/

namespace Arithmetic

@[simp] theorem ensures_positive {exception : Prop} {argument : Value} {property : Float → Prop} :
    EnsuresUnless exception property (positive argument) ↔
      ∀ x, positive argument = .ok x → property x :=
  ensuresUnless_iff_of_ne_crash (by simp [ne_crash_iff, positive])

theorem ensures_logarithm (argument : Value) (base : Option Value) :
    Ensures Value.IsRegular (logarithm argument base) := by
  refine ensuresUnless_bind.mpr (ensures_positive.mpr fun x _ => ?_)
  refine (ensures_optional fun _ => by simp).bind fun b _ => ?_
  simp

theorem isSafe_of_mem : ∀ d ∈ definitions, d.IsSafe := by
  simp only [definitions, List.forall_mem_cons, List.not_mem_nil, false_imp_iff, implies_true,
    and_true]
  exact ⟨isSafeUnless_variadic fun _ => by simp [sumAll],
    isSafeUnless_variadic fun _ => by simp [productAll],
    isSafe_unary fun _ _ => by simp [magnitude],
    isSafe_unary fun _ _ => by simp [sign],
    isSafe_unary fun _ _ => by simp [squareRoot],
    isSafeUnless_binary fun _ _ _ _ => by simp [power],
    isSafeUnless_binary fun _ _ _ _ => by simp [remainder],
    isSafe_nullary trivial,
    isSafe_unary fun _ _ => by simp [exponential],
    isSafe_unary fun _ _ => by simp [naturalLogarithm],
    isSafe_oneOrTwo fun _ _ _ _ => ensures_logarithm _ _,
    isSafe_unary fun _ _ => by simp [decimalLogarithm]⟩

end Arithmetic

namespace Rounding

theorem ensures_roundWith (f : Float → Float) (argument : Value) (places : Option Value) :
    Ensures Value.IsRegular (roundWith f argument places) := by
  have read : Ensures (fun _ => True) (placesFactor places) :=
    (ensures_optional fun _ => by simp).bind fun _ _ => trivial
  refine ensuresUnless_bind.mpr (ensures_number.mpr fun x _ => ?_)
  exact read.bind fun factor _ => ensures_finite

theorem ensures_multipleWith (f : Float → Float) (argument : Value) (stepArgument : Option Value) :
    Ensures Value.IsRegular (multipleWith f argument stepArgument) := by
  refine ensuresUnless_bind.mpr (ensures_number.mpr fun x _ => ?_)
  have read : Ensures (fun _ => True) (step x stepArgument) :=
    (ensures_optional fun _ => by simp).bind fun s _ => by simp
  exact read.bind fun s _ => ensures_finite

theorem isSafe_of_mem : ∀ d ∈ definitions, d.IsSafe := by
  simp only [definitions, List.forall_mem_cons, List.not_mem_nil, false_imp_iff, implies_true,
    and_true]
  exact ⟨isSafe_oneOrTwo fun _ _ _ _ => ensures_roundWith _ _ _,
    isSafe_oneOrTwo fun _ _ _ _ => ensures_roundWith _ _ _,
    isSafe_oneOrTwo fun _ _ _ _ => ensures_roundWith _ _ _,
    isSafe_oneOrTwo fun _ _ _ _ => ensures_roundWith _ _ _,
    isSafe_unary fun _ _ => by simp [wholeBelow],
    isSafe_oneOrTwo fun _ _ _ _ => ensures_multipleWith _ _ _,
    isSafe_oneOrTwo fun _ _ _ _ => ensures_multipleWith _ _ _⟩

end Rounding

/-! ## Logic, inspection and counting -/

namespace Logic

theorem ensures_choice {condition whenTrue : Value} {whenFalse : Option Value}
    (regularTrue : whenTrue.IsRegular) (regularFalse : IsRegularIfGiven whenFalse) :
    Ensures Value.IsRegular (choice condition whenTrue whenFalse) := by
  refine ensuresUnless_bind.mpr (ensures_boolean.mpr fun holds _ => ?_)
  refine ensuresUnless_ite.mpr ⟨fun _ => regularTrue, fun _ => ?_⟩
  cases whenFalse with
  | none => trivial
  | some given => exact regularFalse given rfl

theorem truthOfItem_ne_crash {value : CellValue} : truthOfItem value ≠ .error .crash := by
  cases value <;> simp [truthOfItem, fail]

theorem filterMapM_truthOfItem_ne_crash (items : List CellValue) :
    items.filterMapM truthOfItem ≠ .error .crash := by
  induction items with
  | nil => simp [ne_crash_iff]
  | cons item items ih =>
      rw [List.filterMapM_cons]
      refine ne_crash_iff.mpr ((ne_crash_iff.mp truthOfItem_ne_crash).bind fun found _ => ?_)
      cases found with
      | none => exact ne_crash_iff.mp ih
      | some b => exact ensuresUnless_bind.mpr ((ne_crash_iff.mp ih).imp fun _ _ => trivial)

theorem truthsOf_ne_crash {argument : Value} : truthsOf argument ≠ .error .crash := by
  cases argument with
  | table rows => exact filterMapM_truthOfItem_ne_crash _
  | single value => simp [ne_crash_iff, truthsOf]

theorem truths_ne_crash {arguments : List Value} : truths arguments ≠ .error .crash := by
  refine ne_crash_iff.mpr (ensuresUnless_bind.mpr ?_)
  refine (ensuresUnless_mapM fun _ _ => ne_crash_iff.mp truthsOf_ne_crash).imp fun _ _ => ?_
  simp

@[simp] theorem ensures_truths {exception : Prop} {arguments : List Value}
    {property : List Bool → Prop} :
    EnsuresUnless exception property (truths arguments) ↔
      ∀ bs, truths arguments = .ok bs → property bs :=
  ensuresUnless_iff_of_ne_crash truths_ne_crash

theorem isSafe_of_mem : ∀ d ∈ definitions, d.IsSafe := by
  simp only [definitions, List.forall_mem_cons, List.not_mem_nil, false_imp_iff, implies_true,
    and_true]
  exact ⟨isSafe_twoOrThree fun _ _ _ _ regularTrue regularFalse =>
      ensures_choice regularTrue regularFalse,
    isSafeUnless_variadic fun _ => by simp [conjunction],
    isSafeUnless_variadic fun _ => by simp [disjunction],
    isSafeUnless_variadic fun _ => by simp [parity],
    isSafe_unary fun _ _ => by simp [negation],
    isSafe_nullary trivial,
    isSafe_nullary trivial⟩

end Logic

namespace Inspection

theorem ensures_replace (holds : CellValue → Bool) {argument replacement : Value}
    (regularArgument : argument.IsRegular) (regularReplacement : replacement.IsRegular) :
    Ensures Value.IsRegular (replace holds argument replacement) := by
  refine ensuresUnless_ok.mpr ?_
  split <;> assumption

theorem isSafe_of_mem : ∀ d ∈ definitions, d.IsSafe := by
  simp only [definitions, List.forall_mem_cons, List.not_mem_nil, false_imp_iff, implies_true,
    and_true]
  have asks (name : String) (holds : CellValue → Bool) :
      (Definition.unary name (question holds)).IsSafe :=
    isSafe_unary fun _ _ => trivial
  exact ⟨isSafeUnless_binary fun _ _ => ensures_replace isError,
    isSafeUnless_binary fun _ _ => ensures_replace isNotAvailable,
    asks _ _, asks _ _, asks _ _, asks _ _, asks _ _, asks _ _⟩

end Inspection

namespace Counting

theorem isSafe_of_mem : ∀ d ∈ definitions, d.IsSafe := by
  simp only [definitions, List.forall_mem_cons, List.not_mem_nil, false_imp_iff, implies_true,
    and_true]
  exact ⟨isSafeUnless_variadic fun _ => trivial, isSafeUnless_variadic fun _ => trivial,
    isSafe_unary fun _ _ => trivial⟩

end Counting

/-! ## Criteria -/

namespace Criteria

theorem ofArgument_ne_crash {argument : Value} :
    Criterion.ofArgument argument ≠ .error .crash := by
  refine ne_crash_iff.mpr (ensuresUnless_bind.mpr (ensures_scalar.mpr fun value _ => ?_))
  cases value <;> trivial

theorem matchedNumbers_ne_crash {tested criterion : Value} {summed : Option Value} :
    matchedNumbers tested criterion summed ≠ .error .crash := by
  refine ne_crash_iff.mpr ((ne_crash_iff.mp ofArgument_ne_crash).bind fun c _ => ?_)
  refine ensuresUnless_bind.mpr (ensures_rowsOf.mpr fun testedRows _ => ?_)
  refine (ensures_optional fun _ => by simp).bind fun _ _ => ?_
  trivial

@[simp] theorem ensures_matchedNumbers {exception : Prop} {tested criterion : Value}
    {summed : Option Value} {property : List Float → Prop} :
    EnsuresUnless exception property (matchedNumbers tested criterion summed) ↔
      ∀ xs, matchedNumbers tested criterion summed = .ok xs → property xs :=
  ensuresUnless_iff_of_ne_crash matchedNumbers_ne_crash

theorem isSafe_of_mem : ∀ d ∈ definitions, d.IsSafe := by
  simp only [definitions, List.forall_mem_cons, List.not_mem_nil, false_imp_iff, implies_true,
    and_true]
  refine ⟨isSafeUnless_binary fun _ _ _ _ => ?_,
    isSafe_twoOrThree fun _ _ _ _ _ _ => by simp [sumIf],
    isSafe_twoOrThree fun _ _ _ _ _ _ => by simp [averageIf]⟩
  exact (ne_crash_iff.mp ofArgument_ne_crash).bind fun _ _ => trivial

end Criteria

/-! ## Dates -/

namespace Dates

theorem moment_ne_crash {argument : Value} : moment argument ≠ .error .crash := by
  refine ne_crash_iff.mpr (ensuresUnless_bind.mpr (ensures_number.mpr fun x _ => ?_))
  cases Moment.ofSerial? x <;> trivial

@[simp] theorem ensures_moment {exception : Prop} {argument : Value} {property : Moment → Prop} :
    EnsuresUnless exception property (moment argument) ↔
      ∀ m, moment argument = .ok m → property m :=
  ensuresUnless_iff_of_ne_crash moment_ne_crash

theorem ensures_date (yearArgument monthArgument dayArgument : Value) :
    Ensures Value.IsRegular (date yearArgument monthArgument dayArgument) := by
  have fits {year : Int} : Ensures (fun _ => True) (fullYear year) := by
    refine ensuresUnless_ite.mpr ⟨fun old => ?_, fun _ => trivial⟩
    have lower : Int64.minValue.toInt ≤ year + 1900 :=
      Int.le_trans (by decide) (show 0 ≤ year + 1900 by omega)
    have upper : year + 1900 ≤ Int64.maxValue.toInt :=
      Int.le_trans (show year + 1900 ≤ 3800 by omega) (by decide)
    exact (ensures_signed lower upper).imp fun _ _ => trivial
  refine ensuresUnless_bind.mpr (ensures_integer.mpr fun year _ => ?_)
  refine ensuresUnless_bind.mpr (ensures_integer.mpr fun month _ => ?_)
  refine ensuresUnless_bind.mpr (ensures_integer.mpr fun day _ => ?_)
  refine fits.bind fun full _ => ?_
  cases serialOf? full month day <;> trivial

theorem ensures_weekday (argument : Value) (system : Option Value) :
    Ensures Value.IsRegular (weekday argument system) := by
  refine ensuresUnless_bind.mpr (ensures_moment.mpr fun m _ => ?_)
  refine (ensures_optional fun _ => by simp).bind fun n _ => ?_
  split <;> trivial

theorem isSafe_of_mem (now : Moment) : ∀ d ∈ definitions now, d.IsSafe := by
  simp only [definitions, List.forall_mem_cons, List.not_mem_nil, false_imp_iff, implies_true,
    and_true]
  have tells (name : String) (select : Moment → Int) :
      (Definition.unary name (part select)).IsSafe :=
    isSafe_unary fun _ _ => by simp [part, whole]
  exact ⟨isSafe_nullary trivial, isSafe_nullary trivial,
    isSafe_ternary fun _ _ _ _ _ _ => ensures_date _ _ _,
    tells _ _, tells _ _, tells _ _,
    isSafe_oneOrTwo fun _ _ _ _ => ensures_weekday _ _,
    tells _ _, tells _ _, tells _ _,
    isSafeUnless_binary fun _ _ _ _ => by simp [daysBetween]⟩

end Dates

end Library
end Spreadsheet
