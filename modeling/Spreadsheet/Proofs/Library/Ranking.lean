import Spreadsheet.Proofs.Double.Order
import Spreadsheet.Proofs.Library.Bodies
import Spreadsheet.Proofs.Library.Sorting

/-!
# Statistical functions

A function that picks a number by its place in the ascending order reaches only for places that
there are. Putting the numbers in order is the one step that may crash, and only for a long list
with NaN in it, since the comparison that is used does not order NaN among the numbers.
-/

namespace Spreadsheet
namespace Library
namespace Statistics

variable {exception : Prop} {arguments : List Value} {xs : List Float}

/-- Too many numbers to insert them one after the other, with NaN among them. -/
def IsDisorderly (xs : List Float) : Prop := Sorting.maxInserted < xs.length ∧ ∃ x ∈ xs, x.isNaN

/-- The numbers of the arguments are disorderly. -/
def GivesDisorder (arguments : List Value) : Prop :=
  ∃ xs, numbers arguments = .ok xs ∧ IsDisorderly xs

/-- Doubles other than NaN are compared by their keys. -/
theorem comparesKeys_lt :
    Sorting.ComparesKeys (fun x y : Float => decide (x < y)) Double.key fun x => ¬ x.isNaN :=
  fun _ _ properX properY => decide_eq_true_iff.trans (Double.lt_iff_key_lt properX properY)

theorem ensures_ascending (disorder : IsDisorderly xs → exception) :
    EnsuresUnless exception (fun _ => True) (ascending xs) := by
  refine ensuresUnless_true_iff.mpr fun crashed => disorder ?_
  by_contra orderly
  have proper : xs.length ≤ Sorting.maxInserted ∨ ∀ x ∈ xs, ¬ x.isNaN :=
    (Nat.lt_or_ge _ _).symm.imp_right fun long x member nan => orderly ⟨long, x, member, nan⟩
  have sorted := Sorting.ensures_sort (proper.imp_right fun proper => ⟨comparesKeys_lt, proper⟩)
  exact ne_crash_iff.mpr (sorted.imp fun _ _ => trivial) crashed

theorem ensures_median :
    EnsuresUnless (GivesDisorder arguments) Value.IsRegular (median arguments) := by
  refine ensuresUnless_bind.mpr (ensures_numbers.mpr fun xs read => ?_)
  refine (ensures_ascending fun disorder => ⟨xs, read, disorder⟩).bind fun sorted _ => ?_
  refine ensuresUnless_ite.mpr ⟨fun _ => trivial, fun nonempty => EnsuresUnless.mono ?_ False.elim⟩
  have positive : 0 < sorted.length := List.length_pos_iff.mpr (by simpa using nonempty)
  have upperIn : sorted.length / 2 < sorted.length := Nat.div_lt_self positive (by decide)
  refine (ensures_getElem? upperIn).bind fun upper _ => ?_
  refine ensuresUnless_ite.mpr ⟨fun even => ?_, fun _ => trivial⟩
  refine (ensures_predecessor (by omega)).bind fun below next => ?_
  have lowerIn : below < sorted.length := by omega
  exact (ensures_getElem? lowerIn).bind fun lower _ => trivial

theorem ensures_ranked {order : List Float → List Float} {argument rank : Value}
    (length_eq : ∀ {xs}, (order xs).length = xs.length) :
    EnsuresUnless (GivesDisorder [argument]) Value.IsRegular (ranked order argument rank) := by
  refine ensuresUnless_bind.mpr (ensures_numbers.mpr fun xs read => ?_)
  refine (ensures_ascending fun disorder => ⟨xs, read, disorder⟩).bind fun sorted _ => ?_
  refine ensuresUnless_bind.mpr (ensures_integer.mpr fun k _ => ?_)
  refine ensuresUnless_ite.mpr ⟨fun _ => trivial, fun inside => EnsuresUnless.mono ?_ False.elim⟩
  refine (ensures_predecessor (by omega)).bind fun place next => ?_
  have placeIn : place < (order sorted).length := by
    have := @length_eq sorted
    omega
  exact (ensures_getElem? placeIn).bind fun _ _ => trivial

/-- A function that puts numbers in order is given disorderly ones. -/
def MeetsDisorder (name : String) (arguments : List Value) : Prop :=
  name = "MEDIAN" ∧ GivesDisorder arguments ∨
    (name = "LARGE" ∨ name = "SMALL") ∧ GivesDisorder (arguments.take 1)

@[simp] theorem ensures_variance {property : Float → Prop} :
    EnsuresUnless exception property (variance arguments) ↔
      ∀ x, variance arguments = .ok x → property x :=
  ensuresUnless_iff_of_ne_crash (by simp [ne_crash_iff, variance])

theorem ensures_extreme (choose : Float → Float → Float) :
    EnsuresUnless exception Value.IsRegular (extreme choose arguments) := by
  refine ensuresUnless_bind.mpr (ensures_numbers.mpr fun xs _ => ?_)
  cases xs <;> trivial

theorem isSafeUnless_of_mem : ∀ d ∈ definitions, d.IsSafeUnless (MeetsDisorder d.name) := by
  simp only [definitions, List.forall_mem_cons, List.not_mem_nil, false_imp_iff, implies_true,
    and_true]
  exact ⟨isSafeUnless_variadic fun _ => by simp [average],
    isSafeUnless_variadic fun _ => ensures_extreme lesser,
    isSafeUnless_variadic fun _ => ensures_extreme greater,
    isSafeUnless_variadic fun _ => ensures_median.mono fun disorder => .inl ⟨rfl, disorder⟩,
    isSafeUnless_variadic fun _ => by simp [sampleVariance],
    isSafeUnless_variadic fun _ => by simp [standardDeviation],
    isSafeUnless_binary fun _ _ _ _ => (ensures_ranked List.length_reverse).mono fun disorder =>
      .inr ⟨.inl rfl, disorder⟩,
    isSafeUnless_binary fun _ _ _ _ => (ensures_ranked rfl).mono fun disorder =>
      .inr ⟨.inr rfl, disorder⟩⟩

end Statistics
end Library
end Spreadsheet
