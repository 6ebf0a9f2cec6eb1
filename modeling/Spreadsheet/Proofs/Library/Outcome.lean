import Spreadsheet.Library.Definition

/-!
# Computations without crashes

A computation ensures a property if it does not crash and every value that it ends in has the
property; it may end in an error. Bodies are sequences of steps, so what they ensure follows step
by step. Where a crash is possible after all, an exception says when.
-/

namespace Spreadsheet
namespace Library

variable {α β : Type} {exception : Prop} {property : α → Prop} {outcome : Outcome α}

/-- The value that a computation ends in, if any, has a property, and there is no crash without the
exception. -/
def EnsuresUnless (exception : Prop) (property : α → Prop) : Outcome α → Prop
  | .ok result => property result
  | .error (.error _) => True
  | .error .crash => exception

/-- The computation does not crash, and the value that it ends in, if any, has a property. -/
abbrev Ensures (property : α → Prop) (outcome : Outcome α) : Prop :=
  EnsuresUnless False property outcome

instance decidableEqCrash : (outcome : Outcome α) → Decidable (outcome = .error .crash)
  | .ok _ => .isFalse nofun
  | .error (.error _) => .isFalse nofun
  | .error .crash => .isTrue rfl

/-! ## Single steps -/

@[simp] theorem ensuresUnless_ok {result : α} :
    EnsuresUnless exception property (.ok result) ↔ property result := Iff.rfl

@[simp] theorem ensuresUnless_pure {result : α} :
    EnsuresUnless exception property (pure result : Outcome α) ↔ property result := Iff.rfl

@[simp] theorem ensuresUnless_fail (code : ErrorCode) :
    EnsuresUnless exception property (fail code) := trivial

@[simp] theorem ensuresUnless_crash : EnsuresUnless exception property crash ↔ exception := Iff.rfl

theorem EnsuresUnless.imp {weaker : α → Prop} (ensures : EnsuresUnless exception property outcome)
    (implies : ∀ result, property result → weaker result) :
    EnsuresUnless exception weaker outcome := by
  cases outcome with
  | ok result => exact implies result ensures
  | error fault => cases fault <;> exact ensures

theorem EnsuresUnless.mono {wider : Prop} (ensures : EnsuresUnless exception property outcome)
    (implies : exception → wider) : EnsuresUnless wider property outcome := by
  cases outcome with
  | ok result => exact ensures
  | error fault =>
      cases fault with
      | error code => trivial
      | crash => exact implies ensures

/-- If nothing is asked of the values, the exception is all there is to a crash. -/
theorem ensuresUnless_true_iff :
    EnsuresUnless exception (fun _ => True) outcome ↔ (outcome = .error .crash → exception) := by
  cases outcome with
  | ok result => simp
  | error fault => cases fault <;> simp [EnsuresUnless]

theorem ne_crash_iff : outcome ≠ .error .crash ↔ Ensures (fun _ => True) outcome :=
  ensuresUnless_true_iff.symm

/-- A computation that does not crash ensures what its values have. -/
theorem ensuresUnless_iff_of_ne_crash (safe : outcome ≠ .error .crash) :
    EnsuresUnless exception property outcome ↔
      ∀ result, outcome = .ok result → property result := by
  cases outcome with
  | ok result => simp
  | error fault =>
      cases fault with
      | error code => simp [EnsuresUnless]
      | crash => exact absurd rfl safe

/-! ## Sequences of steps -/

/-- What a step ensures is known to the steps that follow. -/
@[simp] theorem ensuresUnless_bind {next : α → Outcome β} {final : β → Prop} :
    EnsuresUnless exception final (outcome >>= next) ↔
      EnsuresUnless exception
        (fun result => EnsuresUnless exception final (next result)) outcome := by
  cases outcome with
  | ok result => exact Iff.rfl
  | error fault => cases fault <;> exact Iff.rfl

@[simp] theorem ensuresUnless_map {f : α → β} {final : β → Prop} :
    EnsuresUnless exception final (f <$> outcome) ↔
      EnsuresUnless exception (fun result => final (f result)) outcome := by
  cases outcome with
  | ok result => exact Iff.rfl
  | error fault => cases fault <;> exact Iff.rfl

theorem EnsuresUnless.bind {next : α → Outcome β} {final : β → Prop}
    (ensures : EnsuresUnless exception property outcome)
    (continues : ∀ result, property result → EnsuresUnless exception final (next result)) :
    EnsuresUnless exception final (outcome >>= next) :=
  ensuresUnless_bind.mpr (ensures.imp continues)

@[simp] theorem ensuresUnless_ite {condition : Prop} [Decidable condition]
    {whenTrue whenFalse : Outcome α} :
    EnsuresUnless exception property (if condition then whenTrue else whenFalse) ↔
      (condition → EnsuresUnless exception property whenTrue) ∧
        (¬ condition → EnsuresUnless exception property whenFalse) := by
  by_cases holds : condition <;> simp [holds]

/-- One step for every item of a list. -/
theorem ensuresUnless_mapM {step : β → Outcome α} {items : List β}
    (ensures : ∀ item ∈ items, EnsuresUnless exception property (step item)) :
    EnsuresUnless exception
      (fun results => results.length = items.length ∧ ∀ result ∈ results, property result)
      (items.mapM step) := by
  induction items with
  | nil => simp
  | cons item items ih =>
      rw [List.mapM_cons]
      refine (ensures item List.mem_cons_self).bind fun result holds => ?_
      refine (ih fun item member => ensures item (List.mem_cons_of_mem _ member)).bind ?_
      rintro results ⟨length, hold⟩
      exact ⟨congrArg Nat.succ length, List.forall_mem_cons.mpr ⟨holds, hold⟩⟩

/-! ## Partial steps -/

theorem ensures_orCrash {found : Option α} (present : ∃ result, found = some result) :
    Ensures (fun result => found = some result) (orCrash found) := by
  obtain ⟨result, rfl⟩ := present
  rfl

/-- A partial step for every item of a list, where none of them is missing. -/
theorem mapM_orCrash {f : α → Option β} {xs : List α} (every : ∀ x ∈ xs, (f x).isSome) :
    (xs.mapM fun x => orCrash (f x)) = .ok (xs.filterMap f) := by
  induction xs with
  | nil => rfl
  | cons x xs ih =>
      obtain ⟨y, there⟩ := Option.isSome_iff_exists.mp (every x List.mem_cons_self)
      rw [List.mapM_cons, ih fun x member => every x (List.mem_cons_of_mem _ member), there,
        List.filterMap_cons_some there]
      rfl

theorem ensures_getElem? {xs : List α} {i : Nat} (inside : i < xs.length) :
    Ensures (fun _ => True) (orCrash xs[i]?) := by
  rw [List.getElem?_eq_getElem inside]
  trivial

theorem ensures_signed {n : Int} (lower : Int64.minValue.toInt ≤ n)
    (upper : n ≤ Int64.maxValue.toInt) :
    Ensures (· = n) (signed n) := by
  rw [signed, if_pos ⟨lower, upper⟩]
  rfl

theorem ensures_predecessor {n : Nat} (positive : 0 < n) :
    Ensures (· + 1 = n) (predecessor n) := by
  cases n with
  | zero => contradiction
  | succ n => rfl

theorem ensures_successor {n : Nat} (below : n + 1 < UInt64.size) :
    Ensures (· = n + 1) (successor n) := by
  rw [successor, if_pos below]
  rfl

end Library
end Spreadsheet
