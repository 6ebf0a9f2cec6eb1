import Spreadsheet.Library.Sorting
import Spreadsheet.Proofs.Library.SmallSort

/-!
# Sorting does not crash

If the comparison is that of the items' keys, sorting a list ends in its items in some order. Only
the small sort can crash, and it is given items of the list. That the result is in order plays no
part.
-/

namespace Spreadsheet
namespace Library
namespace Sorting

variable {α κ : Type} [LinearOrder κ] {less : α → α → Bool} {key : α → κ} {proper : α → Prop}
  {xs ys : List α}

/-- A sort for items with a property ends in the items that it is given. -/
def Rearranges (proper : α → Prop) (sort : List α → Outcome (List α)) : Prop :=
  ∀ ⦃xs⦄, (∀ x ∈ xs, proper x) → Ensures (fun sorted => sorted.Perm xs) (sort xs)

/-! ## Quicksort -/

theorem medianOfThree_lt {a b c bound : Nat} (insideA : a < bound) (insideB : b < bound)
    (insideC : c < bound) : medianOfThree less xs a b c < bound := by
  rw [medianOfThree]
  split_ifs <;> assumption

/-- The middle item stands in one of the stretches. -/
theorem pseudoMedian_lt {a b c length : Nat} (positive : 0 < length)
    (insideA : a + length ≤ xs.length) (insideB : b + length ≤ xs.length)
    (insideC : c + length ≤ xs.length) :
    pseudoMedian less xs a b c length < xs.length := by
  induction length using Nat.strong_induction_on generalizing a b c with
  | _ length ih =>
      rw [pseudoMedian]
      split
      case isTrue long =>
        have middle {first : Nat} (inside : first + length ≤ xs.length) :
            pseudoMedian less xs first (first + 4 * (length / 8)) (first + 7 * (length / 8))
              (length / 8) < xs.length :=
          ih (length / 8) (by omega) (by omega) (by omega) (by omega) (by omega)
        exact medianOfThree_lt (middle insideA) (middle insideB) (middle insideC)
      case isFalse short =>
        exact medianOfThree_lt (by omega) (by omega) (by omega)

theorem pivotIndex_lt (long : maxSmall < xs.length) : pivotIndex less xs < xs.length := by
  rw [maxSmall] at long
  exact pseudoMedian_lt (by omega) (by omega) (by omega) (by omega)

theorem partition_perm (goesLeft : α → Bool) (pivotGoesLeft : Bool) (before : List α) (pivot : α)
    (after : List α) :
    ((partition goesLeft pivotGoesLeft before pivot after).1 ++
      (partition goesLeft pivotGoesLeft before pivot after).2).Perm
        (before ++ pivot :: after) := by
  have parts (zs : List α) := List.filter_append_perm goesLeft zs
  simp only [← Multiset.coe_eq_coe, ← Multiset.coe_add] at parts
  rw [← List.singleton_append, ← Multiset.coe_eq_coe]
  cases pivotGoesLeft <;>
    simp only [partition, ← Multiset.coe_add, ← parts before, ← parts after, if_true, if_false,
      Bool.false_eq_true, Multiset.coe_nil] <;>
    abel

theorem rearranges_quicksort (compares : ComparesKeys less key proper)
    {fallback : List α → Outcome (List α)} (rearranges : Rearranges proper fallback) (limit : Nat)
    (ancestor : Option α) : Rearranges proper (quicksort less fallback limit ancestor) := by
  intro xs properXs
  induction limit generalizing ancestor xs with
  | zero =>
      rw [quicksort]
      exact ensuresUnless_ite.mpr
        ⟨fun _ => ensures_smallSort compares properXs, fun _ => rearranges properXs⟩
  | succ limit ih =>
      rw [quicksort]
      refine ensuresUnless_ite.mpr ⟨fun _ => ensures_smallSort compares properXs, fun long => ?_⟩
      have inside : pivotIndex less xs < xs.length := pivotIndex_lt (Nat.lt_of_not_le long)
      generalize pivotIndex less xs = place at inside
      obtain ⟨pivot, after, behind⟩ :=
        List.exists_cons_of_length_pos (List.length_drop ▸ Nat.sub_pos_of_lt inside)
      have whole : xs.take place ++ pivot :: after = xs := by rw [← behind, List.take_append_drop]
      have parted (goesLeft : α → Bool) (pivotGoesLeft : Bool) :=
        whole ▸ partition_perm goesLeft pivotGoesLeft (xs.take place) pivot after
      dsimp only
      rw [behind]
      refine ensuresUnless_ite.mpr ⟨fun _ => ?_, fun _ => ?_⟩
      · have perm := parted (! less pivot ·) true
        have properParts := List.forall_mem_append.mp (forall_mem_of_perm perm properXs)
        refine (ih none properParts.2).bind fun sorted rearranged => ?_
        exact (rearranged.append_left _).trans perm
      · have perm := parted (less · pivot) false
        have properParts := List.forall_mem_append.mp (forall_mem_of_perm perm properXs)
        refine (ih (some pivot) properParts.2).bind fun upper rearrangedUpper => ?_
        refine (ih ancestor properParts.1).bind fun lower rearrangedLower => ?_
        exact (rearrangedLower.append rearrangedUpper).trans perm

/-! ## Runs -/

theorem stretch_pos {continues : α → α → Bool} (nonempty : xs ≠ []) :
    0 < stretch continues xs := by
  fun_cases stretch continues xs with
  | case1 x y ys goesOn => exact Nat.succ_pos _
  | case2 x y ys ends => exact Nat.one_pos
  | case3 xs => exact List.length_pos_iff.mpr nonempty

theorem leastRun_pos {count : Nat} (positive : 0 < count) : 0 < leastRun count := by
  rw [leastRun]
  split
  case isTrue few => exact lt_min (by omega) (by decide)
  case isFalse many =>
    have large : 2 ^ 1 ≤ count ||| 1 := le_trans (by omega) Nat.left_le_or
    have log := (Nat.le_log2 (by omega)).mpr large
    have power := Nat.pow_le_pow_right Nat.two_pos (show 1 ≤ (1 + (count ||| 1).log2) / 2 by omega)
    change 2 ^ 1 ≤ Nat.pow 2 _ at power
    exact Nat.div_pos (power.trans (Nat.le_add_right _ _)) Nat.two_pos

/-- The first run of a list consists of its first items, and there is one at least. -/
theorem ensures_firstRun (compares : ComparesKeys less key proper) {atOnce : Bool} {least : Nat}
    (positive : 0 < least) (nonempty : xs ≠ []) (properXs : ∀ x ∈ xs, proper x) :
    Ensures (fun run => 0 < run.items.length ∧ run.items.Perm (xs.take run.items.length))
      (firstRun less atOnce least xs) := by
  have positiveLength : 0 < xs.length := List.length_pos_iff.mpr nonempty
  have ofPerm {items : List α} {n : Nat} (perm : items.Perm (xs.take n)) (positive : 0 < n) :
      0 < items.length ∧ items.Perm (xs.take items.length) := by
    have length := perm.length_eq
    rw [List.length_take] at length
    refine ⟨by omega, ?_⟩
    rwa [length, ← List.take_eq_take_min]
  rw [firstRun]
  refine ensuresUnless_ite.mpr
    ⟨fun _ => ?_, fun _ => ensuresUnless_ite.mpr ⟨fun _ => ?_, fun _ => ?_⟩⟩
  · refine @ofPerm _ (stretch (fun x y => less y x == descends less xs) xs) ?_
      (stretch_pos nonempty)
    dsimp only
    split
    · exact List.reverse_perm _
    · rfl
  · have properFirst : ∀ x ∈ xs.take maxSmall, proper x := fun x member =>
      properXs x (List.mem_of_mem_take member)
    exact (ensures_smallSort compares properFirst).bind fun sorted perm => ofPerm perm (by decide)
  · exact ofPerm (.refl _) positive

/-- The runs of a list have its items. -/
theorem ensures_runs {first : List α → Outcome (Run α)}
    (ensures : ∀ ⦃xs : List α⦄, xs ≠ [] → (∀ x ∈ xs, proper x) →
      Ensures (fun run => 0 < run.items.length ∧ run.items.Perm (xs.take run.items.length))
        (first xs))
    (skipped : Nat) (properXs : ∀ x ∈ xs, proper x) :
    Ensures (fun pieces => (pieces.flatMap Run.items).Perm (xs.drop skipped))
      (runs first skipped xs) := by
  fun_induction runs first skipped xs with
  | case1 skipped => simp
  | case2 skipped x xs ih => exact ih (List.forall_mem_cons.mp properXs).2
  | case3 x xs ih =>
      refine (ensures (List.cons_ne_nil x xs) properXs).bind fun run holds => ?_
      obtain ⟨positive, perm⟩ := holds
      refine (ih run (List.forall_mem_cons.mp properXs).2).bind fun pieces rest => ?_
      obtain ⟨n, length⟩ := Nat.exists_eq_succ_of_ne_zero positive.ne'
      rw [length] at perm rest
      have joined := perm.append rest
      rwa [Nat.succ_sub_one, ← List.drop_succ_cons, List.take_append_drop] at joined

/-! ## Merging runs -/

theorem mergeSorted_perm : (mergeSorted less xs ys).Perm (xs ++ ys) := by
  rw [mergeSorted]
  split
  · exact List.merge_perm_append _
  · refine (List.reverse_perm _).trans ((List.merge_perm_append _).trans ?_)
    exact ((List.reverse_perm ys).append (List.reverse_perm xs)).trans List.perm_append_comm

theorem ensures_sortedItems {sort : List α → Outcome (List α)}
    (rearranges : Rearranges proper sort) {run : Run α} (properRun : ∀ x ∈ run.items, proper x) :
    Ensures (fun sorted => sorted.Perm run.items) (sortedItems sort run) :=
  ensuresUnless_ite.mpr ⟨fun _ => .refl _, fun _ => rearranges properRun⟩

theorem ensures_join {sort : List α → Outcome (List α)} (rearranges : Rearranges proper sort)
    {room : Nat} {left right : Run α} (properLeft : ∀ x ∈ left.items, proper x)
    (properRight : ∀ x ∈ right.items, proper x) :
    Ensures (fun run => run.items.Perm (left.items ++ right.items))
      (join less sort room left right) := by
  rw [join]
  refine ensuresUnless_ite.mpr ⟨fun _ => ?_, fun _ => .refl _⟩
  refine (ensures_sortedItems rearranges properLeft).bind fun first permFirst => ?_
  refine (ensures_sortedItems rearranges properRight).bind fun second permSecond => ?_
  exact mergeSorted_perm.trans (permFirst.append permSecond)

/-- The items of the waiting runs. -/
def waitingItems (waiting : List (Waiting α)) : List α :=
  waiting.flatMap fun entry => entry.run.items

section Joining

variable {joining : Run α → Run α → Outcome (Run α)}
  (ensures : ∀ ⦃left right : Run α⦄, (∀ x ∈ left.items, proper x) → (∀ x ∈ right.items, proper x) →
    Ensures (fun run => run.items.Perm (left.items ++ right.items)) (joining left right))

include ensures

theorem ensures_collapse {depth : Nat} {waiting : List (Waiting α)} {run : Run α}
    (properWaiting : ∀ x ∈ waitingItems waiting, proper x)
    (properRun : ∀ x ∈ run.items, proper x) :
    Ensures (fun collapsed =>
        (waitingItems collapsed.1 ++ collapsed.2.items).Perm (waitingItems waiting ++ run.items) ∧
          (depth = 0 → collapsed.1 = []))
      (collapse joining depth waiting run) := by
  induction waiting generalizing run with
  | nil => exact ⟨.refl _, fun _ => rfl⟩
  | cons top below ih =>
      obtain ⟨properTop, properBelow⟩ := List.forall_mem_append.mp properWaiting
      rw [collapse]
      refine ensuresUnless_ite.mpr ⟨fun apart => ⟨.refl _, fun root => ?_⟩, fun _ => ?_⟩
      · omega
      · refine (ensures properTop properRun).bind fun joined perm => ?_
        have properJoined :=
          forall_mem_of_perm perm (List.forall_mem_append.mpr ⟨properTop, properRun⟩)
        refine (ih properBelow properJoined).imp fun collapsed holds => ⟨?_, holds.2⟩
        refine holds.1.trans ((perm.append_left _).trans ?_)
        rw [waitingItems, waitingItems, List.flatMap_cons, ← List.append_assoc]
        exact List.perm_append_comm.append_right run.items

theorem ensures_joinAll {count done : Nat} {waiting : List (Waiting α)} {run : Run α}
    {rest : List (Run α)} (properWaiting : ∀ x ∈ waitingItems waiting, proper x)
    (properRun : ∀ x ∈ run.items, proper x) (properRest : ∀ x ∈ rest.flatMap Run.items, proper x) :
    Ensures (fun whole =>
        whole.items.Perm (waitingItems waiting ++ run.items ++ rest.flatMap Run.items))
      (joinAll joining count waiting run done rest) := by
  induction rest generalizing waiting run done with
  | nil =>
      refine (ensures_collapse ensures properWaiting properRun).bind fun collapsed holds => ?_
      have perm := holds.1
      rw [holds.2 rfl] at perm
      rw [List.flatMap_nil, List.append_nil]
      exact perm
  | cons next rest ih =>
      obtain ⟨properNext, properRest⟩ := List.forall_mem_append.mp properRest
      refine (ensures_collapse ensures properWaiting properRun).bind fun collapsed holds => ?_
      have properCollapsed :=
        forall_mem_of_perm holds.1 (List.forall_mem_append.mpr ⟨properWaiting, properRun⟩)
      -- The collapsed run waits on top of the others, so its items now come first.
      have pushed (depth : Nat) :
          (waitingItems (⟨collapsed.2, depth⟩ :: collapsed.1)).Perm
            (waitingItems waiting ++ run.items) :=
        List.perm_append_comm.trans holds.1
      refine (ih (forall_mem_of_perm (pushed _) ?_) properNext properRest).imp fun whole perm => ?_
      · exact List.forall_mem_append.mpr ⟨properWaiting, properRun⟩
      · refine perm.trans ?_
        rw [List.flatMap_cons, ← List.append_assoc]
        exact ((pushed _).append_right _).append_right _

end Joining

/-! ## The sort -/

theorem rearranges_sortRuns (compares : ComparesKeys less key proper) {atOnce : Bool} {room : Nat}
    {sort : List α → Outcome (List α)} (rearranges : Rearranges proper sort) :
    Rearranges proper (sortRuns less atOnce sort room) := by
  intro xs properXs
  cases xs with
  | nil => exact .refl _
  | cons x xs =>
      have positive := leastRun_pos (List.length_pos_of_ne_nil (List.cons_ne_nil x xs))
      refine (ensures_runs
        (fun _ nonempty proper => ensures_firstRun compares positive nonempty proper) 0
        properXs).bind fun pieces perm => ?_
      have properPieces := forall_mem_of_perm perm properXs
      cases pieces with
      | nil => exact perm
      | cons first rest =>
          obtain ⟨properFirst, properRest⟩ := List.forall_mem_append.mp properPieces
          refine (ensures_joinAll (fun _ _ => ensures_join rearranges)
            (by simp [waitingItems]) properFirst
            properRest).bind fun whole permWhole => ?_
          have permAll := permWhole.trans perm
          exact (ensures_sortedItems rearranges (forall_mem_of_perm permAll properXs)).imp
            fun sorted permSorted => permSorted.trans permAll

theorem rearranges_sortPiece (compares : ComparesKeys less key proper) :
    Rearranges proper (sortPiece less) := fun _ properXs =>
  rearranges_quicksort compares
    (rearranges_sortRuns compares fun _ properXs => ensures_smallSort compares properXs) _ none
      properXs

/-- A list is sorted without a crash if it is short, or if the comparison is that of the items'
keys. -/
theorem ensures_sort (orderly : xs.length ≤ maxInserted ∨
      ComparesKeys less key proper ∧ ∀ x ∈ xs, proper x) :
    Ensures (fun sorted => sorted.Perm xs) (sort less xs) := by
  rw [sort]
  refine ensuresUnless_ite.mpr ⟨fun _ => insertAll_perm xs, fun long => ?_⟩
  obtain ⟨compares, properXs⟩ := orderly.resolve_left long
  exact rearranges_sortRuns compares (rearranges_sortPiece compares) properXs

end Sorting
end Library
end Spreadsheet
