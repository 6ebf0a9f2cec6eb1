import Mathlib.Order.Lattice
import Mathlib.Order.OrderDual
import Mathlib.Algebra.Order.Group.Multiset
import Mathlib.Tactic.Abel
import Spreadsheet.Library.SmallSort
import Spreadsheet.Proofs.Library.Outcome

/-!
# Sorting a few items does not crash

If a comparison is that of the items' keys, the two ends of a merge meet: the items taken from the
front are the first ones of both halves, all of them before everything that is left, and the items
taken from the back are the last ones. Only one cut of two sorted halves has a given number of
items in front, so the cuts at the two ends are a single step apart at most.
-/

namespace Spreadsheet
namespace Library
namespace Sorting

variable {α κ : Type} [LinearOrder κ]

/-- On the items with a property, the comparison is that of their keys. -/
def ComparesKeys (less : α → α → Bool) (key : α → κ) (proper : α → Prop) : Prop :=
  ∀ ⦃x y⦄, proper x → proper y → (less x y ↔ key x < key y)

/-- The keys of the items ascend. -/
def Ascends (key : α → κ) (xs : List α) : Prop := xs.Pairwise fun x y => key x ≤ key y

variable {less : α → α → Bool} {key : α → κ} {proper : α → Prop} {left right xs ys : List α}
  {n count : Nat}

/-- The comparison the other way around is that of the keys in the dual order. -/
theorem ComparesKeys.dual (compares : ComparesKeys less key proper) :
    ComparesKeys (fun x y => less y x) (OrderDual.toDual ∘ key) proper :=
  fun _ _ properX properY => compares properY properX

theorem ascends_reverse : Ascends (OrderDual.toDual ∘ key) xs.reverse ↔ Ascends key xs :=
  List.pairwise_reverse

theorem forall_mem_of_perm (perm : xs.Perm ys) (properYs : ∀ y ∈ ys, proper y) :
    ∀ x ∈ xs, proper x :=
  fun x member => properYs x (perm.mem_iff.mp member)

/-! ## Insertion -/

theorem insertDescending_perm (x : α) : (insertDescending less x ys).Perm (x :: ys) := by
  induction ys with
  | nil => rfl
  | cons y ys ih =>
      rw [insertDescending]
      split
      · exact (ih.cons y).trans (.swap x y ys)
      · rfl

theorem insertAll_perm (items : List α) : (insertAll less xs items).Perm (xs ++ items) := by
  have folded (items descending : List α) :
      (items.foldl (fun descending x => insertDescending less x descending) descending).Perm
        (descending ++ items) := by
    induction items generalizing descending with
    | nil => rw [List.append_nil]; rfl
    | cons x items ih =>
        refine (ih _).trans (((insertDescending_perm x).append_right items).trans ?_)
        exact List.perm_middle.symm
  refine (List.reverse_perm _).trans ((folded items xs.reverse).trans ?_)
  exact (List.reverse_perm xs).append_right items

theorem descends_insertDescending (compares : ComparesKeys less key proper) {x : α}
    (properX : proper x) (properYs : ∀ y ∈ ys, proper y)
    (descends : Ascends (OrderDual.toDual ∘ key) ys) :
    Ascends (OrderDual.toDual ∘ key) (insertDescending less x ys) := by
  induction ys with
  | nil => exact List.pairwise_singleton _ _
  | cons y ys ih =>
      obtain ⟨properY, properYs⟩ := List.forall_mem_cons.mp properYs
      obtain ⟨first, descends⟩ := List.pairwise_cons.mp descends
      rw [insertDescending]
      split
      case isTrue isLess =>
        have lower := (compares properX properY).mp isLess
        refine List.pairwise_cons.mpr ⟨fun z member => ?_, ih properYs descends⟩
        rcases List.mem_cons.mp ((insertDescending_perm x).mem_iff.mp member) with rfl | member
        · exact lower.le
        · exact first z member
      case isFalse notLess =>
        have upper : key y ≤ key x := le_of_not_gt (mt (compares properX properY).mpr notLess)
        refine List.pairwise_cons.mpr ⟨?_, List.pairwise_cons.mpr ⟨first, descends⟩⟩
        rintro z member
        rcases List.mem_cons.mp member with rfl | member
        · exact upper
        · have lower : key z ≤ key y := first z member
          exact lower.trans upper

theorem ascends_insertAll (compares : ComparesKeys less key proper) (properXs : ∀ x ∈ xs, proper x)
    (properYs : ∀ y ∈ ys, proper y) (ascends : Ascends key xs) :
    Ascends key (insertAll less xs ys) := by
  have folded (items descending : List α) (properItems : ∀ x ∈ items, proper x)
      (properDescending : ∀ x ∈ descending, proper x)
      (descends : Ascends (OrderDual.toDual ∘ key) descending) :
      Ascends (OrderDual.toDual ∘ key)
        (items.foldl (fun descending x => insertDescending less x descending) descending) := by
    induction items generalizing descending with
    | nil => exact descends
    | cons x items ih =>
        obtain ⟨properX, properItems⟩ := List.forall_mem_cons.mp properItems
        refine ih _ properItems (fun y member => ?_)
          (descends_insertDescending compares properX properDescending descends)
        exact List.forall_mem_cons.mpr ⟨properX, properDescending⟩ y
          ((insertDescending_perm x).mem_iff.mp member)
  rw [← ascends_reverse, insertAll, List.reverse_reverse]
  exact folded ys xs.reverse properYs (fun x member => properXs x (List.mem_reverse.mp member))
    (ascends_reverse.mpr ascends)

/-! ## Four items -/

variable {a b c d : α}

theorem orderMiddle_perm : (orderMiddle less a b c d).Perm [a, b, c, d] := by
  rw [orderMiddle]
  split
  · exact (List.Perm.swap b c [d]).cons a
  · rfl

theorem orderPairs_perm : (orderPairs less a b c d).Perm [a, b, c, d] := by
  have behind : [a, c, d, b].Perm [a, b, c, d] :=
    (@List.perm_append_comm _ [c, d] [b]).cons a
  rw [orderPairs]
  split
  · exact orderMiddle_perm
  · exact orderMiddle_perm.trans behind
  · exact orderMiddle_perm.trans (@List.perm_middle _ c [a, b] [d]).symm
  · exact orderMiddle_perm.trans ((List.Perm.swap a c [d, b]).trans behind)

theorem orderTwo_perm : [(orderTwo less a b).1, (orderTwo less a b).2].Perm [a, b] := by
  rw [orderTwo]
  split
  · exact List.Perm.swap a b []
  · rfl

theorem sortFour_perm : (sortFour less a b c d).Perm [a, b, c, d] :=
  orderPairs_perm.trans (orderTwo_perm.append orderTwo_perm)

theorem ascends_orderMiddle (compares : ComparesKeys less key proper) (properB : proper b)
    (properC : proper c) (ab : key a ≤ key b) (ac : key a ≤ key c) (bd : key b ≤ key d)
    (cd : key c ≤ key d) : Ascends key (orderMiddle less a b c d) := by
  have ad := ab.trans bd
  rw [orderMiddle]
  split
  case isTrue swapped =>
    have cb := ((compares properC properB).mp swapped).le
    simp [Ascends, *]
  case isFalse kept =>
    have bc := le_of_not_gt (mt (compares properC properB).mpr kept)
    simp [Ascends, *]

theorem ascends_orderPairs (compares : ComparesKeys less key proper) (properA : proper a)
    (properB : proper b) (properC : proper c) (properD : proper d) (ab : key a ≤ key b)
    (cd : key c ≤ key d) : Ascends key (orderPairs less a b c d) := by
  have less_ca := compares properC properA
  have less_db := compares properD properB
  rw [orderPairs]
  cases ca : less c a <;> cases db : less d b <;> rw [ca] at less_ca <;> rw [db] at less_db <;>
    simp only [Bool.false_eq_true, false_iff, true_iff, not_lt] at less_ca less_db
  case false.false => exact ascends_orderMiddle compares properB properC ab less_ca less_db cd
  case false.true =>
    exact ascends_orderMiddle compares properC properD less_ca (less_ca.trans cd)
      (cd.trans less_db.le)
      less_db.le
  case true.false =>
    exact ascends_orderMiddle compares properA properB less_ca.le (less_ca.le.trans ab)
      (ab.trans less_db) less_db
  case true.true =>
    exact ascends_orderMiddle compares properA properD less_ca.le cd ab less_db.le

theorem ascends_orderTwo (compares : ComparesKeys less key proper) (properA : proper a)
    (properB : proper b) : key (orderTwo less a b).1 ≤ key (orderTwo less a b).2 := by
  have less_ba := compares properB properA
  rw [orderTwo]
  split
  case isTrue swapped => exact (less_ba.mp swapped).le
  case isFalse kept => exact le_of_not_gt (mt less_ba.mpr kept)

theorem ordered_sortFour (compares : ComparesKeys less key proper)
    (properFour : ∀ x ∈ [a, b, c, d], proper x) :
    (∀ x ∈ sortFour less a b c d, proper x) ∧ Ascends key (sortFour less a b c d) := by
  obtain ⟨properA, properB, properC, properD⟩ :
      proper a ∧ proper b ∧ proper c ∧ proper d := by simpa using properFour
  have ab : ∀ x ∈ [(orderTwo less a b).1, (orderTwo less a b).2], proper x :=
    forall_mem_of_perm orderTwo_perm (by simp [properA, properB])
  have cd : ∀ x ∈ [(orderTwo less c d).1, (orderTwo less c d).2], proper x :=
    forall_mem_of_perm orderTwo_perm (by simp [properC, properD])
  refine ⟨forall_mem_of_perm sortFour_perm properFour, ?_⟩
  exact ascends_orderPairs compares (ab _ (by simp)) (ab _ (by simp)) (cd _ (by simp))
    (cd _ (by simp))
    (ascends_orderTwo compares properA properB) (ascends_orderTwo compares properC properD)

/-! ## Taking the least items -/

theorem fromFirst_takeLeast_le : (takeLeast less n left right).fromFirst ≤ n := by
  fun_induction takeLeast less n left right with
  | case1 n x xs y ys isLess taken ih => exact Nat.le_succ_of_le ih
  | case2 n x xs y ys notLess taken ih => exact Nat.succ_le_succ ih
  | case3 n xs ys none => exact Nat.zero_le _

/-- Lists that are long enough do not run out. -/
theorem eq_zero_of_stuck
    (stuck : ∀ (m : Nat) (x : α) (xs : List α) (y : α) (ys : List α), n = m.succ → left = x :: xs →
      right = y :: ys → False)
    (inLeft : n ≤ left.length) (inRight : n ≤ right.length) : n = 0 := by
  by_contra positive
  obtain ⟨m, rfl⟩ := Nat.exists_eq_succ_of_ne_zero positive
  obtain ⟨x, xs, rfl⟩ :=
    List.exists_cons_of_length_pos (Nat.lt_of_succ_le inLeft |>.trans_le' m.zero_le)
  obtain ⟨y, ys, rfl⟩ :=
    List.exists_cons_of_length_pos (Nat.lt_of_succ_le inRight |>.trans_le' m.zero_le)
  exact stuck m x xs y ys rfl rfl rfl

/-- The items that are taken are the first ones of both lists. -/
theorem takeLeast_perm (inLeft : n ≤ left.length) (inRight : n ≤ right.length) :
    (takeLeast less n left right).items.Perm
      (left.take (takeLeast less n left right).fromFirst ++
        right.take (n - (takeLeast less n left right).fromFirst)) := by
  fun_induction takeLeast less n left right with
  | case1 n x xs y ys isLess taken ih =>
      have le : taken.fromFirst ≤ n := fromFirst_takeLeast_le
      rw [Nat.succ_sub le, List.take_succ_cons]
      exact ((ih (by omega) (by simpa using inRight)).cons y).trans List.perm_middle.symm
  | case2 n x xs y ys notLess taken ih =>
      rw [Nat.succ_sub_succ, List.take_succ_cons]
      exact (ih (by simpa using inLeft) (by omega)).cons x
  | case3 n xs ys none =>
      obtain rfl := eq_zero_of_stuck none inLeft inRight
      simp

theorem mem_of_mem_takeLeast {z : α} (member : z ∈ (takeLeast less n left right).items) :
    z ∈ left ∨ z ∈ right := by
  fun_induction takeLeast less n left right with
  | case1 n x xs y ys isLess taken ih =>
      rcases List.mem_cons.mp member with rfl | member
      · exact .inr List.mem_cons_self
      · exact (ih member).imp_right (List.mem_cons_of_mem y)
  | case2 n x xs y ys notLess taken ih =>
      rcases List.mem_cons.mp member with rfl | member
      · exact .inl List.mem_cons_self
      · exact (ih member).imp_left (List.mem_cons_of_mem x)
  | case3 n xs ys none => cases member

/-- Cuts of two lists such that everything in front of them comes before everything behind them in
the other list, where items of the first list precede equal ones of the second. -/
structure IsCut (key : α → κ) (left right : List α) (i j : Nat) : Prop where
  /-- What is in front in the first list. -/
  leftFirst : ∀ x ∈ left.take i, ∀ y ∈ right.drop j, key x ≤ key y
  /-- What is in front in the second list. -/
  rightFirst : ∀ y ∈ right.take j, ∀ x ∈ left.drop i, key y < key x

/-- The items that are taken are in order, and they come before everything that is left. -/
theorem isCut_takeLeast (compares : ComparesKeys less key proper)
    (properLeft : ∀ x ∈ left, proper x) (properRight : ∀ y ∈ right, proper y)
    (ascendsLeft : Ascends key left)
    (ascendsRight : Ascends key right) (inLeft : n ≤ left.length) (inRight : n ≤ right.length) :
    IsCut key left right (takeLeast less n left right).fromFirst
        (n - (takeLeast less n left right).fromFirst) ∧
      Ascends key (takeLeast less n left right).items := by
  fun_induction takeLeast less n left right with
  | case1 n x xs y ys isLess taken ih =>
      obtain ⟨properY, properYs⟩ := List.forall_mem_cons.mp properRight
      obtain ⟨firstRight, ascendsYs⟩ := List.pairwise_cons.mp ascendsRight
      obtain ⟨cut, ascends⟩ := ih properLeft properYs ascendsLeft ascendsYs (by omega)
        (by simpa using inRight)
      have le : taken.fromFirst ≤ n := fromFirst_takeLeast_le
      have lower := (compares properY (properLeft x List.mem_cons_self)).mp isLess
      have lowerLeft : ∀ z ∈ x :: xs, key y < key z :=
        List.forall_mem_cons.mpr ⟨lower, fun z member =>
          lower.trans_le ((List.pairwise_cons.mp ascendsLeft).1 z member)⟩
      refine ⟨?_, List.pairwise_cons.mpr ⟨fun z member => ?_, ascends⟩⟩
      · rw [Nat.succ_sub le]
        refine ⟨cut.leftFirst, List.forall_mem_cons.mpr ⟨fun z member => ?_, cut.rightFirst⟩⟩
        exact lowerLeft z (List.mem_of_mem_drop member)
      · exact (mem_of_mem_takeLeast member).elim (fun member => (lowerLeft z member).le)
          (firstRight z)
  | case2 n x xs y ys notLess taken ih =>
      obtain ⟨properX, properXs⟩ := List.forall_mem_cons.mp properLeft
      obtain ⟨firstLeft, ascendsXs⟩ := List.pairwise_cons.mp ascendsLeft
      obtain ⟨cut, ascends⟩ := ih properXs properRight ascendsXs ascendsRight
        (by simpa using inLeft) (by omega)
      have lower :=
        le_of_not_gt (mt (compares (properRight y List.mem_cons_self) properX).mpr notLess)
      have lowerRight : ∀ z ∈ y :: ys, key x ≤ key z :=
        List.forall_mem_cons.mpr ⟨lower, fun z member =>
          lower.trans ((List.pairwise_cons.mp ascendsRight).1 z member)⟩
      refine ⟨?_, List.pairwise_cons.mpr ⟨fun z member => ?_, ascends⟩⟩
      · rw [Nat.succ_sub_succ]
        refine ⟨List.forall_mem_cons.mpr ⟨fun z member => ?_, cut.leftFirst⟩, cut.rightFirst⟩
        exact lowerRight z (List.mem_of_mem_drop member)
      · exact (mem_of_mem_takeLeast member).elim (firstLeft z) (lowerRight z)
  | case3 n xs ys none =>
      obtain rfl := eq_zero_of_stuck none inLeft inRight
      exact ⟨⟨by simp, by simp⟩, List.Pairwise.nil⟩

theorem getElem_mem_between {k i : Nat} (less : k < i) (inside : i ≤ xs.length) :
    xs[k] ∈ xs.take i ∧ xs[k] ∈ xs.drop k :=
  ⟨List.mem_take_iff_getElem.mpr ⟨k, by omega, rfl⟩,
    List.mem_drop_iff_getElem.mpr ⟨0, by omega, by simp⟩⟩

/-- Of two cuts, the one further along in the first list is not less far along in the second. -/
theorem IsCut.le_of_lt {i j k l : Nat} (cut : IsCut key left right i j)
    (other : IsCut key left right k l) (less : k < i) (inLeft : i ≤ left.length)
    (inRight : l ≤ right.length) : l ≤ j := by
  by_contra further
  rw [not_le] at further
  obtain ⟨inFrontLeft, behindLeft⟩ := getElem_mem_between less inLeft
  obtain ⟨inFrontRight, behindRight⟩ := getElem_mem_between further inRight
  exact (other.rightFirst _ inFrontRight _ behindLeft).not_ge
    (cut.leftFirst _ inFrontLeft _ behindRight)

/-- A cut of the reversed lists in the dual order is one of the lists. -/
theorem IsCut.reverse {i j : Nat}
    (cut : IsCut (OrderDual.toDual ∘ key) right.reverse left.reverse i j) :
    IsCut key left right (left.length - j) (right.length - i) := by
  constructor
  · intro x memberX y memberY
    refine cut.leftFirst y ?_ x ?_
    · rw [List.take_reverse]
      exact List.mem_reverse.mpr memberY
    · rw [List.drop_reverse]
      exact List.mem_reverse.mpr memberX
  · intro y memberY x memberX
    refine cut.rightFirst x ?_ y ?_
    · rw [List.take_reverse]
      exact List.mem_reverse.mpr memberX
    · rw [List.drop_reverse]
      exact List.mem_reverse.mpr memberY

/-- What is in front of a cut comes before what is behind it. -/
theorem IsCut.le {i j : Nat} {x y : α} (cut : IsCut key left right i j)
    (ascendsLeft : Ascends key left) (ascendsRight : Ascends key right)
    (inFront : x ∈ left.take i ∨ x ∈ right.take j)
    (behind : y ∈ left.drop i ∨ y ∈ right.drop j) : key x ≤ key y := by
  have within {zs : List α} {k : Nat} (ascends : Ascends key zs) (inFront : x ∈ zs.take k)
      (behind : y ∈ zs.drop k) : key x ≤ key y := by
    rw [← List.take_append_drop k zs] at ascends
    exact (List.pairwise_append.mp ascends).2.2 x inFront y behind
  rcases inFront with inFront | inFront <;> rcases behind with behind | behind
  · exact within ascendsLeft inFront behind
  · exact cut.leftFirst x inFront y behind
  · exact (cut.rightFirst x inFront y behind).le
  · exact within ascendsRight inFront behind

/-! ## Merging from both ends -/

theorem take_append_middle_append_drop {i j : Nat} (le : i ≤ j) :
    xs.take i ++ ((xs.take j).drop i ++ xs.drop j) = xs := by
  calc xs.take i ++ ((xs.take j).drop i ++ xs.drop j)
      = (xs.take j).take i ++ (xs.take j).drop i ++ xs.drop j := by
        rw [List.take_take, min_eq_left le, List.append_assoc]
    _ = xs := by rw [List.take_append_drop, List.take_append_drop]

/-- The items that are taken from the back are the last ones of both halves. -/
theorem takeLeast_reverse_perm (notLonger : left.length ≤ right.length) :
    (takeLeast less left.length right.reverse left.reverse).items.Perm
      (right.drop
        (right.length - (takeLeast less left.length right.reverse left.reverse).fromFirst) ++
        left.drop (takeLeast less left.length right.reverse left.reverse).fromFirst) := by
  have le : (takeLeast less left.length right.reverse left.reverse).fromFirst ≤ left.length :=
    fromFirst_takeLeast_le
  have perm := @takeLeast_perm _ less right.reverse left.reverse left.length
    (by simpa using notLonger) (by simp)
  rw [List.take_reverse, List.take_reverse, Nat.sub_sub_self le] at perm
  exact perm.trans ((List.reverse_perm _).append (List.reverse_perm _))

section Joined

variable {front back : List α} {i j k l : Nat}
  (frontPerm : front.Perm (left.take i ++ right.take k))
  (backPerm : back.Perm (right.drop l ++ left.drop j))
  (leftMeets : i ≤ j) (rightMeets : k ≤ l)

include frontPerm backPerm leftMeets rightMeets

/-- What the two ends take and what lies between them are the items of both lists. -/
theorem joined_perm :
    (front ++ (left.take j).drop i ++ (right.take l).drop k ++ back.reverse).Perm
      (left ++ right) := by
  rw [← Multiset.coe_eq_coe] at frontPerm backPerm ⊢
  have leftParts := congrArg (fun zs : List α => (zs : Multiset α))
    (@take_append_middle_append_drop _ left i j leftMeets)
  have rightParts := congrArg (fun zs : List α => (zs : Multiset α))
    (@take_append_middle_append_drop _ right k l rightMeets)
  simp only [← Multiset.coe_add, Multiset.coe_reverse] at *
  rw [frontPerm, backPerm, ← leftParts, ← rightParts]
  abel

/-- What lies between the two ends is in order if it is one item at most. -/
theorem ascends_joined (frontCut : IsCut key left right i k) (backCut : IsCut key left right j l)
    (ascendsLeft : Ascends key left) (ascendsRight : Ascends key right)
    (ascendsFront : Ascends key front) (ascendsBack : Ascends key back.reverse)
    (single : (j - i) + (l - k) ≤ 1) :
    Ascends key (front ++ (left.take j).drop i ++ (right.take l).drop k ++ back.reverse) := by
  have inFront {x : α} (member : x ∈ front) : x ∈ left.take i ∨ x ∈ right.take k :=
    List.mem_append.mp (frontPerm.mem_iff.mp member)
  have inBack {x : α} (member : x ∈ back.reverse) : x ∈ left.drop j ∨ x ∈ right.drop l :=
    (List.mem_append.mp (backPerm.mem_iff.mp (List.mem_reverse.mp member))).symm
  have inMiddle {x : α} (member : x ∈ (left.take j).drop i ++ (right.take l).drop k) :
      (x ∈ left.drop i ∨ x ∈ right.drop k) ∧ (x ∈ left.take j ∨ x ∈ right.take l) := by
    rcases List.mem_append.mp member with member | member
    · refine ⟨.inl ?_, .inl (List.mem_of_mem_drop member)⟩
      rw [List.drop_take] at member
      exact List.mem_of_mem_take member
    · refine ⟨.inr ?_, .inr (List.mem_of_mem_drop member)⟩
      rw [List.drop_take] at member
      exact List.mem_of_mem_take member
  have behindFront {x : α} (behind : x ∈ left.drop j ∨ x ∈ right.drop l) :
      x ∈ left.drop i ∨ x ∈ right.drop k :=
    behind.imp (fun member => List.drop_subset_drop_left left leftMeets member)
      (fun member => List.drop_subset_drop_left right rightMeets member)
  have ascendsMiddle : Ascends key ((left.take j).drop i ++ (right.take l).drop k) := by
    refine List.pairwise_iff_getElem.mpr fun m n _ inside less => ?_
    simp only [List.length_append, List.length_drop, List.length_take] at inside
    omega
  rw [List.append_assoc front, List.append_assoc front]
  refine List.pairwise_append.mpr
    ⟨ascendsFront, List.pairwise_append.mpr ⟨ascendsMiddle, ascendsBack, ?_⟩, ?_⟩
  · intro x memberX y memberY
    exact backCut.le ascendsLeft ascendsRight (inMiddle memberX).2 (inBack memberY)
  · intro x memberX y memberY
    refine frontCut.le ascendsLeft ascendsRight (inFront memberX) ?_
    rcases List.mem_append.mp memberY with memberY | memberY
    · exact (inMiddle memberY).1
    · exact behindFront (inBack memberY)

end Joined

/-- Two halves that ascend are merged without a crash. -/
theorem ensures_mergeHalves (compares : ComparesKeys less key proper)
    (properLeft : ∀ x ∈ left, proper x) (properRight : ∀ y ∈ right, proper y)
    (ascendsLeft : Ascends key left) (ascendsRight : Ascends key right)
    (notLonger : left.length ≤ right.length) (almost : right.length ≤ left.length + 1) :
    Ensures (fun merged => merged.Perm (left ++ right) ∧ Ascends key merged)
      (mergeHalves less left right) := by
  obtain ⟨frontCut, ascendsFront⟩ :=
    isCut_takeLeast compares properLeft properRight ascendsLeft ascendsRight le_rfl notLonger
  obtain ⟨backCut, ascendsBack⟩ :=
    isCut_takeLeast (n := left.length) compares.dual
      (fun y member => properRight y (List.mem_reverse.mp member))
      (fun x member => properLeft x (List.mem_reverse.mp member))
      (ascends_reverse.mpr ascendsRight) (ascends_reverse.mpr ascendsLeft)
      (by simpa using notLonger) (by simp)
  have frontPerm := @takeLeast_perm _ less left right left.length le_rfl notLonger
  have backPerm := @takeLeast_reverse_perm _ (fun x y => less y x) left right notLonger
  rw [mergeHalves]
  have frontLe : (takeLeast less left.length left right).fromFirst ≤ left.length :=
    fromFirst_takeLeast_le
  have backLe :
      (takeLeast (fun x y => less y x) left.length right.reverse left.reverse).fromFirst ≤
        left.length :=
    fromFirst_takeLeast_le
  generalize takeLeast less left.length left right = front at *
  generalize takeLeast (fun x y => less y x) left.length right.reverse left.reverse = back at *
  replace backCut := backCut.reverse
  rw [Nat.sub_sub_self backLe] at backCut
  -- No more items are in front of the first cut than in front of the second, so the two cannot
  -- cross.
  have leftMeets : front.fromFirst ≤ back.fromFirst := by
    by_contra crossed
    have := frontCut.le_of_lt backCut (by omega) frontLe (by omega)
    omega
  have rightMeets : left.length - front.fromFirst ≤ right.length - back.fromFirst := by
    by_contra crossed
    have := backCut.le_of_lt frontCut (by omega) (by omega) (by omega)
    omega
  rw [if_pos ⟨leftMeets, rightMeets⟩]
  refine ⟨joined_perm frontPerm backPerm leftMeets rightMeets, ?_⟩
  refine ascends_joined frontPerm backPerm leftMeets rightMeets frontCut backCut ascendsLeft
    ascendsRight
    ascendsFront ?_ (by omega)
  exact ascends_reverse.mp (by rwa [List.reverse_reverse])

/-! ## The small sort -/

/-- Items inserted behind four that are sorted. -/
theorem ordered_insertAll_sortFour (compares : ComparesKeys less key proper)
    (properAll : ∀ x ∈ a :: b :: c :: d :: xs, proper x) :
    (insertAll less (sortFour less a b c d) xs).Perm (a :: b :: c :: d :: xs) ∧
      Ascends key (insertAll less (sortFour less a b c d) xs) := by
  obtain ⟨properFour, properRest⟩ :=
    List.forall_mem_append.mp (show ∀ x ∈ [a, b, c, d] ++ xs, proper x from properAll)
  obtain ⟨properSorted, ascendsSorted⟩ := ordered_sortFour compares properFour
  exact ⟨(insertAll_perm xs).trans (sortFour_perm.append_right xs),
    ascends_insertAll compares properSorted properRest ascendsSorted⟩

theorem ordered_insertAll_nil (compares : ComparesKeys less key proper)
    (properXs : ∀ x ∈ xs, proper x) :
    (insertAll less [] xs).Perm xs ∧ Ascends key (insertAll less [] xs) :=
  ⟨insertAll_perm xs, ascends_insertAll compares (by simp) properXs List.Pairwise.nil⟩

theorem ensures_sortHalf (compares : ComparesKeys less key proper)
    (properXs : ∀ x ∈ xs, proper x) :
    Ensures (fun sorted => sorted.Perm xs ∧ Ascends key sorted) (sortHalf less count xs) := by
  fun_cases sortHalf less count xs with
  | case1 a b c d e f g h rest long =>
      obtain ⟨properEight, properRest⟩ :=
        List.forall_mem_append.mp
          (show ∀ x ∈ [a, b, c, d, e, f, g, h] ++ rest, proper x from properXs)
      obtain ⟨properFirst, ascendsFirst⟩ :=
        @ordered_sortFour _ _ _ _ _ _ a b c d compares fun x member =>
        properEight x (List.mem_append_left [e, f, g, h] member)
      obtain ⟨properNext, ascendsNext⟩ :=
        @ordered_sortFour _ _ _ _ _ _ e f g h compares fun x member =>
        properEight x (List.mem_append_right [a, b, c, d] member)
      have merged := ensures_mergeHalves compares properFirst properNext ascendsFirst ascendsNext
        (by simp [sortFour_perm.length_eq]) (by simp [sortFour_perm.length_eq])
      refine merged.bind fun eight sorted => ?_
      have perm : eight.Perm [a, b, c, d, e, f, g, h] :=
        sorted.1.trans (sortFour_perm.append sortFour_perm)
      exact ⟨(insertAll_perm rest).trans (perm.append_right rest),
        ascends_insertAll compares (forall_mem_of_perm perm properEight) properRest sorted.2⟩
  | case2 a b c d e f g h rest short => exact ordered_insertAll_sortFour compares properXs
  | case3 a b c d rest few long => exact ordered_insertAll_sortFour compares properXs
  | case4 a b c d rest few short => exact ordered_insertAll_nil compares properXs
  | case5 => exact ordered_insertAll_nil compares properXs

/-- A few items are sorted without a crash. -/
theorem ensures_smallSort (compares : ComparesKeys less key proper)
    (properXs : ∀ x ∈ xs, proper x) :
    Ensures (fun sorted => sorted.Perm xs) (smallSort less xs) := by
  have properLeft : ∀ x ∈ xs.take (xs.length / 2), proper x := fun x member =>
    properXs x (List.mem_of_mem_take member)
  have properRight : ∀ x ∈ xs.drop (xs.length / 2), proper x := fun x member =>
    properXs x (List.mem_of_mem_drop member)
  refine (ensures_sortHalf compares properLeft).bind fun left sortedLeft => ?_
  refine (ensures_sortHalf compares properRight).bind fun right sortedRight => ?_
  have lengthLeft := sortedLeft.1.length_eq
  have lengthRight := sortedRight.1.length_eq
  rw [List.length_take] at lengthLeft
  rw [List.length_drop] at lengthRight
  refine (ensures_mergeHalves compares (forall_mem_of_perm sortedLeft.1 properLeft)
    (forall_mem_of_perm sortedRight.1 properRight) sortedLeft.2 sortedRight.2 (by omega)
    (by omega)).imp fun merged sorted => ?_
  refine sorted.1.trans ((sortedLeft.1.append sortedRight.1).trans ?_)
  rw [List.take_append_drop]

end Sorting
end Library
end Spreadsheet
