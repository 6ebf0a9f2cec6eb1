import Spreadsheet.Library.Definition

/-!
# Sorting a few items

Up to 32 items are sorted in two halves: the first items of a half by a fixed pattern of
comparisons, the others by insertion, and then the halves are merged from both ends at once. The
merge relies on a comparison that orders the items. Where the comparison does not, the two ends may
disagree on what is left between them; the merge notices that and crashes.
-/

namespace Spreadsheet
namespace Library
namespace Sorting

variable {α : Type} (less : α → α → Bool)

/-- Inserts an item into a descending list, in front of the items that are not greater. -/
def insertDescending (x : α) : List α → List α
  | [] => [x]
  | y :: ys => if less x y then y :: insertDescending x ys else x :: y :: ys

/-- Inserts items into an ascending list, one after the other. -/
def insertAll (sorted items : List α) : List α :=
  (items.foldl (fun descending x => insertDescending less x descending) sorted.reverse).reverse

/-- Two items in order. -/
def orderTwo (x y : α) : α × α := if less y x then (y, x) else (x, y)

/-- Four items in order, of which the least, the greatest and the order in which the other two
stood are known. -/
def orderMiddle (least left right greatest : α) : List α :=
  if less right left then [least, right, left, greatest] else [least, left, right, greatest]

/-- Four items in order, from two pairs that are in order. -/
def orderPairs (a b c d : α) : List α :=
  match less c a, less d b with
  | false, false => orderMiddle less a b c d
  | false, true => orderMiddle less a c d b
  | true, false => orderMiddle less c a b d
  | true, true => orderMiddle less c a d b

/-- Four items in order. -/
def sortFour (a b c d : α) : List α :=
  let first := orderTwo less a b
  let second := orderTwo less c d
  orderPairs less first.1 first.2 second.1 second.2

/-- What was taken from the front of two lists. -/
structure Taken (α : Type) where
  /-- The items, in the order in which they were taken. -/
  items : List α
  /-- How many of them come from the first list. -/
  fromFirst : Nat

/-- Takes a number of items from the front of two lists, always the less of the two heads, and the
head of the first list if neither is less. It ends when a list runs out. -/
def takeLeast : Nat → List α → List α → Taken α
  | n + 1, x :: xs, y :: ys =>
    if less y x then
      let taken := takeLeast n (x :: xs) ys
      ⟨y :: taken.items, taken.fromFirst⟩
    else
      let taken := takeLeast n xs (y :: ys)
      ⟨x :: taken.items, taken.fromFirst + 1⟩
  | _, _, _ => ⟨[], 0⟩

/-- Merges two sorted halves, the second of which may be longer by one. As many items as the first
half has are taken from the front and as many from the back, and what lies between stays there. It
is a crash if an item was taken from both ends. -/
def mergeHalves (left right : List α) : Outcome (List α) :=
  let front := takeLeast less left.length left right
  let back := takeLeast (fun x y => less y x) left.length right.reverse left.reverse
  -- The ends of what is left of each half: the back took the rest of its items from the left half.
  let leftFirst := front.fromFirst
  let leftLast := back.fromFirst
  let rightFirst := left.length - front.fromFirst
  let rightLast := right.length - back.fromFirst
  if leftFirst ≤ leftLast ∧ rightFirst ≤ rightLast then
    .ok (front.items ++ (left.take leftLast).drop leftFirst ++
      (right.take rightLast).drop rightFirst ++ back.items.reverse)
  else
    crash

/-- Sorts one half of a list with a number of items. -/
def sortHalf (count : Nat) : List α → Outcome (List α)
  | a :: b :: c :: d :: e :: f :: g :: h :: rest => do
    if 16 ≤ count then
      let eight ← mergeHalves less (sortFour less a b c d) (sortFour less e f g h)
      return insertAll less eight rest
    else
      return insertAll less (sortFour less a b c d) (e :: f :: g :: h :: rest)
  | a :: b :: c :: d :: rest =>
    if 8 ≤ count then .ok (insertAll less (sortFour less a b c d) rest)
    else .ok (insertAll less [] (a :: b :: c :: d :: rest))
  | few => .ok (insertAll less [] few)

/-- The greatest number of items that are sorted in two halves. -/
def maxSmall : Nat := 32

/-- Sorts a few items in two halves. -/
def smallSort (xs : List α) : Outcome (List α) := do
  let half := xs.length / 2
  let left ← sortHalf less xs.length (xs.take half)
  let right ← sortHalf less xs.length (xs.drop half)
  mergeHalves less left right

end Sorting
end Library
end Spreadsheet
