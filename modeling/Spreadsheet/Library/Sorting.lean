import Spreadsheet.Library.SmallSort

/-!
# Sorting

The stable sort of a list of numbers of eight bytes by a comparison. Short lists are sorted by
insertion. In a longer list, stretches that are in order already become runs, what lies between
them is sorted in pieces, and the runs are merged in the order of a balanced tree. Pieces without
order are sorted by quicksort, with a limit on the depth after which runs are sorted a few items at
a time.
-/

namespace Spreadsheet
namespace Library
namespace Sorting

variable {α : Type} (less : α → α → Bool)

/-! ## Quicksort -/

/-- The item at one place is less than the item at another. -/
def lessAt (xs : List α) (i j : Nat) : Bool :=
  match xs[i]?, xs[j]? with
  | some x, some y => less x y
  | _, _ => false

/-- Which of three places has the middle item. -/
def medianOfThree (xs : List α) (a b c : Nat) : Nat :=
  let below := lessAt less xs a b
  if below == lessAt less xs a c then
    if lessAt less xs b c == below then b else c
  else
    a

/-- The place of a middle item of three stretches that begin at given places and are equally
long. -/
def pseudoMedian (xs : List α) (a b c length : Nat) : Nat :=
  if 8 ≤ length then
    let eighth := length / 8
    let middle (first : Nat) : Nat :=
      pseudoMedian xs first (first + 4 * eighth) (first + 7 * eighth) eighth
    medianOfThree less xs (middle a) (middle b) (middle c)
  else
    medianOfThree less xs a b c
termination_by length

/-- The place of the pivot. -/
def pivotIndex (xs : List α) : Nat :=
  let eighth := xs.length / 8
  pseudoMedian less xs 0 (4 * eighth) (7 * eighth) eighth

/-- The items that go to the left, and the others. The pivot goes where it is told. -/
def partition (goesLeft : α → Bool) (pivotGoesLeft : Bool) (before : List α) (pivot : α)
    (after : List α) : List α × List α :=
  (before.filter goesLeft ++ (if pivotGoesLeft then [pivot] else []) ++ after.filter goesLeft,
    before.filter (! goesLeft ·) ++ (if pivotGoesLeft then [] else [pivot]) ++
      after.filter (! goesLeft ·))

/-- Sorts by parting the items at a pivot. If no item is less than the pivot, or if the pivot is
not greater than the one that all items have been parted from, the items that are not greater are
in place already. A list that has been parted too often is sorted by `fallback`. -/
def quicksort (fallback : List α → Outcome (List α)) :
    Nat → Option α → List α → Outcome (List α)
  | 0, _, xs => if xs.length ≤ maxSmall then smallSort less xs else fallback xs
  | limit + 1, ancestor, xs =>
    if xs.length ≤ maxSmall then smallSort less xs
    else
      let place := pivotIndex less xs
      match xs.drop place with
      | [] => crash
      | pivot :: after => do
        let before := xs.take place
        let (lower, upper) := partition (less · pivot) false before pivot after
        if ancestor.any (! less · pivot) || lower.isEmpty then
          let (placed, rest) := partition (! less pivot ·) true before pivot after
          return placed ++ (← quicksort fallback limit none rest)
        else
          let sortedUpper ← quicksort fallback limit (some pivot) upper
          return (← quicksort fallback limit ancestor lower) ++ sortedUpper

/-! ## Runs -/

/-- A stretch of the list. -/
structure Run (α : Type) where
  /-- The items. -/
  items : List α
  /-- The items are in order. -/
  isSorted : Bool

/-- How many items at the front of a list continue one another. -/
def stretch (continues : α → α → Bool) : List α → Nat
  | x :: y :: ys => if continues x y then stretch continues (y :: ys) + 1 else 1
  | xs => xs.length

/-- The list begins with a descent. -/
def descends : List α → Bool
  | x :: y :: _ => less y x
  | _ => false

/-- The first run of a list. A stretch of the least length that is in order is a run, and one that
descends is turned around. Else the run is a number of items, sorted at once or left for later. -/
def firstRun (atOnce : Bool) (least : Nat) (xs : List α) : Outcome (Run α) := do
  let descending := descends less xs
  let length := stretch (fun x y => less y x == descending) xs
  if least ≤ length then
    return ⟨if descending then (xs.take length).reverse else xs.take length, true⟩
  else if atOnce then
    return ⟨← smallSort less (xs.take maxSmall), true⟩
  else
    return ⟨xs.take least, false⟩

/-- Cuts a list into runs. The first items, a number of them, belong to a run already. -/
def runs (first : List α → Outcome (Run α)) : Nat → List α → Outcome (List (Run α))
  | _, [] => .ok []
  | skipped + 1, _ :: xs => runs first skipped xs
  | 0, x :: xs => do
    let run ← first (x :: xs)
    return run :: (← runs first (run.items.length - 1) xs)

/-! ## Merging runs -/

/-- Merges two sorted lists, beginning at the end where the shorter one is. -/
def mergeSorted (left right : List α) : List α :=
  if left.length ≤ right.length then left.merge right fun x y => !less y x
  else (right.reverse.merge left.reverse fun y x => !less y x).reverse

/-- The items of a run in order. -/
def sortedItems (sort : List α → Outcome (List α)) (run : Run α) : Outcome (List α) :=
  if run.isSorted then .ok run.items else sort run.items

/-- Joins two neighbouring runs. Two unsorted ones stay unsorted if there is room to sort them
later. -/
def join (sort : List α → Outcome (List α)) (room : Nat) (left right : Run α) :
    Outcome (Run α) := do
  if room < left.items.length + right.items.length ∨ left.isSorted ∨ right.isSorted then
    let first ← sortedItems sort left
    let second ← sortedItems sort right
    return ⟨mergeSorted less first second, true⟩
  else
    return ⟨left.items ++ right.items, false⟩

/-- A run that waits for what follows it, with the depth of the tree at which the two are
joined. -/
structure Waiting (α : Type) where
  /-- The run. -/
  run : Run α
  /-- The depth. -/
  depth : Nat

/-- Joins a run with the waiting ones in front of it that lie at a depth or deeper. -/
def collapse (joining : Run α → Run α → Outcome (Run α)) (depth : Nat) :
    List (Waiting α) → Run α → Outcome (List (Waiting α) × Run α)
  | [], run => .ok ([], run)
  | top :: below, run =>
    if top.depth < depth then .ok (top :: below, run)
    else do collapse joining depth below (← joining top.run run)

/-- The number of zeros in front of a number of 64 bits. -/
def leadingZeros (n : Nat) : Nat := if n = 0 then 64 else 63 - n.log2

/-- The depth at which two neighbouring runs are joined: that of the node of a balanced tree over
the whole list that lies between their middles. -/
def depthBetween (count first middle last : Nat) : Nat :=
  let scale := (Nat.pow 2 62 + count - 1) / count
  leadingZeros (scale * (first + middle) ^^^ scale * (middle + last))

/-- Joins a run, the waiting ones in front of it and those that follow it. The run ends behind
`done` items of a list with `count` items. -/
def joinAll (joining : Run α → Run α → Outcome (Run α)) (count : Nat) (waiting : List (Waiting α))
    (run : Run α) (done : Nat) : List (Run α) → Outcome (Run α)
  | [] => do return (← collapse joining 0 waiting run).2
  | next :: rest => do
    let last := done + next.items.length
    let depth := depthBetween count (done - run.items.length) done last
    let (waiting, run) ← collapse joining depth waiting run
    joinAll joining count (⟨run, depth⟩ :: waiting) next last rest

/-- The least length of a run that is in order already. -/
def leastRun (count : Nat) : Nat :=
  if count ≤ 4096 then min (count - count / 2) 64
  else
    let shift := (1 + (count ||| 1).log2) / 2
    (Nat.pow 2 shift + count / Nat.pow 2 shift) / 2

/-- Sorts by runs. Pieces that are not in order are sorted at once or, by `sort`, when they are
joined. -/
def sortRuns (atOnce : Bool) (sort : List α → Outcome (List α)) (room : Nat) (xs : List α) :
    Outcome (List α) := do
  match ← runs (firstRun less atOnce (leastRun xs.length)) 0 xs with
  | [] => return []
  | first :: rest =>
    sortedItems sort (← joinAll (join less sort room) xs.length [] first first.items.length rest)

/-! ## The sort -/

/-- Sorts a piece of a list without order. -/
def sortPiece (xs : List α) : Outcome (List α) :=
  quicksort less (sortRuns less true (smallSort less) 0) (2 * (xs.length ||| 1).log2) none xs

/-- How many numbers the room for sorting a list holds. -/
def roomFor (count : Nat) : Nat :=
  max 512 (max (count - count / 2) (min count 1000000))

/-- The greatest number of items that are sorted by insertion. -/
def maxInserted : Nat := 20

/-- Sorts a list by a comparison, where items neither of which is less keep their order. -/
def sort (xs : List α) : Outcome (List α) :=
  if xs.length ≤ maxInserted then .ok (insertAll less [] xs)
  else sortRuns less (xs.length ≤ 2 * maxSmall) (sortPiece less) (roomFor xs.length) xs

end Sorting
end Library
end Spreadsheet
