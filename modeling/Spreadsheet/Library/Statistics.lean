import Spreadsheet.Library.Arguments
import Spreadsheet.Library.Sorting

/-!
# Statistical functions

Means, extremes, order statistics and the variance of a sample.
-/

namespace Spreadsheet
namespace Library
namespace Statistics

/-- The mean of all numbers. -/
def average (arguments : List Value) : Outcome Value := do
  return .number (← mean (← numbers arguments))

/-- The less of two numbers; NaN gives way to a number. -/
def lesser (x y : Float) : Float := if x.isNaN || y < x then y else x

/-- The greater of two numbers; NaN gives way to a number. -/
def greater (x y : Float) : Float := if x.isNaN || x < y then y else x

/-- The extreme of all numbers, and zero if there are none. -/
def extreme (choose : Float → Float → Float) (arguments : List Value) : Outcome Value := do
  match ← numbers arguments with
  | [] => return .number 0.0
  | x :: xs => return .number (xs.foldl choose x)

/-- Numbers in ascending order. NaN counts as equal to every number, which is no order: where it is
among the numbers they may end in any order, and the sort of many of them may crash. -/
def ascending (xs : List Float) : Outcome (List Float) := Sorting.sort (fun x y => x < y) xs

/-- The middle number, or the mean of the two in the middle. -/
def median (arguments : List Value) : Outcome Value := do
  let xs ← ascending (← numbers arguments)
  if xs.isEmpty then fail .number
  else
    let half := xs.length / 2
    let upper ← orCrash xs[half]?
    if xs.length % 2 = 0 then
      let lower ← orCrash xs[← predecessor half]?
      return .number ((lower + upper) / 2.0)
    else
      return .number upper

/-- The squared distances from the mean, divided by one less than their number. -/
def variance (arguments : List Value) : Outcome Float := do
  let xs ← numbers arguments
  if xs.length < 2 then fail .divisionByZero
  else
    let n := Float.ofNat xs.length
    let centre := sum xs / n
    let squares := xs.map fun x => Double.powInt (x - centre) 2
    return sum squares / (n - 1.0)

/-- The variance of all numbers as a sample. -/
def sampleVariance (arguments : List Value) : Outcome Value := do
  return .number (← variance arguments)

/-- The standard deviation of all numbers as a sample. -/
def standardDeviation (arguments : List Value) : Outcome Value := do
  return .number (← variance arguments).sqrt

/-- The number with a given rank in an ordering of the numbers of the first argument. -/
def ranked (order : List Float → List Float) (argument rank : Value) : Outcome Value := do
  let xs := order (← ascending (← numbers [argument]))
  let k ← integer rank
  if k < 1 ∨ xs.length < k.toNat then fail .number
  else return .number (← orCrash xs[← predecessor k.toNat]?)

/-- The statistical functions of the library. -/
def definitions : List Definition :=
  [ .variadic "AVERAGE" average,
    .variadic "MIN" (extreme lesser),
    .variadic "MAX" (extreme greater),
    .variadic "MEDIAN" median,
    .variadic "VAR" sampleVariance,
    .variadic "STDEV" standardDeviation,
    .binary "LARGE" (ranked List.reverse),
    .binary "SMALL" (ranked id) ]

end Statistics
end Library
end Spreadsheet
