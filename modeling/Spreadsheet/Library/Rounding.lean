import Spreadsheet.Library.Arguments

/-!
# Rounding functions

Rounding to a number of decimal places, to a multiple, and to whole numbers.
-/

namespace Spreadsheet
namespace Library
namespace Rounding

/-- The power of ten that moves as many decimal places in front of the point. -/
def placesFactor (places : Option Value) : Outcome Float := do
  let digits ← optional integer 0 places
  return Double.powInt 10.0 (max (-308) (min digits 308))

/-- Rounds to decimal places with a function on whole numbers. -/
def roundWith (f : Float → Float) (argument : Value) (places : Option Value) : Outcome Value := do
  let x ← number argument
  let factor ← placesFactor places
  finite (f (x * factor) / factor)

/-- Away from zero to the next whole number. -/
def outward (x : Float) : Float := if 0.0 ≤ x then Double.ceil x else Double.floor x

/-- The greatest whole number that is not greater. -/
def wholeBelow (argument : Value) : Outcome Value := do
  return .number (Double.floor (← number argument))

/-- The step whose multiples a number is rounded to. If it is left out, it is one with the sign of
the number. -/
def step (x : Float) (argument : Option Value) : Outcome Float := do
  let s ← optional number (if x < 0.0 then -1.0 else 1.0) argument
  if s == 0.0 then fail .divisionByZero
  else if 0.0 < x && s < 0.0 then fail .number
  else .ok s

/-- Rounds to a multiple of a step with a function on whole numbers. -/
def multipleWith (f : Float → Float) (argument : Value) (stepArgument : Option Value) :
    Outcome Value := do
  let x ← number argument
  let s ← step x stepArgument
  finite (f (x / s) * s)

/-- The rounding functions of the library. -/
def definitions : List Definition :=
  [ .oneOrTwo "ROUND" (roundWith Double.round),
    .oneOrTwo "ROUNDUP" (roundWith outward),
    .oneOrTwo "ROUNDDOWN" (roundWith Double.trunc),
    .oneOrTwo "TRUNC" (roundWith Double.trunc),
    .unary "INT" wholeBelow,
    .oneOrTwo "FLOOR" (multipleWith Double.floor),
    .oneOrTwo "CEILING" (multipleWith Double.ceil) ]

end Rounding
end Library
end Spreadsheet
