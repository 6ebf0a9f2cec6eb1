import Spreadsheet.Library.Arguments

/-!
# Arithmetic functions

Sums, products, powers, remainders and logarithms. Results that are infinite or NaN become the
error for impossible numbers.
-/

namespace Spreadsheet
namespace Library
namespace Arithmetic

/-- The sum of all numbers. -/
def sumAll (arguments : List Value) : Outcome Value := do
  finite (sum (← numbers arguments))

/-- The product of all numbers, and zero if there are none. -/
def productAll (arguments : List Value) : Outcome Value := do
  let xs ← numbers arguments
  if xs.isEmpty then .ok (.number 0.0) else finite (xs.foldl (· * ·) 1.0)

/-- The magnitude of a number. -/
def magnitude (argument : Value) : Outcome Value := do
  return .number (← number argument).abs

/-- One, minus one or zero, as the number is positive, negative or neither. -/
def sign (argument : Value) : Outcome Value := do
  let x ← number argument
  return .number (if 0.0 < x then 1.0 else if x < 0.0 then -1.0 else 0.0)

/-- The square root of a number that is not negative. -/
def squareRoot (argument : Value) : Outcome Value := do
  let x ← number argument
  if x < 0.0 then fail .number else .ok (.number x.sqrt)

/-- A number raised to a power. -/
def power (base exponent : Value) : Outcome Value := do
  finite ((← number base).pow (← number exponent))

/-- What a division to the floor leaves; it has the sign of the divisor. -/
def remainder (dividend divisor : Value) : Outcome Value := do
  let x ← number dividend
  let y ← number divisor
  if y == 0.0 then fail .divisionByZero
  else finite (x - y * Double.floor (x / y))

/-- The circle number. -/
def circleNumber : Float := Float.ofBits 0x400921FB54442D18

/-- The exponential function. -/
def exponential (argument : Value) : Outcome Value := do
  finite (← number argument).exp

/-- A number that is greater than zero. -/
def positive (argument : Value) : Outcome Float := do
  let x ← number argument
  if x ≤ 0.0 then fail .number else .ok x

/-- The natural logarithm. -/
def naturalLogarithm (argument : Value) : Outcome Value := do
  finite (← positive argument).log

/-- The logarithm to a base, which is ten if it is left out. -/
def logarithm (argument : Value) (base : Option Value) : Outcome Value := do
  let x ← positive argument
  let b ← optional positive 10.0 base
  if b == 1.0 then fail .divisionByZero else finite (x.log / b.log)

/-- The logarithm to base ten. -/
def decimalLogarithm (argument : Value) : Outcome Value := do
  finite (← positive argument).log10

/-- The arithmetic functions of the library. -/
def definitions : List Definition :=
  [ .variadic "SUM" sumAll,
    .variadic "PRODUCT" productAll,
    .unary "ABS" magnitude,
    .unary "SIGN" sign,
    .unary "SQRT" squareRoot,
    .binary "POWER" power,
    .binary "MOD" remainder,
    .nullary "PI" (.number circleNumber),
    .unary "EXP" exponential,
    .unary "LN" naturalLogarithm,
    .oneOrTwo "LOG" logarithm,
    .unary "LOG10" decimalLogarithm ]

end Arithmetic
end Library
end Spreadsheet
