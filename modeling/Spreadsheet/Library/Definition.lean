import Spreadsheet.Value.Basic

/-!
# Function definitions

A function of the library has a name, an arity and a body that is given its arguments already
evaluated. A body ends in a value, in an error, or in a crash. A crash is what happens when a body
meets arguments that it has no rule for, reaches for an item that a list does not have, cuts a text
inside a character, or computes an integer that does not fit its type.
-/

namespace Spreadsheet
namespace Library

/-- Why a body gives no value. -/
inductive Fault where
  /-- The call has an error as its result. -/
  | error (code : ErrorCode)
  /-- The body has no rule for what it met. -/
  | crash
deriving DecidableEq, Repr

/-- What comes of a computation inside a body. -/
abbrev Outcome (α : Type) := Except Fault α

/-- Ends a computation with an error. -/
def fail {α : Type} (code : ErrorCode) : Outcome α := .error (.error code)

/-- Ends a computation without a rule for it. -/
def crash {α : Type} : Outcome α := .error .crash

/-- Something that has to be there. -/
def orCrash {α : Type} : Option α → Outcome α
  | some result => .ok result
  | none => crash

/-- The result of integer arithmetic with signed numbers of 64 bits. -/
def signed (n : Int) : Outcome Int :=
  if Int64.minValue.toInt ≤ n ∧ n ≤ Int64.maxValue.toInt then .ok n else crash

/-- One less than an unsigned number. -/
def predecessor : Nat → Outcome Nat
  | 0 => crash
  | n + 1 => .ok n

/-- One more than an unsigned number of 64 bits. -/
def successor (n : Nat) : Outcome Nat := if n + 1 < UInt64.size then .ok (n + 1) else crash

/-- How many arguments a function takes. -/
structure Arity where
  /-- The least number of arguments. -/
  min : Nat
  /-- The greatest number of arguments, if there is one. -/
  max : Option Nat
deriving DecidableEq, Repr

/-- The number of arguments is allowed. -/
def Arity.accepts (a : Arity) (count : Nat) : Bool :=
  a.min ≤ count && a.max.all (count ≤ ·)

/-- A function of the library. -/
structure Definition where
  /-- The name in capitals. -/
  name : String
  /-- How many arguments it takes. -/
  arity : Arity
  /-- What it makes of its arguments. -/
  body : List Value → Outcome Value

namespace Definition

/-- A function without arguments. -/
def nullary (name : String) (result : Value) : Definition where
  name
  arity := ⟨0, some 0⟩
  body := fun _ => .ok result

/-- A function of one argument. -/
def unary (name : String) (f : Value → Outcome Value) : Definition where
  name
  arity := ⟨1, some 1⟩
  body
    | [x] => f x
    | _ => crash

/-- A function of two arguments. -/
def binary (name : String) (f : Value → Value → Outcome Value) : Definition where
  name
  arity := ⟨2, some 2⟩
  body
    | [x, y] => f x y
    | _ => crash

/-- A function of three arguments. -/
def ternary (name : String) (f : Value → Value → Value → Outcome Value) : Definition where
  name
  arity := ⟨3, some 3⟩
  body
    | [x, y, z] => f x y z
    | _ => crash

/-- A function of one or two arguments. -/
def oneOrTwo (name : String) (f : Value → Option Value → Outcome Value) : Definition where
  name
  arity := ⟨1, some 2⟩
  body
    | [x] => f x none
    | [x, y] => f x (some y)
    | _ => crash

/-- A function of two or three arguments. -/
def twoOrThree (name : String) (f : Value → Value → Option Value → Outcome Value) :
    Definition where
  name
  arity := ⟨2, some 3⟩
  body
    | [x, y] => f x y none
    | [x, y, z] => f x y (some z)
    | _ => crash

/-- A function of three or four arguments. -/
def threeOrFour (name : String) (f : Value → Value → Value → Option Value → Outcome Value) :
    Definition where
  name
  arity := ⟨3, some 4⟩
  body
    | [x, y, z] => f x y z none
    | [x, y, z, w] => f x y z (some w)
    | _ => crash

/-- A function of one or more arguments. -/
def variadic (name : String) (f : List Value → Outcome Value) : Definition where
  name
  arity := ⟨1, none⟩
  body := f

/-- Calls a function. A wrong number of arguments and a crash both give the error for wrong
arguments. -/
def call (d : Definition) (arguments : List Value) : Value :=
  if d.arity.accepts arguments.length then
    match d.body arguments with
    | .ok result => result
    | .error (.error code) => .error code
    | .error .crash => .error .value
  else
    .error .value

end Definition

end Library
end Spreadsheet
