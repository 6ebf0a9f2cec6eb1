import Spreadsheet.Library

/-!
# Calls of functions

A call that a library knows under its name has the value that the outcome of the function's body
stands for. Arguments that may be left out stand at the end, so that a call with and without them
is one equation.
-/

namespace Spreadsheet
namespace Library

/-- The value of a call whose body has an outcome. A crash counts as wrong arguments. -/
def valueOf : Outcome Value → Value
  | .ok result => result
  | .error (.error code) => .error code
  | .error .crash => .error .value

theorem number_ne_error (x : Float) (code : ErrorCode) : Value.number x ≠ .error code := by
  simp [Value.number, Value.error]

theorem Definition.call_eq {d : Definition} {arguments : List Value}
    (accepted : d.arity.accepts arguments.length) :
    d.call arguments = valueOf (d.body arguments) := by
  rw [call, if_pos accepted]
  cases d.body arguments with
  | ok result => rfl
  | error fault => cases fault <;> rfl

variable {l : Library} {name capitals : String} {x y z : Value} {choice : Option Value}

theorem call_of_find? {d : Definition} {arguments : List Value} (found : l.find? name = some d)
    (accepted : d.arity.accepts arguments.length) :
    l.call name arguments = valueOf (d.body arguments) := by
  rw [call, found]
  exact d.call_eq accepted

theorem call_unary {f : Value → Outcome Value}
    (found : l.find? name = some (.unary capitals f)) : l.call name [x] = valueOf (f x) :=
  call_of_find? found rfl

theorem call_binary {f : Value → Value → Outcome Value}
    (found : l.find? name = some (.binary capitals f)) : l.call name [x, y] = valueOf (f x y) :=
  call_of_find? found rfl

theorem call_ternary {f : Value → Value → Value → Outcome Value}
    (found : l.find? name = some (.ternary capitals f)) :
    l.call name [x, y, z] = valueOf (f x y z) :=
  call_of_find? found rfl

theorem call_twoOrThree {f : Value → Value → Option Value → Outcome Value}
    (found : l.find? name = some (.twoOrThree capitals f)) :
    l.call name (x :: y :: choice.toList) = valueOf (f x y choice) := by
  cases choice with
  | none => exact call_of_find? found rfl
  | some last => exact call_of_find? found rfl

theorem call_threeOrFour {f : Value → Value → Value → Option Value → Outcome Value}
    (found : l.find? name = some (.threeOrFour capitals f)) :
    l.call name (x :: y :: z :: choice.toList) = valueOf (f x y z choice) := by
  cases choice with
  | none => exact call_of_find? found rfl
  | some last => exact call_of_find? found rfl

end Library
end Spreadsheet
