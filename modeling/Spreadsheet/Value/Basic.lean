import Spreadsheet.Cell

/-!
# Values

What an expression evaluates to: one cell value, or a table of values given row by row. A range of
cells is a table of single values; functions that a host adds may build other tables.
-/

namespace Spreadsheet

/-- The result of evaluating an expression. -/
inductive Value where
  | single (value : CellValue)
  | table (rows : List (List Value))

namespace Value

instance : Inhabited Value := ⟨single .blank⟩

/-- A number as a value. -/
def number (x : Float) : Value := single (.number x)

/-- A count as a value. -/
def count (n : Nat) : Value := number (Float.ofNat n)

/-- A text as a value. -/
def text (s : String) : Value := single (.text s)

/-- A truth value as a value. -/
def boolean (b : Bool) : Value := single (.boolean b)

/-- An error as a value. -/
def error (code : ErrorCode) : Value := single (.error code)

/-- The value itself, or the first value of the first row of a table. -/
def scalar : Value → CellValue
  | single value => value
  | table ((first :: _) :: _) => first.scalar
  | table _ => .blank

mutual

/-- The single values in a value, row by row. -/
def flatten : Value → List CellValue
  | single value => [value]
  | table rows => flattenRows rows

/-- The single values in rows of values. -/
def flattenRows : List (List Value) → List CellValue
  | [] => []
  | row :: rows => flattenRow row ++ flattenRows rows

/-- The single values in one row of values. -/
def flattenRow : List Value → List CellValue
  | [] => []
  | first :: rest => first.flatten ++ flattenRow rest

end

/-- The error that a value is. A table is no error, whatever it holds. -/
def error? : Value → Option ErrorCode
  | single value => value.error?
  | table _ => none

/-- The value is an error. -/
def isError (v : Value) : Bool := v.error?.isSome

/-- The value is a blank. -/
def isBlank : Value → Bool
  | single value => value.isBlank
  | table _ => false

/-- What a cell stores for a value: its scalar, and zero for a blank. -/
def stored (v : Value) : CellValue :=
  match v.scalar with
  | .blank => .number 0.0
  | value => value

end Value

end Spreadsheet
