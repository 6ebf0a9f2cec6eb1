import Spreadsheet.Text.Case
import Spreadsheet.Value.Basic

/-!
# Comparing values

The order that comparison operators, look-ups and criteria share. Numbers come before texts and
texts before truth values; texts are compared in lowercase, code point by code point; a blank
counts as the zero, the empty text or `false` of the other side's kind.
-/

namespace Spreadsheet

namespace CellValue

/-- The place of a value's kind in the order. Blanks and errors come last. -/
def rank : CellValue → Nat
  | number _ => 0
  | text _ => 1
  | boolean _ => 2
  | blank => 3
  | error _ => 3

/-- A blank becomes the zero value of the other side's kind. -/
def filledLike (v other : CellValue) : CellValue :=
  match v, other with
  | blank, text _ => text ""
  | blank, boolean _ => boolean false
  | blank, _ => number 0.0
  | _, _ => v

/-- Compares two numbers. NaN is equal to everything. -/
def compareNumbers (x y : Float) : Ordering :=
  if x < y then .lt else if y < x then .gt else .eq

/-- Compares two values neither of which is blank. -/
def compareFilled : CellValue → CellValue → Ordering
  | number x, number y => compareNumbers x y
  | text s, text t => compare (Text.lowerList s.toList) (Text.lowerList t.toList)
  | boolean b, boolean c => compare b c
  | v, w => compare v.rank w.rank

/-- Compares two values. -/
def compareTo (v w : CellValue) : Ordering :=
  let left := v.filledLike w
  compareFilled left (w.filledLike left)

/-- Two values are equal: they are of one kind and neither comes before the other. Errors are equal
to nothing. -/
def equalTo (v w : CellValue) : Bool :=
  let left := (v.filledLike w).rank
  let right := (w.filledLike v).rank
  left == right && left < 3 && v.compareTo w == .eq

end CellValue

namespace Value

/-- What a value is compared as. A table compares like an error, behind everything else. -/
def comparand : Value → CellValue
  | single value => value
  | table _ => .error .value

/-- Compares two values. -/
def compareTo (v w : Value) : Ordering := v.comparand.compareTo w.comparand

/-- Two values are equal. -/
def equalTo (v w : Value) : Bool := v.comparand.equalTo w.comparand

end Value

end Spreadsheet
