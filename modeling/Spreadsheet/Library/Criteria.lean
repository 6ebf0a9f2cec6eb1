import Spreadsheet.Library.Arguments
import Spreadsheet.Value.Comparison

/-!
# Criteria

Counting, adding and averaging the values that meet a criterion. A criterion is a value to be equal
to, or a text that begins with a comparison.
-/

namespace Spreadsheet
namespace Library
namespace Criteria

/-- How a value has to compare with the operand of a criterion. -/
inductive Relation where
  | equal
  | notEqual
  | less
  | greater
  | lessEqual
  | greaterEqual
deriving DecidableEq, Repr

/-- How the relations are written, in the order in which they are tried. -/
def Relation.spellings : List (List Char × Relation) :=
  [ (['<', '>'], .notEqual), (['<', '='], .lessEqual), (['>', '='], .greaterEqual),
    (['<'], .less), (['>'], .greater), (['='], .equal) ]

/-- A condition on values. -/
structure Criterion where
  /-- The relation that has to hold. -/
  relation : Relation
  /-- What values are compared with. -/
  operand : CellValue

namespace Criterion

/-- The value that the text behind a comparison stands for. -/
def operandOf (cs : List Char) : CellValue :=
  match Double.readPlain? cs with
  | some x => .number x
  | none => if cs.isEmpty then .blank else .text (String.ofList cs)

/-- Reads a criterion that is a text. Without a comparison in front, values have to be equal to
it. -/
def ofChars (cs : List Char) : Criterion :=
  match Relation.spellings.find? fun (spelling, _) => spelling.isPrefixOf cs with
  | some (spelling, relation) => ⟨relation, operandOf (cs.drop spelling.length)⟩
  | none => ⟨.equal, operandOf cs⟩

/-- Reads a criterion. -/
def ofArgument (argument : Value) : Outcome Criterion := do
  match ← scalar argument with
  | .text content => return ofChars content.toList
  | value => return ⟨.equal, value⟩

/-- The value shows nothing. -/
def showsNothing : Value → Bool
  | .single value => value.showsNothing
  | _ => false

/-- Two values are both numbers or both texts. -/
def ordered : Value → CellValue → Bool
  | .single (.number _), .number _ => true
  | .single (.text _), .text _ => true
  | _, _ => false

/-- The comparison of a value with the operand satisfies the relation. Only values of the operand's
kind come before or after it. -/
def relates (c : Criterion) (value : Value) : Bool :=
  let operand := Value.single c.operand
  let ordering := value.compareTo operand
  match c.relation with
  | .equal => value.equalTo operand
  | .notEqual => !value.equalTo operand
  | .less => ordered value c.operand && ordering == .lt
  | .greater => ordered value c.operand && ordering == .gt
  | .lessEqual => ordered value c.operand && ordering != .gt
  | .greaterEqual => ordered value c.operand && ordering != .lt

/-- The value meets the criterion. Errors never do; a criterion without an operand asks whether the
value shows anything. -/
def holds (c : Criterion) (value : Value) : Bool :=
  if c.operand.isBlank then
    if c.relation = .notEqual then !showsNothing value else showsNothing value
  else
    !value.isError && c.relates value

end Criterion

/-- How many single values meet the criterion. -/
def countIf (tested criterion : Value) : Outcome Value := do
  let c ← Criterion.ofArgument criterion
  return .count (tested.flatten.countP fun value => c.holds (.single value))

/-- The numbers of one table at the places where another table meets a criterion. -/
def numbersWhere (c : Criterion) (tested summed : List (List Value)) : List Float :=
  (tested.zip summed).flatMap fun (testedRow, summedRow) =>
    (testedRow.zip summedRow).filterMap fun (value, candidate) =>
      match candidate with
      | .single (.number x) => if c.holds value then some x else none
      | _ => none

/-- The numbers that belong to the values that meet the criterion; they stand in the tested table
itself unless another table is given. -/
def matchedNumbers (tested criterion : Value) (summed : Option Value) : Outcome (List Float) := do
  let c ← Criterion.ofArgument criterion
  let testedRows ← rowsOf tested
  let summedRows ← optional rowsOf testedRows summed
  return numbersWhere c testedRows summedRows

/-- The sum of the numbers that belong to values that meet the criterion. -/
def sumIf (tested criterion : Value) (summed : Option Value) : Outcome Value := do
  return .number (sum (← matchedNumbers tested criterion summed))

/-- The mean of the numbers that belong to values that meet the criterion. -/
def averageIf (tested criterion : Value) (summed : Option Value) : Outcome Value := do
  return .number (← mean (← matchedNumbers tested criterion summed))

/-- The functions with criteria of the library. -/
def definitions : List Definition :=
  [ .binary "COUNTIF" countIf,
    .twoOrThree "SUMIF" sumIf,
    .twoOrThree "AVERAGEIF" averageIf ]

end Criteria
end Library
end Spreadsheet
