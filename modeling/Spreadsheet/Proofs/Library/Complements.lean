import Spreadsheet.Proofs.Library.Calling

/-!
# Complementary criteria

Criteria with one operand and opposite relations divide the values that they apply to: all values
but errors for equality, and the values of the operand's kind for the order. So what the two count
adds up to the number of those values, whatever the operand is.
-/

namespace Spreadsheet
namespace Library
namespace Criteria

variable {relation : Relation} {operand value : CellValue} {cs : List Char}

/-! ## Written criteria -/

/-- How a relation is written. -/
def Relation.spelling : Relation → String
  | equal => "="
  | notEqual => "<>"
  | less => "<"
  | greater => ">"
  | lessEqual => "<="
  | greaterEqual => ">="

/-- The text can follow a comparison: it is not empty, and no comparison becomes a longer one by
it. -/
structure IsOperand (cs : List Char) : Prop where
  /-- There is a text. -/
  nonempty : cs ≠ []
  /-- It does not begin like the second half of a comparison. -/
  separate : ∀ c ∈ cs.head?, c ≠ '=' ∧ c ≠ '>'

/-- A comparison in front of an operand is read as its relation. -/
theorem ofChars_spelling (isOperand : IsOperand cs) :
    Criterion.ofChars (relation.spelling.toList ++ cs) = ⟨relation, Criterion.operandOf cs⟩ := by
  obtain ⟨c, rest, rfl⟩ := List.exists_cons_of_ne_nil isOperand.nonempty
  obtain ⟨notEquals, notGreater⟩ := isOperand.separate c rfl
  cases relation <;>
    simp [Criterion.ofChars, Relation.spelling, Relation.spellings, notEquals.symm,
      notGreater.symm]

/-- What follows a comparison is no blank, but a number if it reads as one and else a text. -/
theorem operandOf_of_ne_nil (nonempty : cs ≠ []) :
    (∃ x, Double.readPlain? cs = some x ∧ Criterion.operandOf cs = .number x) ∨
      Double.readPlain? cs = none ∧ ∃ s, Criterion.operandOf cs = .text s := by
  rw [Criterion.operandOf]
  cases read : Double.readPlain? cs with
  | some x => exact .inl ⟨x, rfl, rfl⟩
  | none => exact .inr ⟨rfl, _, if_neg (by simpa using nonempty)⟩

/-! ## Opposite relations -/

/-- The values that a criterion with a relation divides. -/
def appliesTo (relation : Relation) (operand value : CellValue) : Bool :=
  match relation with
  | .equal | .notEqual => !Inspection.isError value
  | _ => Criterion.ordered (.single value) operand

/-- The relation that holds of the other values. -/
def Relation.opposite : Relation → Relation
  | equal => notEqual
  | notEqual => equal
  | less => greaterEqual
  | greater => lessEqual
  | lessEqual => greater
  | greaterEqual => less

/-- The comparison of two values satisfies a relation. -/
def Relation.accepts (relation : Relation) (v w : CellValue) : Bool :=
  match relation with
  | equal => v.equalTo w
  | notEqual => !v.equalTo w
  | less => v.compareTo w == .lt
  | greater => v.compareTo w == .gt
  | lessEqual => v.compareTo w != .gt
  | greaterEqual => v.compareTo w != .lt

theorem accepts_opposite {v w : CellValue} :
    relation.opposite.accepts v w = !relation.accepts v w := by
  cases relation with
  | lessEqual | greaterEqual | notEqual => exact (Bool.not_not _).symm
  | less | greater | equal => rfl

theorem appliesTo_opposite :
    appliesTo relation.opposite operand value = appliesTo relation operand value := by
  cases relation <;> rfl

theorem isError_of_ordered (ordered : Criterion.ordered (.single value) operand) :
    Inspection.isError value = false := by
  cases value with
  | number | text => rfl
  | blank | boolean | error => cases operand <;> cases ordered

/-- A criterion with an operand holds of the values that it applies to and that its relation
accepts. -/
theorem holds_eq (filled : ¬ operand.isBlank) :
    Criterion.holds ⟨relation, operand⟩ (.single value) =
      (appliesTo relation operand value && relation.accepts value operand) := by
  have noError : (!(Value.single value).isError) = !Inspection.isError value := by
    cases value <;> rfl
  have inOrder (test : Bool) :
      (!Inspection.isError value && (Criterion.ordered (.single value) operand && test)) =
      (Criterion.ordered (.single value) operand && test) := by
    cases ordered : Criterion.ordered (.single value) operand with
    | false => exact Bool.and_false _
    | true => rw [isError_of_ordered ordered, Bool.not_false, Bool.true_and]
  rw [Criterion.holds, if_neg filled, noError]
  cases relation with
  | equal | notEqual => rfl
  | less | greater | lessEqual | greaterEqual => exact inOrder _

/-- Criteria with opposite relations divide the values that they apply to. -/
theorem countP_add_countP_opposite (filled : ¬ operand.isBlank) (relation : Relation)
    (values : List CellValue) :
    values.countP (fun value => Criterion.holds ⟨relation, operand⟩ (.single value)) +
        values.countP (fun value => Criterion.holds ⟨relation.opposite, operand⟩ (.single value)) =
      values.countP (appliesTo relation operand) := by
  simp only [holds_eq filled, appliesTo_opposite, accepts_opposite]
  rw [List.countP_eq_countP_filter_add values (appliesTo relation operand)
    fun value => relation.accepts value operand, List.countP_filter, List.countP_filter]

/-! ## Counts -/

variable {tested : Value} {now : Moment} {r : String}

/-- The values that the order of a written operand is about: numbers if it reads as one, and else
texts. -/
def isOfOperandKind (r : String) : CellValue → Bool :=
  if (Double.plain? r).isSome then CellValue.isNumber else Inspection.isText

theorem appliesTo_operandOf (nonempty : r.toList ≠ []) :
    appliesTo relation (Criterion.operandOf r.toList) =
      match relation with
      | .equal | .notEqual => (! Inspection.isError ·)
      | _ => isOfOperandKind r := by
  funext value
  rw [isOfOperandKind, Double.plain?]
  rcases operandOf_of_ne_nil nonempty with ⟨x, read, operand_eq⟩ | ⟨unread, s, operand_eq⟩
  · rw [read, operand_eq]
    cases relation <;> cases value <;> rfl
  · rw [unread, operand_eq]
    cases relation <;> cases value <;> rfl

theorem find?_countIf : (standard now).find? "COUNTIF" = some (.binary "COUNTIF" countIf) := by
  with_unfolding_all rfl

theorem call_countIf :
    (standard now).call "COUNTIF" [tested, .text r] =
      .count (tested.flatten.countP fun value =>
        (Criterion.ofChars r.toList).holds (.single value)) := by
  rw [call_binary find?_countIf]
  rfl

/-- Counting by opposite comparisons with one operand divides the values: equality divides all
values but errors, and the order divides the numbers if the operand reads as a number, and else the
texts. -/
theorem opposite_counts_add (now : Moment) (tested : Value) (isOperand : IsOperand r.toList) :
    ∃ counts : Relation → Nat,
      (∀ relation, (standard now).call "COUNTIF" [tested, .text (relation.spelling ++ r)] =
        .count (counts relation)) ∧
      counts .equal + counts .notEqual = tested.flatten.countP (! Inspection.isError ·) ∧
      counts .less + counts .greaterEqual = tested.flatten.countP (isOfOperandKind r) ∧
      counts .greater + counts .lessEqual = tested.flatten.countP (isOfOperandKind r) := by
  have filled : ¬ (Criterion.operandOf r.toList).isBlank := by
    rcases operandOf_of_ne_nil isOperand.nonempty with ⟨x, -, operand_eq⟩ | ⟨-, s, operand_eq⟩ <;>
      rw [operand_eq] <;> exact Bool.false_ne_true
  have divided (relation : Relation) := countP_add_countP_opposite filled relation tested.flatten
  simp only [appliesTo_operandOf isOperand.nonempty] at divided
  refine ⟨fun relation => tested.flatten.countP fun value =>
    Criterion.holds ⟨relation, Criterion.operandOf r.toList⟩ (.single value), fun relation => ?_,
    divided .equal, divided .less, divided .greater⟩
  rw [call_countIf, String.toList_append, ofChars_spelling isOperand]

/-- Behind a comparison, a text that begins like one is an operand as well. It divides two texts
among six values, of which one is an error. -/
theorem opposite_counts_add_of_text :
    let library := standard ⟨⟨2000, 1, 1⟩, 0⟩
    let tested : Value :=
      .table [[.single .blank, .text "<b", .number 1.5], [.error .null, .boolean true, .text ""]]
    IsOperand "<B".toList ∧
      ∃ counts : Relation → Nat,
        (∀ relation, library.call "COUNTIF" [tested, .text (relation.spelling ++ "<B")] =
          .count (counts relation)) ∧
        counts .equal + counts .notEqual = 5 ∧ counts .less + counts .greaterEqual = 2 ∧
        counts .greater + counts .lessEqual = 2 := by
  intro library tested
  have isOperand : IsOperand "<B".toList := ⟨by decide, by simp⟩
  have noErrors : tested.flatten.countP (! Inspection.isError ·) = 5 := by decide +kernel
  have texts : tested.flatten.countP (isOfOperandKind "<B") = 2 := by decide +kernel
  obtain ⟨counts, called, equality, less, greater⟩ :=
    opposite_counts_add ⟨⟨2000, 1, 1⟩, 0⟩ tested isOperand
  exact ⟨isOperand, counts, called, equality.trans noErrors, less.trans texts, greater.trans texts⟩

end Criteria
end Library
end Spreadsheet
