import Spreadsheet.Proofs.Entry
import Spreadsheet.Proofs.Library.Calling

/-!
# Reading the number of a text

The number that a text is written for is the number that it becomes when it is typed in. There is
one exception: an amount with more than one percent sign is typed in as a percentage, but is not
read.
-/

namespace Spreadsheet
namespace Library
namespace Texts

open Entry

variable {now : Moment} {text : String} {cs amount : List Char} {n : ℕ} {x : Float}

/-- The text is an amount in decimal notation with two percent signs or more. -/
def IsRepeatedPercentage (text : String) : Prop :=
  ∃ amount n, Text.trimList text.toList = amount ++ List.replicate (n + 2) '%' ∧
    (Double.readPlain? amount).isSome

theorem find?_value : (standard now).find? "VALUE" = some (.unary "VALUE" toNumber) := by
  with_unfolding_all rfl

/-- The number of a text is the result of a call if the text is written for one. -/
theorem call_value_eq_number_iff :
    (standard now).call "VALUE" [.text text] = .number x ↔ numberOf text.toList = some x := by
  have unfolded : toNumber (.text text) = (orWrong (numberOf text.toList)).map Value.number := rfl
  rw [call_unary find?_value, unfolded]
  cases numberOf text.toList with
  | none => exact iff_of_false (fun same => number_ne_error x .value same.symm) nofun
  | some y =>
      change Value.number y = .number x ↔ some y = some x
      rw [Value.number, Value.number, Value.single.injEq, CellValue.number.injEq,
        Option.some.injEq]

/-- The last percent sign of a text is not read. -/
theorem numberOf_of_percent {init : List Char} (trimmed : Text.trimList cs = init ++ ['%']) :
    numberOf cs = (Double.readPlain? init).map (· / 100.0) := by
  rw [numberOf, trimmed, List.getLast?_concat, if_pos rfl, List.dropLast_concat]

/-- None of the percent signs that a text ends in is read when it is typed in. -/
theorem number?_of_percent {init : List Char} :
    number? (init ++ ['%']) = (Double.readPlain? (init.reverse.dropWhile (· == '%')).reverse).map
      (· / 100.0) := by
  rw [number?, List.getLast?_concat, if_pos rfl, List.reverse_concat,
    List.dropWhile_cons_of_pos rfl]

/-- An amount with several percent signs is not read. -/
theorem numberOf_of_isRepeatedPercentage (repeated : IsRepeatedPercentage text) :
    numberOf text.toList = none ∧ ∃ x, number? (Text.trimList text.toList) = some x := by
  obtain ⟨amount, n, trimmed, isSome⟩ := repeated
  obtain ⟨y, read⟩ := Option.isSome_iff_exists.mp isSome
  have plain : '%' ∉ amount := by
    intro member
    rw [Double.readPlain?_of_percent member] at read
    cases read
  have signs : ∀ c ∈ List.replicate (n + 1) '%', c == '%' := fun c member =>
    beq_iff_eq.mpr (List.eq_of_mem_replicate member)
  have stripped : ((amount ++ List.replicate (n + 1) '%').reverse.dropWhile (· == '%')).reverse =
      amount := by
    rw [List.reverse_append, List.reverse_replicate, Text.dropWhile_append_of_stop signs ?_,
      List.reverse_reverse]
    intro c first percent
    exact plain (beq_iff_eq.mp percent ▸ List.mem_reverse.mp (List.mem_of_mem_head? first))
  rw [List.replicate_succ', ← List.append_assoc] at trimmed
  constructor
  · rw [numberOf_of_percent trimmed, Double.readPlain?_append_percents]
    rfl
  · rw [trimmed, number?_of_percent, stripped, read]
    exact ⟨y / 100.0, rfl⟩

/-- Otherwise a text is read as it is typed in. -/
theorem numberOf_eq_number? (single : ¬ IsRepeatedPercentage text) :
    numberOf text.toList = number? (Text.trimList text.toList) := by
  by_cases percent : (Text.trimList text.toList).getLast? = some '%'
  · obtain ⟨init, trimmed⟩ := List.getLast?_eq_some_iff.mp percent
    obtain ⟨amount, n, rfl, stripped⟩ := exists_percents init
    rw [numberOf_of_percent trimmed, trimmed, number?_of_percent, stripped]
    cases n with
    | zero => rw [List.replicate_zero, List.append_nil]
    | succ n =>
        -- The text has two percent signs or more, so that its amount cannot be one.
        have unread : Double.readPlain? amount = none := by
          by_contra read
          rw [List.append_assoc, ← List.replicate_succ'] at trimmed
          exact single ⟨amount, n, trimmed, Option.isSome_iff_ne_none.mpr read⟩
        rw [unread, Double.readPlain?_append_percents]
  · rw [numberOf, number?, if_neg percent, if_neg percent]

/-- The number that a text is written for is the number that it becomes when it is typed in, unless
it is an amount with more than one percent sign. -/
theorem value_eq_typed_iff (now : Moment) (text : String) :
    (∀ x, (standard now).call "VALUE" [.text text] = .number x ↔
        (Entry.cell text).value = .number x) ↔
      ¬ IsRepeatedPercentage text := by
  simp only [call_value_eq_number_iff, cell_value, value_eq_number_iff]
  constructor
  · intro agree repeated
    obtain ⟨unread, x, read⟩ := numberOf_of_isRepeatedPercentage repeated
    rw [(agree x).mpr read] at unread
    cases unread
  · intro single x
    rw [numberOf_eq_number? single]

/-- Five with two percent signs is typed in as a percentage, but is not read. -/
theorem not_forall_value_eq_typed :
    ¬ ∀ (now : Moment) (text : String) (x : Float),
      (standard now).call "VALUE" [.text text] = .number x ↔
        (Entry.cell text).value = .number x := by
  intro read_as_typed
  have repeated : IsRepeatedPercentage "5%%" := ⟨['5'], 0, by decide, by decide +kernel⟩
  obtain ⟨unread, x, read⟩ := numberOf_of_isRepeatedPercentage repeated
  have agree := read_as_typed ⟨⟨2000, 1, 1⟩, 0⟩ "5%%" x
  rw [call_value_eq_number_iff, cell_value, value_eq_number_iff, unread, read] at agree
  cases agree.mpr rfl

end Texts
end Library
end Spreadsheet
