import Spreadsheet.Proofs.Double.Finite
import Spreadsheet.Proofs.Entry

/-!
# Numbers as they are shown

A finite number is shown in digits, with a point and a minus sign at most. Such a text is never
taken for a truth value or a percentage when it is typed in, and has no commas. So typing in what
is shown gives the same number back wherever the decimal notation itself is read back.
-/

namespace Spreadsheet
namespace Double

variable {x : Float} {c : Char} {cs : List Char}

/-- The character occurs in the notation that a finite number is shown in. -/
def isShownChar (c : Char) : Bool := c.isDigit || c == '.' || c == '-'

theorem isShownChar_iff : isShownChar c ↔ c.isDigit ∨ c = '.' ∨ c = '-' := by
  rw [isShownChar, Bool.or_eq_true, Bool.or_eq_true, beq_iff_eq, beq_iff_eq, or_assoc]

theorem isShownChar_of_isDigit (digit : c.isDigit) : isShownChar c :=
  isShownChar_iff.mpr (.inl digit)

/-! ## What is shown -/

theorem isShownChar_of_mem_decimalText {d : Decimal} (member : c ∈ positional.decimalText d) :
    isShownChar c := by
  have digit {n : Nat} (member : c ∈ Text.digitsOf n) : isShownChar c :=
    isShownChar_of_isDigit (Text.isDigit_of_mem_digitsOf member)
  have zeros {n : Nat} (member : c ∈ List.replicate n '0') : isShownChar c := by
    obtain rfl := List.eq_of_mem_replicate member
    decide
  rw [Layout.decimalText] at member
  simp only [positional, if_true, Bool.false_eq_true, if_false, List.append_nil] at member
  split at member
  · rcases List.mem_append.mp member with member | member
    · exact digit member
    · exact zeros member
  · split at member
    · rcases List.mem_append.mp member with member | member
      · exact digit (List.mem_of_mem_take member)
      · rcases List.mem_cons.mp member with rfl | member
        · decide
        · exact digit (List.mem_of_mem_drop member)
    · rcases List.mem_cons.mp member with rfl | member
      · decide
      · rcases List.mem_cons.mp member with rfl | member
        · decide
        · rcases List.mem_append.mp member with member | member
          · exact zeros member
          · exact digit member

theorem decimalText_ne_nil (d : Decimal) : positional.decimalText d ≠ [] := by
  have some_digits := Text.digitsOf_ne_nil d.digits
  rw [Layout.decimalText]
  simp only [positional, if_true, Bool.false_eq_true, if_false, List.append_nil]
  split
  · simp [some_digits]
  · split <;> simp

/-- A finite number is shown in digits, with a point and a minus sign at most. -/
theorem toText_of_isFinite (finite : x.isFinite) :
    (toText x).toList ≠ [] ∧ ∀ c ∈ (toText x).toList, isShownChar c := by
  obtain ⟨negative, magnitude, decoded⟩ := exists_decode_of_isFinite finite
  have shown : (toText x).toList =
      (if negative then ['-'] else []) ++ positional.magnitudeText magnitude := by
    rw [toText, Layout.text, decoded, String.toList_ofList]
  have magnitude_shown : positional.magnitudeText magnitude ≠ [] ∧
      ∀ c ∈ positional.magnitudeText magnitude, isShownChar c := by
    rw [Layout.magnitudeText]
    split
    · refine ⟨List.cons_ne_nil _ _, fun c member => ?_⟩
      obtain rfl := List.mem_singleton.mp member
      decide
    · exact ⟨decimalText_ne_nil _, fun _ => isShownChar_of_mem_decimalText⟩
  rw [shown]
  refine ⟨List.append_ne_nil_of_right_ne_nil _ magnitude_shown.1, fun c member => ?_⟩
  rcases List.mem_append.mp member with member | member
  · split at member
    · obtain rfl := List.mem_singleton.mp member
      decide
    · contradiction
  · exact magnitude_shown.2 c member

/-! ## Typing in what is shown -/

theorem not_isBlank_of_isShownChar (shown : isShownChar c) : ¬ Text.isBlank c := by
  rcases isShownChar_iff.mp shown with digit | rfl | rfl
  · exact Text.not_isBlank_of_isAlphanum (by rw [Char.isAlphanum, digit, Bool.or_true])
  · decide
  · decide

theorem isPlainChar_of_isShownChar (shown : isShownChar c) : isPlainChar c := by
  rcases isShownChar_iff.mp shown with digit | rfl | rfl
  · simp only [isPlainChar, digit, Bool.true_or]
  · decide
  · decide

/-- Typing in what is shown for a finite number gives the number back if its decimal notation is
read back. -/
theorem value_toText (finite : x.isFinite) (readsBack : ofText? (toText x) = some x) :
    Entry.value (toText x) = .number x := by
  obtain ⟨some_chars, shown⟩ := toText_of_isFinite finite
  rw [ofText?] at readsBack
  rw [Entry.value_eq_number_iff]
  generalize (toText x).toList = cs at some_chars shown readsBack ⊢
  have trimmed : Text.trimList cs = cs :=
    Text.trimList_of_no_blank fun c member => not_isBlank_of_isShownChar (shown c member)
  have plain : readPlain? cs = some x := by
    have all : cs.all isPlainChar := List.all_eq_true.mpr fun c member =>
      isPlainChar_of_isShownChar (shown c member)
    rw [readPlain?, trimmed]
    simp only [all, List.isEmpty_eq_false_iff.mpr some_chars, Bool.not_false, Bool.and_self,
      if_true]
    rw [readsBack]
    simp only [Option.filter, finite, if_true]
  have no_percent : cs.getLast? ≠ some '%' := fun last =>
    absurd (shown '%' (List.mem_of_getLast? last)) (by decide)
  have no_comma : cs.filter (· != ',') = cs := by
    rw [List.filter_eq_self]
    rintro c member
    rw [bne_iff_ne]
    rintro rfl
    exact absurd (shown ',' member) (by decide)
  have number : Entry.number? cs = some x := by
    rw [Entry.number?, if_neg no_percent, no_comma, plain]
  rwa [trimmed]

/-- A number that is typed in is finite. -/
theorem isFinite_of_number? (read : Entry.number? cs = some x) : x.isFinite := by
  have plain {cs : List Char} {y : Float} (read : readPlain? cs = some y) : y.isFinite := by
    rw [readPlain?] at read
    split at read
    · exact (Option.filter_eq_some_iff.mp read).2
    · contradiction
  rw [Entry.number?] at read
  split at read
  · obtain ⟨y, amount, rfl⟩ := Option.map_eq_some_iff.mp read
    exact isFinite_div_hundred (plain amount)
  · exact plain read

theorem isFinite_of_value {text : String} (entered : Entry.value text = .number x) : x.isFinite :=
  isFinite_of_number? (Entry.value_eq_number_iff.mp entered)

/-- What is shown for a finite number does not begin like a formula. -/
theorem head?_toText_ne (finite : x.isFinite) :
    (Text.trimStart (toText x).toList).head? ≠ some '=' := by
  intro sign
  have member := (List.dropWhile_suffix _).subset (List.mem_of_mem_head? sign)
  exact absurd ((toText_of_isFinite finite).2 '=' member) (by decide)

end Double
end Spreadsheet
