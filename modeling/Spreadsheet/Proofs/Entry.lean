import Mathlib.Data.List.DropRight
import Spreadsheet.Entry
import Spreadsheet.Proofs.Text.Characters

/-!
# Typed-in numbers

A number is typed in with the characters of the decimal notation, and with commas, percent signs
and blanks. No truth value is written with these alone, so that a text becomes a number exactly if
it is read as one.
-/

namespace Spreadsheet

variable {c : Char} {cs : List Char} {x : Float}

/-! ## Characters of numbers -/

namespace Text

theorem mem_of_mem_trimList (member : c ∈ trimList cs) : c ∈ cs := by
  have start := List.mem_reverse.mp ((List.dropWhile_suffix _).subset (List.mem_reverse.mp member))
  exact (List.dropWhile_suffix _).subset start

theorem mem_dropWhile_of_not {p : Char → Bool} (member : c ∈ cs) (other : ¬ p c) :
    c ∈ cs.dropWhile p := by
  rw [← List.takeWhile_append_dropWhile (p := p) (l := cs), List.mem_append] at member
  exact member.resolve_left fun run => other (List.mem_takeWhile_imp run)

/-- Trimming takes only blanks away. -/
theorem mem_trimList_of_not_isBlank (member : c ∈ cs) (dark : ¬ isBlank c) : c ∈ trimList cs :=
  List.mem_reverse.mpr
    (mem_dropWhile_of_not (List.mem_reverse.mpr (mem_dropWhile_of_not member dark)) dark)

/-- The blanks, given by their code points. -/
theorem forall_of_isBlank {p : Char → Prop} (blank : isBlank c)
    (every :
      ∀ n ∈ [9, 10, 11, 12, 13, 0x20, 0x85, 0xA0, 0x1680, 0x2000, 0x2001, 0x2002, 0x2003,
        0x2004, 0x2005, 0x2006, 0x2007, 0x2008, 0x2009, 0x200A, 0x2028, 0x2029, 0x202F, 0x205F,
        0x3000], p (Char.ofNat n)) :
    p c := by
  rw [isBlank_iff_toNat] at blank
  rw [← Char.ofNat_toNat c]
  refine every c.toNat ?_
  simp only [List.mem_cons, List.not_mem_nil, or_false]
  omega

end Text

namespace Double

/-- What a plain number is read from has no other characters than its notation and blanks. -/
theorem isPlainChar_of_readPlain? (read : readPlain? cs = some x) (member : c ∈ cs) :
    isPlainChar c ∨ Text.isBlank c := by
  by_cases blank : Text.isBlank c
  · exact .inr blank
  · rw [readPlain?] at read
    split at read <;> rename_i plain
    · rw [Bool.and_eq_true, List.all_eq_true] at plain
      exact .inl (plain.2 c (Text.mem_trimList_of_not_isBlank member blank))
    · cases read

/-- A percent sign is no character of a plain number. -/
theorem readPlain?_of_percent (member : '%' ∈ cs) : readPlain? cs = none := by
  cases read : readPlain? cs with
  | none => rfl
  | some x => exact absurd (isPlainChar_of_readPlain? read member) (by decide)

theorem readPlain?_append_percents (amount : List Char) (n : ℕ) :
    readPlain? (amount ++ List.replicate (n + 1) '%') = none :=
  readPlain?_of_percent
    (List.mem_append_right _ (List.mem_replicate.mpr ⟨Nat.succ_ne_zero n, rfl⟩))

end Double

namespace Entry

/-- The character occurs in numbers that are typed in. -/
def IsNumberChar (c : Char) : Prop := (Double.isPlainChar c ∨ Text.isBlank c) ∨ c = ',' ∨ c = '%'

/-- No letter of a truth value is the capital of a character of a number. -/
theorem not_mem_upperChar (numeral : IsNumberChar c) :
    'T' ∉ Text.upperChar c ∧ 'F' ∉ Text.upperChar c := by
  rcases numeral with (plain | blank) | rfl | rfl
  · have digit (digit : c.isDigit) : 'T' ∉ Text.upperChar c ∧ 'F' ∉ Text.upperChar c := by
      have every : ∀ n < 58, 48 ≤ n → 'T' ∉ Text.upperChar (Char.ofNat n) ∧
          'F' ∉ Text.upperChar (Char.ofNat n) := by
        decide +kernel
      rw [Text.isDigit_iff_toNat] at digit
      rw [← Char.ofNat_toNat c]
      exact every c.toNat (by omega) digit.1
    simp only [Double.isPlainChar, Bool.or_eq_true, beq_iff_eq] at plain
    rcases plain with (((((isDigit | rfl) | rfl) | rfl) | rfl) | rfl)
    · exact digit isDigit
    all_goals decide +kernel
  · exact Text.forall_of_isBlank
      (p := fun c => 'T' ∉ Text.upperChar c ∧ 'F' ∉ Text.upperChar c) blank
      (by decide +kernel)
  · decide +kernel
  · decide +kernel

/-- What is written with the characters of numbers is no truth value. -/
theorem read?_truth_of_number (numeral : ∀ c ∈ cs, IsNumberChar c) : Truth.read? cs = none := by
  -- A letter of the word would be the capital of a character that is left after trimming.
  have letter {word : String} {l : Char} (written : l ∈ word.toList)
      (absent : ∀ c ∈ cs, l ∉ Text.upperChar c) :
      String.ofList (Text.upperList (Text.trimList cs)) ≠ word := by
    rintro rfl
    rw [String.toList_ofList] at written
    obtain ⟨c, member, capital⟩ := List.mem_flatMap.mp written
    exact absent c (Text.mem_of_mem_trimList member) capital
  rw [Truth.read?,
    if_neg (letter (l := 'T') (by decide) fun c member =>
      (not_mem_upperChar (numeral c member)).1),
    if_neg (letter (l := 'F') (by decide) fun c member =>
      (not_mem_upperChar (numeral c member)).2)]

/-! ## Numbers -/

/-- The percent signs that a text ends in, and the text in front of them. -/
theorem exists_percents (cs : List Char) :
    ∃ amount n, cs = amount ++ List.replicate n '%' ∧
      (cs.reverse.dropWhile (· == '%')).reverse = amount := by
  have signs : cs.rtakeWhile (· == '%') = List.replicate (cs.rtakeWhile (· == '%')).length '%' :=
    List.eq_replicate_of_mem fun c member => by simpa using List.mem_rtakeWhile_imp member
  refine ⟨cs.rdropWhile (· == '%'), (cs.rtakeWhile (· == '%')).length, ?_, rfl⟩
  rw [← signs, List.rdropWhile_append_rtakeWhile]

/-- A text that is read as a number is written with the characters of numbers. -/
theorem isNumberChar_of_number? (read : number? cs = some x) :
    cs ≠ [] ∧ ∀ c ∈ cs, IsNumberChar c := by
  rw [number?] at read
  split at read <;> rename_i percent
  · obtain ⟨amount, n, cs_eq, amount_eq⟩ := exists_percents cs
    rw [amount_eq] at read
    obtain ⟨y, amount_read, -⟩ := Option.map_eq_some_iff.mp read
    refine ⟨List.ne_nil_of_mem (List.mem_of_getLast? percent), fun c member => ?_⟩
    rw [cs_eq, List.mem_append] at member
    rcases member with member | member
    · exact .inl (Double.isPlainChar_of_readPlain? amount_read member)
    · exact .inr (.inr (List.eq_of_mem_replicate member))
  · refine ⟨?_, fun c member => ?_⟩
    · rintro rfl
      cases read
    · by_cases comma : c = ','
      · exact .inr (.inl comma)
      · exact .inl (Double.isPlainChar_of_readPlain? read
          (List.mem_filter.mpr ⟨member, bne_iff_ne.mpr comma⟩))

theorem cell_value (text : String) : (cell text).value = value text := rfl

/-- A text that is typed in becomes a number exactly if it is read as one. -/
theorem value_eq_number_iff {text : String} :
    value text = .number x ↔ number? (Text.trimList text.toList) = some x := by
  rw [value]
  constructor
  · intro entered
    split at entered
    · cases entered
    · split at entered
      · cases entered
      · split at entered
        · rename_i read
          exact CellValue.number.inj entered ▸ read
        · cases entered
  · intro read
    obtain ⟨some_chars, numeral⟩ := isNumberChar_of_number? read
    rw [if_neg (by simpa using some_chars), read?_truth_of_number numeral, read]

end Entry
end Spreadsheet
