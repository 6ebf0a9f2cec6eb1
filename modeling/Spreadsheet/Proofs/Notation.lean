import Spreadsheet.Proofs.Formula.TextLength

/-!
# The notation of addresses

An address is written in one way and may be read from many texts: with blanks around it, with
letters of either case and with zeros in front of its row number. Writing and reading are inverse
to each other up to these differences. Only the very last column and the very last row have a
spelling that is not read back, because counting from one takes them out of 32 bits.
-/

namespace Spreadsheet

/-! ## Row numbers -/

namespace Text

variable {c : Char} {cs : List Char} {value : Nat}

theorem digitsOf_digitValue (digit : c.isDigit) : digitsOf (digitValue c) = [c] := by
  rw [isDigit_iff_toNat] at digit
  have value_eq : digitValue c = c.toNat - 48 := rfl
  have small : digitValue c < 10 := by omega
  rw [digitsOf, Nat.toDigits_of_lt_base small, List.cons.injEq, ← Char.toNat_inj,
    Nat.toNat_digitChar_of_lt_ten small, value_eq]
  exact ⟨by omega, rfl⟩

/-- Digits behind a number that is not zero continue its numeral. -/
theorem digitsOf_append (positive : 0 < value) (digits : ∀ c ∈ cs, c.isDigit) :
    digitsOf value ++ cs =
      digitsOf (cs.foldl (fun value c => 10 * value + digitValue c) value) := by
  induction cs generalizing value with
  | nil => exact List.append_nil _
  | cons c cs ih =>
      obtain ⟨digit, digits⟩ := List.forall_mem_cons.mp digits
      have small : digitValue c < 10 := by
        rw [isDigit_iff_toNat] at digit
        rw [digitValue, show '0'.toNat = 48 from rfl]
        omega
      calc digitsOf value ++ c :: cs
        _ = digitsOf value ++ digitsOf (digitValue c) ++ cs := by
          rw [digitsOf_digitValue digit, List.append_assoc, List.singleton_append]
        _ = digitsOf (10 * value + digitValue c) ++ cs := by
          rw [digitsOf, digitsOf, Nat.toDigits_append_toDigits (by decide) positive small,
            digitsOf]
        _ = _ := ih (by omega) digits

/-- A number is written with the digits that it was read from, less the zeros in front. -/
theorem digitsOf_natOfDigits (digits : ∀ c ∈ cs, c.isDigit) (positive : natOfDigits cs ≠ 0) :
    digitsOf (natOfDigits cs) = cs.dropWhile (· == '0') := by
  induction cs with
  | nil => exact absurd rfl positive
  | cons c cs ih =>
      obtain ⟨digit, rest_digits⟩ := List.forall_mem_cons.mp digits
      by_cases zero : c = '0'
      · subst zero
        exact ih rest_digits positive
      · have nonzero : 0 < digitValue c := by
          rw [isDigit_iff_toNat] at digit
          rw [← Char.toNat_inj, show '0'.toNat = 48 from rfl] at zero
          rw [digitValue, show '0'.toNat = 48 from rfl]
          omega
        rw [List.dropWhile_cons_of_neg (by simpa using zero), natOfDigits, List.foldl_cons,
          Nat.mul_zero, Nat.zero_add, ← digitsOf_append nonzero rest_digits,
          digitsOf_digitValue digit, List.singleton_append]

end Text

/-! ## The last column -/

namespace Column

theorem foldlM_appendLetter?_numeral_eq_none {value : Nat} (large : UInt32.size ≤ value) :
    (numeral value).foldlM appendLetter? 0 = none := by
  have positive : value ≠ 0 := by
    rintro rfl
    exact absurd large (by decide)
  have small : (value - 1) % 26 < 26 := Nat.mod_lt _ (by decide)
  rw [numeral, if_neg positive, List.foldlM_append, Option.bind_eq_bind, Option.bind_eq_none_iff]
  intro front read
  -- What is in front of the last letter is either too large already or exactly the quotient.
  have front_eq : front = (value - 1) / 26 := by
    by_contra other
    by_cases fits : (value - 1) / 26 < UInt32.size
    · rw [foldlM_appendLetter?_numeral fits] at read
      exact other (Option.some.inj read).symm
    · rw [foldlM_appendLetter?_numeral_eq_none (Nat.le_of_not_lt fits)] at read
      contradiction
  have whole : 26 * front + ((value - 1) % 26 + 1) = value := by omega
  rw [List.foldlM_cons, Option.bind_eq_bind, appendLetter?, letterValue_letterOf small, whole,
    if_neg fun fits => absurd fits.2 (Nat.not_lt.mpr large), Option.bind_none]
termination_by value
decreasing_by omega

/-- Exactly the letters of the last column are not read back. -/
theorem ofLetters?_letters_eq_ite (column : UInt32) :
    ofLetters? (letters column) =
      if column.toNat + 1 < UInt32.size then some column else none := by
  split
  · rename_i fits
    exact ofLetters?_letters fits
  · rename_i last
    rw [ofLetters?, letters, if_neg (by simpa using numeral_ne_nil (Nat.succ_ne_zero _)),
      foldlM_appendLetter?_numeral_eq_none (Nat.le_of_not_lt last), Option.map_none]

end Column

namespace Address

variable {a : Address} {cs : List Char}

/-- Exactly the number of the last row is not read back. -/
theorem readRow?_digitsOf_eq_ite (row : UInt32) :
    readRow? (Text.digitsOf (row.toNat + 1)) =
      if row.toNat + 1 < UInt32.size then some row else none := by
  have digits : Text.digitsOf (row.toNat + 1) ≠ [] ∧
      ∀ c ∈ Text.digitsOf (row.toNat + 1), c.isDigit :=
    ⟨Text.digitsOf_ne_nil _, fun _ => Text.isDigit_of_mem_digitsOf⟩
  split
  · rename_i fits
    exact readRow?_eq_some_iff.mpr ⟨digits, Text.natOfDigits_digitsOf _, fits⟩
  · rename_i last
    refine Option.eq_none_iff_forall_ne_some.mpr fun other read => ?_
    obtain ⟨_, denotes, fits⟩ := readRow?_eq_some_iff.mp read
    rw [Text.natOfDigits_digitsOf] at denotes
    omega

/-! ## Writing and reading -/

instance (a : Address) : Decidable a.Writable :=
  inferInstanceAs (Decidable (a.col.toNat + 1 < UInt32.size ∧ a.row.toNat + 1 < UInt32.size))

theorem writable_iff : a.Writable ↔ a.col < 0xFFFFFFFF ∧ a.row < 0xFFFFFFFF := by
  rw [Writable, UInt32.lt_iff_toNat_lt, UInt32.lt_iff_toNat_lt,
    show UInt32.size = UInt32.toNat 0xFFFFFFFF + 1 from rfl]
  omega

/-- What is written for an address is read back exactly if both coordinates can be written. -/
theorem read?_chars_eq_ite (a : Address) :
    read? a.chars = if a.Writable then some a else none := by
  have letter : ∀ c ∈ Column.letters a.col, c.isAlpha := fun c member =>
    Text.isAlpha_of_isUpper (Column.isUpper_of_mem_numeral member)
  have some_letters : Column.letters a.col ≠ [] := Column.numeral_ne_nil (Nat.succ_ne_zero _)
  rw [chars, List.append_assoc, List.append_assoc,
    read?_mark_append some_letters letter fun _ => Text.isDigit_of_mem_digitsOf,
    Column.ofLetters?_letters_eq_ite, readRow?_digitsOf_eq_ite]
  by_cases col : a.col.toNat + 1 < UInt32.size <;> by_cases row : a.row.toNat + 1 < UInt32.size <;>
    simp [Writable, col, row]

/-- The spelling in capitals, with no zeros in front of the number that ends it. -/
def capitalized (cs : List Char) : List Char :=
  let capitals := cs.map Char.toUpper
  capitals.takeWhile (! Char.isDigit ·) ++
    (capitals.dropWhile (! Char.isDigit ·)).dropWhile (· == '0')

theorem not_isDigit_of_mem_mark {absolute : Bool} {c : Char} (member : c ∈ mark absolute) :
    ¬ c.isDigit := by
  cases absolute with
  | true =>
      obtain rfl := List.mem_singleton.mp member
      decide
  | false => simp [mark] at member

/-- An address is written as any text that it is read from, in capitals and without zeros in front
of the row number. -/
theorem chars_eq_capitalized (read : read? cs = some a) : a.chars = capitalized cs := by
  obtain ⟨letters, digits, rfl, read_col, read_row⟩ := read?_eq_some_iff.mp read
  obtain ⟨⟨_, digit⟩, denotes, _⟩ := readRow?_eq_some_iff.mp read_row
  have mark (absolute : Bool) : (mark absolute).map Char.toUpper = mark absolute := by
    cases absolute <;> rfl
  have number : digits.map Char.toUpper = digits :=
    Text.map_toUpper_of_capitals fun c member => Text.toUpper_of_isDigit (digit c member)
  have row_eq : Text.digitsOf (a.row.toNat + 1) = digits.dropWhile (· == '0') := by
    rw [← denotes, Text.digitsOf_natOfDigits digit (by omega)]
  have front : ∀ c ∈ Address.mark a.colAbsolute ++ letters.map Char.toUpper ++
      Address.mark a.rowAbsolute, (! c.isDigit) := by
    intro c member
    simp only [List.mem_append, List.mem_map] at member
    rw [Bool.not_eq_true', ← Bool.not_eq_true]
    rcases member with (member | ⟨d, member, rfl⟩) | member
    · exact not_isDigit_of_mem_mark member
    · rw [Text.isDigit_toUpper]
      exact Text.not_isDigit_of_isAlpha ((Column.letters_of_ofLetters? read_col).2 d member)
    · exact not_isDigit_of_mem_mark member
  have stop : ∀ c ∈ digits.head?, ¬ (! c.isDigit) := fun c head => by
    simpa using digit c (List.mem_of_mem_head? head)
  have capitals : (Address.mark a.colAbsolute ++ (letters ++
      (Address.mark a.rowAbsolute ++ digits))).map Char.toUpper =
        Address.mark a.colAbsolute ++ letters.map Char.toUpper ++ Address.mark a.rowAbsolute ++
          digits := by
    simp only [List.map_append, mark, number, List.append_assoc]
  rw [capitalized, capitals, Text.takeWhile_append_of_stop front stop,
    Text.dropWhile_append_of_stop front stop, chars, Column.letters_of_read read_col, row_eq]

/-- Writing and reading addresses are inverse to each other. What is written is read back, except
in the very last column and row; what was read is written as it stood, less the blanks around it,
in capitals and without zeros in front of the row number. -/
theorem writing_and_reading_inverse :
    (∀ a : Address, ofText? a.text =
      if a.col < 0xFFFFFFFF ∧ a.row < 0xFFFFFFFF then some a else none) ∧
    ∀ (text : String) (a : Address), ofText? text = some a →
      a.text = String.ofList (capitalized (Text.trimList text.toList)) := by
  constructor
  · intro a
    rw [ofText?, text, String.toList_ofList, trimList_chars, read?_chars_eq_ite]
    simp only [writable_iff]
  · intro text a read
    rw [Address.text, chars_eq_capitalized read]

theorem text_of_lower_case_with_blanks :
    ofText? " $aa$007 " = some ⟨26, 6, true, true⟩ ∧
      Address.text ⟨26, 6, true, true⟩ =
        String.ofList (capitalized (Text.trimList " $aa$007 ".toList)) :=
  have read : ofText? " $aa$007 " = some ⟨26, 6, true, true⟩ := by decide +kernel
  ⟨read, writing_and_reading_inverse.2 _ _ read⟩

end Address
end Spreadsheet
