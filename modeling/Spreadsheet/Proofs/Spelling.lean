import Spreadsheet.Proofs.Text.Characters

/-!
# Spellings of references

Which texts are read as an address or a range, and that what is written for one is read back. A
text that is read as an address consists of letters and digits, each with an optional mark in
front; the case of the letters makes no difference.
-/

namespace Spreadsheet

/-! ## Column letters -/

namespace Column

variable {cs : List Char} {column : UInt32} {value digit : Nat}

theorem toNat_letterOf (small : digit < 26) : (letterOf digit).toNat = 65 + digit := by
  revert digit
  decide

theorem isUpper_letterOf (small : digit < 26) : (letterOf digit).isUpper := by
  rw [Text.isUpper_iff_toNat, toNat_letterOf small]
  omega

theorem letterValue_letterOf (small : digit < 26) : letterValue (letterOf digit) = digit + 1 := by
  rw [letterValue, Text.toNat_toUpper, toNat_letterOf small, if_neg (by omega),
    show 'A'.toNat = 65 from rfl]
  omega

theorem isUpper_of_mem_numeral {c : Char} (member : c ∈ numeral value) : c.isUpper := by
  induction value using numeral.induct with
  | case1 => simp [numeral] at member
  | case2 value positive ih =>
      rw [numeral, if_neg positive, List.mem_append, List.mem_singleton] at member
      rcases member with member | rfl
      · exact ih member
      · exact isUpper_letterOf (Nat.mod_lt _ (by decide))

/-- A numeral that fits 32 bits is read back. -/
theorem foldlM_appendLetter?_numeral (fits : value < UInt32.size) :
    (numeral value).foldlM appendLetter? 0 = some value := by
  induction value using numeral.induct with
  | case1 => simp [numeral]
  | case2 value positive ih =>
      have small : (value - 1) % 26 < 26 := Nat.mod_lt _ (by decide)
      have whole : 26 * ((value - 1) / 26) + ((value - 1) % 26 + 1) = value := by omega
      have letter : (letterOf ((value - 1) % 26)).isAlpha :=
        Text.isAlpha_of_isUpper (isUpper_letterOf small)
      rw [numeral, if_neg positive, List.foldlM_append, ih (by omega)]
      simp only [List.foldlM_cons, List.foldlM_nil, Option.bind_eq_bind, Option.bind_some,
        Option.pure_def, appendLetter?, letterValue_letterOf small, whole, letter, fits]
      rfl

theorem numeral_ne_nil (positive : value ≠ 0) : numeral value ≠ [] := by
  rw [numeral, if_neg positive]
  simp

/-- Letters are read back, except those of the very last column. -/
theorem ofLetters?_letters (fits : column.toNat + 1 < UInt32.size) :
    ofLetters? (letters column) = some column := by
  rw [ofLetters?, letters, if_neg (by simpa using numeral_ne_nil (Nat.succ_ne_zero _)),
    foldlM_appendLetter?_numeral fits]
  simp

theorem isAlpha_of_appendLetter? {c : Char} {next : Nat}
    (read : appendLetter? value c = some next) :
    c.isAlpha := by
  rw [appendLetter?] at read
  split at read
  · rename_i fits
    exact fits.1
  · contradiction

theorem isAlpha_of_foldlM {next : Nat} (read : cs.foldlM appendLetter? value = some next) :
    ∀ c ∈ cs, c.isAlpha := by
  induction cs generalizing value with
  | nil => simp
  | cons first rest ih =>
      rw [List.foldlM_cons, Option.bind_eq_bind, Option.bind_eq_some_iff] at read
      obtain ⟨middle, read_first, read_rest⟩ := read
      intro c member
      rcases List.mem_cons.mp member with rfl | member
      · exact isAlpha_of_appendLetter? read_first
      · exact ih read_rest c member

/-- Only letters name a column, and at least one. -/
theorem letters_of_ofLetters? (read : ofLetters? cs = some column) :
    cs ≠ [] ∧ ∀ c ∈ cs, c.isAlpha := by
  rw [ofLetters?] at read
  split at read
  · contradiction
  · rename_i nonempty
    obtain ⟨value, read, _⟩ := Option.map_eq_some_iff.mp read
    exact ⟨by simpa using nonempty, isAlpha_of_foldlM read⟩

theorem lt_of_foldlM {next : Nat} (small : value < UInt32.size)
    (read : cs.foldlM appendLetter? value = some next) : next < UInt32.size := by
  induction cs generalizing value with
  | nil =>
      obtain rfl := Option.some.inj read
      exact small
  | cons first rest ih =>
      rw [List.foldlM_cons, Option.bind_eq_bind, Option.bind_eq_some_iff] at read
      obtain ⟨middle, read_first, read_rest⟩ := read
      refine ih ?_ read_rest
      rw [appendLetter?] at read_first
      split at read_first
      · rename_i fits
        exact Option.some.inj read_first ▸ fits.2
      · contradiction

/-- The very last column has no letters that are read. -/
theorem toNat_lt_of_ofLetters? (read : ofLetters? cs = some column) :
    column.toNat + 1 < UInt32.size := by
  rw [ofLetters?] at read
  split at read
  · contradiction
  · obtain ⟨value, read_value, rfl⟩ := Option.map_eq_some_iff.mp read
    have small := lt_of_foldlM (by decide) read_value
    have two : 1 < UInt32.size := by decide
    rw [UInt32.toNat_ofNat_of_lt' (by omega)]
    omega

@[simp] theorem ofLetters?_map_toUpper : ofLetters? (cs.map Char.toUpper) = ofLetters? cs := by
  have step (value : Nat) (c : Char) : appendLetter? value c.toUpper = appendLetter? value c := by
    rw [appendLetter?, appendLetter?, letterValue, letterValue, Text.isAlpha_toUpper,
      Text.toUpper_toUpper]
  rw [ofLetters?, ofLetters?, List.isEmpty_map, List.foldlM_map]
  simp only [step]

end Column

/-! ## Addresses -/

namespace Address

variable {cs : List Char} {a : Address} {absolute : Bool}

/-- The coordinates of an address can be written and read back. -/
def Writable (a : Address) : Prop := a.col.toNat + 1 < UInt32.size ∧ a.row.toNat + 1 < UInt32.size

theorem takeMark_mark (plain : cs.head? ≠ some '$') :
    takeMark (mark absolute ++ cs) = (absolute, cs) := by
  cases absolute with
  | true => rfl
  | false =>
      cases cs with
      | nil => rfl
      | cons c rest =>
          rw [mark, if_neg Bool.false_ne_true, List.nil_append, takeMark]
          rintro cs same
          simp [same] at plain

theorem eq_mark_append (cs : List Char) : cs = mark (takeMark cs).1 ++ (takeMark cs).2 := by
  cases cs with
  | nil => rfl
  | cons c rest =>
      by_cases marked : c = '$'
      · rw [marked]
        rfl
      · simp [takeMark, marked, mark]

theorem readRow?_eq_some_iff {row : UInt32} :
    readRow? cs = some row ↔
      (cs ≠ [] ∧ ∀ c ∈ cs, c.isDigit) ∧ Text.natOfDigits cs = row.toNat + 1 ∧
        row.toNat + 1 < UInt32.size := by
  rw [readRow?, Option.bind_eq_bind, Option.bind_eq_some_iff]
  constructor
  · rintro ⟨number, read, counted⟩
    obtain ⟨digits, number_eq⟩ := Text.readUInt32?_eq_some_iff.mp read
    split at counted
    · contradiction
    · rename_i nonzero
      have positive : 1 ≤ number.toNat := by
        rw [← UInt32.toNat_inj, UInt32.toNat_zero] at nonzero
        omega
      have one_le : (1 : UInt32) ≤ number := UInt32.le_iff_toNat_le.mpr positive
      have pred : row.toNat = number.toNat - 1 := by
        rw [← Option.some.inj counted, UInt32.toNat_sub_of_le _ _ one_le]
        rfl
      have fits : number.toNat < UInt32.size := number.toNat_lt
      exact ⟨digits, by omega, by omega⟩
  · rintro ⟨digits, number_eq, fits⟩
    have succ : (row + 1).toNat = row.toNat + 1 := by
      rw [UInt32.toNat_add, UInt32.toNat_one, Nat.mod_eq_of_lt fits]
    refine ⟨row + 1, Text.readUInt32?_eq_some_iff.mpr ⟨digits, number_eq.trans succ.symm⟩, ?_⟩
    rw [if_neg, UInt32.add_sub_cancel]
    intro zero
    rw [zero, UInt32.toNat_zero] at succ
    omega

/-- Behind the letters of an address stands a mark or a digit. -/
theorem head?_mark_append_digits (absolute : Bool) (digit : ∀ c ∈ cs, c.isDigit) :
    ∀ c ∈ (mark absolute ++ cs).head?, ¬ c.isAlpha := by
  intro c head letter
  cases absolute with
  | true =>
      obtain rfl : '$' = c := Option.some.inj head
      exact absurd letter (by decide)
  | false => exact Text.not_isDigit_of_isAlpha letter (digit c (List.mem_of_mem_head? head))

/-- Letters and digits with marks in front are told apart; what they name is decided separately. -/
theorem read?_mark_append {letters digits : List Char} {colAbsolute rowAbsolute : Bool}
    (some_letters : letters ≠ []) (letter : ∀ c ∈ letters, c.isAlpha)
    (digit : ∀ c ∈ digits, c.isDigit) :
    read? (mark colAbsolute ++ (letters ++ (mark rowAbsolute ++ digits))) =
      (Column.ofLetters? letters).bind fun col =>
        (readRow? digits).map fun row => ⟨col, row, colAbsolute, rowAbsolute⟩ := by
  have digits_plain : digits.head? ≠ some '$' := fun head =>
    absurd (digit '$' (List.mem_of_mem_head? head)) (by decide)
  have letters_plain : (letters ++ (mark rowAbsolute ++ digits)).head? ≠ some '$' := by
    obtain ⟨c, rest, rfl⟩ := List.exists_cons_of_ne_nil some_letters
    rintro ⟨rfl⟩
    exact absurd (letter '$' List.mem_cons_self) (by decide)
  have stop := head?_mark_append_digits rowAbsolute digit
  simp only [read?, takeMark_mark letters_plain, Text.takeWhile_append_of_stop letter stop,
    Text.dropWhile_append_of_stop letter stop, takeMark_mark digits_plain, Option.bind_eq_bind,
    Option.map_eq_bind, Function.comp_def]

/-- What is read as an address: letters and digits, each with an optional mark in front. -/
theorem read?_eq_some_iff :
    read? cs = some a ↔ ∃ letters digits,
      cs = mark a.colAbsolute ++ (letters ++ (mark a.rowAbsolute ++ digits)) ∧
        Column.ofLetters? letters = some a.col ∧ readRow? digits = some a.row := by
  constructor
  · intro read
    rw [read?] at read
    simp only [Option.bind_eq_bind, Option.bind_eq_some_iff] at read
    obtain ⟨col, read_col, row, read_row, same⟩ := read
    rw [← Option.some.inj same]
    refine ⟨_, _, ?_, read_col, read_row⟩
    rw [← eq_mark_append, List.takeWhile_append_dropWhile, ← eq_mark_append]
  · rintro ⟨letters, digits, rfl, read_col, read_row⟩
    obtain ⟨some_letters, letter⟩ := Column.letters_of_ofLetters? read_col
    obtain ⟨⟨_, digit⟩, _⟩ := readRow?_eq_some_iff.mp read_row
    rw [read?_mark_append some_letters letter digit, read_col, read_row]
    rfl

theorem takeMark_map_toUpper (cs : List Char) :
    takeMark (cs.map Char.toUpper) = ((takeMark cs).1, (takeMark cs).2.map Char.toUpper) := by
  cases cs with
  | nil => rfl
  | cons c rest =>
      by_cases marked : c = '$'
      · rw [marked]
        rfl
      · have marked' : c.toUpper ≠ '$' :=
          fun same => marked ((Text.toUpper_eq_iff (by decide)).mp same)
        simp [takeMark, marked, marked']

theorem readRow?_map_toUpper (cs : List Char) : readRow? (cs.map Char.toUpper) = readRow? cs := by
  rw [readRow?, readRow?, Text.readUInt32?_map_toUpper]

/-- The letters may be of any case. -/
@[simp] theorem read?_map_toUpper (cs : List Char) : read? (cs.map Char.toUpper) = read? cs := by
  have kind : (Char.isAlpha ∘ Char.toUpper) = Char.isAlpha := funext fun _ => Text.isAlpha_toUpper
  simp only [read?, takeMark_map_toUpper, List.takeWhile_map, List.dropWhile_map, kind,
    Column.ofLetters?_map_toUpper, readRow?_map_toUpper]

/-- What is written for an address is read back, except in the very last column and row. -/
theorem read?_chars (writable : a.Writable) : read? a.chars = some a := by
  apply read?_eq_some_iff.mpr
  refine ⟨Column.letters a.col, Text.digitsOf (a.row.toNat + 1), ?_,
    Column.ofLetters?_letters writable.1, ?_⟩
  · rw [chars, List.append_assoc, List.append_assoc]
  · exact readRow?_eq_some_iff.mpr
      ⟨⟨Text.digitsOf_ne_nil _, fun _ => Text.isDigit_of_mem_digitsOf⟩,
      Text.natOfDigits_digitsOf _, writable.2⟩

/-- A word names the address that its characters spell, whatever the case of its letters. -/
theorem ofText?_capitals (dark : ∀ c ∈ cs, ¬ Text.isBlank c) :
    ofText? (String.ofList (cs.map Char.toUpper)) = read? cs := by
  rw [ofText?, String.toList_ofList, Text.trimList_of_no_blank, read?_map_toUpper]
  simpa using dark

/-- What is written for an address is in capitals. -/
theorem map_toUpper_chars (a : Address) : a.chars.map Char.toUpper = a.chars := by
  have mark (absolute : Bool) : (mark absolute).map Char.toUpper = mark absolute := by
    cases absolute <;> rfl
  have letters : (Column.letters a.col).map Char.toUpper = Column.letters a.col :=
    Text.map_toUpper_of_capitals fun c member =>
      Text.toUpper_of_isUpper (Column.isUpper_of_mem_numeral member)
  have digits : (Text.digitsOf (a.row.toNat + 1)).map Char.toUpper =
      Text.digitsOf (a.row.toNat + 1) :=
    Text.map_toUpper_of_capitals fun c member =>
      Text.toUpper_of_isDigit (Text.isDigit_of_mem_digitsOf member)
  simp only [chars, List.map_append, mark, letters, digits]

/-- What is read can be written. -/
theorem writable_of_read? (read : read? cs = some a) : a.Writable := by
  obtain ⟨letters, digits, _, read_col, read_row⟩ := read?_eq_some_iff.mp read
  exact ⟨Column.toNat_lt_of_ofLetters? read_col, (readRow?_eq_some_iff.mp read_row).2.2⟩

/-! ## The characters of an address -/

/-- The character may occur in an address. -/
def IsPart (c : Char) : Prop := c.isAlphanum ∨ c = '$'

instance : DecidablePred IsPart := fun c =>
  inferInstanceAs (Decidable (c.isAlphanum = true ∨ c = '$'))

theorem IsPart.ne {c d : Char} (part : IsPart c) (other : ¬ IsPart d) : c ≠ d :=
  fun same => other (same ▸ part)

theorem isPart_of_mem_mark {c : Char} (member : c ∈ mark absolute) : IsPart c := by
  cases absolute with
  | true => exact .inr (List.mem_singleton.mp member)
  | false => simp [mark] at member

theorem isPart_of_read? (read : read? cs = some a) : ∀ c ∈ cs, IsPart c := by
  obtain ⟨letters, digits, rfl, read_col, read_row⟩ := read?_eq_some_iff.mp read
  obtain ⟨_, letter⟩ := Column.letters_of_ofLetters? read_col
  obtain ⟨⟨_, digit⟩, _⟩ := readRow?_eq_some_iff.mp read_row
  intro c member
  simp only [List.mem_append] at member
  rcases member with member | member | member | member
  · exact isPart_of_mem_mark member
  · exact .inl (by rw [Char.isAlphanum, letter c member, Bool.true_or])
  · exact isPart_of_mem_mark member
  · exact .inl (by rw [Char.isAlphanum, digit c member, Bool.or_true])

theorem not_isBlank_of_isPart {c : Char} (part : IsPart c) : ¬ Text.isBlank c := by
  rcases part with plain | rfl
  · exact Text.not_isBlank_of_isAlphanum plain
  · decide

theorem isPart_of_mem_chars {c : Char} (member : c ∈ a.chars) : IsPart c := by
  simp only [chars, List.mem_append] at member
  rcases member with ((member | member) | member) | member
  · exact isPart_of_mem_mark member
  · have letter := Text.isAlpha_of_isUpper (Column.isUpper_of_mem_numeral member)
    exact .inl (by rw [Char.isAlphanum, letter, Bool.true_or])
  · exact isPart_of_mem_mark member
  · exact .inl (by rw [Char.isAlphanum, Text.isDigit_of_mem_digitsOf member, Bool.or_true])

theorem trimList_chars (a : Address) : Text.trimList a.chars = a.chars :=
  Text.trimList_of_no_blank fun _ member => not_isBlank_of_isPart (isPart_of_mem_chars member)

theorem ofText?_text (writable : a.Writable) : ofText? a.text = some a := by
  rw [ofText?, text, String.toList_ofList, trimList_chars, read?_chars writable]

end Address

/-! ## Ranges -/

namespace Range

variable {cs : List Char} {r : Range}

/-- What is read as a range: two addresses with the first colon between them. -/
theorem read?_eq_some_iff :
    read? cs = some r ↔ ∃ first second a b, cs = first ++ ':' :: second ∧ ':' ∉ first ∧
      Address.read? (Text.trimList first) = some a ∧
        Address.read? (Text.trimList second) = some b ∧ between a b = r := by
  constructor
  · intro read
    rw [read?] at read
    split at read
    · contradiction
    · rename_i colon second behind
      simp only [Option.bind_eq_bind, Option.bind_eq_some_iff] at read
      obtain ⟨a, read_first, b, read_second, same⟩ := read
      have colon_eq : colon = ':' := by
        have head := List.head?_dropWhile_not (fun c => ! (c == ':')) cs
        rw [behind] at head
        simpa using head
      refine ⟨_, second, a, b, ?_, ?_, read_first, read_second, Option.some.inj same⟩
      · rw [← colon_eq, ← behind, colon_eq]
        exact List.takeWhile_append_dropWhile.symm
      · intro member
        simpa using List.mem_takeWhile_imp member
  · rintro ⟨first, second, a, b, rfl, absent, read_first, read_second, rfl⟩
    have run : ∀ c ∈ first, (! (c == ':')) = true := by
      intro c member
      rw [Bool.not_eq_true', beq_eq_false_iff_ne]
      exact fun same => absent (same ▸ member)
    have stop : ∀ c ∈ (':' :: second).head?, ¬ (! (c == ':')) = true := by
      rintro c ⟨rfl⟩
      decide
    simp only [read?, Text.takeWhile_append_of_stop run stop,
      Text.dropWhile_append_of_stop run stop, read_first, read_second, Option.bind_eq_bind,
      Option.bind_some]

/-- The letters may be of any case. -/
@[simp] theorem read?_map_toUpper (cs : List Char) : read? (cs.map Char.toUpper) = read? cs := by
  have colon : (fun c : Char => ! (c == ':')) ∘ Char.toUpper = fun c => ! (c == ':') := by
    funext c
    rw [Function.comp_apply, Bool.eq_iff_iff, Bool.not_eq_true', Bool.not_eq_true',
      beq_eq_false_iff_ne, beq_eq_false_iff_ne, ne_eq, Text.toUpper_eq_iff (by decide)]
  simp only [read?, List.dropWhile_map, List.takeWhile_map, colon]
  cases cs.dropWhile fun c => ! (c == ':') with
  | nil => rfl
  | cons c second =>
      simp only [List.map_cons, Text.trimList_map_toUpper, Address.read?_map_toUpper]

/-- A word names the range that its characters spell, whatever the case of its letters. -/
theorem ofText?_capitals (cs : List Char) :
    ofText? (String.ofList (cs.map Char.toUpper)) = read? cs := by
  rw [ofText?, String.toList_ofList, read?_map_toUpper]

/-- What is written for a range is read back with its corners in order. -/
theorem ofText?_text (first : r.first.Writable) (last : r.last.Writable) :
    ofText? r.text = some (between r.first r.last) := by
  rw [ofText?]
  apply read?_eq_some_iff.mpr
  refine ⟨r.first.chars, r.last.chars, r.first, r.last, ?_, fun colon => ?_, ?_, ?_, rfl⟩
  · simp [text, Address.text]
  · exact absurd (Address.isPart_of_read? (Address.read?_chars first) ':' colon) (by decide)
  · rw [Address.trimList_chars, Address.read?_chars first]
  · rw [Address.trimList_chars, Address.read?_chars last]

theorem between_of_le {a b : Address} (col : a.col ≤ b.col) (row : a.row ≤ b.row) :
    between a b = ⟨a, b⟩ := by
  simp only [between, if_pos col, if_pos row]

theorem ordered_between (a b : Address) :
    (between a b).first.col ≤ (between a b).last.col ∧
      (between a b).first.row ≤ (between a b).last.row := by
  by_cases col : a.col ≤ b.col <;> by_cases row : a.row ≤ b.row
  · simp only [between, if_pos col, if_pos row]
    exact ⟨col, row⟩
  · simp only [between, if_pos col, if_neg row]
    exact ⟨col, (UInt32.le_total _ _).resolve_left row⟩
  · simp only [between, if_neg col, if_pos row]
    exact ⟨(UInt32.le_total _ _).resolve_left col, row⟩
  · simp only [between, if_neg col, if_neg row]
    exact ⟨(UInt32.le_total _ _).resolve_left col, (UInt32.le_total _ _).resolve_left row⟩

/-- The corners of a range are in order already. -/
theorem between_first_last (a b : Address) :
    between (between a b).first (between a b).last = between a b :=
  between_of_le (ordered_between a b).1 (ordered_between a b).2

end Range
end Spreadsheet
