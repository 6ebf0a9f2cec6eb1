import Mathlib.Algebra.Ring.Nat
import Spreadsheet.Proofs.Formula.ReferenceShift

/-!
# The length of relocated text

The text that is written for a reference is the shortest spelling of it. So relocation makes a text
longer only by as much as its references need more characters at their new places, and a text whose
references have returned to their old places is no longer than it was.
-/

namespace Spreadsheet

/-! ## Columns and rows -/

namespace Column

variable {c : Char} {cs : List Char} {column : UInt32} {value next : Nat}

theorem toNat_toUpper_of_isAlpha (letter : c.isAlpha) :
    65 ≤ c.toUpper.toNat ∧ c.toUpper.toNat ≤ 90 := by
  rw [Text.isAlpha_iff_toNat] at letter
  rw [Text.toNat_toUpper]
  split <;> omega

/-- Appending a letter to what a numeral stands for appends its capital to the numeral. -/
theorem numeral_append (letter : c.isAlpha) :
    numeral (26 * value + letterValue c) = numeral value ++ [c.toUpper] := by
  have range := toNat_toUpper_of_isAlpha letter
  have digit : letterValue c = c.toUpper.toNat - 65 + 1 := rfl
  have quotient : (26 * value + letterValue c - 1) / 26 = value := by omega
  have remainder : 65 + (26 * value + letterValue c - 1) % 26 = c.toUpper.toNat := by omega
  rw [numeral, if_neg (by omega), quotient, letterOf, show 'A'.toNat = 65 from rfl, remainder,
    Char.ofNat_toNat]

/-- What letters name is written with these letters in capitals. -/
theorem numeral_of_foldlM (read : cs.foldlM appendLetter? value = some next) :
    numeral next = numeral value ++ cs.map Char.toUpper := by
  induction cs generalizing value with
  | nil =>
      obtain rfl := Option.some.inj read
      simp
  | cons c cs ih =>
      rw [List.foldlM_cons, Option.bind_eq_bind, Option.bind_eq_some_iff] at read
      obtain ⟨middle, read_first, read_rest⟩ := read
      have letter := isAlpha_of_appendLetter? read_first
      have middle_eq : 26 * value + letterValue c = middle := by
        rw [appendLetter?] at read_first
        split at read_first
        · exact Option.some.inj read_first
        · contradiction
      rw [ih read_rest, ← middle_eq, numeral_append letter, List.map_cons, List.append_assoc,
        List.singleton_append]

theorem letters_of_read (read : ofLetters? cs = some column) :
    letters column = cs.map Char.toUpper := by
  have fits := toNat_lt_of_ofLetters? read
  have some_letters := (letters_of_ofLetters? read).1
  rw [ofLetters?, if_neg (by simpa using some_letters)] at read
  obtain ⟨value, read_value, column_eq⟩ := Option.map_eq_some_iff.mp read
  have zero : numeral 0 = [] := by rw [numeral, if_pos rfl]
  have numeral_eq := numeral_of_foldlM read_value
  rw [zero, List.nil_append] at numeral_eq
  have value_lt := lt_of_foldlM (by decide) read_value
  have positive : value ≠ 0 := by
    rintro rfl
    rw [zero] at numeral_eq
    exact some_letters (List.map_eq_nil_iff.mp numeral_eq.symm)
  have column_toNat : column.toNat = value - 1 := by
    rw [← column_eq, UInt32.toNat_ofNat_of_lt' (by omega)]
  rw [letters, column_toNat, Nat.sub_add_cancel (by omega), numeral_eq]

end Column

/-- Digits denote less than the power of ten that has as many zeros. -/
theorem Text.natOfDigits_lt {cs : List Char} (digits : ∀ c ∈ cs, c.isDigit) :
    natOfDigits cs < 10 ^ cs.length := by
  have bound (value : Nat) : cs.foldl (fun value c => 10 * value + digitValue c) value <
      (value + 1) * 10 ^ cs.length := by
    induction cs generalizing value with
    | nil => simp
    | cons c cs ih =>
        obtain ⟨first, rest⟩ := List.forall_mem_cons.mp digits
        have small : digitValue c ≤ 9 := by
          rw [isDigit_iff_toNat] at first
          rw [digitValue, show '0'.toNat = 48 from rfl]
          omega
        calc (c :: cs).foldl (fun value c => 10 * value + digitValue c) value
          _ < (10 * value + digitValue c + 1) * 10 ^ cs.length := ih rest _
          _ ≤ ((value + 1) * 10) * 10 ^ cs.length := Nat.mul_le_mul_right _ (by omega)
          _ = (value + 1) * 10 ^ (c :: cs).length := by
            rw [List.length_cons, Nat.pow_succ, Nat.mul_assoc, Nat.mul_comm 10]
  simpa [natOfDigits] using bound 0

theorem Text.length_digitsOf_le {cs : List Char} {n : Nat} (some_digits : cs ≠ [])
    (digits : ∀ c ∈ cs, c.isDigit) (denotes : natOfDigits cs = n) :
    (digitsOf n).length ≤ cs.length := by
  rw [digitsOf, Nat.length_toDigits_le_iff (by decide) (List.length_pos_iff.mpr some_digits),
    ← denotes]
  exact natOfDigits_lt digits

/-! ## References -/

namespace Address

variable {a b : Address} {cs : List Char}

/-- No spelling of an address is shorter than the one that is written for it. -/
theorem length_chars_le (read : read? cs = some a) : a.chars.length ≤ cs.length := by
  obtain ⟨letters, digits, rfl, read_col, read_row⟩ := read?_eq_some_iff.mp read
  obtain ⟨⟨some_digits, digit⟩, denotes, _⟩ := readRow?_eq_some_iff.mp read_row
  have row_le := Text.length_digitsOf_le some_digits digit denotes
  simp only [chars, Column.letters_of_read read_col, List.length_append, List.length_map]
  omega

end Address

theorem Text.length_trimList_le (cs : List Char) : (trimList cs).length ≤ cs.length := by
  have back := (List.dropWhile_suffix (l := (trimStart cs).reverse) isBlank).length_le
  have front := (List.dropWhile_suffix (l := cs) isBlank).length_le
  rw [List.length_reverse] at back
  rw [trimList, trimEnd, List.length_reverse]
  exact back.trans front

namespace Range

variable {r : Range} {cs : List Char}

theorem length_between (a b : Address) :
    (between a b).first.chars.length + (between a b).last.chars.length =
      a.chars.length + b.chars.length := by
  simp only [between]
  split <;> split <;> simp only [Address.chars, List.length_append] <;> omega

theorem length_text (r : Range) :
    r.text.length = r.first.chars.length + r.last.chars.length + 1 := by
  rw [← String.length_toList, Formula.toList_text, List.length_append, List.length_cons]
  omega

/-- Putting corners in order changes no characters. -/
theorem length_text_between (r : Range) :
    (between r.first r.last).text.length = r.text.length := by
  rw [length_text, length_text, length_between]

/-- No spelling of a range is shorter than the one that is written for it. -/
theorem length_text_le (read : read? cs = some r) : r.text.length ≤ cs.length := by
  obtain ⟨first, second, a, b, rfl, _, read_first, read_second, rfl⟩ := read?_eq_some_iff.mp read
  have first_le := (Address.length_chars_le read_first).trans (Text.length_trimList_le first)
  have second_le := (Address.length_chars_le read_second).trans (Text.length_trimList_le second)
  have both := length_between a b
  rw [← String.length_toList, Formula.toList_text, List.length_append, List.length_cons,
    List.length_append, List.length_cons]
  omega

end Range

/-- What is written for a reference after a shift: the shifted reference, or the code for a lost
one. -/
def Reference.textAfter (s : Shift) (reference : Reference) : String :=
  match reference.shift? s with
  | none => ErrorCode.reference.code
  | some shifted => shifted.text

namespace Formula

variable {s : Shift} {u rest cs cs' : List Char} {t : Token} {ts : List Token} {text : String}
  {e : Expr}

/-! ## Tokens -/

/-- The word of an address grows only by what the address needs. -/
theorem length_relocateReference_address {a : Address} (read : Address.read? u = some a)
    (no_colon : ':' ∉ u) : (relocateReference s u).length + (Reference.cell a).text.length ≤
      u.length + ((Reference.cell a).textAfter s).length := by
  have short := Address.length_chars_le read
  have written : (Reference.cell a).text.length = a.chars.length := String.length_ofList
  rw [relocateReference_address read no_colon, Reference.textAfter, Reference.shift?, written]
  cases a.shift? s with
  | none =>
      simp only [Option.map_none, String.length_toList]
      omega
  | some shifted =>
      simp only [Option.map_some, Reference.text, Address.text, String.length_ofList]
      split
      · rename_i same
        rw [same]
      · omega

/-- The word of a range grows only by what the range needs. -/
theorem length_relocateReference_range {r : Range} (read : Range.read? u = some r)
    (colon : ':' ∈ u) : (relocateReference s u).length + (Reference.range r).text.length ≤
      u.length + ((Reference.range r).textAfter s).length := by
  have short : (Reference.range r).text.length ≤ u.length := Range.length_text_le read
  rw [relocateReference_range read colon, Reference.textAfter, Reference.shift?]
  cases r.shift? s with
  | none =>
      simp only [Option.map_none, String.length_toList]
      omega
  | some shifted =>
      have ordered := Range.length_text_between shifted
      simp only [Option.map_some, Reference.text] at short ⊢
      split
      · rename_i same
        rw [← same]
        omega
      · rw [String.length_toList]
        omega

theorem Token.references_cell {word : String} {a : Address}
    (named : Address.ofText? word = some a) :
    (cell word).references = [.cell a] := by
  rw [references, named]
  rfl

theorem Token.references_range {word : String} {r : Range} (named : Range.ofText? word = some r) :
    (range word).references = [.range r] := by
  rw [references, named]
  rfl

/-- A token grows only by what its reference needs. -/
theorem Spells.length_respell (spells : Spells rest u t) (sound : t.IsSound)
    (plain : ∀ name ∈ t.names, ':' ∉ name.toList) :
    (t.respell s u).length + (t.references.map fun reference => reference.text.length).sum ≤
      u.length + (t.references.map fun reference => (reference.textAfter s).length).sum := by
  cases id spells with
  | @word c w starts continues ends =>
      have continues_all : ∀ d ∈ c :: w, continuesWord d :=
        List.forall_mem_cons.mpr ⟨continuesWord_of_startsWord starts, continues⟩
      rcases wordToken_cases (c :: w) (rest.head? == some '(') with
        ⟨_, token⟩ | ⟨_, b, token, _⟩ | ⟨_, colon, token⟩ | ⟨_, no_colon, token⟩
      · rw [token] at spells plain ⊢
        have part := spells.isPart_of_function (plain _ (List.mem_singleton_self _))
        have same := congrArg List.length (relocateName_of_isPart (s := s) part)
        rw [String.toList_ofList, relocateName_map_toUpper, List.length_map,
          List.length_map] at same
        exact same.le
      · rw [token]
        simp only [Token.respell, Token.references, List.map_nil, le_refl]
      · rw [token] at sound ⊢
        obtain ⟨r, named⟩ := Option.isSome_iff_exists.mp sound
        have read := (Range.ofText?_capitals _).symm.trans named
        simp only [Token.references_range named, Token.respell, List.map_singleton,
          List.sum_singleton]
        exact length_relocateReference_range read colon
      · rw [token] at sound ⊢
        obtain ⟨a, named⟩ := Option.isSome_iff_exists.mp sound
        have read := (Address.ofText?_capitals fun d member =>
          not_isBlank_of_continuesWord (continues_all d member)).symm.trans named
        simp only [Token.references_cell named, Token.respell, List.map_singleton,
          List.sum_singleton]
        exact length_relocateReference_address read no_colon
  | _ => exact le_refl _

/-! ## Texts -/

/-- A respelled text grows only by what its references need. -/
theorem Respelled.length_le (respelled : Respelled s cs ts cs') (sound : ∀ t ∈ ts, t.IsSound)
    (plain : ∀ t ∈ ts, ∀ name ∈ t.names, ':' ∉ name.toList) :
    cs'.length + ((ts.flatMap Token.references).map fun reference => reference.text.length).sum ≤
      cs.length + ((ts.flatMap Token.references).map fun reference =>
        (reference.textAfter s).length).sum := by
  -- Lengths are added up token by token, so no subtraction is needed where texts become shorter.
  induction respelled with
  | nil => exact le_refl _
  | blank _ _ ih =>
      have rest_le := ih sound plain
      simp only [List.length_cons]
      omega
  | token spells _ _ ih =>
      obtain ⟨first_sound, sound⟩ := List.forall_mem_cons.mp sound
      obtain ⟨first_plain, plain⟩ := List.forall_mem_cons.mp plain
      have first_le := spells.length_respell (s := s) first_sound first_plain
      have rest_le := ih sound plain
      simp only [List.flatMap_cons, List.map_append, List.sum_append, List.length_append]
      omega

/-- A relocated formula is longer only by what its references need more at their new places. -/
theorem Means.length_relocate_le (means : Means text e)
    (plain : ∀ name ∈ e.functionNames, ':' ∉ name.toList) (moves : s.delta ≠ 0) :
    (Formula.relocate s text).length +
        (e.references.map fun reference => reference.text.length).sum ≤
      text.length + (e.references.map fun reference => (reference.textAfter s).length).sum := by
  obtain ⟨ts, cuts, standFor⟩ := means
  obtain ⟨sound, names, chain⟩ := standFor.tokens_formula
  have plain := fun t member name named => plain name (names t member name named)
  have kept := fun t member => (cuts.relocate_eq_shift (s := s) sound plain chain t member).2
  have respelled := respelled_relocate cuts sound kept chain moves
  have length_le := respelled.length_le sound plain
  rw [List.flatMap_cons, ← standFor.references_eq, String.length_toList,
    String.length_toList] at length_le
  exact length_le

end Formula
end Spreadsheet
