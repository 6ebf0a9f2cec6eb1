import Spreadsheet.Proofs.Formula.Lexicon
import Spreadsheet.Proofs.Spelling

/-!
# Words

What a word can stand for, and what looks like an address without being read. What is written for
an address or a range is one word, and it is read as such.
-/

namespace Spreadsheet
namespace Formula

variable {c : Char} {cs u rest : List Char}

/-! ## What looks like an address -/

/-- The characters have the form of an address, whatever number and column they name. -/
def LooksLikeAddress (cs : List Char) : Prop :=
  ∃ colAbsolute letters rowAbsolute digits,
    cs = Address.mark colAbsolute ++ (letters ++ (Address.mark rowAbsolute ++ digits)) ∧
      (letters ≠ [] ∧ ∀ c ∈ letters, c.isAlpha) ∧ digits ≠ [] ∧ ∀ c ∈ digits, c.isDigit

theorem looksLikeAddress_of_read? {a : Address} (read : Address.read? cs = some a) :
    LooksLikeAddress cs := by
  obtain ⟨letters, digits, rfl, read_col, read_row⟩ := Address.read?_eq_some_iff.mp read
  exact ⟨_, letters, _, digits, rfl, Column.letters_of_ofLetters? read_col,
    (Address.readRow?_eq_some_iff.mp read_row).1⟩

/-- An address begins with a letter or a mark. -/
theorem LooksLikeAddress.exists_cons (looks : LooksLikeAddress cs) :
    ∃ c w, cs = c :: w ∧ startsWord c := by
  obtain ⟨colAbsolute, letters, rowAbsolute, digits, rfl, ⟨some_letters, letter⟩, _⟩ := looks
  obtain ⟨first, others, rfl⟩ := List.exists_cons_of_ne_nil some_letters
  cases colAbsolute with
  | true => exact ⟨'$', _, rfl, by decide⟩
  | false => exact ⟨first, _, rfl, by simp [startsWord, letter first List.mem_cons_self]⟩

theorem LooksLikeAddress.isPart (looks : LooksLikeAddress cs) : ∀ c ∈ cs, Address.IsPart c := by
  obtain ⟨colAbsolute, letters, rowAbsolute, digits, rfl, ⟨_, letter⟩, _, digit⟩ := looks
  intro c member
  simp only [List.mem_append] at member
  rcases member with member | member | member | member
  · exact Address.isPart_of_mem_mark member
  · exact .inl (by rw [Char.isAlphanum, letter c member, Bool.true_or])
  · exact Address.isPart_of_mem_mark member
  · exact .inl (by rw [Char.isAlphanum, digit c member, Bool.or_true])

/-- In an address a digit follows a letter or a mark. -/
theorem LooksLikeAddress.exists_digit (looks : LooksLikeAddress cs) :
    ∃ front c d back, cs = front ++ c :: d :: back ∧ startsWord c ∧ d.isDigit := by
  obtain ⟨colAbsolute, letters, rowAbsolute, digits, rfl, ⟨some_letters, letter⟩, some_digits,
      digit⟩ :=
    looks
  obtain ⟨d, back, rfl⟩ := List.exists_cons_of_ne_nil some_digits
  have first := digit d List.mem_cons_self
  cases rowAbsolute with
  | true =>
      exact ⟨Address.mark colAbsolute ++ letters, '$', d,
        back, by simp [Address.mark], by decide, first⟩
  | false =>
      obtain ⟨front, c, rfl⟩ : ∃ front c, letters = front ++ [c] :=
        ⟨_, _, (List.dropLast_append_getLast some_letters).symm⟩
      have last : startsWord c := by simp [startsWord, letter c (by simp)]
      exact ⟨Address.mark colAbsolute ++ front, c, d, back, by simp [Address.mark], last, first⟩

/-- What is written for an address looks like one. -/
theorem looksLikeAddress_chars (a : Address) : LooksLikeAddress a.chars := by
  refine ⟨a.colAbsolute, Column.letters a.col, a.rowAbsolute,
    Text.digitsOf (a.row.toNat + 1), ?_, ?_, Text.digitsOf_ne_nil _,
    fun c => Text.isDigit_of_mem_digitsOf⟩
  · rw [Address.chars, List.append_assoc, List.append_assoc]
  · refine ⟨Column.numeral_ne_nil (Nat.succ_ne_zero _), fun c member => ?_⟩
    exact Text.isAlpha_of_isUpper (Column.isUpper_of_mem_numeral member)

theorem LooksLikeAddress.not_mem_colon (looks : LooksLikeAddress u) : ':' ∉ u :=
  fun member => absurd (looks.isPart ':' member) (by decide)

/-- The characters do not follow each other in an address as a column and a row do. -/
def Apart (c d : Char) : Prop := startsWord c → ¬ d.isDigit

instance : DecidableRel Apart :=
  fun c d => inferInstanceAs (Decidable (startsWord c → ¬ d.isDigit))

theorem apart_toUpper_iff {d : Char} : Apart c.toUpper d.toUpper ↔ Apart c d := by
  have mark : c.toUpper = '$' ↔ c = '$' := Text.toUpper_eq_iff (by decide)
  simp [Apart, startsWord, mark]

theorem not_looksLikeAddress_of_apart (apart : u.IsChain Apart) (within : cs <+: u) :
    ¬ LooksLikeAddress cs := by
  intro looks
  obtain ⟨others, rfl⟩ := within
  obtain ⟨front, c, d, back, rfl, starts, digit⟩ := looks.exists_digit
  rw [List.append_assoc] at apart
  have tail := (List.isChain_append.mp apart).2.1
  rw [List.cons_append, List.cons_append, List.isChain_cons_cons] at tail
  exact tail.1 starts digit

theorem isChain_truth (b : Bool) : (Truth.text b).toList.IsChain Apart := by
  cases b <;> decide

/-! ## The token of a word -/

theorem Separates.not_isPart (separates : Separates c) : ¬ Address.IsPart c := by
  simp [Address.IsPart, Char.isAlphanum, separates.not_isAlpha, separates.not_isDigit,
    separates.ne (d := '$') (by decide)]

theorem continuesWord_of_startsWord (starts : startsWord c) : continuesWord c := by
  rw [startsWord, Bool.or_eq_true] at starts
  rcases starts with letter | mark
  · simp [continuesWord, Char.isAlphanum, letter]
  · simp [continuesWord, mark]

theorem not_isBlank_of_continuesWord (continues : continuesWord c) : ¬ Text.isBlank c :=
  fun blank => Separates.not_continuesWord (.inl blank) continues

theorem continuesWord_of_isPart (part : Address.IsPart c) : continuesWord c := by
  rcases part with plain | rfl
  · simp [continuesWord, plain]
  · decide

theorem isPart_of_continuesWord (continues : continuesWord c) (no_colon : c ≠ ':') :
    Address.IsPart c := by
  simpa [continuesWord, Address.IsPart, no_colon] using continues

/-- What the token of a word can be. -/
theorem wordToken_cases (word : List Char) (called : Bool) :
    (called = true ∧ wordToken word called = .function (String.ofList (word.map Char.toUpper))) ∨
      (called = false ∧ ∃ b, wordToken word called = .boolean b ∧
        word.map Char.toUpper = (Truth.text b).toList) ∨
      (called = false ∧ ':' ∈ word ∧
        wordToken word called = .range (String.ofList (word.map Char.toUpper))) ∨
      (called = false ∧ ':' ∉ word ∧
        wordToken word called = .cell (String.ofList (word.map Char.toUpper))) := by
  have colon : (word.map Char.toUpper).contains ':' = true ↔ ':' ∈ word := by
    rw [List.contains_iff_mem, List.mem_map]
    constructor
    · rintro ⟨c, member, same⟩
      rwa [← (Text.toUpper_eq_iff (by decide)).mp same]
    · exact fun member => ⟨':', member, rfl⟩
  cases called with
  | true => exact .inl ⟨rfl, rfl⟩
  | false =>
      right
      rw [wordToken, if_neg Bool.false_ne_true]
      split_ifs with yes no pair
      · exact .inl ⟨rfl, true, rfl, String.toList_ofList.symm.trans (congrArg String.toList yes)⟩
      · exact .inl ⟨rfl, false, rfl, String.toList_ofList.symm.trans (congrArg String.toList no)⟩
      · exact .inr (.inl ⟨rfl, colon.mp pair, rfl⟩)
      · exact .inr (.inr ⟨rfl, fun member => pair (colon.mpr member), rfl⟩)

/-! ## Written references -/

/-- The characters are a word. -/
def IsWord (cs : List Char) : Prop := ∃ c w, cs = c :: w ∧ startsWord c ∧ ∀ d ∈ w, continuesWord d

theorem IsWord.continues (word : IsWord cs) : ∀ d ∈ cs, continuesWord d := by
  obtain ⟨c, w, rfl, starts, continues⟩ := word
  exact List.forall_mem_cons.mpr ⟨continuesWord_of_startsWord starts, continues⟩

theorem LooksLikeAddress.isWord (looks : LooksLikeAddress cs) : IsWord cs := by
  obtain ⟨c, w, rfl, starts⟩ := looks.exists_cons
  exact ⟨c, w, rfl, starts, fun d member =>
    continuesWord_of_isPart (looks.isPart d (List.mem_cons_of_mem c member))⟩

theorem toList_text (r : Range) : r.text.toList = r.first.chars ++ ':' :: r.last.chars := by
  simp [Range.text, Address.text]

theorem isWord_text (r : Range) : IsWord r.text.toList := by
  obtain ⟨c, w, chars, starts, continues⟩ := (looksLikeAddress_chars r.first).isWord
  refine ⟨c, w ++ ':' :: r.last.chars, by rw [toList_text, chars, List.cons_append], starts, ?_⟩
  refine List.forall_mem_append.mpr ⟨continues, List.forall_mem_cons.mpr ⟨by decide, ?_⟩⟩
  exact (looksLikeAddress_chars r.last).isWord.continues

/-- What is written for a range is in capitals. -/
theorem map_toUpper_text (r : Range) : r.text.toList.map Char.toUpper = r.text.toList := by
  rw [toList_text, List.map_append, List.map_cons, Address.map_toUpper_chars,
    Address.map_toUpper_chars]
  rfl

theorem spells_lost (rest : List Char) :
    Spells rest ErrorCode.reference.code.toList (.error .reference) := by
  have listed : ("#REF!", ErrorCode.reference) ∈ ErrorCode.spellings := by decide
  exact .error listed (by decide)

/-- A word in capitals that is no name of a call and no truth value is read as a reference. -/
theorem spells_capitals (word : IsWord u) (capitals : u.map Char.toUpper = u)
    (no_truth : ∀ b, u ≠ (Truth.text b).toList) (ends : EndsAt rest)
    (not_called : rest.head? ≠ some '(') :
    Spells rest u (if ':' ∈ u then .range (String.ofList u) else .cell (String.ofList u)) := by
  obtain ⟨c, w, rfl, starts, continues⟩ := word
  have spells : Spells rest (c :: w) (wordToken (c :: w) (rest.head? == some '(')) :=
    .word starts continues ends
  rcases wordToken_cases (c :: w) (rest.head? == some '(') with
    ⟨called, _⟩ | ⟨_, b, _, same⟩ | ⟨_, colon, token⟩ | ⟨_, no_colon, token⟩
  · exact absurd (by simpa using called) not_called
  · exact absurd (capitals.symm.trans same) (no_truth b)
  · rw [token, capitals] at spells
    rwa [if_pos colon]
  · rw [token, capitals] at spells
    rwa [if_neg no_colon]

/-- An address that is written is read as one word. -/
theorem spells_address (a : Address) (ends : EndsAt rest) (not_called : rest.head? ≠ some '(') :
    Spells rest a.chars (.cell a.text) := by
  have looks := looksLikeAddress_chars a
  have no_truth (b : Bool) : a.chars ≠ (Truth.text b).toList := fun same =>
    not_looksLikeAddress_of_apart (isChain_truth b) List.prefix_rfl (same ▸ looks)
  have spells := spells_capitals looks.isWord
    (Address.map_toUpper_chars a) no_truth ends not_called
  rwa [if_neg looks.not_mem_colon] at spells

/-- A range that is written is read as one word. -/
theorem spells_range (r : Range) (ends : EndsAt rest) (not_called : rest.head? ≠ some '(') :
    Spells rest r.text.toList (.range r.text) := by
  have colon : ':' ∈ r.text.toList := by simp [toList_text]
  have no_truth (b : Bool) : r.text.toList ≠ (Truth.text b).toList := fun same => by
    have no_colon : ∀ b, ':' ∉ (Truth.text b).toList := by decide
    exact no_colon b (same ▸ colon)
  have spells := spells_capitals (isWord_text r) (map_toUpper_text r) no_truth ends not_called
  rwa [if_pos colon, String.ofList_toList] at spells

end Formula
end Spreadsheet
