import Mathlib.Data.List.TakeDrop
import Mathlib.Data.List.TakeWhile
import Spreadsheet.Range

/-!
# Characters of references

References are written with ASCII letters, digits, marks and colons. Capitalising changes only
letters, a run of characters of one kind ends where another kind begins, and decimal digits are
read back to the number that they denote.
-/

namespace Spreadsheet
namespace Text

variable {c d : Char} {cs : List Char}

/-! ## Kinds of characters -/

theorem isUpper_iff_toNat : c.isUpper ↔ 65 ≤ c.toNat ∧ c.toNat ≤ 90 := by
  unfold Char.isUpper
  rw [decide_eq_true_eq]
  exact Iff.rfl

theorem isLower_iff_toNat : c.isLower ↔ 97 ≤ c.toNat ∧ c.toNat ≤ 122 := by
  unfold Char.isLower
  rw [Bool.and_eq_true, decide_eq_true_eq, decide_eq_true_eq]
  exact Iff.rfl

theorem isAlpha_iff_toNat :
    c.isAlpha ↔ (65 ≤ c.toNat ∧ c.toNat ≤ 90) ∨ (97 ≤ c.toNat ∧ c.toNat ≤ 122) := by
  unfold Char.isAlpha
  rw [Bool.or_eq_true, isUpper_iff_toNat, isLower_iff_toNat]

theorem isAlpha_of_isUpper (upper : c.isUpper) : c.isAlpha := by
  unfold Char.isAlpha
  rw [upper, Bool.true_or]

theorem isDigit_iff_toNat : c.isDigit ↔ 48 ≤ c.toNat ∧ c.toNat ≤ 57 :=
  Char.isDigit_iff_toNat

theorem isBlank_iff_toNat :
    isBlank c ↔ (9 ≤ c.toNat ∧ c.toNat ≤ 13) ∨ c.toNat = 0x20 ∨ c.toNat = 0x85 ∨ c.toNat = 0xA0 ∨
      c.toNat = 0x1680 ∨ (0x2000 ≤ c.toNat ∧ c.toNat ≤ 0x200A) ∨ c.toNat = 0x2028 ∨
      c.toNat = 0x2029 ∨ c.toNat = 0x202F ∨ c.toNat = 0x205F ∨ c.toNat = 0x3000 := by
  simp only [isBlank, inRanges, blankRanges, List.any_cons, List.any_nil, Bool.or_eq_true,
    Bool.and_eq_true, decide_eq_true_eq, Bool.false_eq_true, or_false]
  omega

theorem not_isDigit_of_isAlpha (letter : c.isAlpha) : ¬ c.isDigit := by
  rw [isAlpha_iff_toNat] at letter
  rw [isDigit_iff_toNat]
  omega

theorem not_isBlank_of_isAlphanum (plain : c.isAlphanum) : ¬ isBlank c := by
  rw [Char.isAlphanum, Bool.or_eq_true, isAlpha_iff_toNat, isDigit_iff_toNat] at plain
  rw [isBlank_iff_toNat]
  omega

/-! ## Capitals -/

theorem toNat_toUpper :
    c.toUpper.toNat = if 97 ≤ c.toNat ∧ c.toNat ≤ 122 then c.toNat - 32 else c.toNat := by
  unfold Char.toUpper
  split
  · rename_i lower
    have lower : 97 ≤ c.toNat ∧ c.toNat ≤ 122 := lower
    rw [if_pos lower]
    change (c.val + 4294967264).toNat = _
    rw [UInt32.toNat_add]
    change (c.toNat + 4294967264) % 4294967296 = _
    omega
  · rename_i other
    have other : ¬ (97 ≤ c.toNat ∧ c.toNat ≤ 122) := other
    rw [if_neg other]

@[simp] theorem isAlpha_toUpper : c.toUpper.isAlpha = c.isAlpha := by
  rw [Bool.eq_iff_iff, isAlpha_iff_toNat, isAlpha_iff_toNat, toNat_toUpper]
  split <;> omega

@[simp] theorem isDigit_toUpper : c.toUpper.isDigit = c.isDigit := by
  rw [Bool.eq_iff_iff, isDigit_iff_toNat, isDigit_iff_toNat, toNat_toUpper]
  split <;> omega

@[simp] theorem isBlank_toUpper : isBlank c.toUpper = isBlank c := by
  rw [Bool.eq_iff_iff, isBlank_iff_toNat, isBlank_iff_toNat, toNat_toUpper]
  split <;> omega

@[simp] theorem toUpper_toUpper : c.toUpper.toUpper = c.toUpper := by
  rw [← Char.toNat_inj, toNat_toUpper (c := c.toUpper), toNat_toUpper, if_neg]
  split <;> omega

/-- Only letters change when they are capitalised, and no other character turns into one. -/
theorem toUpper_eq_iff (plain : ¬ d.isAlpha) : c.toUpper = d ↔ c = d := by
  rw [isAlpha_iff_toNat] at plain
  rw [← Char.toNat_inj, ← Char.toNat_inj, toNat_toUpper]
  split <;> omega

theorem toUpper_of_not_isAlpha (plain : ¬ c.isAlpha) : c.toUpper = c :=
  (toUpper_eq_iff plain).mpr rfl

theorem toUpper_of_isUpper (capital : c.isUpper) : c.toUpper = c := by
  rw [isUpper_iff_toNat] at capital
  rw [← Char.toNat_inj, toNat_toUpper, if_neg (by omega)]

theorem toUpper_of_isDigit (digit : c.isDigit) : c.toUpper = c :=
  toUpper_of_not_isAlpha fun letter => not_isDigit_of_isAlpha letter digit

theorem map_toUpper_of_capitals (capital : ∀ c ∈ cs, c.toUpper = c) : cs.map Char.toUpper = cs :=
  (List.map_congr_left capital).trans (List.map_id' cs)

/-! ## Runs of characters -/

theorem takeWhile_append_of_stop {p : Char → Bool} {cs rest : List Char} (run : ∀ c ∈ cs, p c)
    (stop : ∀ c ∈ rest.head?, ¬ p c) : (cs ++ rest).takeWhile p = cs := by
  rw [List.takeWhile_append_of_pos run]
  cases rest with
  | nil => rw [List.takeWhile_nil, List.append_nil]
  | cons c rest => rw [List.takeWhile_cons_of_neg (stop c rfl), List.append_nil]

theorem dropWhile_of_stop {p : Char → Bool} (stop : ∀ c ∈ cs.head?, ¬ p c) :
    cs.dropWhile p = cs := by
  cases cs with
  | nil => rfl
  | cons c cs => exact List.dropWhile_cons_of_neg (stop c rfl)

theorem dropWhile_append_of_stop {p : Char → Bool} {cs rest : List Char} (run : ∀ c ∈ cs, p c)
    (stop : ∀ c ∈ rest.head?, ¬ p c) : (cs ++ rest).dropWhile p = rest := by
  rw [List.dropWhile_append_of_pos run, dropWhile_of_stop stop]

/-! ## Blanks -/

theorem trimList_of_no_blank (dark : ∀ c ∈ cs, ¬ isBlank c) : trimList cs = cs := by
  have start : cs.dropWhile isBlank = cs :=
    dropWhile_of_stop fun c head => dark c (List.mem_of_mem_head? head)
  have stop : cs.reverse.dropWhile isBlank = cs.reverse :=
    dropWhile_of_stop fun c head => dark c (List.mem_reverse.mp (List.mem_of_mem_head? head))
  rw [trimList, trimStart, start, trimEnd, stop, List.reverse_reverse]

theorem trimList_map_toUpper (cs : List Char) :
    trimList (cs.map Char.toUpper) = (trimList cs).map Char.toUpper := by
  have kind : isBlank ∘ Char.toUpper = isBlank := funext fun _ => isBlank_toUpper
  simp only [trimList, trimStart, trimEnd, List.dropWhile_map, kind, ← List.map_reverse]

/-! ## Digits -/

theorem natOfDigits_digitsOf (n : Nat) : natOfDigits (digitsOf n) = n :=
  Nat.ofDigitChars_ten_toDigits

theorem isDigit_of_mem_digitsOf {n : Nat} (member : c ∈ digitsOf n) : c.isDigit :=
  Nat.isDigit_of_mem_toDigits (by decide) (by decide) member

theorem digitsOf_ne_nil (n : Nat) : digitsOf n ≠ [] :=
  List.ne_nil_of_length_pos Nat.length_toDigits_pos

theorem readNat?_eq_some_iff {n : Nat} :
    readNat? cs = some n ↔ (cs ≠ [] ∧ ∀ c ∈ cs, c.isDigit) ∧ natOfDigits cs = n := by
  rw [readNat?]
  split
  · rename_i digits
    simpa using fun _ => by simpa using digits
  · rename_i other
    simp only [reduceCtorEq, false_iff, not_and]
    intro digits
    exact (other (by simpa using digits)).elim

theorem readUInt32?_eq_some_iff {value : UInt32} :
    readUInt32? cs = some value ↔
      (cs ≠ [] ∧ ∀ c ∈ cs, c.isDigit) ∧ natOfDigits cs = value.toNat := by
  rw [readUInt32?, Option.bind_eq_bind, Option.bind_eq_some_iff]
  constructor
  · rintro ⟨n, read, fits⟩
    obtain ⟨digits, number⟩ := readNat?_eq_some_iff.mp read
    split at fits
    · rename_i small
      refine ⟨digits, ?_⟩
      rw [← Option.some.inj fits, number]
      exact (UInt32.toNat_ofNat_of_lt' small).symm
    · contradiction
  · rintro ⟨digits, number⟩
    refine ⟨value.toNat, readNat?_eq_some_iff.mpr ⟨digits, number⟩, ?_⟩
    rw [if_pos value.toNat_lt, UInt32.ofNat_toNat]

theorem readUInt32?_map_toUpper (cs : List Char) :
    readUInt32? (cs.map Char.toUpper) = readUInt32? cs := by
  have read_eq : readNat? (cs.map Char.toUpper) = readNat? cs := by
    by_cases digits : ∀ c ∈ cs, c.isDigit
    · rw [map_toUpper_of_capitals fun c member => toUpper_of_isDigit (digits c member)]
    · have other : cs.all Char.isDigit = false := by simpa using digits
      have other' : (cs.map Char.toUpper).all Char.isDigit = false := by simpa using digits
      rw [readNat?, readNat?, other, other', Bool.and_false, Bool.and_false]
      rfl
  rw [readUInt32?, readUInt32?, read_eq]

end Text
end Spreadsheet
