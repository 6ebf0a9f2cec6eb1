import Spreadsheet.Proofs.Formula.Derivation
import Spreadsheet.Proofs.Formula.Lexing

/-!
# The lexicon

How each kind of token is written. A number or a word reaches up to a blank, a symbol or the end of
the text; a symbol that begins a longer one must not be followed by what makes it longer. `Spells`
is independent of how tokens are read: `Spells.takes` and `Takes.spells` connect the two.
-/

namespace Spreadsheet
namespace Formula

/-- The character begins a symbol. -/
def startsSymbol (c : Char) : Bool := (plainSymbol? c).isSome || c == '<' || c == '>'

/-- The character is no part of the number or word in front of it. -/
def Separates (c : Char) : Prop := Text.isBlank c ∨ startsSymbol c

/-- A number or a word may end in front of the text. -/
def EndsAt (rest : List Char) : Prop := ∀ c ∈ rest.head?, Separates c

/-- The symbol may stand in front of the text without being read as a longer one. -/
def Symbol.Precedes (rest : List Char) : Symbol → Prop
  | less => rest.head? ≠ some '=' ∧ rest.head? ≠ some '>'
  | greater => rest.head? ≠ some '='
  | _ => True

/-- The characters are a spelling of the token in front of the rest. -/
inductive Spells (rest : List Char) : List Char → Token → Prop where
  | symbol {s} : s.Precedes rest → Spells rest s.text.toList (.symbol s)
  | text {w content} : quoted? w = some (content, w.length) →
      Spells rest ('"' :: w) (.text (String.ofList content))
  | error {u spelling code} : (spelling, code) ∈ ErrorCode.spellings →
      u.map Char.toUpper = spelling.toList → Spells rest u (.error code)
  | whole {digits} : digits ≠ [] → (∀ c ∈ digits, c.isDigit) → EndsAt rest →
      Spells rest digits (.number (Double.ofPlaces digits [] 0))
  | decimal {digits places} : (∀ c ∈ digits, c.isDigit) → places ≠ [] →
      (∀ c ∈ places, c.isDigit) → EndsAt rest →
      Spells rest (digits ++ '.' :: places) (.number (Double.ofPlaces digits places 0))
  | word {c w} : startsWord c → (∀ d ∈ w, continuesWord d) → EndsAt rest →
      Spells rest (c :: w) (wordToken (c :: w) (rest.head? == some '('))

variable {c : Char} {cs u w rest : List Char} {s : Symbol} {t : Token}

/-! ## Kinds of characters -/

theorem plainSymbol?_eq_some (found : plainSymbol? c = some s) :
    [c] = s.text.toList ∧ s ≠ .less ∧ s ≠ .greater := by
  unfold plainSymbol? at found
  split at found <;> first
    | contradiction
    | obtain rfl := Option.some.inj found
      decide

theorem startsSymbol_iff_toNat :
    startsSymbol c ↔ c.toNat = 38 ∨ (40 ≤ c.toNat ∧ c.toNat ≤ 45) ∨ c.toNat = 47 ∨
      (60 ≤ c.toNat ∧ c.toNat ≤ 62) ∨ c.toNat = 94 := by
  constructor
  · intro starts
    simp only [startsSymbol, Bool.or_eq_true, beq_iff_eq] at starts
    rcases starts with (starts | rfl) | rfl
    · unfold plainSymbol? at starts
      split at starts <;> first | contradiction | decide
    · decide
    · decide
  · intro code
    have : c = '&' ∨ c = '(' ∨ c = ')' ∨ c = '*' ∨ c = '+' ∨ c = ',' ∨ c = '-' ∨ c = '/' ∨
        c = '<' ∨ c = '=' ∨ c = '>' ∨ c = '^' := by
      simp only [← Char.toNat_inj, Char.reduceToNat]
      omega
    rcases this with rfl | rfl | rfl | rfl | rfl | rfl | rfl | rfl | rfl | rfl | rfl | rfl <;> rfl

instance : DecidablePred Separates := fun c =>
  inferInstanceAs (Decidable (Text.isBlank c = true ∨ startsSymbol c = true))

theorem Separates.ne {d : Char} (separates : Separates c) (other : ¬ Separates d) : c ≠ d :=
  fun same => other (same ▸ separates)

theorem Separates.not_isAlpha (separates : Separates c) : ¬ c.isAlpha := by
  rw [Separates, startsSymbol_iff_toNat, Text.isBlank_iff_toNat] at separates
  rw [Text.isAlpha_iff_toNat]
  omega

theorem Separates.not_isDigit (separates : Separates c) : ¬ c.isDigit := by
  rw [Separates, startsSymbol_iff_toNat, Text.isBlank_iff_toNat] at separates
  rw [Text.isDigit_iff_toNat]
  omega

theorem Separates.not_startsWord (separates : Separates c) : ¬ startsWord c := by
  simp [startsWord, separates.not_isAlpha, separates.ne (d := '$') (by decide)]

theorem Separates.not_continuesWord (separates : Separates c) : ¬ continuesWord c := by
  simp [continuesWord, Char.isAlphanum, separates.not_isAlpha, separates.not_isDigit,
    separates.ne (d := '$') (by decide), separates.ne (d := ':') (by decide)]

theorem not_isDigit_of_startsWord (starts : startsWord c) : ¬ c.isDigit := by
  rw [startsWord, Bool.or_eq_true, beq_iff_eq] at starts
  rcases starts with letter | rfl
  · exact Text.not_isDigit_of_isAlpha letter
  · decide

theorem readToken_of_not_startsSymbol (plain : ¬ startsSymbol c) (cs : List Char) :
    readToken c cs =
      if c = '"' then readQuoted cs
      else if c = '#' then readError (c :: cs)
      else if c = '.' then readPoint cs
      else if c.isDigit then readNumber c cs
      else if startsWord c then readWord c cs
      else (.illegal c, 0) := by
  simp only [startsSymbol, Bool.or_eq_true, beq_iff_eq, not_or,
    Option.not_isSome_iff_eq_none] at plain
  obtain ⟨⟨no_symbol, no_less⟩, no_greater⟩ := plain
  rw [readToken, no_symbol]
  simp only [no_less, no_greater, if_false]

theorem isSymbol_wordToken (word : List Char) (called : Bool) :
    (wordToken word called).isSymbol = false := by
  simp only [wordToken]
  split_ifs <;> rfl

/-- A token is a symbol exactly if its first character begins one. -/
theorem isSymbol_readToken (c : Char) (cs : List Char) :
    (readToken c cs).1.isSymbol = startsSymbol c := by
  by_cases starts : startsSymbol c
  · rw [starts, readToken]
    split
    · rfl
    split
    · rw [readLess.eq_def]
      split <;> rfl
    split
    · rw [readGreater.eq_def]
      split <;> rfl
    · simp_all [startsSymbol]
  · rw [readToken_of_not_startsSymbol starts, Bool.eq_false_iff.mpr starts]
    split
    · rw [readQuoted]
      split <;> rfl
    split
    · rw [readError]
      split <;> rfl
    split
    · rw [readPoint]
      split <;> rfl
    split
    · rfl
    split
    · exact isSymbol_wordToken _ _
    · rfl

/-! ## Reading what is written -/

theorem readLess_of_precedes (precedes : Symbol.less.Precedes rest) :
    readLess rest = (.symbol .less, 0) := by
  rw [readLess.eq_def]
  split
  · exact absurd rfl precedes.1
  · exact absurd rfl precedes.2
  · rfl

theorem readGreater_of_precedes (precedes : Symbol.greater.Precedes rest) :
    readGreater rest = (.symbol .greater, 0) := by
  rw [readGreater.eq_def]
  split
  · exact absurd rfl precedes
  · rfl

theorem takes_symbol (precedes : s.Precedes rest) : Takes s.text.toList rest (.symbol s) := by
  cases s with
  | less => exact ⟨'<', [], by decide, by decide, readLess_of_precedes precedes⟩
  | greater => exact ⟨'>', [], by decide, by decide, readGreater_of_precedes precedes⟩
  | notEqual => exact ⟨'<', ['>'], by decide, by decide, rfl⟩
  | lessEqual => exact ⟨'<', ['='], by decide, by decide, rfl⟩
  | greaterEqual => exact ⟨'>', ['='], by decide, by decide, rfl⟩
  | _ => exact ⟨_, [], by rfl, by decide, rfl⟩

/-- No spelling of an error begins another one. -/
theorem eq_of_spelling_begins : ∀ p ∈ ErrorCode.spellings, ∀ q ∈ ErrorCode.spellings,
    p.1.toList <+: q.1.toList → p = q := by
  decide

theorem readError_append {spelling : String} {code : ErrorCode}
    (listed : (spelling, code) ∈ ErrorCode.spellings)
    (spelled : u.map Char.toUpper = spelling.toList) (rest : List Char) :
    readError (u ++ rest) = (.error code, u.length - 1) := by
  have begins : beginsWith spelling (u ++ rest) := by
    rw [beginsWith_iff, List.map_append, spelled]
    exact List.prefix_append _ _
  rw [readError]
  split
  · rename_i other code' found
    have other_begins := List.find?_some found
    have same : (other, code') = (spelling, code) := by
      have listed' := List.mem_of_find?_eq_some found
      rcases List.prefix_or_prefix_of_prefix (beginsWith_iff.mp other_begins)
        (beginsWith_iff.mp begins) with within | within
      · exact eq_of_spelling_begins _ listed' _ listed within
      · exact (eq_of_spelling_begins _ listed _ listed' within).symm
    obtain ⟨rfl, rfl⟩ := Prod.mk.inj same
    rw [← List.length_map Char.toUpper, spelled, String.length_toList]
  · rename_i nothing
    exact absurd begins (List.find?_eq_none.mp nothing _ listed)

theorem EndsAt.not_isDigit (ends : EndsAt rest) : ∀ c ∈ rest.head?, ¬ c.isDigit :=
  fun c head => (ends c head).not_isDigit

theorem EndsAt.not_continuesWord (ends : EndsAt rest) : ∀ c ∈ rest.head?, ¬ continuesWord c :=
  fun c head => (ends c head).not_continuesWord

theorem places_eq_nil (no_point : rest.head? ≠ some '.') : places rest = [] := by
  rw [places.eq_def]
  split
  · exact absurd rfl no_point
  · rfl

theorem EndsAt.places_eq (ends : EndsAt rest) : places rest = [] :=
  places_eq_nil fun head => absurd (ends '.' head) (by decide)

/-- A number that begins with digits: what they are followed by decides whether it has places. -/
theorem readNumber_append (digit : ∀ d ∈ w, d.isDigit) (stop : ∀ d ∈ rest.head?, ¬ d.isDigit) :
    readNumber c (w ++ rest) =
      (.number (Double.ofPlaces (c :: w) (places rest) 0),
        w.length + if (places rest).isEmpty then 0 else (places rest).length + 1) := by
  rw [readNumber, Text.takeWhile_append_of_stop digit stop,
    Text.dropWhile_append_of_stop digit stop]

theorem places_point (place : ∀ d ∈ w, d.isDigit) (stop : ∀ d ∈ rest.head?, ¬ d.isDigit) :
    places ('.' :: (w ++ rest)) = w := by
  rw [places, Text.takeWhile_append_of_stop place stop]

theorem readPoint_append (some_digits : w ≠ []) (digit : ∀ d ∈ w, d.isDigit) (ends : EndsAt rest) :
    readPoint (w ++ rest) = (.number (Double.ofPlaces [] w 0), w.length) := by
  rw [readPoint, Text.takeWhile_append_of_stop digit ends.not_isDigit]
  simp [some_digits]

theorem readWord_append (continues : ∀ d ∈ w, continuesWord d)
    (stop : ∀ d ∈ rest.head?, ¬ continuesWord d) :
    readWord c (w ++ rest) = (wordToken (c :: w) (rest.head? == some '('), w.length) := by
  rw [readWord, Text.takeWhile_append_of_stop continues stop,
    Text.dropWhile_append_of_stop continues stop]

theorem readToken_of_isDigit (digit : c.isDigit) (cs : List Char) :
    readToken c cs = readNumber c cs := by
  have other (d : Char) (no_digit : ¬ d.isDigit) : c ≠ d := fun same => no_digit (same ▸ digit)
  rw [readToken_of_not_startsSymbol fun symbol => Separates.not_isDigit (.inr symbol) digit,
    if_neg (other '"' (by decide)), if_neg (other '#' (by decide)), if_neg (other '.' (by decide)),
    if_pos digit]

theorem readToken_of_startsWord (starts : startsWord c) (cs : List Char) :
    readToken c cs = readWord c cs := by
  have other (d : Char) (no_word : ¬ startsWord d) : c ≠ d := fun same => no_word (same ▸ starts)
  rw [readToken_of_not_startsSymbol fun symbol => Separates.not_startsWord (.inr symbol) starts,
    if_neg (other '"' (by decide)), if_neg (other '#' (by decide)), if_neg (other '.' (by decide)),
    if_neg (not_isDigit_of_startsWord starts), if_pos starts]

/-- The spelling of an error begins with a sign, and no other sign and no parenthesis is in it. -/
theorem exists_spelling_eq_cons {spelling : String} {code : ErrorCode}
    (listed : (spelling, code) ∈ ErrorCode.spellings) :
    ∃ tail, spelling.toList = '#' :: tail ∧ '#' ∉ tail ∧ '(' ∉ tail := by
  have spellings : ∀ p ∈ ErrorCode.spellings,
      p.1.toList.head? = some '#' ∧ '#' ∉ p.1.toList.tail ∧ '(' ∉ p.1.toList.tail := by
    decide
  obtain ⟨signed, plain⟩ := spellings _ listed
  obtain ⟨tail, spelled⟩ := List.head?_eq_some_iff.mp signed
  rw [spelled] at plain
  exact ⟨tail, spelled, plain⟩

theorem takes_error {spelling : String} {code : ErrorCode}
    (listed : (spelling, code) ∈ ErrorCode.spellings)
    (spelled : u.map Char.toUpper = spelling.toList) (rest : List Char) :
    Takes u rest (.error code) := by
  obtain ⟨tail, signed, _⟩ := exists_spelling_eq_cons listed
  obtain ⟨c, w, rfl, sign, _⟩ := List.map_eq_cons_iff.mp (spelled.trans signed)
  obtain rfl : c = '#' := (Text.toUpper_eq_iff (by decide)).mp sign
  exact ⟨'#', w, rfl, by decide, readError_append listed spelled rest⟩

theorem takes_whole (some_digits : u ≠ []) (digit : ∀ c ∈ u, c.isDigit) (ends : EndsAt rest) :
    Takes u rest (.number (Double.ofPlaces u [] 0)) := by
  obtain ⟨c, w, rfl⟩ := List.exists_cons_of_ne_nil some_digits
  obtain ⟨first, others⟩ := List.forall_mem_cons.mp digit
  refine ⟨c, w, rfl, fun blank => Separates.not_isDigit (.inl blank) first, ?_⟩
  rw [readToken_of_isDigit first, readNumber_append others ends.not_isDigit, ends.places_eq]
  rfl

theorem takes_decimal {places : List Char} (digit : ∀ c ∈ u, c.isDigit) (some_places : places ≠ [])
    (place : ∀ c ∈ places, c.isDigit) (ends : EndsAt rest) :
    Takes (u ++ '.' :: places) rest (.number (Double.ofPlaces u places 0)) := by
  cases u with
  | nil => exact ⟨'.', places, rfl, by decide, readPoint_append some_places place ends⟩
  | cons c w =>
      obtain ⟨first, others⟩ := List.forall_mem_cons.mp digit
      refine ⟨c, w ++ '.' :: places, rfl, fun blank =>
        Separates.not_isDigit (.inl blank) first, ?_⟩
      have stop : ∀ d ∈ ('.' :: (places ++ rest)).head?, ¬ d.isDigit := by
        rintro d ⟨rfl⟩
        decide
      rw [readToken_of_isDigit first, List.append_assoc, List.cons_append,
        readNumber_append others stop, places_point place ends.not_isDigit]
      simp [some_places]

/-- What is written for a token is read as the token. -/
theorem Spells.takes (spells : Spells rest u t) : Takes u rest t := by
  cases spells with
  | symbol precedes => exact takes_symbol precedes
  | @text w content read =>
      refine ⟨'"', w, rfl, by decide, ?_⟩
      change readQuoted (w ++ rest) = _
      rw [readQuoted, quoted?_append read]
  | error listed spelled => exact takes_error listed spelled rest
  | whole some_digits digit ends => exact takes_whole some_digits digit ends
  | decimal digit some_places place ends => exact takes_decimal digit some_places place ends
  | @word c w starts continues ends =>
      refine ⟨c, w, rfl, fun blank => Separates.not_startsWord (.inl blank) starts, ?_⟩
      rw [readToken_of_startsWord starts, readWord_append continues ends.not_continuesWord]

/-! ## Writing what is read -/

theorem mem_of_takeWhile_length {p : Char → Bool}
    (whole : ((w ++ rest).takeWhile p).length = w.length) : ∀ d ∈ w, p d := by
  have taken : (w ++ rest).takeWhile p = w := by
    have := List.prefix_of_prefix_length_le (List.takeWhile_prefix (l := w ++ rest) p)
      (List.prefix_append w rest) whole.le
    exact this.eq_of_length whole
  intro d member
  exact List.mem_takeWhile_imp (taken ▸ member)

/-- Characters are a run of one kind and what follows it. -/
theorem exists_run (p : Char → Bool) (w : List Char) (stops : ∀ d ∈ rest.head?, ¬ p d) :
    ∃ run others, w = run ++ others ∧ (∀ d ∈ run, p d) ∧ ∀ d ∈ (others ++ rest).head?, ¬ p d := by
  refine ⟨w.takeWhile p, w.dropWhile p, List.takeWhile_append_dropWhile.symm,
    fun d => List.mem_takeWhile_imp, ?_⟩
  have head := List.head?_dropWhile_not p w
  cases behind : w.dropWhile p with
  | nil => exact stops
  | cons d others =>
      rw [behind] at head
      rintro d ⟨rfl⟩
      simpa using head

theorem spells_of_readLess (read : readLess (w ++ rest) = (t, w.length)) :
    Spells rest ('<' :: w) t := by
  rw [readLess.eq_def] at read
  split at read
  · rename_i cs begins
    obtain ⟨rfl, one⟩ := Prod.mk.inj read
    obtain ⟨d, rfl⟩ := List.length_eq_one_iff.mp one.symm
    obtain ⟨rfl, _⟩ := List.cons.inj begins
    exact .symbol (s := .lessEqual) trivial
  · rename_i cs begins
    obtain ⟨rfl, one⟩ := Prod.mk.inj read
    obtain ⟨d, rfl⟩ := List.length_eq_one_iff.mp one.symm
    obtain ⟨rfl, _⟩ := List.cons.inj begins
    exact .symbol (s := .notEqual) trivial
  · rename_i no_equal no_greater
    obtain ⟨rfl, none⟩ := Prod.mk.inj read
    obtain rfl := List.eq_nil_of_length_eq_zero none.symm
    refine .symbol (s := .less) ⟨fun head => ?_, fun head => ?_⟩
    · obtain ⟨others, rfl⟩ := List.head?_eq_some_iff.mp head
      exact no_equal _ rfl
    · obtain ⟨others, rfl⟩ := List.head?_eq_some_iff.mp head
      exact no_greater _ rfl

theorem spells_of_readGreater (read : readGreater (w ++ rest) = (t, w.length)) :
    Spells rest ('>' :: w) t := by
  rw [readGreater.eq_def] at read
  split at read
  · rename_i cs begins
    obtain ⟨rfl, one⟩ := Prod.mk.inj read
    obtain ⟨d, rfl⟩ := List.length_eq_one_iff.mp one.symm
    obtain ⟨rfl, _⟩ := List.cons.inj begins
    exact .symbol (s := .greaterEqual) trivial
  · rename_i no_equal
    obtain ⟨rfl, none⟩ := Prod.mk.inj read
    obtain rfl := List.eq_nil_of_length_eq_zero none.symm
    refine .symbol (s := .greater) fun head => ?_
    obtain ⟨others, rfl⟩ := List.head?_eq_some_iff.mp head
    exact no_equal _ rfl

theorem spells_of_readQuoted (read : readQuoted (w ++ rest) = (t, w.length))
    (legal : ∀ d, t ≠ .illegal d) : Spells rest ('"' :: w) t := by
  rw [readQuoted] at read
  split at read
  · rename_i content length found
    obtain ⟨rfl, rfl⟩ := Prod.mk.inj read
    have again := (quoted?_spec found).2 []
    rw [List.take_left, List.append_nil] at again
    exact .text again
  · exact absurd (Prod.mk.inj read).1.symm (legal _)

theorem spells_of_readError (read : readError (c :: w ++ rest) = (t, w.length))
    (legal : ∀ d, t ≠ .illegal d) : Spells rest (c :: w) t := by
  rw [readError] at read
  split at read
  · rename_i spelling code found
    obtain ⟨rfl, length⟩ := Prod.mk.inj read
    have listed := List.mem_of_find?_eq_some found
    have begins := List.find?_some found
    change beginsWith spelling (c :: w ++ rest) at begins
    have positive : ∀ p ∈ ErrorCode.spellings, 0 < p.1.length := by decide
    have whole : spelling.length = (c :: w).length := by
      have : 0 < spelling.length := positive _ listed
      rw [List.length_cons]
      omega
    rw [beginsWith, whole, List.take_left, beq_iff_eq] at begins
    exact .error listed begins
  · exact absurd (Prod.mk.inj read).1.symm (legal _)

theorem spells_of_readPoint (read : readPoint (w ++ rest) = (t, w.length))
    (legal : ∀ d, t ≠ .illegal d) (ends : EndsAt rest) : Spells rest ('.' :: w) t := by
  rw [readPoint] at read
  split at read
  · exact absurd (Prod.mk.inj read).1.symm (legal _)
  · rename_i some_places
    have place := mem_of_takeWhile_length (Prod.mk.inj read).2
    rw [Text.takeWhile_append_of_stop place ends.not_isDigit] at read some_places
    obtain ⟨rfl, _⟩ := Prod.mk.inj read
    have no_digits : ∀ d ∈ ([] : List Char), d.isDigit := by simp
    exact .decimal no_digits (by simpa using some_places) place ends

theorem spells_of_readNumber (digit : c.isDigit) (read : readNumber c (w ++ rest) = (t, w.length))
    (ends : EndsAt rest) : Spells rest (c :: w) t := by
  obtain ⟨more, others, rfl, more_digit, stop⟩ := exists_run Char.isDigit w ends.not_isDigit
  have all_digit : ∀ d ∈ c :: more, d.isDigit := List.forall_mem_cons.mpr ⟨digit, more_digit⟩
  rw [List.append_assoc, readNumber_append more_digit stop] at read
  obtain ⟨rfl, length⟩ := Prod.mk.inj read
  rw [List.length_append, Nat.add_left_cancel_iff] at length
  cases others with
  | nil =>
      rw [List.nil_append, ends.places_eq, List.append_nil]
      exact .whole (by simp) all_digit ends
  | cons point others =>
      by_cases pointed : point = '.'
      · subst pointed
        obtain ⟨places, others, rfl, place, place_stop⟩ :=
          exists_run Char.isDigit others ends.not_isDigit
        rw [List.cons_append, List.append_assoc, places_point place place_stop] at length ⊢
        cases places with
        | nil => contradiction
        | cons p places =>
            obtain rfl : others = [] := by
              simpa using length
            rw [List.append_nil]
            exact .decimal all_digit (by simp) place ends
      · have : places (point :: others ++ rest) = [] := places_eq_nil (by simpa using pointed)
        rw [this] at length
        contradiction

theorem spells_of_readWord (starts : startsWord c) (read : readWord c (w ++ rest) = (t, w.length))
    (ends : EndsAt rest) : Spells rest (c :: w) t := by
  have continues := mem_of_takeWhile_length (Prod.mk.inj read).2
  rw [readWord_append continues ends.not_continuesWord] at read
  obtain ⟨rfl, _⟩ := Prod.mk.inj read
  exact .word starts continues ends

theorem spells_of_startsSymbol (starts : startsSymbol c)
    (read : readToken c (w ++ rest) = (t, w.length)) : Spells rest (c :: w) t := by
  rw [readToken] at read
  split at read
  · rename_i s found
    obtain ⟨rfl, none⟩ := Prod.mk.inj read
    obtain rfl := List.eq_nil_of_length_eq_zero none.symm
    obtain ⟨spelled, no_less, no_greater⟩ := plainSymbol?_eq_some found
    rw [spelled]
    refine .symbol ?_
    cases s <;> trivial
  split at read
  · rename_i less
    exact less ▸ spells_of_readLess read
  split at read
  · rename_i greater
    exact greater ▸ spells_of_readGreater read
  · simp_all [startsSymbol]

/-- What is read as a token is a spelling of it, if a number or a word ends in front of the
rest. -/
theorem Takes.spells (takes : Takes u rest t) (legal : ∀ d, t ≠ .illegal d)
    (ends : ¬ t.isSymbol → EndsAt rest) : Spells rest u t := by
  obtain ⟨c, w, rfl, dark, read⟩ := takes
  have kind := isSymbol_readToken c (w ++ rest)
  rw [read] at kind
  by_cases starts : startsSymbol c
  · exact spells_of_startsSymbol starts read
  · have ends : EndsAt rest := ends (kind ▸ starts)
    rw [readToken_of_not_startsSymbol starts] at read
    split at read
    · rename_i quote
      exact quote ▸ spells_of_readQuoted read legal
    split at read
    · exact spells_of_readError read legal
    split at read
    · rename_i point
      exact point ▸ spells_of_readPoint read legal ends
    split at read
    · rename_i digit
      exact spells_of_readNumber digit read ends
    split at read
    · rename_i starts_word
      exact spells_of_readWord starts_word read ends
    · exact absurd (Prod.mk.inj read).1.symm (legal _)

/-! ## Where a text that is cut begins -/

variable {ts : List Token}

theorem Takes.isSymbol_eq (takes : Takes (c :: w) rest t) : t.isSymbol = startsSymbol c := by
  obtain ⟨c', w', same, _, read⟩ := takes
  obtain ⟨rfl, rfl⟩ := List.cons.inj same
  rw [← isSymbol_readToken c (w ++ rest), read]

/-- A number or a word may end in front of a text that begins with no other token than a symbol. -/
theorem Cuts.endsAt (cuts : Cuts cs ts) (begins : ∀ t ∈ ts.head?, t.isSymbol) : EndsAt cs := by
  cases cuts with
  | nil => simp [EndsAt]
  | blank blank _ =>
      rintro c ⟨rfl⟩
      exact .inl blank
  | @token u rest t ts takes _ =>
      obtain ⟨c, w, rfl, _⟩ := id takes
      rintro c ⟨rfl⟩
      exact .inr (takes.isSymbol_eq ▸ begins t rfl)

/-- In front of what follows a token of a formula a number or a word may end, unless the token is a
symbol. -/
theorem Cuts.endsAt_of_isChain (cuts : Cuts cs ts) (chain : (t :: ts).IsChain Derives.Adjacent)
    (other : ¬ t.isSymbol) : EndsAt cs :=
  cuts.endsAt fun t' head => ((List.isChain_cons.mp chain).1 t' head).resolve_left other

/-- Every token of a formula is spelled by the characters that make it up. -/
theorem Takes.spells_of_isChain (takes : Takes u rest t) (cuts : Cuts rest ts) (sound : t.IsSound)
    (chain : (t :: ts).IsChain Derives.Adjacent) : Spells rest u t := by
  refine takes.spells ?_ (cuts.endsAt_of_isChain chain)
  rintro d rfl
  exact sound

end Formula
end Spreadsheet
