import Spreadsheet.Proofs.Formula.CallNames

/-!
# Shifting tokens

The tokens of a relocated text are those of the text with every reference shifted. Relocation finds
references by their looks and by the characters next to them, while a reader cuts the text into
tokens; the two agree on texts in which every token has a meaning and no two words or numbers
touch. The one exception are names of calls with a colon in them, in which relocation finds
references as well.
-/

namespace Spreadsheet
namespace Formula

/-- A token after a shift: a reference that moves is written anew, and one that is lost becomes the
code for a lost reference. -/
def Token.shift (s : Shift) : Token → Token
  | cell word =>
    match Address.ofText? word with
    | none => cell word
    | some a =>
      match a.shift? s with
      | none => error .reference
      | some shifted => if shifted = a then cell word else cell shifted.text
  | range word =>
    match Range.ofText? word with
    | none => range word
    | some r =>
      match r.shift? s with
      | none => error .reference
      | some shifted => if shifted = r then range word else range shifted.text
  | t => t

/-- A token after relocation. It is the shifted token, but references in the name of a call are
relocated as well. -/
def Token.relocate (s : Shift) : Token → Token
  | function name => function (String.ofList (relocateName s name.toList))
  | t => t.shift s

/-- The characters of a token after relocation. -/
def Token.respell (s : Shift) (u : List Char) : Token → List Char
  | cell _ => relocateReference s u
  | range _ => relocateReference s u
  | function _ => relocateName s u
  | _ => u

/-- The character in front of a text hides no reference at its beginning. -/
def Free (before : Option Char) (cs : List Char) : Prop :=
  ∀ c ∈ before, gluesBefore c → EndsAt cs

/-- A token in front of the one text is also read in front of the other. -/
structure BeginsLike (rest rest' : List Char) : Prop where
  /-- Where a number or a word may end, the texts begin with the same character. -/
  head?_eq : EndsAt rest → rest'.head? = rest.head?
  /-- The other text begins with the character of a symbol only if the one does. -/
  mem_head? : ∀ c ∈ rest'.head?, startsSymbol c → c ∈ rest.head?

/-- A text with the given tokens, and the same text with every token respelled. -/
inductive Respelled (s : Shift) : List Char → List Token → List Char → Prop where
  | nil : Respelled s [] [] []
  | blank {c cs ts cs'} :
      Text.isBlank c → Respelled s cs ts cs' → Respelled s (c :: cs) ts (c :: cs')
  | token {u rest t ts rest'} : Spells rest u t → Spells rest' (t.respell s u) (t.relocate s) →
      Respelled s rest ts rest' → Respelled s (u ++ rest) (t :: ts) (t.respell s u ++ rest')

variable {s : Shift} {c : Char} {cs u rest rest' : List Char} {before : Option Char} {t : Token}
  {ts : List Token} {a : Address} {r : Range}

theorem shift_cell {word : String} (named : Address.ofText? word = some a) :
    (Token.cell word).shift s = match a.shift? s with
      | none => .error .reference
      | some shifted => if shifted = a then .cell word else .cell shifted.text := by
  simp only [Token.shift, named]

theorem shift_range {word : String} (named : Range.ofText? word = some r) :
    (Token.range word).shift s = match r.shift? s with
      | none => .error .reference
      | some shifted => if shifted = r then .range word else .range shifted.text := by
  simp only [Token.shift, named]

/-- A shift makes no name of a call out of a reference. -/
@[simp] theorem names_shift (s : Shift) (t : Token) : (t.shift s).names = t.names := by
  unfold Token.shift
  split
  · split
    · rfl
    · split
      · rfl
      · split <;> rfl
  · split
    · rfl
    · split
      · rfl
      · split <;> rfl
  · rfl

/-! ## The same token in front of another text -/

theorem EndsAt.of_beginsLike (ends : EndsAt rest) (like : BeginsLike rest rest') :
    EndsAt rest' := by
  intro c head
  rw [like.head?_eq ends] at head
  exact ends c head

theorem Symbol.Precedes.of_beginsLike {symbol : Symbol} (precedes : symbol.Precedes rest)
    (like : BeginsLike rest rest') : symbol.Precedes rest' := by
  cases symbol with
  | less =>
      exact ⟨fun head => precedes.1 (like.mem_head? _ head (by decide)),
        fun head => precedes.2 (like.mem_head? _ head (by decide))⟩
  | greater => exact fun head => precedes (like.mem_head? _ head (by decide))
  | _ => trivial

theorem Spells.of_beginsLike (spells : Spells rest u t) (like : BeginsLike rest rest') :
    Spells rest' u t := by
  cases spells with
  | symbol precedes => exact .symbol (precedes.of_beginsLike like)
  | text read => exact .text read
  | error listed spelled => exact .error listed spelled
  | whole some_digits digit ends => exact .whole some_digits digit (ends.of_beginsLike like)
  | decimal digit some_places place ends =>
      exact .decimal digit some_places place (ends.of_beginsLike like)
  | word starts continues ends =>
      rw [← like.head?_eq ends]
      exact .word starts continues (ends.of_beginsLike like)

/-! ## Characters that relocation sees -/

theorem Separates.not_gluesBefore (separates : Separates c) : ¬ gluesBefore c := by
  simp [gluesBefore, Char.isAlphanum, separates.not_isAlpha, separates.not_isDigit,
    separates.ne (d := '$') (by decide), separates.ne (d := '.') (by decide),
    separates.ne (d := '#') (by decide), separates.ne (d := '_') (by decide)]

theorem Separates.gluesAfter_iff (separates : Separates c) : gluesAfter c ↔ c = '(' := by
  simp [gluesAfter, Char.isAlphanum, separates.not_isAlpha, separates.not_isDigit,
    separates.ne (d := '$') (by decide), separates.ne (d := '_') (by decide)]

/-- The quote that ends a text between quotes is no end of a word. -/
theorem EndsAt.head?_takeWhile (ends : EndsAt rest) :
    (rest.takeWhile (· != '"')).head? = rest.head? := by
  cases rest with
  | nil => rfl
  | cons c rest =>
      have no_quote : (c != '"') = true := by
        simpa using (ends c rfl).ne (d := '"') (by decide)
      rw [List.takeWhile_cons_of_pos (by exact no_quote)]
      rfl

theorem EndsAt.takeWhile (ends : EndsAt rest) : EndsAt (rest.takeWhile (· != '"')) := by
  intro c head
  rw [ends.head?_takeWhile] at head
  exact ends c head

/-! ## What passes through -/

/-- Characters that begin no reference and no quoted text pass through. -/
theorem relocateFrom_of_plain (plain : ∀ c ∈ u, ¬ startsWord c ∧ c ≠ '"') :
    relocateFrom s before (u ++ rest) = u ++ relocateFrom s (u.getLast?.or before) rest :=
  relocateFrom_append (fun c member => (plain c member).2)
    (relocatePlain_of_not_startsWord fun c member => (plain c member).1)

theorem Separates.plain (separates : Separates c) : ¬ startsWord c ∧ c ≠ '"' :=
  ⟨separates.not_startsWord, separates.ne (by decide)⟩

theorem relocateFrom_cons (plain : ¬ startsWord c ∧ c ≠ '"') :
    relocateFrom s before (c :: cs) = c :: relocateFrom s (some c) cs := by
  have passes : relocateFrom s before ([c] ++ cs) = _ :=
    relocateFrom_of_plain (by simpa using plain)
  simpa using passes

/-- A blank or symbol at the beginning of a text stays there. -/
theorem EndsAt.head?_relocateFrom (ends : EndsAt cs) :
    (relocateFrom s before cs).head? = cs.head? := by
  cases cs with
  | nil => simp [relocateFrom, relocatePlain, pieces]
  | cons c cs =>
      rw [relocateFrom_cons (ends c rfl).plain]
      rfl

/-- A relocated reference begins as it did or with a character that begins no symbol. -/
theorem exists_cons_relocateReference (s : Shift) (c : Char) (w : List Char) :
    ∃ d v, relocateReference s (c :: w) = d :: v ∧ (d = c ∨ ¬ startsSymbol d) := by
  rcases relocateReference_cases s (c :: w) with lost | same | ⟨d, v, word, starts, _⟩
  · exact ⟨'#', ['R', 'E', 'F', '!'], lost, .inr (by decide)⟩
  · exact ⟨c, w, same, .inl rfl⟩
  · exact ⟨d, v, word, .inr fun symbol => Separates.not_startsWord (.inr symbol) starts⟩

theorem exists_cons_relocatePlain (s : Shift) (before : Option Char) (c : Char)
    (rest : List Char) :
    ∃ d v, relocatePlain s before (c :: rest) = d :: v ∧ (d = c ∨ ¬ startsSymbol d) := by
  rw [relocatePlain]
  split
  · exact ⟨c, _, rfl, .inl rfl⟩
  · rename_i length _
    obtain ⟨d, v, begins, other⟩ := exists_cons_relocateReference s c (rest.take (length - 1))
    dsimp only
    split
    · exact ⟨c, _, rfl, .inl rfl⟩
    · exact ⟨d, _, by rw [begins, List.cons_append], other⟩

/-- A relocated text begins with the character of a symbol only if the text does. -/
theorem beginsLike_relocateFrom (cs : List Char) : BeginsLike cs (relocateFrom s before cs) := by
  refine ⟨fun ends => ends.head?_relocateFrom, fun c head starts => ?_⟩
  cases cs with
  | nil => simp [relocateFrom, relocatePlain, pieces] at head
  | cons d rest =>
      by_cases quote : d = '"'
      · simpa [relocateFrom, relocatePlain, pieces, Piece.relocate, quote] using head
      · rw [relocateFrom, List.takeWhile_cons_of_pos (by simpa using quote)] at head
        obtain ⟨e, v, begins, other⟩ :=
          exists_cons_relocatePlain s before d (rest.takeWhile (· != '"'))
        rw [begins] at head
        obtain rfl : e = c := Option.some.inj head
        rw [other.resolve_right (not_not_intro starts)]
        rfl

theorem separates_of_mem_text {symbol : Symbol} (member : c ∈ symbol.text.toList) :
    Separates c := by
  have all : symbol.text.toList.all startsSymbol = true := by
    cases symbol <;> decide
  exact .inr (List.all_eq_true.mp all c member)

theorem plain_of_isDigit (digit : c.isDigit) : ¬ startsWord c ∧ c ≠ '"' := by
  refine ⟨fun starts => not_isDigit_of_startsWord starts digit, ?_⟩
  rintro rfl
  exact absurd digit (by decide)

/-- A word in any case passes through if no digit in it could be the row of an address. -/
theorem relocateFrom_of_capitals {word : List Char} (spelled : u.map Char.toUpper = word)
    (apart : word.IsChain Apart) (no_quote : '"' ∉ word) (ends : EndsAt rest) :
    relocateFrom s before (u ++ rest) = u ++ relocateFrom s (u.getLast?.or before) rest := by
  subst spelled
  refine relocateFrom_append (fun c member quote => ?_)
    (relocatePlain_of_apart ?_ fun c head => ?_)
  · exact no_quote (List.mem_map.mpr ⟨c, member, by rw [quote]; rfl⟩)
  · rw [List.isChain_map] at apart
    exact apart.imp fun _ _ => apart_toUpper_iff.mp
  · rw [ends.head?_takeWhile] at head
    exact (ends c head).not_isPart

/-! ## References -/

theorem Free.any_gluesBefore (free : Free before (c :: cs)) (starts : startsWord c) :
    before.any gluesBefore = false := by
  cases before with
  | none => rfl
  | some b =>
      rw [Option.any_some, Bool.eq_false_iff]
      intro glues
      exact (free b rfl glues c rfl).not_startsWord starts

/-- A reference at the beginning of a text is relocated if nothing is glued to it. -/
theorem relocateFrom_of_reference (starts : ∀ c ∈ u.head?, startsWord c) (some_chars : u ≠ [])
    (no_quote : ∀ c ∈ u, c ≠ '"') (free : Free before (u ++ rest)) (ends : EndsAt rest)
    (not_called : rest.head? ≠ some '(')
    (found : referenceLength? (u ++ rest.takeWhile (· != '"')) = some u.length) :
    relocateFrom s before (u ++ rest) =
      relocateReference s u ++ relocateFrom s u.getLast? rest := by
  have free_before : before.any gluesBefore = false := by
    obtain ⟨c, w, rfl⟩ := List.exists_cons_of_ne_nil some_chars
    exact free.any_gluesBefore (starts c rfl)
  have free_after : (rest.takeWhile (· != '"')).head?.any gluesAfter = false := by
    rw [ends.head?_takeWhile]
    cases rest with
    | nil => rfl
    | cons c rest =>
        rw [List.head?_cons, Option.any_some, Bool.eq_false_iff]
        intro glues
        exact not_called (congrArg some ((ends c rfl).gluesAfter_iff.mp glues))
  refine relocateFrom_append no_quote ?_
  rw [relocatePlain_reference found some_chars, free_before, free_after, Bool.or_false,
    if_neg Bool.false_ne_true]

theorem relocateReference_address (read : Address.read? u = some a) (no_colon : ':' ∉ u) :
    relocateReference s u = match a.shift? s with
      | none => ErrorCode.reference.code.toList
      | some shifted => if shifted = a then u else shifted.chars := by
  rw [relocateReference, if_neg (by simpa using no_colon)]
  cases survives : a.shift? s with
  | none => simp only [read, survives]
  | some shifted => simp only [read, survives]

theorem relocateReference_range (read : Range.read? u = some r) (colon : ':' ∈ u) :
    relocateReference s u = match r.shift? s with
      | none => ErrorCode.reference.code.toList
      | some shifted => if shifted = r then u else shifted.text.toList := by
  rw [relocateReference, if_pos (by simpa using colon)]
  cases survives : r.shift? s with
  | none => simp only [read, survives]
  | some shifted => simp only [read, survives]

/-! ## One token -/

/-- The word of an address is relocated to the word of the shifted address. -/
theorem spells_relocateReference_address
    (spells : Spells rest u (.cell (String.ofList (u.map Char.toUpper))))
    (read : Address.read? u = some a) (no_colon : ':' ∉ u) (ends : EndsAt rest)
    (not_called : rest.head? ≠ some '(') :
    Spells rest (relocateReference s u)
      ((Token.cell (String.ofList (u.map Char.toUpper))).shift s) := by
  have dark : ∀ c ∈ u, ¬ Text.isBlank c := fun c member =>
    Address.not_isBlank_of_isPart (Address.isPart_of_read? read c member)
  rw [relocateReference_address read no_colon,
    shift_cell ((Address.ofText?_capitals dark).trans read)]
  cases a.shift? s with
  | none => exact spells_lost rest
  | some shifted =>
      dsimp only
      by_cases same : shifted = a
      · rwa [if_pos same, if_pos same]
      · rw [if_neg same, if_neg same]
        exact spells_address shifted ends not_called

/-- The word of a range is relocated to the word of the shifted range. -/
theorem spells_relocateReference_range
    (spells : Spells rest u (.range (String.ofList (u.map Char.toUpper))))
    (read : Range.read? u = some r) (colon : ':' ∈ u) (ends : EndsAt rest)
    (not_called : rest.head? ≠ some '(') :
    Spells rest (relocateReference s u)
      ((Token.range (String.ofList (u.map Char.toUpper))).shift s) := by
  rw [relocateReference_range read colon, shift_range ((Range.ofText?_capitals u).trans read)]
  cases r.shift? s with
  | none => exact spells_lost rest
  | some shifted =>
      dsimp only
      by_cases same : shifted = r
      · rwa [if_pos same, if_pos same]
      · rw [if_neg same, if_neg same]
        exact spells_range shifted ends not_called

/-- Relocation respells a token in front of a text. -/
def Relocates (s : Shift) (before : Option Char) (u rest : List Char) (t : Token) : Prop :=
  ∃ after, relocateFrom s before (u ++ rest) = t.respell s u ++ relocateFrom s after rest ∧
    Free after rest ∧ ∀ rest', BeginsLike rest rest' → Spells rest' (t.respell s u) (t.relocate s)

/-- A token that is neither a reference nor the name of a call passes through. -/
theorem Spells.relocates_of_passes (spells : Spells rest u t) (ends : EndsAt rest)
    (kept : t.relocate s = t) (same : t.respell s u = u)
    (passes : relocateFrom s before (u ++ rest) =
      u ++ relocateFrom s (u.getLast?.or before) rest) :
    Relocates s before u rest t :=
  ⟨_, by rw [same, passes], fun _ _ _ => ends, fun _ like => by
    rw [kept, same]
    exact spells.of_beginsLike like⟩

/-- A word that names an address is relocated. -/
theorem relocates_cell (spells : Spells rest u (.cell (String.ofList (u.map Char.toUpper))))
    (read : Address.read? u = some a) (no_colon : ':' ∉ u) (ends : EndsAt rest)
    (not_called : rest.head? ≠ some '(') (free : Free before (u ++ rest)) :
    Relocates s before u rest (.cell (String.ofList (u.map Char.toUpper))) := by
  have looks := looksLikeAddress_of_read? read
  obtain ⟨c, w, same, starts⟩ := looks.exists_cons
  have found : referenceLength? (u ++ rest.takeWhile (· != '"')) = some u.length :=
    referenceLength?_address (addressLength?_append looks ends.takeWhile.not_isDigit) fun head =>
      absurd (ends.takeWhile ':' head) (by decide)
  refine ⟨_, relocateFrom_of_reference (by simpa [same] using starts) (by simp [same]) ?_ free ends
    not_called found, fun _ _ _ => ends, fun rest' like => ?_⟩
  · exact fun c member => (looks.isPart c member).ne (by decide)
  · exact spells_relocateReference_address (spells.of_beginsLike like) read no_colon
      (ends.of_beginsLike like) (like.head?_eq ends ▸ not_called)

/-- A word that names a range is relocated. -/
theorem relocates_range (spells : Spells rest u (.range (String.ofList (u.map Char.toUpper))))
    (continues : ∀ c ∈ u, continuesWord c) (read : Range.read? u = some r) (ends : EndsAt rest)
    (not_called : rest.head? ≠ some '(') (free : Free before (u ++ rest)) :
    Relocates s before u rest (.range (String.ofList (u.map Char.toUpper))) := by
  obtain ⟨first, second, a, b, same, _, read_first, read_second, _⟩ :=
    Range.read?_eq_some_iff.mp read
  have dark : ∀ c ∈ u, ¬ Text.isBlank c := fun c member =>
    not_isBlank_of_continuesWord (continues c member)
  rw [Text.trimList_of_no_blank fun c member => dark c (by simp [same, member])]
    at read_first read_second
  have first_looks := looksLikeAddress_of_read? read_first
  have second_looks := looksLikeAddress_of_read? read_second
  obtain ⟨c, w, first_same, starts⟩ := first_looks.exists_cons
  have found : referenceLength? (u ++ rest.takeWhile (· != '"')) = some u.length :=
    same ▸ referenceLength?_range first_looks second_looks ends.takeWhile.not_isDigit
  refine ⟨_, relocateFrom_of_reference (by simpa [same, first_same] using starts) (by simp [same])
    ?_ free ends not_called found, fun _ _ _ => ends, fun rest' like => ?_⟩
  · intro c member quote
    exact absurd (continues c member) (quote ▸ by decide)
  · exact spells_relocateReference_range (spells.of_beginsLike like) read (by simp [same])
      (ends.of_beginsLike like) (like.head?_eq ends ▸ not_called)

/-- The name of a call is relocated by itself. -/
theorem relocateFrom_called (word : IsWord u) (called : rest.head? = some '(')
    (free : Free before (u ++ rest)) :
    relocateFrom s before (u ++ rest) = relocateName s u ++ relocateFrom s (some '(') rest := by
  have free_before : before.any gluesBefore = false := by
    obtain ⟨c, w, rfl, starts, _⟩ := word
    exact free.any_gluesBefore starts
  obtain ⟨others, rfl⟩ := List.head?_eq_some_iff.mp called
  refine relocateFrom_append (fun c member => ?_) ?_
  · rintro rfl
    exact absurd (word.continues _ member) (by decide)
  · rw [List.takeWhile_cons_of_pos (by decide), relocatePlain_called s free_before,
      relocatePlain_cons (addressLength?_cons_eq_none (by decide) _)]

/-- The name of a call stays one if no reference in it is lost. -/
theorem relocates_function (word : IsWord u) (called : rest.head? = some '(')
    (kept : '#' ∉ relocateName s (u.map Char.toUpper)) (ends : EndsAt rest)
    (free : Free before (u ++ rest)) :
    Relocates s before u rest (.function (String.ofList (u.map Char.toUpper))) := by
  have kept_spelled : '#' ∉ relocateName s u := by
    rw [relocateName_map_toUpper] at kept
    exact fun member => kept (List.mem_map.mpr ⟨'#', member, rfl⟩)
  refine ⟨some '(', relocateFrom_called word called free, fun _ _ _ => ends, fun rest' like => ?_⟩
  obtain ⟨c, w, respelled, starts, continues⟩ := isWord_relocateName word kept_spelled
  have spells : Spells rest' (c :: w) (wordToken (c :: w) (rest'.head? == some '(')) :=
    .word starts continues (ends.of_beginsLike like)
  rw [like.head?_eq ends, called, beq_self_eq_true, ← respelled] at spells
  rw [Token.relocate, String.toList_ofList, relocateName_map_toUpper]
  exact spells

theorem relocates_word {w : List Char} (starts : startsWord c)
    (continues : ∀ d ∈ w, continuesWord d)
    (ends : EndsAt rest) (sound : (wordToken (c :: w) (rest.head? == some '(')).IsSound)
    (kept : ∀ name ∈ (wordToken (c :: w) (rest.head? == some '(')).names,
      '#' ∉ relocateName s name.toList)
    (free : Free before (c :: w ++ rest)) :
    Relocates s before (c :: w) rest (wordToken (c :: w) (rest.head? == some '(')) := by
  have spells : Spells rest (c :: w) (wordToken (c :: w) (rest.head? == some '(')) :=
    .word starts continues ends
  have continues_all : ∀ d ∈ c :: w, continuesWord d :=
    List.forall_mem_cons.mpr ⟨continuesWord_of_startsWord starts, continues⟩
  rcases wordToken_cases (c :: w) (rest.head? == some '(') with
    ⟨called, token⟩ | ⟨_, b, token, spelled⟩ | ⟨not_called, colon, token⟩ |
      ⟨not_called, no_colon, token⟩
  · rw [token] at kept ⊢
    have kept := kept _ (List.mem_singleton_self _)
    rw [String.toList_ofList] at kept
    exact relocates_function ⟨c, w, rfl, starts, continues⟩ (by simpa using called) kept ends free
  · rw [token] at spells ⊢
    refine spells.relocates_of_passes ends rfl rfl
      (relocateFrom_of_capitals spelled (isChain_truth b) ?_ ends)
    cases b <;> decide
  · rw [token] at spells sound ⊢
    obtain ⟨r, read⟩ := Option.isSome_iff_exists.mp sound
    rw [Range.ofText?_capitals] at read
    exact relocates_range spells continues_all read ends (by simpa using not_called) free
  · rw [token] at spells sound ⊢
    obtain ⟨a, read⟩ := Option.isSome_iff_exists.mp sound
    rw [Address.ofText?_capitals fun d member =>
      not_isBlank_of_continuesWord (continues_all d member)] at read
    exact relocates_cell spells read no_colon ends (by simpa using not_called) free

/-- Relocation and reading agree on every token. -/
theorem Spells.relocates (spells : Spells rest u t) (sound : t.IsSound)
    (kept : ∀ name ∈ t.names, '#' ∉ relocateName s name.toList) (ends : ¬ t.isSymbol → EndsAt rest)
    (free : Free before (u ++ rest)) : Relocates s before u rest t := by
  cases id spells with
  | @symbol symbol precedes =>
      have separates : ∀ c ∈ symbol.text.toList, Separates c := fun c => separates_of_mem_text
      refine ⟨_, relocateFrom_of_plain fun c member => (separates c member).plain, ?_,
        fun _ like => spells.of_beginsLike like⟩
      have some_chars : symbol.text.toList ≠ [] := by
        cases symbol <;> decide
      intro c last glues
      rw [List.getLast?_eq_some_getLast some_chars, Option.some_or] at last
      obtain rfl := Option.some.inj last
      exact absurd glues (separates _ (List.getLast_mem some_chars)).not_gluesBefore
  | text read =>
      refine ⟨none, relocateFrom_quoted read, fun _ nothing => ?_,
        fun _ like => spells.of_beginsLike like⟩
      contradiction
  | @error _ spelling code listed spelled =>
      have spellings : ∀ p ∈ ErrorCode.spellings,
          p.1.toList.IsChain Apart ∧ '"' ∉ p.1.toList := by
        decide
      obtain ⟨apart, no_quote⟩ := spellings _ listed
      have ends := ends (by simp [Token.isSymbol])
      exact spells.relocates_of_passes ends rfl rfl
        (relocateFrom_of_capitals spelled apart no_quote ends)
  | whole some_digits digit stop =>
      exact spells.relocates_of_passes stop rfl rfl
        (relocateFrom_of_plain fun c member => plain_of_isDigit (digit c member))
  | decimal digit some_places place stop =>
      refine spells.relocates_of_passes stop rfl rfl (relocateFrom_of_plain fun c member => ?_)
      rcases List.mem_append.mp member with member | member
      · exact plain_of_isDigit (digit c member)
      · rcases List.mem_cons.mp member with rfl | member
        · decide
        · exact plain_of_isDigit (place c member)
  | word starts continues stop => exact relocates_word starts continues stop sound kept free

/-! ## A whole text -/

/-- The tokens of the respelled text are the relocated ones. -/
theorem Respelled.cuts {cs' : List Char} (respelled : Respelled s cs ts cs') :
    Cuts cs' (ts.map (Token.relocate s)) := by
  induction respelled with
  | nil => exact .nil
  | blank blank _ ih => exact .blank blank ih
  | token _ spells' _ ih => exact .token spells'.takes ih

/-- Relocation respells the tokens of a text one by one. -/
theorem Cuts.respelled (cuts : Cuts cs ts) (sound : ∀ t ∈ ts, t.IsSound)
    (kept : ∀ t ∈ ts, ∀ name ∈ t.names, '#' ∉ relocateName s name.toList)
    (chain : ts.IsChain Derives.Adjacent) (free : Free before cs) :
    Respelled s cs ts (relocateFrom s before cs) := by
  -- What stays true from token to token is `free`: no reference is glued to the token in front of
  -- it.
  induction cuts generalizing before with
  | nil => simpa [relocateFrom, relocatePlain, pieces] using Respelled.nil
  | @blank c cs ts blank _ ih =>
      have separates : Separates c := .inl blank
      rw [relocateFrom_cons separates.plain]
      refine .blank blank (ih sound kept chain ?_)
      rintro b ⟨rfl⟩ glues
      exact absurd glues separates.not_gluesBefore
  | @token u rest t ts takes cuts ih =>
      obtain ⟨first_sound, sound⟩ := List.forall_mem_cons.mp sound
      obtain ⟨first_kept, kept⟩ := List.forall_mem_cons.mp kept
      have spells := takes.spells_of_isChain cuts first_sound chain
      obtain ⟨after, relocated, free_after, spells'⟩ :=
        spells.relocates first_sound first_kept (cuts.endsAt_of_isChain chain) free
      rw [relocated]
      exact .token spells (spells' _ (beginsLike_relocateFrom rest))
        (ih sound kept chain.tail free_after)

/-! ## Names without colons -/

theorem Cuts.exists_spells (cuts : Cuts cs ts) (sound : ∀ t ∈ ts, t.IsSound)
    (chain : ts.IsChain Derives.Adjacent) : ∀ t ∈ ts, ∃ u rest, Spells rest u t := by
  induction cuts with
  | nil => simp
  | blank _ _ ih => exact ih sound chain
  | @token u rest t ts takes cuts ih =>
      obtain ⟨first_sound, sound⟩ := List.forall_mem_cons.mp sound
      exact List.forall_mem_cons.mpr
        ⟨⟨u, rest, takes.spells_of_isChain cuts first_sound chain⟩, ih sound chain.tail⟩

/-- The name of a call is a word in front of a parenthesis, in capitals. -/
theorem Spells.of_function {name : String} (spells : Spells rest u (.function name)) :
    IsWord u ∧ EndsAt rest ∧ rest.head? = some '(' ∧
      name = String.ofList (u.map Char.toUpper) := by
  generalize same : Token.function name = t at spells
  cases spells with
  | @word c w starts continues ends =>
      rcases wordToken_cases (c :: w) (rest.head? == some '(') with
        ⟨called, token⟩ | ⟨_, _, token, _⟩ | ⟨_, _, token⟩ | ⟨_, _, token⟩
      · rw [token] at same
        exact ⟨⟨c, w, rfl, starts, continues⟩, ends, by simpa using called,
          Token.function.inj same⟩
      all_goals
        rw [token] at same
        contradiction
  | _ => contradiction

/-- A name without colons consists of characters that may occur in an address. -/
theorem Spells.isPart_of_function {name : String} (spells : Spells rest u (.function name))
    (plain : ':' ∉ name.toList) : ∀ c ∈ name.toList, Address.IsPart c := by
  obtain ⟨word, _, _, rfl⟩ := spells.of_function
  rw [String.toList_ofList] at plain ⊢
  intro c member
  obtain ⟨d, member', rfl⟩ := List.mem_map.mp member
  have continues := word.continues d member'
  rw [← continuesWord_toUpper] at continues
  exact isPart_of_continuesWord continues fun colon => plain (colon ▸ member)

/-- Without colons in the names of calls, relocating tokens is shifting them. -/
theorem Cuts.relocate_eq_shift (cuts : Cuts cs ts) (sound : ∀ t ∈ ts, t.IsSound)
    (plain : ∀ t ∈ ts, ∀ name ∈ t.names, ':' ∉ name.toList) (chain : ts.IsChain Derives.Adjacent) :
    ∀ t ∈ ts, t.relocate s = t.shift s ∧ ∀ name ∈ t.names, '#' ∉ relocateName s name.toList := by
  intro t member
  obtain ⟨u, rest, spells⟩ := cuts.exists_spells sound chain t member
  cases t with
  | function name =>
      have part := spells.isPart_of_function (plain _ member name (List.mem_singleton_self name))
      have same : relocateName s name.toList = name.toList := relocateName_of_isPart part
      refine ⟨by rw [Token.relocate, same, String.ofList_toList]; rfl, fun name' named => ?_⟩
      obtain rfl := List.mem_singleton.mp named
      rw [same]
      exact fun sign => absurd (part '#' sign) (by decide)
  | _ => exact ⟨rfl, by simp [Token.names]⟩

end Formula
end Spreadsheet
