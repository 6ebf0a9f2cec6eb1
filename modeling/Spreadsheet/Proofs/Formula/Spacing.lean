import Spreadsheet.Proofs.Formula.Parsing
import Spreadsheet.Proofs.Formula.TokenShift

/-!
# Spacing and case

The case of letters outside quoted texts and the blanks between tokens mean nothing to a formula.
More blanks may stand in front of every token, with one exception: nothing may come between the
name of a call and its parenthesis. A text styled in another way has the same tokens if every token
of it has a meaning and no two words or numbers touch.
-/

namespace Spreadsheet
namespace Formula

/-- The token may be written with the second characters instead of the first ones. Only the case of
ASCII letters may differ, and nothing in a quoted text or in what begins no token. -/
def Token.AllowsStyle (u u' : List Char) : Token → Prop
  | text _ => u' = u
  | illegal _ => u' = u
  | _ => u'.map Char.toUpper = u.map Char.toUpper

/-- The second text is the first one with tokens written in another case and with more blanks in
front of tokens and at the end. No blank separates the name of a call from its parenthesis. -/
inductive Restyled : List Char → List Char → Prop where
  | nil : Restyled [] []
  | blank {c cs cs'} : Text.isBlank c → Restyled cs cs' → Restyled (c :: cs) (c :: cs')
  | more {c cs cs'} : Text.isBlank c → Restyled cs cs' → Restyled cs (c :: cs')
  | token {u u' rest rest' t} : Takes u rest t → t.AllowsStyle u u' →
      ((∃ name, t = .function name) → rest'.head? = some '(') → Restyled rest rest' →
      Restyled (u ++ rest) (u' ++ rest')

variable {c : Char} {cs cs' u u' w w' rest rest' : List Char} {s : Symbol} {t : Token}
  {ts : List Token} {e : Expr} {text styled : String}

/-! ## Letters in another case -/

/-- Characters that are no letters have no other case. -/
theorem eq_of_map_toUpper_eq (plain : ∀ c ∈ u, ¬ c.isAlpha)
    (same : u'.map Char.toUpper = u.map Char.toUpper) : u' = u := by
  induction u generalizing u' with
  | nil => exact List.map_eq_nil_iff.mp same
  | cons c u ih =>
      obtain ⟨first, others⟩ := List.forall_mem_cons.mp plain
      rw [List.map_cons, List.map_eq_cons_iff] at same
      obtain ⟨d, rest, rfl, head, tail⟩ := same
      rw [Text.toUpper_of_not_isAlpha first, Text.toUpper_eq_iff first] at head
      rw [head, ih others tail]

theorem wordToken_of_map_toUpper_eq (called : Bool)
    (same : u'.map Char.toUpper = u.map Char.toUpper) :
    wordToken u' called = wordToken u called := by
  rw [wordToken, wordToken, same]

theorem not_isAlpha_of_isDigit {d : Char} (digit : d.isDigit) : ¬ d.isAlpha :=
  fun letter => Text.not_isDigit_of_isAlpha letter digit

/-! ## Where a restyled text begins -/

/-- A restyled text begins with a blank, or with the character that the text begins with in some
case. -/
def BeginsAs (rest rest' : List Char) : Prop :=
  ∀ c ∈ rest'.head?, Text.isBlank c ∨ ∃ d ∈ rest.head?, d.toUpper = c.toUpper

theorem Token.AllowsStyle.map_toUpper_eq (allowed : t.AllowsStyle u u') :
    u'.map Char.toUpper = u.map Char.toUpper := by
  cases t with
  | text | illegal => exact congrArg (List.map Char.toUpper) allowed
  | _ => exact allowed

theorem Restyled.beginsAs (restyled : Restyled cs cs') : BeginsAs cs cs' := by
  cases restyled with
  | nil => simp [BeginsAs]
  | blank blank _ | more blank _ =>
      rintro c ⟨rfl⟩
      exact .inl blank
  | token takes allowed _ _ =>
      obtain ⟨c, w, rfl, _⟩ := takes
      have same := allowed.map_toUpper_eq
      rw [List.map_cons, List.map_eq_cons_iff] at same
      obtain ⟨c', w', rfl, head, _⟩ := same
      rintro d ⟨rfl⟩
      exact .inr ⟨c, rfl, head.symm⟩

/-- A restyled text begins with a symbol only if the text does. -/
theorem BeginsAs.head?_eq (begins : BeginsAs rest rest') (starts : startsSymbol c)
    (head : rest'.head? = some c) : rest.head? = some c := by
  have separates : Separates c := .inr starts
  rcases begins c head with blank | ⟨d, head', same⟩
  · rw [startsSymbol_iff_toNat] at starts
    rw [Text.isBlank_iff_toNat] at blank
    omega
  · have plain := separates.not_isAlpha
    rw [Text.toUpper_of_not_isAlpha plain, Text.toUpper_eq_iff plain] at same
    rw [head', same]

theorem Symbol.Precedes.of_beginsAs (precedes : s.Precedes rest) (begins : BeginsAs rest rest') :
    s.Precedes rest' := by
  cases s with
  | less =>
      exact ⟨fun head => precedes.1 (begins.head?_eq (by decide) head),
        fun head => precedes.2 (begins.head?_eq (by decide) head)⟩
  | greater => exact fun head => precedes (begins.head?_eq (by decide) head)
  | _ => trivial

/-! ## Tokens of restyled texts -/

/-- A token in another case is a spelling of the same token in front of a restyled text. -/
theorem Spells.restyled (spells : Spells rest u t) (allowed : t.AllowsStyle u u')
    (begins : BeginsAs rest rest') (ends : ¬ t.isSymbol → EndsAt rest')
    (called : (∃ name, t = .function name) → rest'.head? = some '(') : Spells rest' u' t := by
  have same := allowed.map_toUpper_eq
  cases spells with
  | @symbol symbol precedes =>
      rw [eq_of_map_toUpper_eq (fun c member => (separates_of_mem_text member).not_isAlpha) same]
      exact .symbol (precedes.of_beginsAs begins)
  | text read =>
      obtain rfl : u' = _ := allowed
      exact .text read
  | error listed spelled => exact .error listed (same.trans spelled)
  | whole some_digits digit _ =>
      rw [eq_of_map_toUpper_eq (fun c member => not_isAlpha_of_isDigit (digit c member)) same]
      exact .whole some_digits digit (ends (by simp [Token.isSymbol]))
  | @decimal digits places digit some_places place _ =>
      have plain : ∀ c ∈ digits ++ '.' :: places, ¬ c.isAlpha := by
        refine List.forall_mem_append.mpr
          ⟨fun c member => not_isAlpha_of_isDigit (digit c member), ?_⟩
        refine List.forall_mem_cons.mpr ⟨by decide, fun c member => ?_⟩
        exact not_isAlpha_of_isDigit (place c member)
      rw [eq_of_map_toUpper_eq plain same]
      exact .decimal digit some_places place (ends (by simp [Token.isSymbol]))
  | @word c w starts continues _ =>
      have stop : EndsAt rest' := ends (by simp [isSymbol_wordToken])
      obtain ⟨c', w', rfl, starts', continues'⟩ :=
        isWord_of_map_toUpper_eq ⟨c, w, rfl, starts, continues⟩ same
      have same_call : (rest'.head? == some '(') = (rest.head? == some '(') := by
        rw [Bool.eq_iff_iff, beq_iff_eq, beq_iff_eq]
        constructor
        · exact begins.head?_eq (by decide)
        · intro head
          refine called ⟨String.ofList ((c :: w).map Char.toUpper), ?_⟩
          rw [head]
          rfl
      rw [← wordToken_of_map_toUpper_eq _ same, ← same_call]
      exact .word starts' continues' stop

/-- A restyled text is cut into the same tokens. -/
theorem Restyled.cuts (restyled : Restyled cs cs') (sound : ∀ t ∈ tokensOf cs, t.IsSound)
    (chain : (tokensOf cs).IsChain Derives.Adjacent) : Cuts cs' (tokensOf cs) := by
  -- Where a number or a word ends is told by the tokens that follow, which are the same by
  -- induction.
  induction restyled with
  | nil => exact tokensOf_nil ▸ .nil
  | blank blank _ ih =>
      rw [tokensOf_cons_of_isBlank blank] at sound chain ⊢
      exact .blank blank (ih sound chain)
  | more blank _ ih => exact .blank blank (ih sound chain)
  | @token u u' rest rest' t takes allowed called restyled ih =>
      have tokens : tokensOf (u ++ rest) = t :: tokensOf rest :=
        (Cuts.token takes (cuts_tokensOf rest)).tokensOf_eq
      rw [tokens] at sound chain ⊢
      obtain ⟨first_sound, sound⟩ := List.forall_mem_cons.mp sound
      have cuts := ih sound chain.tail
      have spells := takes.spells_of_isChain (cuts_tokensOf rest) first_sound chain
      exact .token (spells.restyled allowed restyled.beginsAs
        (cuts.endsAt_of_isChain chain) called).takes
        cuts

/-- A formula means the same in every style. Neither the case of letters outside quoted texts nor
further blanks in front of tokens and at the end change its tree, as long as the text is not too
long. -/
theorem parse_restyled (accepted : parse text = .ok e)
    (restyled : Restyled text.toList styled.toList) (short : styled.length ≤ maxChars) :
    parse styled = parse text := by
  obtain ⟨_, ts, tokens, standFor⟩ := parse_eq_ok_iff.mp accepted
  obtain ⟨sound, _, chain⟩ := standFor.tokens
  have tokens : tokensOf text.toList = .symbol .equal :: ts := tokens
  have cuts : Cuts styled.toList (tokensOf text.toList) := by
    refine restyled.cuts ?_ ?_
    · rw [tokens]
      exact List.forall_mem_cons.mpr ⟨trivial, sound⟩
    · rw [tokens]
      exact Derives.isChain_symbol_cons _ chain
  rw [accepted, parse_eq_ok_iff]
  exact ⟨short, ts, cuts.tokensOf_eq.trans tokens, standFor⟩

/-- Blanks surround every token but the name of the call, which is written in capitals. The letters
between the quotes are kept. -/
theorem parse_restyled_of_quoted_text :
    let text := "=len(\"aB\")"
    let styled := " = LEN( \"aB\" ) "
    parse text = .ok (.call "LEN" [.literal (.text "aB")]) ∧ Restyled text.toList styled.toList ∧
      parse styled = parse text := by
  intro text styled
  have accepted : parse "=len(\"aB\")" = .ok (.call "LEN" [.literal (.text "aB")]) := by
    with_unfolding_all rfl
  have text_chars : text.toList = ['=', 'l', 'e', 'n', '(', '"', 'a', 'B', '"', ')'] := by decide
  have styled_chars : styled.toList =
      [' ', '=', ' ', 'L', 'E', 'N', '(', ' ', '"', 'a', 'B', '"', ' ', ')', ' '] := by decide
  have plain {s : Symbol} {P : Prop} : (∃ name, Token.symbol s = .function name) → P := by simp
  have behind : Restyled [')'] [' ', ')', ' '] :=
    .more (by decide) (@Restyled.token [')'] [')'] _ _ _ ⟨')', [], rfl, by decide, rfl⟩ rfl plain
      (.more (by decide) .nil))
  have inside : Restyled ['"', 'a', 'B', '"', ')'] [' ', '"', 'a', 'B', '"', ' ', ')', ' '] :=
    .more (by decide) (@Restyled.token ['"', 'a', 'B', '"'] ['"', 'a', 'B', '"'] _ _ _
      ⟨'"', ['a', 'B', '"'], rfl, by decide, rfl⟩ rfl (by simp) behind)
  have called : Restyled ['(', '"', 'a', 'B', '"', ')']
      ['(', ' ', '"', 'a', 'B', '"', ' ', ')', ' '] :=
    @Restyled.token ['('] ['('] _ _ _ ⟨'(', [], rfl, by decide, rfl⟩ rfl plain inside
  have name : Restyled ['l', 'e', 'n', '(', '"', 'a', 'B', '"', ')']
      [' ', 'L', 'E', 'N', '(', ' ', '"', 'a', 'B', '"', ' ', ')', ' '] :=
    .more (by decide) (@Restyled.token ['l', 'e', 'n'] ['L', 'E', 'N'] _ _ _
      ⟨'l', ['e', 'n'], rfl, by decide, rfl⟩ rfl (fun _ => rfl) called)
  have restyled : Restyled text.toList styled.toList := by
    rw [text_chars, styled_chars]
    exact .more (by decide)
      (@Restyled.token ['='] ['='] _ _ _ ⟨'=', [], rfl, by decide, rfl⟩ rfl plain
      name)
  exact ⟨accepted, restyled, parse_restyled accepted restyled (by decide)⟩

end Formula
end Spreadsheet
