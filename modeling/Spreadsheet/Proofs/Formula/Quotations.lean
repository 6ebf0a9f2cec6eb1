import Spreadsheet.Proofs.Formula.CallNames

/-!
# Quotations

Relocation cuts a text into pieces, and a reader cuts it into tokens. The two look for quotes in
ways of their own, and yet what is quoted for the one is quoted for the other in every text, be it
a formula or not. Relocation gives the quoted pieces back as they are.
-/

namespace Spreadsheet
namespace Formula

/-- The quoted ones among the pieces of a text, each with the byte offset at which it begins. -/
def quotedPieces (offset : Nat) : List Piece → List (Nat × List Char)
  | [] => []
  | .plain chars :: others => quotedPieces (offset + Text.size chars) others
  | .quoted chars :: others => (offset, chars) :: quotedPieces (offset + Text.size chars) others

/-- The token is a quoted text, or the quote that begins one and is never closed. -/
def Token.isQuotation : Token → Bool
  | text _ => true
  | illegal c => c == '"'
  | _ => false

variable {c : Char} {cs u : List Char} {s : Shift} {before : Option Char}

/-! ## Pieces -/

theorem pieces_quote (cs : List Char) : pieces ('"' :: cs) =
    .quoted ('"' :: cs.take (quotedLength cs)) :: pieces (cs.drop (quotedLength cs)) := by
  rw [pieces, if_pos rfl]

/-- The pieces of a text make up the text. -/
theorem flatMap_chars_pieces (cs : List Char) : (pieces cs).flatMap Piece.chars = cs := by
  induction cs using pieces.induct with
  | case1 => rw [pieces, List.flatMap_nil]
  | case2 cs length ih =>
      rw [pieces_quote, List.flatMap_cons, ih, Piece.chars, List.cons_append,
        List.take_append_drop]
  | case3 c cs plain ih =>
      rw [pieces, if_neg plain, List.flatMap_cons, ih, Piece.chars, List.cons_append,
        List.takeWhile_append_dropWhile]

/-- What stands in front of the first quote is in no quoted piece. -/
theorem quotedPieces_dropWhile (offset : Nat) (cs : List Char) :
    quotedPieces offset (pieces cs) =
      quotedPieces (offset + Text.size (cs.takeWhile (· != '"')))
        (pieces (cs.dropWhile (· != '"'))) := by
  cases cs with
  | nil => simp [pieces, quotedPieces]
  | cons c cs =>
      by_cases quote : c = '"'
      · simp [quote, Text.size]
      · rw [pieces, if_neg quote, quotedPieces, List.takeWhile_cons_of_pos (by simpa),
          List.dropWhile_cons_of_pos (by simpa)]

theorem quotedPieces_append (no_quote : '"' ∉ u) (offset : Nat) (rest : List Char) :
    quotedPieces offset (pieces (u ++ rest)) =
      quotedPieces (offset + Text.size u) (pieces rest) := by
  have pass : ∀ c ∈ u, (c != '"') = true := by
    intro c member
    simpa using ne_of_mem_of_not_mem member no_quote
  rw [quotedPieces_dropWhile, quotedPieces_dropWhile _ rest, List.takeWhile_append_of_pos pass,
    List.dropWhile_append_of_pos pass, Text.size_append, Nat.add_assoc]

/-! ## Tokens -/

/-- A quoted text without a closing quote goes on to the end. -/
theorem quotedLength_of_open (unclosed : quoted? cs = none) : quotedLength cs = cs.length := by
  induction cs using quoted?.induct with
  | case1 => rw [quotedLength, List.length_nil]
  | case2 cs => rw [quoted?] at unclosed; contradiction
  | case3 c cs ih =>
      rw [quoted?, Option.map_eq_none_iff] at unclosed
      rw [quotedLength, ih unclosed, List.length_cons, List.length_cons]
  | case4 c cs no_quote no_escape ih =>
      rw [quoted?.eq_4 _ _ no_quote no_escape, Option.map_eq_none_iff] at unclosed
      rw [quotedLength.eq_4 _ _ no_quote no_escape, ih unclosed, List.length_cons]

/-- A reader and relocation see the same end of a quoted text. -/
theorem readQuoted_eq (cs : List Char) :
    (readQuoted cs).1.isQuotation ∧ (readQuoted cs).2 = quotedLength cs := by
  rw [readQuoted]
  split
  · rename_i read
    exact ⟨rfl, (quotedLength_of_quoted? read).symm⟩
  · rename_i unclosed
    exact ⟨rfl, (quotedLength_of_open unclosed).symm⟩

theorem not_mem_quote_takeWhile {kind : Char → Bool} (other : kind '"' = false) (cs : List Char) :
    '"' ∉ cs.takeWhile kind := fun member => by
  simpa [other] using List.mem_takeWhile_imp member

theorem not_mem_quote_pointed (cs : List Char) : '"' ∉ pointed cs := by
  rw [pointed, places.eq_def]
  split <;> split <;> simp [not_mem_quote_takeWhile]

/-- No error code is written with a quote. -/
theorem not_mem_quote_take_readError (c : Char) (cs : List Char) :
    '"' ∉ cs.take (readError (c :: cs)).2 := by
  intro member
  have no_quote : ∀ p ∈ ErrorCode.spellings, '"' ∉ p.1.toList := by decide
  rw [readError] at member
  split at member
  · rename_i read
    apply no_quote _ (List.mem_of_find?_eq_some read)
    rw [← map_toUpper_readError read, readError, read]
    exact List.mem_map.mpr ⟨'"', List.mem_cons_of_mem c member, rfl⟩
  · exact List.not_mem_nil member

/-- A token that begins with another character contains no quote and is no quotation. -/
theorem readToken_of_ne_quote (other : c ≠ '"') (cs : List Char) :
    (readToken c cs).1.isQuotation = false ∧ '"' ∉ cs.take (readToken c cs).2 := by
  rw [readToken]
  split
  · exact ⟨rfl, by simp⟩
  split
  · rw [readLess.eq_def]
    split <;> exact ⟨rfl, by simp⟩
  split
  · rw [readGreater.eq_def]
    split <;> exact ⟨rfl, by simp⟩
  split
  · refine ⟨?_, not_mem_quote_take_readError c cs⟩
    rw [readError]
    split <;> rfl
  split
  · rw [readPoint]
    split
    · exact ⟨rfl, by simp⟩
    · rw [take_length_takeWhile]
      exact ⟨rfl, not_mem_quote_takeWhile rfl cs⟩
  split
  · rw [take_readNumber, List.mem_append, not_or]
    exact ⟨rfl, not_mem_quote_takeWhile rfl cs, not_mem_quote_pointed _⟩
  split
  · rw [readWord, take_length_takeWhile]
    refine ⟨?_, not_mem_quote_takeWhile rfl cs⟩
    rw [wordToken]
    split_ifs <;> rfl
  · exact ⟨by simpa [Token.isQuotation] using other, by simp⟩

/-- The quoted pieces of a text are the characters of its quotations, at the same places. -/
theorem quotedPieces_pieces (offset : Nat) (cs : List Char) :
    quotedPieces offset (pieces cs) =
      ((lexemesFrom offset cs).filter fun l => l.token.isQuotation).map fun l =>
        (l.start, l.chars) := by
  induction offset, cs using lexemesFrom.induct with
  | case1 => rw [pieces, lexemesFrom, quotedPieces, List.filter_nil, List.map_nil]
  | case2 offset c cs blank ih =>
      have no_quote : '"' ∉ [c] := by
        rw [List.mem_singleton]
        rintro rfl
        exact absurd blank (by decide)
      rw [lexemesFrom, if_pos blank, ← ih]
      exact quotedPieces_append no_quote offset cs
  | case3 offset c cs dark t more read lexeme ih =>
      rw [lexemesFrom, if_neg dark, read]
      dsimp only
      by_cases quote : c = '"'
      · subst quote
        obtain ⟨quotation, length⟩ := readQuoted_eq cs
        rw [show readToken '"' cs = readQuoted cs from rfl, Prod.ext_iff] at read
        obtain ⟨rfl, rfl⟩ := read
        rw [List.filter_cons_of_pos (by exact quotation), List.map_cons, ← ih, length,
          pieces_quote, quotedPieces]
        simp only [lexeme, Lexeme.stop, length]
      · obtain ⟨other, no_quote⟩ := readToken_of_ne_quote quote cs
        rw [read] at other no_quote
        have no_quote : '"' ∉ c :: cs.take more :=
          List.not_mem_cons_of_ne_of_not_mem (Ne.symm quote) no_quote
        rw [List.filter_cons_of_neg (by simpa using other), ← ih]
        nth_rewrite 1 [← List.take_append_drop more cs]
        exact quotedPieces_append no_quote offset _

/-! ## Relocation -/

theorem not_mem_quote_relocateReference (no_quote : '"' ∉ u) : '"' ∉ relocateReference s u := by
  rcases relocateReference_cases s u with lost | same | word
  · rw [lost]
    decide
  · rwa [same]
  · exact fun member => absurd (word.continues _ member) (by decide)

theorem not_mem_quote_relocatePlain (no_quote : '"' ∉ cs) : '"' ∉ relocatePlain s before cs := by
  induction before, cs using relocatePlain_induction with
  | nil before => rwa [relocatePlain]
  | plain before c rest nothing ih =>
      rw [List.mem_cons, not_or] at no_quote
      rw [relocatePlain, nothing]
      exact List.not_mem_cons_of_ne_of_not_mem no_quote.1 (ih no_quote.2)
  | reference before u rest some_chars found ih =>
      rw [List.mem_append, not_or] at no_quote
      rw [relocatePlain_reference found some_chars, List.mem_append, not_or]
      refine ⟨?_, ih no_quote.2⟩
      split
      · exact no_quote.1
      · exact not_mem_quote_relocateReference no_quote.1

/-- A quoted text ends where it ends, whatever stands behind it. A text that is never closed has
nothing behind it. -/
theorem pieces_quote_append (cs rest : List Char) (open_end : quoted? cs = none → rest = []) :
    pieces ('"' :: cs.take (quotedLength cs) ++ rest) =
      .quoted ('"' :: cs.take (quotedLength cs)) :: pieces rest := by
  have same_end : quotedLength (cs.take (quotedLength cs) ++ rest) = quotedLength cs ∧
      quotedLength cs ≤ cs.length := by
    cases read : quoted? cs with
    | none =>
        rw [open_end read, List.append_nil, quotedLength_of_open read, List.take_length]
        exact ⟨quotedLength_of_open read, le_rfl⟩
    | some result =>
        obtain ⟨enough, again⟩ := quoted?_spec read
        rw [quotedLength_of_quoted? read]
        exact ⟨quotedLength_of_quoted? (again rest), enough⟩
  have taken := List.length_take_of_le same_end.2
  rw [List.cons_append, pieces_quote, same_end.1, List.take_left' taken, List.drop_left' taken]

/-- Relocation keeps the quoted pieces of a text, and no text becomes quoted. -/
theorem quotedPieces_relocate (s : Shift) (cs : List Char) (offset offset' : Nat) :
    (quotedPieces offset (pieces ((pieces cs).flatMap (Piece.relocate s)))).map Prod.snd =
      (quotedPieces offset' (pieces cs)).map Prod.snd := by
  induction cs using pieces.induct generalizing offset offset' with
  | case1 => simp [pieces, quotedPieces]
  | case2 cs length ih =>
      have open_end (unclosed : quoted? cs = none) :
          (pieces (cs.drop (quotedLength cs))).flatMap (Piece.relocate s) = [] := by
        rw [quotedLength_of_open unclosed, List.drop_length, pieces, List.flatMap_nil]
      rw [pieces_quote, List.flatMap_cons, Piece.relocate, pieces_quote_append cs _ open_end]
      exact congrArg (_ :: ·) (ih _ _)
  | case3 c cs plain ih =>
      have no_quote : '"' ∉ c :: cs.takeWhile (· != '"') :=
        List.not_mem_cons_of_ne_of_not_mem (Ne.symm plain) (not_mem_quote_takeWhile rfl cs)
      rw [pieces, if_neg plain, List.flatMap_cons, Piece.relocate,
        quotedPieces_append (not_mem_quote_relocatePlain no_quote)]
      exact ih _ _

/-- The pieces of a text make up the text, be it a formula or not, and its quoted bytes are those
that a reader takes for quoted: the bytes of the quoted texts and of one that is never closed.
Whatever a shift makes of the text, the quoted pieces of the result are those of the text,
character by character and in the same order. -/
theorem quotations_agree (text : String) :
    (pieces text.toList).flatMap Piece.chars = text.toList ∧
      (∀ byte, (∃ q ∈ quotedPieces 0 (pieces text.toList), q.1 ≤ byte ∧
        byte < q.1 + Text.size q.2) ↔
        ∃ l ∈ lexemes text, l.token.isQuotation ∧ l.start ≤ byte ∧ byte < l.stop) ∧
      ∀ s, (quotedPieces 0 (pieces (relocate s text).toList)).map Prod.snd =
        (quotedPieces 0 (pieces text.toList)).map Prod.snd := by
  refine ⟨flatMap_chars_pieces _, fun byte => ?_, fun s => ?_⟩
  · rw [quotedPieces_pieces]
    simp only [List.mem_map, exists_exists_and_eq_and]
    simp only [List.mem_filter, and_assoc]
    rfl
  · rw [relocate]
    split
    · rfl
    · rw [String.toList_ofList]
      exact quotedPieces_relocate s _ 0 0

/-- Quotes behind backslashes close nothing, and the last quotation is never closed. The row of the
reference outside of them is inserted above. -/
example :
    let text := "=A2&\"\\\"A2\"&\"é\\"
    quotedPieces 0 (pieces text.toList) = [(4, "\"\\\"A2\"".toList), (11, "\"é\\".toList)] ∧
      relocate ⟨.row, 0, 1⟩ text = "=A3&\"\\\"A2\"&\"é\\" := by
  decide +kernel

end Formula
end Spreadsheet
