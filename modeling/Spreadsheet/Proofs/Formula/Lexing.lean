import Spreadsheet.Formula.Grammar
import Spreadsheet.Proofs.Text.Characters
import Spreadsheet.Proofs.Text.Slices

/-!
# Lexing

How a text is cut into tokens. `Cuts` says it as a relation: a text is a blank or the characters of
a token in front of a text that is cut. Where a token stops can depend on the character behind it,
so `Takes` speaks of a token in front of the rest of its text.
-/

namespace Spreadsheet
namespace Formula

/-- The tokens of a text. -/
def tokensOf (cs : List Char) : List Token := (lexemesFrom 0 cs).map Lexeme.token

/-- The characters make up the token when the rest follows them. -/
def Takes (u rest : List Char) (t : Token) : Prop :=
  ∃ c w, u = c :: w ∧ ¬ Text.isBlank c ∧ readToken c (w ++ rest) = (t, w.length)

/-- The text is cut into the tokens. -/
inductive Cuts : List Char → List Token → Prop where
  | nil : Cuts [] []
  | blank {c cs ts} : Text.isBlank c → Cuts cs ts → Cuts (c :: cs) ts
  | token {u rest t ts} : Takes u rest t → Cuts rest ts → Cuts (u ++ rest) (t :: ts)

variable {c : Char} {cs : List Char} {ts : List Token} {length : Nat}

/-! ## Bytes -/

/-! ## The first token -/

/-- The tokens do not depend on where the text begins. -/
theorem map_token_lexemesFrom (offset : Nat) (cs : List Char) :
    (lexemesFrom offset cs).map Lexeme.token = tokensOf cs := by
  rw [tokensOf]
  generalize 0 = start
  induction offset, cs using lexemesFrom.induct generalizing start with
  | case1 => rw [lexemesFrom, lexemesFrom]
  | case2 offset c cs blank ih =>
      rw [lexemesFrom, lexemesFrom, if_pos blank, if_pos blank]
      exact ih _
  | case3 offset c cs dark t more read lexeme ih =>
      rw [lexemesFrom, lexemesFrom, if_neg dark, if_neg dark, read]
      exact congrArg (t :: ·) (ih _)

@[simp] theorem tokensOf_nil : tokensOf [] = [] := by
  rw [tokensOf, lexemesFrom, List.map_nil]

theorem tokensOf_cons_of_isBlank (blank : Text.isBlank c) (cs : List Char) :
    tokensOf (c :: cs) = tokensOf cs := by
  rw [tokensOf, lexemesFrom, if_pos blank, map_token_lexemesFrom]

theorem tokensOf_cons (dark : ¬ Text.isBlank c) (cs : List Char) :
    tokensOf (c :: cs) = (readToken c cs).1 :: tokensOf (cs.drop (readToken c cs).2) := by
  rw [tokensOf, lexemesFrom, if_neg dark, List.map_cons, map_token_lexemesFrom]

/-! ## Readers take characters that are there -/

theorem take_length_takeWhile (kind : Char → Bool) (cs : List Char) :
    cs.take (cs.takeWhile kind).length = cs.takeWhile kind :=
  (List.prefix_iff_eq_take.mp (List.takeWhile_prefix kind)).symm

/-- The content of a quoted text is found in the characters that it takes. -/
theorem quoted?_spec {content : List Char} (read : quoted? cs = some (content, length)) :
    length ≤ cs.length ∧ ∀ rest, quoted? (cs.take length ++ rest) = some (content, length) := by
  induction cs using quoted?.induct generalizing content length with
  | case1 => rw [quoted?] at read; contradiction
  | case2 cs =>
      rw [quoted?] at read
      obtain ⟨rfl, rfl⟩ := Prod.mk.inj (Option.some.inj read)
      exact ⟨by simp, fun rest => by simp [quoted?]⟩
  | case3 c cs ih =>
      rw [quoted?] at read
      obtain ⟨⟨inner, k⟩, read_inner, same⟩ := Option.map_eq_some_iff.mp read
      obtain ⟨rfl, rfl⟩ := Prod.mk.inj same
      obtain ⟨enough, again⟩ := ih read_inner
      refine ⟨by simpa using enough, fun rest => ?_⟩
      simp [quoted?, again]
  | case4 c cs no_quote no_escape ih =>
      rw [quoted?.eq_4 _ _ no_quote no_escape] at read
      obtain ⟨⟨inner, k⟩, read_inner, same⟩ := Option.map_eq_some_iff.mp read
      obtain ⟨rfl, rfl⟩ := Prod.mk.inj same
      obtain ⟨enough, again⟩ := ih read_inner
      have plain : c ≠ '\\' := by
        rintro rfl
        cases cs with
        | nil => contradiction
        | cons d cs => exact no_escape d cs rfl rfl
      refine ⟨by simpa using enough, fun rest => ?_⟩
      rw [List.take_succ_cons, List.cons_append,
        quoted?.eq_4 _ _ no_quote fun _ _ same => absurd same plain, again]
      rfl

theorem quoted?_append {content : List Char} (read : quoted? cs = some (content, cs.length))
    (rest : List Char) : quoted? (cs ++ rest) = some (content, cs.length) := by
  have again := (quoted?_spec read).2 rest
  rwa [List.take_length] at again

theorem beginsWith_iff {spelling : String} :
    beginsWith spelling cs ↔ spelling.toList <+: cs.map Char.toUpper := by
  rw [beginsWith, beq_iff_eq, List.prefix_iff_eq_take, String.length_toList, List.map_take]
  exact eq_comm

/-- The characters of an error code are those of its spelling, in either case. -/
theorem map_toUpper_readError {spelling : String} {code : ErrorCode}
    (read : ErrorCode.spellings.find? (fun (spelling, _) => beginsWith spelling (c :: cs)) =
      some (spelling, code)) :
    (c :: cs.take (readError (c :: cs)).2).map Char.toUpper = spelling.toList := by
  have listed := List.mem_of_find?_eq_some read
  have begins := List.find?_some read
  change beginsWith spelling (c :: cs) at begins
  rw [beginsWith, beq_iff_eq] at begins
  have positive : ∀ p ∈ ErrorCode.spellings, p.1.length - 1 + 1 = p.1.length := by decide
  have length : spelling.length - 1 + 1 = spelling.length := positive _ listed
  rw [readError, read, ← List.take_succ_cons]
  dsimp only
  rw [length, begins]

theorem readError_length_le (c : Char) (cs : List Char) : (readError (c :: cs)).2 ≤ cs.length := by
  rw [readError]
  split
  · rename_i found
    have begins := List.find?_some found
    have fits := (beginsWith_iff.mp begins).length_le
    rw [List.length_map, String.length_toList, List.length_cons] at fits
    exact Nat.sub_le_of_le_add fits
  · exact Nat.zero_le _

theorem readPoint_length_le (cs : List Char) : (readPoint cs).2 ≤ cs.length := by
  rw [readPoint]
  split
  · exact Nat.zero_le _
  · exact (List.takeWhile_prefix _).length_le

/-- A point and the digits behind it, if the text begins with them. -/
def pointed (cs : List Char) : List Char := if (places cs).isEmpty then [] else '.' :: places cs

theorem pointed_leads (cs : List Char) : pointed cs <+: cs := by
  rw [pointed, places.eq_def]
  split
  · split
    · exact List.nil_prefix
    · exact List.cons_prefix_cons.mpr ⟨rfl, List.takeWhile_prefix _⟩
  · exact List.nil_prefix

/-- The characters behind the first one of a number are digits, and digits behind a point. -/
theorem readNumber_spec (c : Char) (cs : List Char) :
    let more := cs.takeWhile Char.isDigit ++ pointed (cs.dropWhile Char.isDigit)
    more <+: cs ∧ (readNumber c cs).2 = more.length := by
  intro more
  constructor
  · have whole : more <+: cs.takeWhile Char.isDigit ++ cs.dropWhile Char.isDigit :=
      (List.prefix_append_right_inj _).mpr (pointed_leads _)
    rwa [List.takeWhile_append_dropWhile] at whole
  · rw [readNumber, List.length_append, pointed]
    split <;> rfl

theorem readNumber_length_le (c : Char) (cs : List Char) : (readNumber c cs).2 ≤ cs.length := by
  obtain ⟨front, length⟩ := readNumber_spec c cs
  exact length ▸ front.length_le

theorem take_readNumber (c : Char) (cs : List Char) :
    cs.take (readNumber c cs).2 = cs.takeWhile Char.isDigit ++
      pointed (cs.dropWhile Char.isDigit) := by
  obtain ⟨front, length⟩ := readNumber_spec c cs
  rw [length, ← List.prefix_iff_eq_take.mp front]

theorem readToken_length_le (c : Char) (cs : List Char) : (readToken c cs).2 ≤ cs.length := by
  rw [readToken]
  split
  · exact Nat.zero_le _
  split
  · rw [readLess.eq_def]
    split <;> simp
  split
  · rw [readGreater.eq_def]
    split <;> simp
  split
  · rw [readQuoted]
    split
    · rename_i read
      exact (quoted?_spec read).1
    · exact le_rfl
  split
  · exact readError_length_le _ cs
  split
  · exact readPoint_length_le cs
  split
  · exact readNumber_length_le _ cs
  split
  · exact (List.takeWhile_prefix (l := cs) continuesWord).length_le
  · exact Nat.zero_le _

/-! ## Cutting -/

theorem takes_readToken (dark : ¬ Text.isBlank c) (cs : List Char) :
    Takes (c :: cs.take (readToken c cs).2) (cs.drop (readToken c cs).2) (readToken c cs).1 := by
  refine ⟨c, _, rfl, dark, ?_⟩
  rw [List.take_append_drop, List.length_take_of_le (readToken_length_le c cs)]

/-- Every text is cut into its tokens. -/
theorem cuts_tokensOf (cs : List Char) : Cuts cs (tokensOf cs) := by
  generalize size : cs.length = n
  induction n using Nat.strongRecOn generalizing cs with
  | ind n ih =>
      cases cs with
      | nil => exact tokensOf_nil ▸ .nil
      | cons c cs =>
          by_cases blank : Text.isBlank c
          · rw [tokensOf_cons_of_isBlank blank]
            exact .blank blank (ih _ (by simp [← size]) cs rfl)
          · have shorter : (cs.drop (readToken c cs).2).length < n := by
              rw [← size, List.length_cons, List.length_drop]
              omega
            have cuts := Cuts.token (takes_readToken blank cs) (ih _ shorter _ rfl)
            rw [List.cons_append, List.take_append_drop] at cuts
            rwa [tokensOf_cons blank]

theorem Cuts.tokensOf_eq (cuts : Cuts cs ts) : tokensOf cs = ts := by
  induction cuts with
  | nil => exact tokensOf_nil
  | blank blank _ ih => rw [tokensOf_cons_of_isBlank blank, ih]
  | token takes _ ih =>
      obtain ⟨c, w, rfl, dark, read⟩ := takes
      rw [List.cons_append, tokensOf_cons dark, read, List.drop_left, ih]

end Formula
end Spreadsheet
