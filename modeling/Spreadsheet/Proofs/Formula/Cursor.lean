import Spreadsheet.Proofs.Formula.Derivation

/-!
# Cursors

How far reading has come, told by the tokens that it has passed over and the signs and operators
that it has counted. Passing over several tokens is passing over the first ones and then over the
others.
-/

namespace Spreadsheet
namespace Formula

variable {c c' middle : Cursor} {ts us : List Token} {m k : Nat} {t : Token} {s : Symbol}

/-- The tokens that are not read yet. -/
def Cursor.tokens (c : Cursor) : List Token := c.rest.map Lexeme.token

/-- Reading goes from one cursor to another one, over certain tokens and so many signs and
operators. -/
structure Cursor.Passes (c : Cursor) (ts : List Token) (count : Nat) (c' : Cursor) : Prop where
  /-- The lexemes in between are those of the tokens. -/
  rest : ∃ between, between.map Lexeme.token = ts ∧ c.rest = between ++ c'.rest
  /-- The end of the text stays. -/
  size : c'.size = c.size
  /-- The signs and operators are counted. -/
  operators : c'.operators = c.operators + count
  /-- There is room for all that have been read. -/
  bounded : count = 0 ∨ c'.operators ≤ maxOperators

namespace Cursor.Passes

theorem refl (c : Cursor) : c.Passes [] 0 c where
  rest := ⟨[], rfl, rfl⟩
  size := rfl
  operators := rfl
  bounded := .inl rfl

theorem append_iff :
    c.Passes (ts ++ us) (m + k) c' ↔
      ∃ middle : Cursor, c.Passes ts m middle ∧ middle.Passes us k c' := by
  constructor
  · rintro ⟨⟨between, tokens, rest⟩, size, operators, bounded⟩
    obtain ⟨first, others, rfl, first_tokens, others_tokens⟩ := List.map_eq_append_iff.mp tokens
    refine ⟨⟨others ++ c'.rest, c.size, c.operators + m⟩, ?_, ?_⟩
    · exact ⟨⟨first, first_tokens, by rw [rest, List.append_assoc]⟩, rfl, rfl, by
        dsimp only
        omega⟩
    · exact ⟨⟨others, others_tokens, rfl⟩, size, by dsimp only; omega, by omega⟩
  · rintro ⟨middle, ⟨⟨first, first_tokens, rest⟩, size, operators, bounded⟩,
      ⟨⟨others, others_tokens, rest'⟩, size', operators', bounded'⟩⟩
    refine ⟨⟨first ++ others, by rw [List.map_append, first_tokens, others_tokens], ?_⟩,
      size'.trans size, by omega, by omega⟩
    rw [rest, rest', List.append_assoc]

theorem cons_iff :
    c.Passes (t :: us) (m + k) c' ↔
      ∃ middle : Cursor, c.Passes [t] m middle ∧ middle.Passes us k c' := by
  rw [← List.singleton_append, append_iff]

/-- Where reading ends up depends on the tokens only. -/
theorem unique (passes : c.Passes ts m middle) (passes' : c.Passes ts m c') : middle = c' := by
  obtain ⟨⟨between, tokens, rest⟩, size, operators, _⟩ := passes
  obtain ⟨⟨between', tokens', rest'⟩, size', operators', _⟩ := passes'
  have same_length : between.length = between'.length := by
    rw [← List.length_map Lexeme.token, tokens, ← tokens', List.length_map]
  obtain ⟨_, rest_eq⟩ := List.append_inj (rest.symm.trans rest') same_length
  cases middle
  cases c'
  simp_all

theorem eq_of_nil (passes : c.Passes [] 0 c') : c' = c := passes.unique (refl c)

theorem tokens_eq (passes : c.Passes ts m c') : c.tokens = ts ++ c'.tokens := by
  obtain ⟨between, tokens, rest⟩ := passes.rest
  rw [Cursor.tokens, rest, List.map_append, tokens, Cursor.tokens]

theorem length_eq (passes : c.Passes ts m c') : c.rest.length = ts.length + c'.rest.length := by
  obtain ⟨between, rfl, rest⟩ := passes.rest
  rw [rest, List.length_append, List.length_map]

end Cursor.Passes

namespace Cursor

theorem token?_eq : c.token? = c.tokens.head? := by
  rw [token?, tokens, List.head?_map]

theorem symbol?_eq_some_iff : c.symbol? = some s ↔ c.token? = some (.symbol s) := by
  rw [symbol?]
  split
  · rename_i s' token
    simp [token]
  · rename_i other
    simp only [reduceCtorEq, false_iff]
    exact fun token => other s token

theorem token?_of_passes (passes : c.Passes (t :: ts) m c') : c.token? = some t := by
  rw [token?_eq, passes.tokens_eq]
  rfl

theorem symbol?_of_passes (passes : c.Passes (.symbol s :: ts) m c') : c.symbol? = some s :=
  symbol?_eq_some_iff.mpr (token?_of_passes passes)

/-- Passing over the next token without counting it. -/
theorem passes_advance (next : c.token? = some t) : c.Passes [t] 0 c.advance := by
  rw [token?, Option.map_eq_some_iff] at next
  obtain ⟨lexeme, head, token⟩ := next
  obtain ⟨others, rest⟩ := List.head?_eq_some_iff.mp head
  refine ⟨⟨[lexeme], by rw [List.map_singleton, token], ?_⟩, rfl, rfl, .inl rfl⟩
  rw [advance, rest]
  rfl

/-- A symbol is expected exactly where it stands. -/
theorem expect_eq_ok_iff : c.expect s = .ok c' ↔ c.Passes [.symbol s] 0 c' := by
  rw [expect]
  constructor
  · intro expected
    split at expected
    · rename_i next
      rw [← Except.ok.inj expected]
      exact passes_advance (symbol?_eq_some_iff.mp next)
    · simp [fail] at expected
  · intro passes
    have next := symbol?_of_passes passes
    rw [if_pos next, (passes_advance (symbol?_eq_some_iff.mp next)).unique passes]

/-- An operator is passed over as long as there is room for one more. -/
theorem passOperator_eq_ok_iff (next : c.symbol? = some s) :
    c.passOperator = .ok c' ↔ c.Passes [.symbol s] 1 c' := by
  have advance := passes_advance (symbol?_eq_some_iff.mp next)
  have counted (room : c.operators + 1 ≤ maxOperators) :
      c.Passes [.symbol s] 1 { c.advance with operators := c.operators + 1 } :=
    ⟨advance.rest, rfl, rfl, .inr room⟩
  rw [passOperator]
  constructor
  · intro passed
    split at passed
    · simp [fail] at passed
    · rw [← Except.ok.inj passed]
      exact counted (by omega)
  · intro passes
    have room : c.operators + 1 ≤ maxOperators := by
      have := passes.bounded
      have := passes.operators
      omega
    rw [if_neg (by omega), (counted room).unique passes]

end Cursor

end Formula
end Spreadsheet
