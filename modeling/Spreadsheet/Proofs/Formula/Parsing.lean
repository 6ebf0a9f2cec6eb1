import Spreadsheet.Proofs.Formula.Completeness
import Spreadsheet.Proofs.Formula.Soundness

/-!
# Parsing

The parser accepts exactly the texts of bounded length whose tokens are an equals sign and, behind
it, nothing or a derivation within the limits.
-/

namespace Spreadsheet
namespace Formula

open Spreadsheet.Expr

variable {c : Cursor} {ts : List Token} {t : Token} {e : Expr} {text : String}

/-- The tokens behind the equals sign of a formula stand for an expression: either there are none
and it is the empty text, or it can be derived from them within the limits. -/
def StandFor (ts : List Token) (e : Expr) : Prop :=
  (ts = [] ∧ e = .literal (.text "")) ∨
    (Derives maxNesting (.level .comparison) ts [e] ∧ e.operatorCount ≤ maxOperators)

theorem StandFor.references_eq (standFor : StandFor ts e) :
    e.references = ts.flatMap Token.references := by
  rcases standFor with ⟨rfl, rfl⟩ | ⟨derives, _⟩
  · rfl
  · simpa [referencesOfAll, Part.before] using derives.references_eq

/-- The tokens have a meaning by themselves, give the names of the calls, and are kept apart by
symbols. -/
theorem StandFor.tokens (standFor : StandFor ts e) :
    (∀ t ∈ ts, t.IsSound) ∧ ts.flatMap Token.names = e.functionNames ∧
      ts.IsChain Derives.Adjacent := by
  rcases standFor with ⟨rfl, rfl⟩ | ⟨derives, _⟩
  · exact ⟨by simp, rfl, .nil⟩
  · have names := derives.names_eq
    simp only [functionNamesOfAll, Part.before, List.append_nil, List.nil_append] at names
    exact ⟨derives.isSound_of_mem, names.symm, derives.isChain⟩

theorem standFor_of_body (unused : c.operators = 0) (read : body c = .ok e) :
    StandFor c.tokens e := by
  rw [body] at read
  split at read
  · rename_i nothing
    left
    rw [Cursor.tokens, List.isEmpty_iff.mp nothing]
    exact ⟨rfl, (Except.ok.inj read).symm⟩
  · right
    obtain ⟨⟨e', after⟩, read_expression, read⟩ := bind_eq_ok_iff.mp read
    obtain ⟨ts, derives, passes⟩ := (finds_nesting maxNesting).1 _ _ _ read_expression
    dsimp only at read
    split at read
    · rename_i ends
      obtain rfl := Except.ok.inj read
      have tokens := passes.tokens_eq
      rw [Cursor.token?_eq, List.head?_eq_none_iff] at ends
      rw [ends, List.append_nil] at tokens
      have := passes.bounded
      have := passes.operators
      exact ⟨tokens ▸ derives, by omega⟩
    · simp [Cursor.fail] at read

theorem body_of_standFor (unused : c.operators = 0) (standFor : StandFor c.tokens e) :
    body c = .ok e := by
  rw [body]
  rcases standFor with ⟨nothing, rfl⟩ | ⟨derives, room⟩
  · rw [List.map_eq_nil_iff.mp nothing]
    rfl
  · have begins := derives.exists_head rfl
    have nonempty : c.rest.isEmpty = false := by
      rw [List.isEmpty_eq_false_iff]
      intro nothing
      obtain ⟨t, others, tokens, _⟩ := begins
      simp [Cursor.tokens, nothing] at tokens
    let after : Cursor := ⟨[], c.size, e.operatorCount⟩
    have passes : c.Passes c.tokens e.operatorCount after :=
      ⟨⟨c.rest, rfl, (List.append_nil _).symm⟩, rfl, by rw [unused, Nat.zero_add], .inr room⟩
    have stops : (Part.level .comparison).Stops after := fun s next => by
      simp [after, Cursor.symbol?, Cursor.token?] at next
    have read : (Grammar.nesting maxNesting).expression c = .ok (e, after) := by
      rw [Grammar.nesting_eq]
      exact derives.found c after _ (by simp [operatorCountOfAll, Part.before]) passes stops e rfl
    rw [nonempty, if_neg Bool.false_ne_true, read]
    rfl

/-- A text is a formula exactly if it is not too long and its tokens are an equals sign and what
stands for an expression. -/
theorem parse_eq_ok_iff : parse text = .ok e ↔ text.length ≤ maxChars ∧
    ∃ ts, (lexemes text).map Lexeme.token = .symbol .equal :: ts ∧ StandFor ts e := by
  let start : Cursor := ⟨lexemes text, Text.size text.toList, 0⟩
  rw [parse]
  constructor
  · intro read
    split at read
    · contradiction
    · rename_i short
      refine ⟨by omega, ?_⟩
      change (if start.symbol? = some .equal then _ else _) = _ at read
      split at read
      · rename_i next
        have passes := Cursor.passes_advance (c := start) (Cursor.symbol?_eq_some_iff.mp next)
        exact ⟨start.advance.tokens, passes.tokens_eq, standFor_of_body rfl read⟩
      · simp [Cursor.fail] at read
  · rintro ⟨short, ts, tokens, standFor⟩
    have next : start.symbol? = some .equal := by
      rw [Cursor.symbol?_eq_some_iff, Cursor.token?_eq]
      exact congrArg List.head? tokens
    have passes := Cursor.passes_advance (Cursor.symbol?_eq_some_iff.mp next)
    have others : start.advance.tokens = ts :=
      (List.cons.inj (passes.tokens_eq.symm.trans tokens)).2
    rw [if_neg (by omega)]
    change (if start.symbol? = some .equal then _ else _) = _
    rw [if_pos next]
    exact body_of_standFor rfl (others ▸ standFor)

/-! ## References -/

/-- What a word is read as, which may fail. Other tokens are not read as references. -/
def Token.readings : Token → List (Option Reference)
  | cell word => [(Address.ofText? word).map .cell]
  | range word => [(Range.ofText? word).map .range]
  | _ => []

/-- If a token has a meaning by itself, no reading of it fails. -/
theorem Token.readings_eq (sound : t.IsSound) : t.readings = t.references.map some := by
  cases t with
  | cell word =>
      obtain ⟨a, named⟩ := Option.isSome_iff_exists.mp sound
      simp [readings, references, named]
  | range word =>
      obtain ⟨r, named⟩ := Option.isSome_iff_exists.mp sound
      simp [readings, references, named]
  | _ => rfl

/-- The words of a formula are all read as references, and the tree of the formula has these, each
as often as it is written and in this order. -/
theorem references_of_parse (accepted : parse text = .ok e) :
    (lexemes text).flatMap (fun lexeme => lexeme.token.readings) = e.references.map some := by
  obtain ⟨_, ts, tokens, standFor⟩ := parse_eq_ok_iff.mp accepted
  have sound := standFor.tokens.1
  calc (lexemes text).flatMap (fun lexeme => lexeme.token.readings)
    _ = ((lexemes text).map Lexeme.token).flatMap Token.readings := (List.flatMap_map ..).symm
    _ = ts.flatMap Token.readings := by
      rw [tokens]
      rfl
    _ = ts.flatMap (fun t => t.references.map some) :=
      List.flatMap_congr fun t member => Token.readings_eq (sound t member)
    _ = (ts.flatMap Token.references).map some := (List.map_flatMap ..).symm
    _ = e.references.map some := by rw [standFor.references_eq]

/-- The exponent is read before what follows it, and an address that is written twice occurs
twice. -/
theorem references_of_parse_of_nested_powers :
    let e : Expr := .binary (.arithmetic .power) (.unary .minus (.cell ⟨0, 0, false, false⟩))
      (.call "SUM" [.range ⟨⟨0, 0, false, true⟩, ⟨1, 1, false, false⟩⟩,
        .cell ⟨0, 0, false, false⟩])
    parse "=-A1^SUM(B2:A$1,(A1))" = .ok e ∧
      (lexemes "=-A1^SUM(B2:A$1,(A1))").flatMap (fun lexeme => lexeme.token.readings) =
        e.references.map some := by
  intro e
  have accepted : parse "=-A1^SUM(B2:A$1,(A1))" = .ok e := by
    with_unfolding_all rfl
  exact ⟨accepted, references_of_parse accepted⟩

end Formula
end Spreadsheet
