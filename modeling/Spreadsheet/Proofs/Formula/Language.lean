import Spreadsheet.Proofs.Formula.Parsing

/-!
# The language of formulas

The grammar as its rules are written: operators of one level are read from the left, each rule says
how deep its phrases are nested, and no limit occurs in it. The parser accepts exactly the phrases
within the limits and returns their trees.
-/

namespace Spreadsheet
namespace Formula

open Spreadsheet.Expr

/-- The tokens are a phrase of the grammar with the given trees. The number is the greatest number
of parentheses, calls and right sides of powers around any place of the phrase. -/
inductive Phrase : Part → List Token → List Expr → Nat → Prop where
  | next {l tokens e depth} : Phrase l.operand tokens [e] depth →
      Phrase (.level l) tokens [e] depth
  | operator {l first left depth s operator second right depth'} :
      Phrase (.level l) first [left] depth → l.operator? s = some operator →
      Phrase l.operand second [right] depth' →
      Phrase (.level l) (first ++ .symbol s :: second) [.binary operator left right]
        (max depth depth')
  | base {tokens e depth} : Phrase .signed tokens [e] depth → Phrase .power tokens [e] depth
  | power {first base depth second exponent depth'} :
      Phrase .signed first [base] depth → Phrase .power second [exponent] depth' →
      Phrase .power (first ++ .symbol .caret :: second)
        [.binary (.arithmetic .power) base exponent] (max depth (depth' + 1))
  | unsigned {tokens e depth} : Phrase .operand tokens [e] depth → Phrase .signed tokens [e] depth
  | signed {s sign tokens e depth} : sign? s = some sign → Phrase .operand tokens [e] depth →
      Phrase .signed (.symbol s :: tokens) [.unary sign e] depth
  | literal {t value} : t.literal? = some value → Phrase .operand [t] [.literal value] 0
  | cell {word address} : Address.ofText? word = some address →
      Phrase .operand [.cell word] [.cell address] 0
  | range {word block} : Range.ofText? word = some block →
      Phrase .operand [.range word] [.range block] 0
  | parentheses {tokens e depth} : Phrase (.level .comparison) tokens [e] depth →
      Phrase .operand (.symbol .openParen :: (tokens ++ [.symbol .closeParen])) [e] (depth + 1)
  | emptyCall {name} : Phrase .operand [.function name, .symbol .openParen, .symbol .closeParen]
      [.call name []] 1
  | call {name tokens es depth} : Phrase .arguments tokens es depth →
      Phrase .operand (.function name :: .symbol .openParen :: (tokens ++ [.symbol .closeParen]))
        [.call name es] (depth + 1)
  | argument {tokens e depth} : Phrase (.level .comparison) tokens [e] depth →
      Phrase .arguments tokens [e] depth
  | arguments {first e depth others es depth'} : Phrase (.level .comparison) first [e] depth →
      Phrase .arguments others es depth' →
      Phrase .arguments (first ++ .symbol .comma :: others) (e :: es) (max depth depth')

variable {n depth : Nat} {l : Level} {part : Part} {s : Symbol} {operator : Operator}
  {tokens first second : List Token} {e left right : Expr} {es : List Expr}

/-! ## Phrases have derivations -/

/-- One more operator behind the operators that have been read. -/
theorem Derives.rest_operator (derives : Derives n part tokens es) :
    ∀ {start}, part = .rest l start → es = [left] → l.operator? s = some operator →
      Derives n l.operand second [right] →
      Derives n (.rest l start) (tokens ++ .symbol s :: second) [.binary operator left right] := by
  induction derives with
  | last =>
      rintro start ⟨rfl⟩ ⟨rfl⟩ operates derives_right
      simpa using Derives.operator operates derives_right .last
  | operator operates derives_right _ _ ih =>
      rintro start ⟨rfl⟩ same operates' derives_right'
      have behind := ih rfl same operates' derives_right'
      simpa using Derives.operator operates derives_right behind
  | _ => nofun

theorem Derives.level_operator (derives : Derives n (.level l) first [left])
    (operates : l.operator? s = some operator)
    (derives_right : Derives n l.operand second [right]) :
    Derives n (.level l) (first ++ .symbol s :: second) [.binary operator left right] := by
  cases derives with
  | level derives_first derives_rest =>
      rw [List.append_assoc]
      exact .level derives_first (derives_rest.rest_operator rfl rfl operates derives_right)

/-- A phrase has a derivation wherever its nesting is allowed. -/
theorem Phrase.derives (phrase : Phrase part tokens es depth) (allowed : depth ≤ n) :
    Derives n part tokens es := by
  induction phrase generalizing n with
  | next _ ih => simpa using Derives.level (ih allowed) .last
  | operator _ operates _ left_ih right_ih =>
      exact (left_ih (by omega)).level_operator operates (right_ih (by omega))
  | base _ ih => exact .base (ih allowed)
  | power _ _ base_ih exponent_ih =>
      obtain ⟨m, rfl⟩ : ∃ m, n = m + 1 := Nat.exists_eq_add_one.mpr (by omega)
      exact .power (base_ih (by omega)) (exponent_ih (by omega))
  | unsigned _ ih => exact .unsigned (ih allowed)
  | signed signs _ ih => exact .signed signs (ih allowed)
  | literal means => exact .literal means
  | cell named => exact .cell named
  | range named => exact .range named
  | parentheses _ ih =>
      obtain ⟨m, rfl⟩ : ∃ m, n = m + 1 := Nat.exists_eq_add_one.mpr (by omega)
      exact .parentheses (ih (by omega))
  | emptyCall =>
      obtain ⟨m, rfl⟩ : ∃ m, n = m + 1 := Nat.exists_eq_add_one.mpr (by omega)
      exact .emptyCall
  | call _ ih =>
      obtain ⟨m, rfl⟩ : ∃ m, n = m + 1 := Nat.exists_eq_add_one.mpr (by omega)
      exact .call (ih (by omega))
  | argument _ ih => simpa using Derives.arguments (ih allowed) .noMore
  | arguments _ _ first_ih others_ih =>
      cases others_ih (n := n) (by omega) with
      | arguments derives_second derives_more =>
          exact .arguments (first_ih (by omega)) (.more derives_second derives_more)

/-! ## Derivations are of phrases -/

/-- There is a phrase that is nested as deep as it may. For a part that continues another one, what
it continues is taken as a phrase in front of it. -/
def Part.HasPhrase (n : Nat) (tokens : List Token) (es : List Expr) : Part → Prop
  | .rest l left => ∀ first depth, depth ≤ n → Phrase (.level l) first [left] depth →
      ∃ depth' ≤ n, Phrase (.level l) (first ++ tokens) es depth'
  | .moreArguments => ∀ first e depth, depth ≤ n → Phrase (.level .comparison) first [e] depth →
      ∃ depth' ≤ n, Phrase .arguments (first ++ tokens) (e :: es) depth'
  | part => ∃ depth ≤ n, Phrase part tokens es depth

theorem Level.hasPhrase_operand_iff :
    l.operand.HasPhrase n tokens es ↔ ∃ depth ≤ n, Phrase l.operand tokens es depth := by
  cases l <;> rfl

theorem Derives.hasPhrase (derives : Derives n part tokens es) : part.HasPhrase n tokens es := by
  induction derives with
  | level _ _ first_ih others_ih =>
      obtain ⟨depth, allowed, phrase⟩ := Level.hasPhrase_operand_iff.mp first_ih
      exact others_ih _ depth allowed (.next phrase)
  | last =>
      intro first depth allowed phrase
      exact ⟨depth, allowed, by simpa using phrase⟩
  | operator operates _ _ operand_ih others_ih =>
      intro first depth allowed phrase
      obtain ⟨depth', allowed', phrase'⟩ := Level.hasPhrase_operand_iff.mp operand_ih
      have behind := others_ih _ _ (max_le allowed allowed') (.operator phrase operates phrase')
      simpa using behind
  | base _ ih =>
      obtain ⟨depth, allowed, phrase⟩ := ih
      exact ⟨depth, allowed, .base phrase⟩
  | power _ _ base_ih exponent_ih =>
      obtain ⟨depth, allowed, phrase⟩ := base_ih
      obtain ⟨depth', allowed', phrase'⟩ := exponent_ih
      exact ⟨_, max_le allowed (by omega), .power phrase phrase'⟩
  | unsigned _ ih =>
      obtain ⟨depth, allowed, phrase⟩ := ih
      exact ⟨depth, allowed, .unsigned phrase⟩
  | signed signs _ ih =>
      obtain ⟨depth, allowed, phrase⟩ := ih
      exact ⟨depth, allowed, .signed signs phrase⟩
  | literal means => exact ⟨0, Nat.zero_le _, .literal means⟩
  | cell named => exact ⟨0, Nat.zero_le _, .cell named⟩
  | range named => exact ⟨0, Nat.zero_le _, .range named⟩
  | parentheses _ ih =>
      obtain ⟨depth, allowed, phrase⟩ := ih
      exact ⟨depth + 1, by omega, .parentheses phrase⟩
  | emptyCall => exact ⟨1, by omega, .emptyCall⟩
  | call _ ih =>
      obtain ⟨depth, allowed, phrase⟩ := ih
      exact ⟨depth + 1, by omega, .call phrase⟩
  | arguments _ _ first_ih others_ih =>
      obtain ⟨depth, allowed, phrase⟩ := first_ih
      exact others_ih _ _ depth allowed phrase
  | noMore =>
      intro first e depth allowed phrase
      exact ⟨depth, allowed, by simpa using Phrase.argument phrase⟩
  | more _ _ first_ih others_ih =>
      intro first e depth allowed phrase
      obtain ⟨depth', allowed', phrase'⟩ := first_ih
      obtain ⟨depth'', allowed'', phrase''⟩ := others_ih _ _ depth' allowed' phrase'
      exact ⟨_, max_le allowed allowed'', .arguments phrase phrase''⟩

/-- Derivations with bounded nesting are the phrases that are nested no deeper. -/
theorem derives_iff_exists_phrase :
    Derives n (.level l) tokens [e] ↔ ∃ depth ≤ n, Phrase (.level l) tokens [e] depth := by
  constructor
  · exact Derives.hasPhrase
  · rintro ⟨depth, allowed, phrase⟩
    exact phrase.derives allowed

/-! ## The accepted texts -/

/-- A text is accepted with a tree exactly if it is not too long and its tokens are an equals sign
and, behind it, either nothing, for the empty text, or a phrase of the grammar with this tree, with
no more operators and no deeper nesting than allowed. -/
theorem parse_accepts_iff {text : String} {e : Expr} :
    parse text = .ok e ↔ text.length ≤ maxChars ∧
      ∃ tokens, (lexemes text).map Lexeme.token = .symbol .equal :: tokens ∧
        ((tokens = [] ∧ e = .literal (.text "")) ∨
          ∃ depth, Phrase (.level .comparison) tokens [e] depth ∧
            e.operatorCount ≤ maxOperators ∧ depth ≤ maxNesting) := by
  have within (tokens : List Token) :
      (Derives maxNesting (.level .comparison) tokens [e] ∧ e.operatorCount ≤ maxOperators) ↔
        ∃ depth, Phrase (.level .comparison) tokens [e] depth ∧
          e.operatorCount ≤ maxOperators ∧ depth ≤ maxNesting := by
    rw [derives_iff_exists_phrase]
    constructor
    · rintro ⟨⟨depth, nested, phrase⟩, counted⟩
      exact ⟨depth, phrase, counted, nested⟩
    · rintro ⟨depth, phrase, counted, nested⟩
      exact ⟨⟨depth, nested, phrase⟩, counted⟩
  simp only [parse_eq_ok_iff, StandFor, within]

end Formula
end Spreadsheet
