import Mathlib.Data.List.Chain
import Spreadsheet.Formula.Grammar

/-!
# Derivations

The grammar of formulas as a relation between sequences of tokens and trees, without regard to how
they are read. A derivation accounts for every token: each is a symbol or part of a leaf, and of
two tokens next to each other at least one is a symbol.
-/

namespace Spreadsheet

namespace Expr

mutual

/-- How many signs and operators an expression has. -/
def operatorCount : Expr → Nat
  | literal _ => 0
  | cell _ => 0
  | range _ => 0
  | unary _ operand => operand.operatorCount + 1
  | binary _ left right => left.operatorCount + right.operatorCount + 1
  | call _ arguments => operatorCountOfAll arguments

/-- How many signs and operators several expressions have. -/
def operatorCountOfAll : List Expr → Nat
  | [] => 0
  | first :: rest => first.operatorCount + operatorCountOfAll rest

end

mutual

/-- The names of the calls of an expression, from left to right. -/
def functionNames : Expr → List String
  | literal _ => []
  | cell _ => []
  | range _ => []
  | unary _ operand => operand.functionNames
  | binary _ left right => left.functionNames ++ right.functionNames
  | call name arguments => name :: functionNamesOfAll arguments

/-- The names of the calls of several expressions, from left to right. -/
def functionNamesOfAll : List Expr → List String
  | [] => []
  | first :: rest => first.functionNames ++ functionNamesOfAll rest

end

end Expr

namespace Formula

namespace Token

/-- The value that a token stands for by itself. -/
def literal? : Token → Option Literal
  | number value => some (.number value)
  | text content => some (.text content)
  | boolean value => some (.boolean value)
  | error code => some (.error code)
  | _ => none

/-- The token is a symbol. -/
def isSymbol : Token → Bool
  | symbol _ => true
  | _ => false

/-- The references that a token stands for: one, or none. -/
def references : Token → List Reference
  | cell word => ((Address.ofText? word).map Reference.cell).toList
  | range word => ((Range.ofText? word).map Reference.range).toList
  | _ => []

/-- The names of calls that a token gives: one, or none. -/
def names : Token → List String
  | function name => [name]
  | _ => []

/-- A token has a meaning by itself: it is no stray character, and a word names what it looks
like. -/
def IsSound : Token → Prop
  | cell word => (Address.ofText? word).isSome
  | range word => (Range.ofText? word).isSome
  | illegal _ => False
  | _ => True

theorem references_of_literal {t : Token} {value : Literal} (means : t.literal? = some value) :
    t.references = [] ∧ t.names = [] ∧ t.IsSound := by
  cases t <;> simp_all [literal?, references, names, IsSound]

end Token

/-- The levels of operators that associate to the left, the loosest first. -/
inductive Level where
  | comparison
  | concat
  | sum
  | product

/-- The operator that a symbol is on a level. -/
def Level.operator? : Level → Symbol → Option Operator
  | comparison => comparison?
  | concat => concat?
  | sum => sum?
  | product => product?

/-- What a sequence of tokens is read as. -/
inductive Part where
  /-- Operands with the operators of a level between them. -/
  | level (level : Level)
  /-- Operators of a level, each with its right operand, behind what has been read so far. -/
  | rest (level : Level) (left : Expr)
  /-- An operand that may have an exponent. -/
  | power
  /-- An operand that may have a sign. -/
  | signed
  /-- An operand. -/
  | operand
  /-- The arguments of a call, at least one. -/
  | arguments
  /-- Further arguments of a call, each behind a comma. -/
  | moreArguments

/-- The operands of the operators of a level. -/
def Level.operand : Level → Part
  | comparison => .level .concat
  | concat => .level .sum
  | sum => .level .product
  | product => .power

/-- The tokens stand for the expressions. Parentheses, calls and the right sides of powers are
nested places, of which there are at most so many around any token. -/
inductive Derives : Nat → Part → List Token → List Expr → Prop where
  | level {n l first others left e} : Derives n l.operand first [left] →
      Derives n (.rest l left) others [e] → Derives n (.level l) (first ++ others) [e]
  | last {n l left} : Derives n (.rest l left) [] [left]
  | operator {n l s operator left operand right others e} : l.operator? s = some operator →
      Derives n l.operand operand [right] →
      Derives n (.rest l (.binary operator left right)) others [e] →
      Derives n (.rest l left) (.symbol s :: (operand ++ others)) [e]
  | base {n tokens e} : Derives n .signed tokens [e] → Derives n .power tokens [e]
  | power {n first base others exponent} : Derives (n + 1) .signed first [base] →
      Derives n .power others [exponent] →
      Derives (n + 1) .power (first ++ .symbol .caret :: others)
        [.binary (.arithmetic .power) base exponent]
  | unsigned {n tokens e} : Derives n .operand tokens [e] → Derives n .signed tokens [e]
  | signed {n s sign tokens e} : sign? s = some sign → Derives n .operand tokens [e] →
      Derives n .signed (.symbol s :: tokens) [.unary sign e]
  | literal {n t value} : t.literal? = some value → Derives n .operand [t] [.literal value]
  | cell {n word address} : Address.ofText? word = some address →
      Derives n .operand [.cell word] [.cell address]
  | range {n word block} : Range.ofText? word = some block →
      Derives n .operand [.range word] [.range block]
  | parentheses {n tokens e} : Derives n (.level .comparison) tokens [e] →
      Derives (n + 1) .operand (.symbol .openParen :: (tokens ++ [.symbol .closeParen])) [e]
  | emptyCall {n name} : Derives (n + 1) .operand
      [.function name, .symbol .openParen, .symbol .closeParen] [.call name []]
  | call {n name tokens es} : Derives n .arguments tokens es →
      Derives (n + 1) .operand
        (.function name :: .symbol .openParen :: (tokens ++ [.symbol .closeParen])) [.call name es]
  | arguments {n first e others es} : Derives n (.level .comparison) first [e] →
      Derives n .moreArguments others es → Derives n .arguments (first ++ others) (e :: es)
  | noMore {n} : Derives n .moreArguments [] []
  | more {n first e others es} : Derives n (.level .comparison) first [e] →
      Derives n .moreArguments others es →
      Derives n .moreArguments (.symbol .comma :: (first ++ others)) (e :: es)

/-- The part goes on with what has been read already. -/
def Part.isRest : Part → Bool
  | rest _ _ => true
  | moreArguments => true
  | _ => false

/-- What a part continues. -/
def Part.before : Part → List Expr
  | rest _ left => [left]
  | _ => []

namespace Derives

open Spreadsheet.Expr

variable {n : Nat} {part : Part} {tokens : List Token} {es : List Expr}

/-! ## What a derivation keeps -/

theorem before_operand (l : Level) : l.operand.before = [] := by
  cases l <;> rfl

/-- The references of a tree are those of its tokens, from left to right. -/
theorem references_eq (derives : Derives n part tokens es) :
    referencesOfAll es = referencesOfAll part.before ++ tokens.flatMap Token.references := by
  induction derives with
  | literal means =>
      simp [referencesOfAll, references, Part.before, (Token.references_of_literal means).1]
  | cell named => simp [referencesOfAll, references, Part.before, Token.references, named]
  | range named => simp [referencesOfAll, references, Part.before, Token.references, named]
  | _ => simp_all [referencesOfAll, references, Part.before, ↓before_operand, Token.references]

/-- The names of the calls of a tree are those of its tokens, from left to right. -/
theorem names_eq (derives : Derives n part tokens es) :
    functionNamesOfAll es = functionNamesOfAll part.before ++ tokens.flatMap Token.names := by
  induction derives with
  | literal means =>
      simp [functionNamesOfAll, functionNames, Part.before,
        (Token.references_of_literal means).2.1]
  | _ => simp_all [functionNamesOfAll, functionNames, Part.before, ↓before_operand, Token.names]

/-- Reading on adds signs and operators and takes none away. -/
theorem operatorCount_le (derives : Derives n part tokens es) :
    operatorCountOfAll part.before ≤ operatorCountOfAll es := by
  induction derives with
  | operator _ _ _ operand_ih others_ih =>
      simp_all [operatorCountOfAll, operatorCount, Part.before, ↓before_operand]
      omega
  | _ => simp_all [operatorCountOfAll, operatorCount, Part.before, ↓before_operand]

/-- Every token has a meaning by itself. -/
theorem isSound_of_mem (derives : Derives n part tokens es) :
    ∀ t ∈ tokens, t.IsSound := by
  induction derives with
  | literal means => simpa using (Token.references_of_literal means).2.2
  | _ => simp_all [Token.IsSound, or_imp]

/-- Every part that does not go on with another one has a first token, and none begins with a
closing parenthesis. -/
theorem exists_head (derives : Derives n part tokens es) (begins : part.isRest = false) :
    ∃ t others, tokens = t :: others ∧ t ≠ .symbol .closeParen := by
  induction derives with
  | @level _ l _ _ _ _ _ _ first_ih _ =>
      obtain ⟨t, others, rfl, head⟩ := first_ih (by cases l <;> rfl)
      exact ⟨t, _, rfl, head⟩
  | last | operator | noMore | more => contradiction
  | base _ ih | unsigned _ ih => exact ih rfl
  | power _ _ first_ih _ | arguments _ _ first_ih _ =>
      obtain ⟨t, others, rfl, head⟩ := first_ih rfl
      exact ⟨t, _, rfl, head⟩
  | signed signs _ _ =>
      refine ⟨_, _, rfl, ?_⟩
      rintro ⟨rfl⟩
      contradiction
  | literal means =>
      refine ⟨_, _, rfl, ?_⟩
      rintro rfl
      contradiction
  | _ => exact ⟨_, _, rfl, by simp⟩

/-! ## Neighbours -/

/-- The tokens may be neighbours: one of them is a symbol. -/
def Adjacent (t t' : Token) : Prop := t.isSymbol ∨ t'.isSymbol

theorem isChain_symbol_cons (s : Symbol) (chain : tokens.IsChain Adjacent) :
    (.symbol s :: tokens).IsChain Adjacent :=
  List.isChain_cons.mpr ⟨fun _ _ => .inl rfl, chain⟩

theorem isChain_append {others : List Token} (chain : tokens.IsChain Adjacent)
    (others_chain : others.IsChain Adjacent) (head : ∀ t ∈ others.head?, t.isSymbol) :
    (tokens ++ others).IsChain Adjacent :=
  List.isChain_append.mpr ⟨chain, others_chain, fun _ _ t member => .inr (head t member)⟩

theorem head_rest {l : Level} {left : Expr} (derives : Derives n (.rest l left) tokens es) :
    ∀ t ∈ tokens.head?, t.isSymbol := by
  cases derives <;> simp [Token.isSymbol]

theorem head_moreArguments (derives : Derives n .moreArguments tokens es) :
    ∀ t ∈ tokens.head?, t.isSymbol := by
  cases derives <;> simp [Token.isSymbol]

/-- Of two tokens next to each other at least one is a symbol. -/
theorem isChain (derives : Derives n part tokens es) : tokens.IsChain Adjacent := by
  have close : [Token.symbol .closeParen].IsChain Adjacent := .singleton _
  have head_close : ∀ t ∈ [Token.symbol .closeParen].head?, t.isSymbol := by
    simp [Token.isSymbol]
  induction derives with
  | level _ others first_ih others_ih => exact isChain_append first_ih others_ih others.head_rest
  | last | noMore => exact .nil
  | operator _ _ others operand_ih others_ih =>
      exact isChain_symbol_cons _ (isChain_append operand_ih others_ih others.head_rest)
  | base _ ih | unsigned _ ih => exact ih
  | power _ _ first_ih others_ih =>
      exact isChain_append first_ih (isChain_symbol_cons _ others_ih) (by simp [Token.isSymbol])
  | signed _ _ ih => exact isChain_symbol_cons _ ih
  | literal | cell | range => exact .singleton _
  | parentheses _ ih => exact isChain_symbol_cons _ (isChain_append ih close head_close)
  | emptyCall =>
      exact List.isChain_cons.mpr ⟨by simp [Adjacent, Token.isSymbol], isChain_symbol_cons _ close⟩
  | call _ ih =>
      refine List.isChain_cons.mpr ⟨by simp [Adjacent, Token.isSymbol], ?_⟩
      exact isChain_symbol_cons _ (isChain_append ih close head_close)
  | arguments _ others first_ih others_ih =>
      exact isChain_append first_ih others_ih others.head_moreArguments
  | more _ others first_ih others_ih =>
      exact isChain_symbol_cons _ (isChain_append first_ih others_ih others.head_moreArguments)

end Derives

end Formula
end Spreadsheet
