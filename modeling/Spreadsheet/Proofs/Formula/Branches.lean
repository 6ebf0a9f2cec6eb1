import Spreadsheet.Proofs.Formula.Parsing

/-!
# Branches of formulas

A branch leads from the root of an expression down to one of its leaves. The trees of accepted
formulas have short branches: every operation on a branch is counted by the parser, and every call
on it is a nested place.
-/

namespace Spreadsheet
namespace Expr

/-- The expression is a sign or an operator with its operands. -/
def isOperation : Expr → Bool
  | unary _ _ => true
  | binary _ _ _ => true
  | _ => false

/-- The expression is a call. -/
def isCall : Expr → Bool
  | call _ _ => true
  | _ => false

/-- The nodes from the root of an expression down to a leaf, in this order. A call without
arguments is a leaf. -/
inductive Branch : Expr → List Expr → Prop where
  | literal {value} : Branch (literal value) [literal value]
  | cell {address} : Branch (cell address) [cell address]
  | range {block} : Branch (range block) [range block]
  | emptyCall {name} : Branch (call name []) [call name []]
  | operand {sign e nodes} : Branch e nodes → Branch (unary sign e) (unary sign e :: nodes)
  | left {operator l r nodes} :
      Branch l nodes → Branch (binary operator l r) (binary operator l r :: nodes)
  | right {operator l r nodes} :
      Branch r nodes → Branch (binary operator l r) (binary operator l r :: nodes)
  | argument {name arguments e nodes} :
      e ∈ arguments → Branch e nodes → Branch (call name arguments) (call name arguments :: nodes)

/-- No branch of the expression passes through more calls. -/
def NestsCalls (n : Nat) (e : Expr) : Prop := ∀ nodes, Branch e nodes → nodes.countP isCall ≤ n

variable {n m : Nat} {e left right : Expr} {arguments nodes : List Expr} {name : String}

/-! ## Operations and calls on a branch -/

theorem operatorCount_le_of_mem (member : e ∈ arguments) :
    e.operatorCount ≤ operatorCountOfAll arguments := by
  induction arguments with
  | nil => contradiction
  | cons first rest ih =>
      rw [operatorCountOfAll]
      rcases List.mem_cons.mp member with rfl | behind
      · exact Nat.le_add_right _ _
      · exact (ih behind).trans (Nat.le_add_left _ _)

/-- Every operation on a branch is one of the expression. -/
theorem Branch.countP_isOperation_le (branch : Branch e nodes) :
    nodes.countP isOperation ≤ e.operatorCount := by
  induction branch with
  | literal | cell | range | emptyCall => exact Nat.zero_le _
  | operand _ ih =>
      rw [List.countP_cons_of_pos rfl, operatorCount]
      exact Nat.succ_le_succ ih
  | left _ ih =>
      rw [List.countP_cons_of_pos rfl, operatorCount]
      omega
  | right _ ih =>
      rw [List.countP_cons_of_pos rfl, operatorCount]
      omega
  | argument member _ ih =>
      rw [List.countP_cons_of_neg Bool.false_ne_true, operatorCount]
      exact ih.trans (operatorCount_le_of_mem member)

/-- A branch consists of operations and calls, and of the leaf at its end. -/
theorem Branch.length_le (branch : Branch e nodes) :
    nodes.length ≤ nodes.countP isOperation + nodes.countP isCall + 1 := by
  induction branch with
  | literal | cell | range | emptyCall => simp
  | operand _ ih | left _ ih | right _ ih =>
      rw [List.length_cons, List.countP_cons_of_pos rfl,
        List.countP_cons_of_neg Bool.false_ne_true]
      omega
  | argument _ _ ih =>
      rw [List.length_cons, List.countP_cons_of_neg Bool.false_ne_true,
        List.countP_cons_of_pos rfl]
      omega

/-! ## Nested calls -/

theorem NestsCalls.mono (nests : e.NestsCalls n) (more : n ≤ m) : e.NestsCalls m :=
  fun nodes branch => (nests nodes branch).trans more

theorem nestsCalls_literal {value : Formula.Literal} : (literal value).NestsCalls n := by
  rintro _ ⟨⟩
  exact Nat.zero_le _

theorem nestsCalls_unary {sign : Formula.Sign} (nests : e.NestsCalls n) :
    (unary sign e).NestsCalls n := by
  rintro _ ⟨⟩
  rename_i nodes branch
  rw [List.countP_cons_of_neg Bool.false_ne_true]
  exact nests nodes branch

theorem nestsCalls_binary {operator : Formula.Operator} (nests_left : left.NestsCalls n)
    (nests_right : right.NestsCalls n) : (binary operator left right).NestsCalls n := by
  intro _ branch
  cases branch with
  | left branch =>
      rw [List.countP_cons_of_neg Bool.false_ne_true]
      exact nests_left _ branch
  | right branch =>
      rw [List.countP_cons_of_neg Bool.false_ne_true]
      exact nests_right _ branch

/-- A call is one more call on every branch through it. -/
theorem nestsCalls_call (nests : ∀ e ∈ arguments, e.NestsCalls n) :
    (call name arguments).NestsCalls (n + 1) := by
  intro _ branch
  cases branch with
  | emptyCall => exact Nat.le_add_left 1 n
  | argument member branch =>
      rw [List.countP_cons_of_pos rfl]
      exact Nat.succ_le_succ (nests _ member _ branch)

end Expr

namespace Formula

open Spreadsheet.Expr

variable {n : Nat} {part : Part} {tokens : List Token} {e : Expr} {es nodes : List Expr}
  {text : String}

/-- Calls are nested no deeper than the derivation allows, if what it continues keeps to this. -/
theorem Derives.nestsCalls (derives : Derives n part tokens es) :
    (∀ e ∈ part.before, e.NestsCalls n) → ∀ e ∈ es, e.NestsCalls n := by
  induction derives with
  | @level _ l _ _ _ _ _ _ first_ih others_ih =>
      intro _
      exact others_ih (first_ih (by rw [before_operand]; simp))
  | last => exact id
  | @operator _ l _ _ _ _ _ _ _ _ _ _ operand_ih others_ih =>
      intro nests
      have nests_right := operand_ih (by rw [before_operand]; simp)
      refine others_ih (List.forall_mem_singleton.mpr ?_)
      exact nestsCalls_binary (nests _ (List.mem_singleton_self _))
        (nests_right _ (List.mem_singleton_self _))
  | base _ ih | unsigned _ ih => exact ih
  | power _ _ base_ih exponent_ih =>
      intro _
      have nests_base := base_ih (by simp [Part.before])
      have nests_exponent := exponent_ih (by simp [Part.before])
      rw [List.forall_mem_singleton] at nests_base nests_exponent ⊢
      exact nestsCalls_binary nests_base (nests_exponent.mono (Nat.le_succ _))
  | signed _ _ ih =>
      intro _
      have nests := ih (by simp [Part.before])
      rw [List.forall_mem_singleton] at nests ⊢
      exact nestsCalls_unary nests
  | literal =>
      intro _
      exact List.forall_mem_singleton.mpr nestsCalls_literal
  | cell | range =>
      intro _
      rw [List.forall_mem_singleton]
      rintro _ ⟨⟩
      exact Nat.zero_le _
  | parentheses _ ih =>
      intro _ e member
      exact (ih (by simp [Part.before]) e member).mono (Nat.le_succ _)
  | emptyCall =>
      intro _
      exact List.forall_mem_singleton.mpr (nestsCalls_call (by simp))
  | call _ ih =>
      intro _
      exact List.forall_mem_singleton.mpr (nestsCalls_call (ih (by simp [Part.before])))
  | noMore => exact id
  | arguments _ _ first_ih others_ih | more _ _ first_ih others_ih =>
      intro _
      have nests := first_ih (by simp [Part.before])
      rw [List.forall_mem_singleton] at nests
      exact List.forall_mem_cons.mpr ⟨nests, others_ih (by simp [Part.before])⟩

theorem StandFor.nestsCalls (standFor : StandFor tokens e) : e.NestsCalls maxNesting := by
  rcases standFor with ⟨_, rfl⟩ | ⟨derives, _⟩
  · exact nestsCalls_literal
  · exact derives.nestsCalls (by simp [Part.before]) e (List.mem_singleton_self e)

theorem StandFor.operatorCount_le (standFor : StandFor tokens e) :
    e.operatorCount ≤ maxOperators := by
  rcases standFor with ⟨_, rfl⟩ | ⟨_, room⟩
  · exact Nat.zero_le _
  · exact room

/-- An accepted formula has no more signs and operators than allowed, no branch of its tree passes
through more calls than places may be nested, and so no branch is longer than the two limits
admit. -/
theorem branches_of_parse (accepted : parse text = .ok e) :
    e.operatorCount ≤ maxOperators ∧
      ∀ nodes, Branch e nodes →
        nodes.countP isCall ≤ maxNesting ∧ nodes.length ≤ maxOperators + maxNesting + 1 := by
  obtain ⟨_, tokens, _, standFor⟩ := parse_eq_ok_iff.mp accepted
  have room := standFor.operatorCount_le
  refine ⟨room, fun nodes branch => ?_⟩
  have calls := standFor.nestsCalls nodes branch
  refine ⟨calls, ?_⟩
  calc nodes.length
    _ ≤ nodes.countP isOperation + nodes.countP isCall + 1 := branch.length_le
    _ ≤ e.operatorCount + maxNesting + 1 := by
      have operations := branch.countP_isOperation_le
      omega
    _ ≤ maxOperators + maxNesting + 1 := by omega

/-- The longest branch goes through a sign, two calls and a power. -/
theorem branches_of_parse_of_nested_calls :
    let inner : Expr := .call "ABS" [.literal (.number (Double.ofPlaces ['2'] [] 0))]
    let power : Expr := .binary (.arithmetic .power) (.cell ⟨0, 0, false, false⟩) inner
    let outer : Expr := .call "SUM" [.cell ⟨1, 0, false, false⟩, power]
    let nodes : List Expr :=
      [.unary .minus outer, outer, power, inner, .literal (.number (Double.ofPlaces ['2'] [] 0))]
    parse "=-SUM(B1,A1^ABS(2))" = .ok (.unary .minus outer) ∧ Branch (.unary .minus outer) nodes ∧
      nodes.countP isCall ≤ maxNesting ∧ nodes.length ≤ maxOperators + maxNesting + 1 := by
  intro inner power outer nodes
  have accepted : parse "=-SUM(B1,A1^ABS(2))" = .ok (.unary .minus outer) := by
    with_unfolding_all rfl
  have branch : Branch (.unary .minus outer) nodes := by
    refine .operand (.argument (e := power) ?_ (.right (.argument ?_ .literal)))
    · exact List.mem_cons_of_mem _ (List.mem_singleton_self _)
    · exact List.mem_singleton_self _
  exact ⟨accepted, branch, (branches_of_parse accepted).2 nodes branch⟩

end Formula
end Spreadsheet
