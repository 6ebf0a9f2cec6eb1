import Spreadsheet.Proofs.Formula.Cursor

/-!
# What is read can be derived

Whenever the parser returns an expression, it is the tree of a derivation of the tokens that have
been passed over. Each parser of the grammar is followed separately; nested places are taken from
the grammar inside.
-/

namespace Spreadsheet
namespace Formula

open Spreadsheet.Expr

variable {c c' middle : Cursor} {ts us : List Token} {m k : Nat} {t : Token} {s : Symbol}

theorem bind_eq_ok_iff {α β : Type} {x : Except SyntaxError α} {f : α → Except SyntaxError β}
    {b : β} :
    x >>= f = .ok b ↔ ∃ a, x = .ok a ∧ f a = .ok b := by
  cases x <;> simp [bind, Except.bind]

/-- What the parser reads can be derived from the tokens that it passes over. -/
def Finds (p : Parser) (n : Nat) (part : Part) : Prop :=
  ∀ c e c', p c = .ok (e, c') → ∃ ts, Derives n part ts [e] ∧ c.Passes ts e.operatorCount c'

section Soundness

variable {n : Nat} {l : Level} {p : Parser} {e left : Expr}

theorem exists_derives_of_chainRest (finds : Finds p n l.operand) {rounds : Nat}
    (read : chainRest p l.operator? rounds left c = .ok (e, c')) :
    ∃ ts m, Derives n (.rest l left) ts [e] ∧ c.Passes ts m c' ∧
      e.operatorCount = left.operatorCount + m := by
  induction rounds generalizing left c with
  | zero =>
      rw [chainRest] at read
      simp only [Except.ok.injEq, Prod.mk.injEq] at read
      obtain ⟨rfl, rfl⟩ := read
      exact ⟨[], 0, .last, .refl c, rfl⟩
  | succ rounds ih =>
      rw [chainRest] at read
      split at read
      · simp only [Except.ok.injEq, Prod.mk.injEq] at read
        obtain ⟨rfl, rfl⟩ := read
        exact ⟨[], 0, .last, .refl c, rfl⟩
      · rename_i operator found
        obtain ⟨s, next, operates⟩ := Option.bind_eq_some_iff.mp found
        obtain ⟨afterOperator, passed, read⟩ := bind_eq_ok_iff.mp read
        obtain ⟨⟨right, afterRight⟩, read_right, read⟩ := bind_eq_ok_iff.mp read
        obtain ⟨right_tokens, derives_right, passes_right⟩ := finds _ _ _ read_right
        obtain ⟨others, m, derives_rest, passes_rest, total⟩ := ih read
        refine ⟨_, 1 + (right.operatorCount + m), .operator operates derives_right derives_rest,
          ?_, ?_⟩
        · have passes_operator := (Cursor.passOperator_eq_ok_iff next).mp passed
          exact Cursor.Passes.append_iff.mpr ⟨afterOperator, passes_operator,
            Cursor.Passes.append_iff.mpr ⟨afterRight, passes_right, passes_rest⟩⟩
        · rw [total, operatorCount]
          omega

theorem finds_chain (finds : Finds p n l.operand) : Finds (chain p l.operator?) n (.level l) := by
  intro c e c' read
  obtain ⟨⟨left, afterLeft⟩, read_left, read⟩ := bind_eq_ok_iff.mp read
  obtain ⟨first, derives_left, passes_left⟩ := finds _ _ _ read_left
  obtain ⟨others, m, derives_rest, passes_rest, total⟩ := exists_derives_of_chainRest finds read
  refine ⟨_, .level derives_left derives_rest, ?_⟩
  rw [total]
  exact Cursor.Passes.append_iff.mpr ⟨afterLeft, passes_left, passes_rest⟩

/-- What the parser of nested places reads can be derived with one nested place less; without one
there are none. -/
def FindsInside (inner : Option Parser) (n : Nat) (part : Part) : Prop :=
  ∀ p, inner = some p → ∃ k, n = k + 1 ∧ Finds p k part

variable {inner innerPower : Option Parser} {name : String} {es : List Expr}

theorem exists_derives_of_moreArguments (finds : Finds p n (.level .comparison)) {rounds : Nat}
    (read : moreArguments p rounds c = .ok (es, c')) :
    ∃ ts, Derives n .moreArguments ts es ∧ c.Passes ts (operatorCountOfAll es) c' := by
  induction rounds generalizing es c with
  | zero =>
      rw [moreArguments] at read
      simp only [Except.ok.injEq, Prod.mk.injEq] at read
      obtain ⟨rfl, rfl⟩ := read
      exact ⟨[], .noMore, .refl c⟩
  | succ rounds ih =>
      rw [moreArguments] at read
      split at read
      · rename_i next
        obtain ⟨⟨first, afterFirst⟩, read_first, read⟩ := bind_eq_ok_iff.mp read
        obtain ⟨⟨others, afterOthers⟩, read_others, read⟩ := bind_eq_ok_iff.mp read
        simp only [Except.ok.injEq, Prod.mk.injEq] at read
        obtain ⟨rfl, rfl⟩ := read
        obtain ⟨first_tokens, derives_first, passes_first⟩ := finds _ _ _ read_first
        obtain ⟨other_tokens, derives_others, passes_others⟩ := ih read_others
        refine ⟨_, .more derives_first derives_others, ?_⟩
        have passes_comma := Cursor.passes_advance (Cursor.symbol?_eq_some_iff.mp next)
        rw [← Nat.zero_add (operatorCountOfAll _)]
        exact Cursor.Passes.append_iff.mpr ⟨c.advance, passes_comma,
          Cursor.Passes.append_iff.mpr ⟨afterFirst, passes_first, passes_others⟩⟩
      · simp only [Except.ok.injEq, Prod.mk.injEq] at read
        obtain ⟨rfl, rfl⟩ := read
        exact ⟨[], .noMore, .refl c⟩

theorem exists_derives_of_someArguments (finds : Finds p n (.level .comparison))
    (read : someArguments p c = .ok (es, c')) :
    ∃ ts, Derives n .arguments ts es ∧ c.Passes ts (operatorCountOfAll es) c' := by
  obtain ⟨⟨first, afterFirst⟩, read_first, read⟩ := bind_eq_ok_iff.mp read
  obtain ⟨⟨others, afterOthers⟩, read_others, read⟩ := bind_eq_ok_iff.mp read
  simp only [Except.ok.injEq, Prod.mk.injEq] at read
  obtain ⟨rfl, rfl⟩ := read
  obtain ⟨first_tokens, derives_first, passes_first⟩ := finds _ _ _ read_first
  obtain ⟨other_tokens, derives_others, passes_others⟩ :=
    exists_derives_of_moreArguments finds read_others
  exact ⟨_, .arguments derives_first derives_others,
    Cursor.Passes.append_iff.mpr ⟨afterFirst, passes_first, passes_others⟩⟩

/-- What is read between two parentheses. -/
theorem passes_parentheses {inside afterInside : Cursor}
    (opens : c.Passes [.symbol .openParen] 0 inside) (passes : inside.Passes ts m afterInside)
    (closes : afterInside.Passes [.symbol .closeParen] 0 c') :
    c.Passes (.symbol .openParen :: (ts ++ [.symbol .closeParen])) m c' := by
  have behind : inside.Passes (ts ++ [.symbol .closeParen]) (m + 0) c' :=
    Cursor.Passes.append_iff.mpr ⟨afterInside, passes, closes⟩
  rw [Nat.add_zero, ← Nat.zero_add m] at behind
  have whole : c.Passes ([.symbol .openParen] ++ (ts ++ [.symbol .closeParen])) (0 + (0 + m)) c' :=
    Cursor.Passes.append_iff.mpr ⟨inside, opens, behind⟩
  simpa using whole

theorem exists_derives_of_call (inside : FindsInside inner n (.level .comparison))
    (read : call inner name c = .ok (e, c')) :
    ∃ ts, Derives n .operand (.function name :: ts) [e] ∧ c.Passes ts e.operatorCount c' := by
  obtain ⟨afterOpen, opened, read⟩ := bind_eq_ok_iff.mp read
  have opens := Cursor.expect_eq_ok_iff.mp opened
  cases inner with
  | none => simp [Cursor.fail] at read
  | some argument =>
      obtain ⟨k, rfl, finds⟩ := inside argument rfl
      dsimp only at read
      split at read
      · rename_i next
        simp only [Except.ok.injEq, Prod.mk.injEq] at read
        obtain ⟨rfl, rfl⟩ := read
        have closes := Cursor.passes_advance (Cursor.symbol?_eq_some_iff.mp next)
        exact ⟨_, .emptyCall, Cursor.Passes.append_iff.mpr ⟨afterOpen, opens, closes⟩⟩
      · obtain ⟨⟨arguments, afterArguments⟩, read_arguments, read⟩ := bind_eq_ok_iff.mp read
        obtain ⟨afterCall, closed, read⟩ := bind_eq_ok_iff.mp read
        simp only [Except.ok.injEq, Prod.mk.injEq] at read
        obtain ⟨rfl, rfl⟩ := read
        obtain ⟨tokens, derives, passes⟩ := exists_derives_of_someArguments finds read_arguments
        exact ⟨_, .call derives, passes_parentheses opens passes
          (Cursor.expect_eq_ok_iff.mp closed)⟩

/-- One token that is an operand by itself. -/
theorem exists_derives_of_leaf {leaf : Expr} (next : c.token? = some t)
    (derives : Derives n .operand [t] [leaf]) (count : leaf.operatorCount = 0)
    (read : (Except.ok (leaf, c.advance) : Except SyntaxError (Expr × Cursor)) = .ok (e, c')) :
    ∃ ts, Derives n .operand ts [e] ∧ c.Passes ts e.operatorCount c' := by
  simp only [Except.ok.injEq, Prod.mk.injEq] at read
  obtain ⟨rfl, rfl⟩ := read
  rw [count]
  exact ⟨[t], derives, Cursor.passes_advance next⟩

theorem finds_operand (inside : FindsInside inner n (.level .comparison)) :
    Finds (operand inner) n .operand := by
  intro c e c' read
  rw [operand] at read
  split at read
  · simp [Cursor.fail] at read
  · rename_i value next
    exact exists_derives_of_leaf next (.literal rfl) rfl read
  · rename_i content next
    exact exists_derives_of_leaf next (.literal rfl) rfl read
  · rename_i value next
    exact exists_derives_of_leaf next (.literal rfl) rfl read
  · rename_i code next
    exact exists_derives_of_leaf next (.literal rfl) rfl read
  · rename_i word next
    split at read
    · rename_i address named
      exact exists_derives_of_leaf next (.cell named) rfl read
    · simp [Cursor.fail] at read
  · rename_i word next
    split at read
    · rename_i block named
      exact exists_derives_of_leaf next (.range named) rfl read
    · simp [Cursor.fail] at read
  · rename_i name next
    obtain ⟨ts, derives, passes⟩ := exists_derives_of_call inside read
    refine ⟨_, derives, ?_⟩
    rw [← Nat.zero_add e.operatorCount]
    exact Cursor.Passes.append_iff.mpr ⟨c.advance, Cursor.passes_advance next, passes⟩
  · rename_i next
    obtain ⟨⟨inside_e, afterExpression⟩, entered, read⟩ := bind_eq_ok_iff.mp read
    obtain ⟨afterParenthesis, closed, read⟩ := bind_eq_ok_iff.mp read
    simp only [Except.ok.injEq, Prod.mk.injEq] at read
    obtain ⟨rfl, rfl⟩ := read
    cases inner with
    | none => simp [enter, Cursor.fail] at entered
    | some p =>
        obtain ⟨k, rfl, finds⟩ := inside p rfl
        obtain ⟨tokens, derives, passes⟩ := finds _ _ _ entered
        exact ⟨_, .parentheses derives, passes_parentheses (Cursor.passes_advance next) passes
          (Cursor.expect_eq_ok_iff.mp closed)⟩
  · simp [Cursor.fail] at read
  · simp [Cursor.fail] at read

theorem finds_signed (inside : FindsInside inner n (.level .comparison)) :
    Finds (signed inner) n .signed := by
  intro c e c' read
  rw [signed] at read
  split at read
  · obtain ⟨ts, derives, passes⟩ := finds_operand inside _ _ _ read
    exact ⟨ts, .unsigned derives, passes⟩
  · rename_i sign found
    obtain ⟨s, next, signs⟩ := Option.bind_eq_some_iff.mp found
    obtain ⟨afterSign, passed, read⟩ := bind_eq_ok_iff.mp read
    obtain ⟨⟨e', afterOperand⟩, read_operand, read⟩ := bind_eq_ok_iff.mp read
    simp only [Except.ok.injEq, Prod.mk.injEq] at read
    obtain ⟨rfl, rfl⟩ := read
    obtain ⟨ts, derives, passes⟩ := finds_operand inside _ _ _ read_operand
    refine ⟨_, .signed signs derives, ?_⟩
    rw [operatorCount, Nat.add_comm]
    exact Cursor.Passes.append_iff.mpr
      ⟨afterSign, (Cursor.passOperator_eq_ok_iff next).mp passed, passes⟩

theorem finds_power (inside : FindsInside inner n (.level .comparison))
    (insidePower : FindsInside innerPower n .power) :
    Finds (power inner innerPower) n .power := by
  intro c e c' read
  obtain ⟨⟨base, afterBase⟩, read_base, read⟩ := bind_eq_ok_iff.mp read
  obtain ⟨first, derives_base, passes_base⟩ := finds_signed inside _ _ _ read_base
  dsimp only at read
  split at read
  · rename_i next
    obtain ⟨afterOperator, passed, read⟩ := bind_eq_ok_iff.mp read
    obtain ⟨⟨exponent, afterExponent⟩, entered, read⟩ := bind_eq_ok_iff.mp read
    simp only [Except.ok.injEq, Prod.mk.injEq] at read
    obtain ⟨rfl, rfl⟩ := read
    cases innerPower with
    | none => simp [enter, Cursor.fail] at entered
    | some p =>
        obtain ⟨k, rfl, finds⟩ := insidePower p rfl
        obtain ⟨others, derives, passes⟩ := finds _ _ _ entered
        refine ⟨_, .power derives_base derives, ?_⟩
        have passes_operator := (Cursor.passOperator_eq_ok_iff next).mp passed
        have count : (Expr.binary (.arithmetic .power) base exponent).operatorCount =
            base.operatorCount + (1 + exponent.operatorCount) := by
          rw [operatorCount]
          omega
        rw [count]
        exact Cursor.Passes.append_iff.mpr ⟨afterBase, passes_base,
          Cursor.Passes.append_iff.mpr ⟨afterOperator, passes_operator, passes⟩⟩
  · simp only [Except.ok.injEq, Prod.mk.injEq] at read
    obtain ⟨rfl, rfl⟩ := read
    exact ⟨first, .base derives_base, passes_base⟩


theorem finds_around (inside : Option Grammar)
    (expression : FindsInside (inside.map Grammar.expression) n (.level .comparison))
    (power : FindsInside (inside.map Grammar.power) n .power) :
    Finds (Grammar.around inside).expression n (.level .comparison) ∧
      Finds (Grammar.around inside).power n .power := by
  have power_finds : Finds (Grammar.around inside).power n .power := finds_power expression power
  have product := finds_chain (l := .product) power_finds
  have sum := finds_chain (l := .sum) product
  have concat := finds_chain (l := .concat) sum
  exact ⟨finds_chain (l := .comparison) concat, power_finds⟩

/-- With any nesting allowed, what is read can be derived. -/
theorem finds_nesting (n : Nat) :
    Finds (Grammar.nesting n).expression n (.level .comparison) ∧
      Finds (Grammar.nesting n).power n .power := by
  induction n with
  | zero =>
      have nothing {part : Part} : FindsInside none 0 part := fun p inside => by simp at inside
      exact finds_around none nothing nothing
  | succ n ih =>
      apply finds_around (some (Grammar.nesting n))
      · rintro p ⟨rfl⟩
        exact ⟨n, rfl, ih.1⟩
      · rintro p ⟨rfl⟩
        exact ⟨n, rfl, ih.2⟩

end Soundness

end Formula
end Spreadsheet
