import Spreadsheet.Proofs.Formula.Cursor

/-!
# What can be derived is read

Every derivation is found by the parser, wherever its tokens stand, as long as there is room for
its signs and operators and what follows does not go on with it. The proof is by induction on the
derivation, one lemma for each of its forms.
-/

namespace Spreadsheet
namespace Formula

open Spreadsheet.Expr

variable {c c' middle : Cursor} {ts us : List Token} {m k : Nat} {t : Token} {s : Symbol}

/-- The grammar of nested places. -/
def Grammar.inside : Nat → Option Grammar
  | 0 => none
  | n + 1 => some (nesting n)

theorem Grammar.nesting_eq (n : Nat) : nesting n = around (inside n) := by
  cases n <;> rfl

namespace Level

/-- The parser of the operands of a level. -/
def operandParser (inside : Option Grammar) : Level → Parser
  | product => (Grammar.around inside).power
  | sum => chain (Grammar.around inside).power product?
  | concat => chain (chain (Grammar.around inside).power product?) sum?
  | comparison => chain (chain (chain (Grammar.around inside).power product?) sum?) concat?

/-- The parser of a level. -/
def parser (inside : Option Grammar) (l : Level) : Parser :=
  chain (l.operandParser inside) l.operator?

/-- A level and the tighter ones. -/
def withTighter : Level → List Level
  | comparison => [comparison, concat, sum, product]
  | concat => [concat, sum, product]
  | sum => [sum, product]
  | product => [product]

/-- Behind an operand of the level, the symbol goes on with the same expression. -/
def goesOn (l : Level) (s : Symbol) : Bool :=
  l.withTighter.any (fun l => (l.operator? s).isSome) || s == .caret

end Level

namespace Part

/-- Behind the part, the symbol goes on with it. -/
def goesOn : Part → Symbol → Bool
  | level l, s => l.goesOn s
  | rest l _, s => l.goesOn s
  | power, s => s == .caret
  | signed, _ => false
  | operand, _ => false
  | arguments, s => s == .comma || Level.comparison.goesOn s
  | moreArguments, s => s == .comma || Level.comparison.goesOn s

/-- The part is not gone on with at a cursor. -/
def Stops (part : Part) (c : Cursor) : Prop := ∀ s, c.symbol? = some s → part.goesOn s = false

/-- The part is read as certain expressions between two cursors. -/
def Reads (n : Nat) (part : Part) (c : Cursor) (es : List Expr) (c' : Cursor) : Prop :=
  let inside := Grammar.inside n
  let nested := inside.map Grammar.expression
  match part with
  | level l => ∀ e, es = [e] → l.parser inside c = .ok (e, c')
  | rest l left => ∀ e, es = [e] → ∀ rounds, c.rest.length ≤ rounds →
      chainRest (l.operandParser inside) l.operator? rounds left c = .ok (e, c')
  | power => ∀ e, es = [e] → (Grammar.around inside).power c = .ok (e, c')
  | signed => ∀ e, es = [e] → Formula.signed nested c = .ok (e, c')
  | operand => ∀ e, es = [e] → Formula.operand nested c = .ok (e, c')
  | arguments => someArguments (Grammar.around inside).expression c = .ok (es, c')
  | moreArguments => ∀ rounds, c.rest.length ≤ rounds →
      Formula.moreArguments (Grammar.around inside).expression rounds c = .ok (es, c')

end Part

section Completeness

variable {n : Nat} {l : Level} {part : Part} {e left : Expr} {es : List Expr} {operator : Operator}

theorem Level.goesOn_operand (l : Level) (s : Symbol) : l.operand.goesOn s → l.goesOn s := by
  cases l <;> cases s <;> decide

theorem Level.not_goesOn_operand (operates : l.operator? s = some operator) :
    l.operand.goesOn s = false := by
  cases l <;> cases s <;> first
    | rfl
    | simp [Level.operator?, comparison?, concat?, sum?, product?] at operates

theorem Level.operator?_of_not_goesOn (stops : l.goesOn s = false) : l.operator? s = none := by
  cases l <;> cases s <;> first | rfl | exact absurd stops (by decide)

theorem Level.reads_operand_iff :
    l.operand.Reads n c [e] c' ↔ l.operandParser (Grammar.inside n) c = .ok (e, c') := by
  cases l <;>
    simp [Level.operand, Part.Reads, Level.parser, Level.operandParser, Level.operator?]

theorem Part.Stops.operand (stops : (level l).Stops c) : l.operand.Stops c := by
  intro s next
  have ends : l.goesOn s = false := stops s next
  by_contra goes
  rw [Bool.not_eq_false] at goes
  rw [l.goesOn_operand s goes] at ends
  contradiction

/-- Closing parentheses go on with nothing. -/
theorem Part.stops_of_close (next : c.symbol? = some .closeParen) (part : Part) :
    part.Stops c := by
  intro s symbol
  obtain rfl : .closeParen = s := Option.some.inj (next.symm.trans symbol)
  cases part with
  | level l | rest l _ => cases l <;> rfl
  | _ => rfl

/-- The derivation is found: the tokens are read as the expressions wherever they stand, as long as
there is room for their signs and operators and they are not gone on with. -/
def Found (n : Nat) (part : Part) (ts : List Token) (es : List Expr) : Prop :=
  ∀ c c' m, operatorCountOfAll es = operatorCountOfAll part.before + m → c.Passes ts m c' →
    part.Stops c' → part.Reads n c es c'

variable {first others : List Token}

/-- The operands of a level end where the rest begins. -/
theorem Derives.stops_operand (derives : Derives n (.rest l left) others es)
    (passes : c.Passes others m c') (stops : (Part.level l).Stops c') : l.operand.Stops c := by
  cases derives with
  | last =>
      obtain ⟨⟨between, tokens, rest⟩, _⟩ := passes
      rw [List.map_eq_nil_iff.mp tokens, List.nil_append] at rest
      have same : c.symbol? = c'.symbol? := by rw [Cursor.symbol?, Cursor.token?, rest]; rfl
      exact fun s symbol => stops.operand s (same ▸ symbol)
  | operator operates _ _ =>
      intro s symbol
      obtain rfl := Option.some.inj ((Cursor.symbol?_of_passes passes).symm.trans symbol)
      exact Level.not_goesOn_operand operates

theorem found_level (derives : Derives n (.rest l left) others [e])
    (first_found : Found n l.operand first [left])
    (others_found : Found n (.rest l left) others [e]) :
    Found n (.level l) (first ++ others) [e] := by
  intro c c' m total passes stops
  obtain ⟨k, others_total⟩ := Nat.exists_eq_add_of_le derives.operatorCount_le
  obtain rfl : m = left.operatorCount + k := by
    simp only [operatorCountOfAll, Part.before] at total others_total
    omega
  obtain ⟨middle, passes_first, passes_others⟩ := Cursor.Passes.append_iff.mp passes
  have read_first := Level.reads_operand_iff.mp <|
    first_found c middle left.operatorCount (by simp [Derives.before_operand, operatorCountOfAll])
      passes_first (derives.stops_operand passes_others stops)
  have read_others := others_found middle c' k others_total passes_others stops e rfl _ le_rfl
  rintro e' ⟨rfl⟩
  rw [Level.parser, chain, read_first]
  exact read_others

theorem chainRest_of_stops {p : Parser} {operator? : Symbol → Option Operator} (rounds : Nat)
    (ends : c.symbol?.bind operator? = none) :
    chainRest p operator? rounds left c = .ok (left, c) := by
  cases rounds with
  | zero => rfl
  | succ rounds => rw [chainRest, ends]

theorem found_last : Found n (.rest l left) [] [left] := by
  intro c c' m total passes stops
  obtain rfl : m = 0 := by
    simp only [operatorCountOfAll, Part.before] at total
    omega
  obtain rfl := passes.eq_of_nil
  rintro e ⟨rfl⟩ rounds _
  apply chainRest_of_stops
  cases next : c'.symbol? with
  | none => rfl
  | some s => exact Level.operator?_of_not_goesOn (stops s next)

theorem found_operator {right : Expr} (operates : l.operator? s = some operator)
    (derives : Derives n (.rest l (.binary operator left right)) others [e])
    (operand_found : Found n l.operand first [right])
    (others_found : Found n (.rest l (.binary operator left right)) others [e]) :
    Found n (.rest l left) (.symbol s :: (first ++ others)) [e] := by
  intro c c' m total passes stops
  obtain ⟨k, others_total⟩ := Nat.exists_eq_add_of_le derives.operatorCount_le
  obtain rfl : m = 1 + (right.operatorCount + k) := by
    simp only [operatorCountOfAll, operatorCount, Part.before] at total others_total
    omega
  have next := Cursor.symbol?_of_passes passes
  obtain ⟨afterOperator, passes_operator, passes⟩ :=
    Cursor.Passes.cons_iff.mp passes
  obtain ⟨afterOperand, passes_operand, passes_others⟩ := Cursor.Passes.append_iff.mp passes
  have read_operand := Level.reads_operand_iff.mp <|
    operand_found afterOperator afterOperand right.operatorCount
      (by simp [Derives.before_operand, operatorCountOfAll]) passes_operand
      (derives.stops_operand passes_others stops)
  rintro e' ⟨rfl⟩ rounds enough
  have used := passes_operator.length_eq
  have used_operand := passes_operand.length_eq
  rw [List.length_singleton] at used
  obtain ⟨rounds, rfl⟩ : ∃ fewer, rounds = fewer + 1 := Nat.exists_eq_add_one.mpr (by omega)
  rw [chainRest, next, Option.bind_some, operates]
  dsimp only
  rw [(Cursor.passOperator_eq_ok_iff next).mpr passes_operator]
  change (l.operandParser (Grammar.inside n) afterOperator >>= _) = _
  rw [read_operand]
  exact others_found afterOperand c' k others_total passes_others stops e rfl rounds (by omega)

/-- With one more nested place allowed, the parser of nested places is the one without it. -/
theorem inside_map (n : Nat) (f : Grammar → Parser) :
    (Grammar.inside (n + 1)).map f = some (f (Grammar.around (Grammar.inside n))) := by
  rw [← Grammar.nesting_eq]
  rfl

theorem power_of_signed {inner innerPower : Option Parser}
    (read : signed inner c = .ok (e, middle)) :
    power inner innerPower c =
      if middle.symbol? = some .caret then do
        let afterOperator ← middle.passOperator
        let (exponent, afterExponent) ← enter innerPower afterOperator
        .ok (.binary (.arithmetic .power) e exponent, afterExponent)
      else .ok (e, middle) := by
  rw [power, read]
  rfl

theorem found_base (found : Found n .signed ts [e]) : Found n .power ts [e] := by
  intro c c' m total passes stops
  have read := found c c' m total passes (fun _ _ => rfl) e rfl
  have ends : c'.symbol? ≠ some .caret := fun next => by
    have goes := stops .caret next
    contradiction
  rintro e' ⟨rfl⟩
  exact (power_of_signed read).trans (if_neg ends)

theorem found_power {base exponent : Expr} (base_found : Found (n + 1) .signed first [base])
    (exponent_found : Found n .power others [exponent]) :
    Found (n + 1) .power (first ++ .symbol .caret :: others)
      [.binary (.arithmetic .power) base exponent] := by
  intro c c' m total passes stops
  obtain rfl : m = base.operatorCount + (1 + exponent.operatorCount) := by
    simp only [operatorCountOfAll, operatorCount, Part.before] at total
    omega
  obtain ⟨afterBase, passes_base, passes⟩ := Cursor.Passes.append_iff.mp passes
  have next := Cursor.symbol?_of_passes passes
  obtain ⟨afterOperator, passes_operator, passes_exponent⟩ :=
    Cursor.Passes.cons_iff.mp passes
  have read_base := base_found c afterBase base.operatorCount
    (by simp [operatorCountOfAll, Part.before]) passes_base (fun _ _ => rfl) base rfl
  have read_exponent := exponent_found afterOperator c' exponent.operatorCount
    (by simp [operatorCountOfAll, Part.before]) passes_exponent stops exponent rfl
  rintro e' ⟨rfl⟩
  refine (power_of_signed read_base).trans ?_
  rw [if_pos next, (Cursor.passOperator_eq_ok_iff next).mpr passes_operator, inside_map]
  change (do
    let (exponent, afterExponent) ← (Grammar.around (Grammar.inside n)).power afterOperator
    Except.ok (Expr.binary (.arithmetic .power) base exponent, afterExponent)) = _
  rw [read_exponent]
  rfl

/-- No operand begins with a sign. -/
theorem Derives.not_sign (derives : Derives n .operand ts es) (passes : c.Passes ts m c') :
    c.symbol?.bind sign? = none := by
  cases derives with
  | parentheses _ => rw [Cursor.symbol?_of_passes passes]; rfl
  | literal means =>
      rw [Cursor.symbol?, Cursor.token?_of_passes passes]
      split
      · rename_i symbol
        rw [Option.some.inj symbol] at means
        simp [Token.literal?] at means
      · rfl
  | _ => rw [Cursor.symbol?, Cursor.token?_of_passes passes]; rfl

theorem found_unsigned (derives : Derives n .operand ts [e]) (found : Found n .operand ts [e]) :
    Found n .signed ts [e] := by
  intro c c' m total passes stops
  have read := found c c' m total passes (fun _ _ => rfl) e rfl
  rintro e' ⟨rfl⟩
  rw [signed, derives.not_sign passes]
  exact read

theorem found_signed {sign : Sign} (signs : sign? s = some sign)
    (found : Found n .operand ts [e]) :
    Found n .signed (.symbol s :: ts) [.unary sign e] := by
  intro c c' m total passes stops
  obtain rfl : m = 1 + e.operatorCount := by
    simp only [operatorCountOfAll, operatorCount, Part.before] at total
    omega
  have next := Cursor.symbol?_of_passes passes
  obtain ⟨afterSign, passes_sign, passes_operand⟩ :=
    Cursor.Passes.cons_iff.mp passes
  have read := found afterSign c' e.operatorCount (by simp [operatorCountOfAll, Part.before])
    passes_operand (fun _ _ => rfl) e rfl
  rintro e' ⟨rfl⟩
  rw [signed, next, Option.bind_some, signs]
  dsimp only
  rw [(Cursor.passOperator_eq_ok_iff next).mpr passes_sign]
  change (do
    let (e, afterOperand) ← Formula.operand ((Grammar.inside n).map Grammar.expression) afterSign
    Except.ok (Expr.unary sign e, afterOperand)) = _
  rw [read]
  rfl

/-- A token that is an operand by itself. -/
theorem found_leaf (read : ∀ (inner : Option Parser) (c : Cursor), c.token? = some t →
    operand inner c = .ok (e, c.advance)) (count : e.operatorCount = 0) :
    Found n .operand [t] [e] := by
  intro c c' m total passes stops
  obtain rfl : m = 0 := by
    simp only [operatorCountOfAll, Part.before] at total
    omega
  have next := Cursor.token?_of_passes passes
  rintro e' ⟨rfl⟩
  rw [read _ c next, (Cursor.passes_advance next).unique passes]

theorem found_literal {value : Literal} (means : t.literal? = some value) :
    Found n .operand [t] [.literal value] := by
  apply found_leaf _ rfl
  intro inner c next
  rw [operand, next]
  cases t <;> simp_all [Token.literal?]

theorem found_cell {word : String} {address : Address}
    (named : Address.ofText? word = some address) :
    Found n .operand [.cell word] [.cell address] := by
  apply found_leaf _ rfl
  intro inner c next
  simp only [operand, next, named]

theorem found_range {word : String} {block : Range} (named : Range.ofText? word = some block) :
    Found n .operand [.range word] [.range block] := by
  apply found_leaf _ rfl
  intro inner c next
  simp only [operand, next, named]

/-- What stands between two parentheses, taken apart. -/
theorem exists_passes_parentheses
    (passes : c.Passes (.symbol .openParen :: (ts ++ [.symbol .closeParen])) m c') :
    ∃ inside afterInside : Cursor, c.Passes [.symbol .openParen] 0 inside ∧
      inside.Passes ts m afterInside ∧ afterInside.Passes [.symbol .closeParen] 0 c' := by
  rw [← Nat.zero_add m] at passes
  obtain ⟨inside, opens, passes⟩ := Cursor.Passes.cons_iff.mp passes
  rw [← Nat.add_zero m] at passes
  obtain ⟨afterInside, passes, closes⟩ := Cursor.Passes.append_iff.mp passes
  exact ⟨inside, afterInside, opens, passes, closes⟩

theorem found_parentheses (found : Found n (.level .comparison) ts [e]) :
    Found (n + 1) .operand (.symbol .openParen :: (ts ++ [.symbol .closeParen])) [e] := by
  intro c c' m total passes stops
  have next := Cursor.token?_of_passes passes
  obtain ⟨inside, afterInside, opens, passes, closes⟩ := exists_passes_parentheses passes
  obtain rfl := opens.unique (Cursor.passes_advance next)
  have read : (Grammar.around (Grammar.inside n)).expression c.advance = .ok (e, afterInside) :=
    found _ _ m total passes (Part.stops_of_close (Cursor.symbol?_of_passes closes) _) e rfl
  rintro e' ⟨rfl⟩
  have expected := Cursor.expect_eq_ok_iff.mpr closes
  rw [operand, next]
  dsimp only
  rw [inside_map]
  change (do
    let (e, afterExpression) ← (Grammar.around (Grammar.inside n)).expression c.advance
    let afterParenthesis ← afterExpression.expect .closeParen
    Except.ok (e, afterParenthesis)) = _
  rw [read]
  change (do
    let afterParenthesis ← afterInside.expect .closeParen
    Except.ok (e, afterParenthesis)) = _
  rw [expected]
  rfl

theorem call_of_open {argument : Parser} {name : String}
    (opens : c.Passes [.symbol .openParen] 0 middle) :
    call (some argument) name c =
      if middle.symbol? = some .closeParen then .ok (.call name [], middle.advance)
      else (do
        let (arguments, afterArguments) ← someArguments argument middle
        let afterCall ← afterArguments.expect .closeParen
        .ok (.call name arguments, afterCall)) := by
  rw [call, Cursor.expect_eq_ok_iff.mpr opens]
  rfl

theorem found_emptyCall {name : String} : Found (n + 1) .operand
    [.function name, .symbol .openParen, .symbol .closeParen] [.call name []] := by
  intro c c' m total passes stops
  obtain rfl : m = 0 := by
    simp only [operatorCountOfAll, operatorCount, Part.before] at total
    omega
  have next := Cursor.token?_of_passes passes
  obtain ⟨afterName, passes_name, passes⟩ :=
    Cursor.Passes.cons_iff (m := 0) (k := 0).mp passes
  obtain ⟨inside, opens, closes⟩ :=
    Cursor.Passes.cons_iff (m := 0) (k := 0).mp passes
  obtain rfl := passes_name.unique (Cursor.passes_advance next)
  have closing := Cursor.symbol?_of_passes closes
  rintro e' ⟨rfl⟩
  rw [operand, next]
  dsimp only
  rw [inside_map, call_of_open opens, if_pos closing,
    closes.unique (Cursor.passes_advance (Cursor.symbol?_eq_some_iff.mp closing))]

/-- Arguments begin with an operand, so with no closing parenthesis. -/
theorem Derives.not_close (derives : Derives n .arguments ts es) (passes : c.Passes ts m c') :
    c.symbol? ≠ some .closeParen := by
  obtain ⟨t, others, rfl, begins⟩ := derives.exists_head rfl
  rw [ne_eq, Cursor.symbol?_eq_some_iff, Cursor.token?_of_passes passes]
  exact fun same => begins (Option.some.inj same)

theorem found_call {name : String} (derives : Derives n .arguments ts es)
    (found : Found n .arguments ts es) :
    Found (n + 1) .operand (.function name :: .symbol .openParen :: (ts ++ [.symbol .closeParen]))
      [.call name es] := by
  intro c c' m total passes stops
  have next := Cursor.token?_of_passes passes
  rw [← Nat.zero_add m] at passes
  obtain ⟨afterName, passes_name, passes_call⟩ :=
    Cursor.Passes.cons_iff.mp passes
  obtain ⟨inside, afterInside, opens, passes_inside, closes⟩ :=
    exists_passes_parentheses passes_call
  obtain rfl := passes_name.unique (Cursor.passes_advance next)
  have read : someArguments (Grammar.around (Grammar.inside n)).expression inside =
      .ok (es, afterInside) :=
    found _ _ m (by simpa [operatorCountOfAll, operatorCount, Part.before] using total)
      passes_inside (Part.stops_of_close (Cursor.symbol?_of_passes closes) _)
  rintro e' ⟨rfl⟩
  rw [operand, next]
  dsimp only
  rw [inside_map, call_of_open opens, if_neg (derives.not_close passes_inside), read]
  change (do
    let afterCall ← afterInside.expect .closeParen
    Except.ok (Expr.call name es, afterCall)) = _
  rw [Cursor.expect_eq_ok_iff.mpr closes]
  rfl

/-- An argument ends where further ones begin. -/
theorem Derives.stops_argument (derives : Derives n .moreArguments others es)
    (passes : c.Passes others m c') (stops : Part.moreArguments.Stops c') :
    (Part.level .comparison).Stops c := by
  intro s next
  cases derives with
  | noMore =>
      obtain ⟨⟨between, tokens, rest⟩, _⟩ := passes
      rw [List.map_eq_nil_iff.mp tokens, List.nil_append] at rest
      have same : c.symbol? = c'.symbol? := by rw [Cursor.symbol?, Cursor.token?, rest]; rfl
      exact (Bool.or_eq_false_iff.mp (stops s (same ▸ next))).2
  | more _ _ =>
      obtain rfl := Option.some.inj ((Cursor.symbol?_of_passes passes).symm.trans next)
      rfl

theorem found_arguments (derives : Derives n .moreArguments others es)
    (first_found : Found n (.level .comparison) first [e])
    (others_found : Found n .moreArguments others es) :
    Found n .arguments (first ++ others) (e :: es) := by
  intro c c' m total passes stops
  obtain rfl : m = e.operatorCount + operatorCountOfAll es := by
    simp only [operatorCountOfAll, Part.before] at total
    omega
  obtain ⟨middle, passes_first, passes_others⟩ := Cursor.Passes.append_iff.mp passes
  have read_first : (Grammar.around (Grammar.inside n)).expression c = .ok (e, middle) :=
    first_found c middle e.operatorCount (by simp [operatorCountOfAll, Part.before]) passes_first
      (derives.stops_argument passes_others stops) e rfl
  have read_others := others_found middle c' (operatorCountOfAll es)
    (by simp [operatorCountOfAll, Part.before]) passes_others stops _ le_rfl
  change (do
    let (first, afterFirst) ← (Grammar.around (Grammar.inside n)).expression c
    let (others, afterOthers) ← moreArguments (Grammar.around (Grammar.inside n)).expression
      afterFirst.rest.length afterFirst
    Except.ok (first :: others, afterOthers)) = _
  rw [read_first]
  change (do
    let (others, afterOthers) ← moreArguments (Grammar.around (Grammar.inside n)).expression
      middle.rest.length middle
    Except.ok (e :: others, afterOthers)) = _
  rw [read_others]
  rfl

theorem found_noMore : Found n .moreArguments [] [] := by
  intro c c' m total passes stops
  obtain rfl : m = 0 := by
    simp only [operatorCountOfAll, Part.before] at total
    omega
  obtain rfl := passes.eq_of_nil
  intro rounds _
  cases rounds with
  | zero => rfl
  | succ rounds =>
      rw [moreArguments, if_neg]
      intro next
      have goes := stops .comma next
      contradiction

theorem found_more (derives : Derives n .moreArguments others es)
    (first_found : Found n (.level .comparison) first [e])
    (others_found : Found n .moreArguments others es) :
    Found n .moreArguments (.symbol .comma :: (first ++ others)) (e :: es) := by
  intro c c' m total passes stops
  obtain rfl : m = 0 + (e.operatorCount + operatorCountOfAll es) := by
    simp only [operatorCountOfAll, Part.before] at total
    omega
  have next := Cursor.symbol?_of_passes passes
  obtain ⟨afterComma, passes_comma, passes⟩ :=
    Cursor.Passes.cons_iff.mp passes
  obtain ⟨middle, passes_first, passes_others⟩ := Cursor.Passes.append_iff.mp passes
  obtain rfl := passes_comma.unique
    (Cursor.passes_advance (Cursor.symbol?_eq_some_iff.mp next))
  have read_first : (Grammar.around (Grammar.inside n)).expression c.advance = .ok (e, middle) :=
    first_found _ middle e.operatorCount (by simp [operatorCountOfAll, Part.before]) passes_first
      (derives.stops_argument passes_others stops) e rfl
  intro rounds enough
  have used := passes_comma.length_eq
  have used_first := passes_first.length_eq
  rw [List.length_singleton] at used
  obtain ⟨rounds, rfl⟩ : ∃ fewer, rounds = fewer + 1 := Nat.exists_eq_add_one.mpr (by omega)
  have read_others := others_found middle c' (operatorCountOfAll es)
    (by simp [operatorCountOfAll, Part.before]) passes_others stops rounds (by omega)
  rw [moreArguments, if_pos next]
  change (do
    let (first, afterFirst) ← (Grammar.around (Grammar.inside n)).expression c.advance
    let (others, afterOthers) ← moreArguments (Grammar.around (Grammar.inside n)).expression
      rounds afterFirst
    Except.ok (first :: others, afterOthers)) = _
  rw [read_first]
  change (do
    let (others, afterOthers) ← moreArguments (Grammar.around (Grammar.inside n)).expression
      rounds middle
    Except.ok (e :: others, afterOthers)) = _
  rw [read_others]
  rfl

theorem Derives.found (derives : Derives n part ts es) : Found n part ts es := by
  induction derives with
  | level _ derives first_found others_found => exact found_level derives first_found others_found
  | last => exact found_last
  | operator operates _ derives operand_found others_found =>
      exact found_operator operates derives operand_found others_found
  | base _ found => exact found_base found
  | power _ _ base_found exponent_found => exact found_power base_found exponent_found
  | unsigned derives found => exact found_unsigned derives found
  | signed signs _ found => exact found_signed signs found
  | literal means => exact found_literal means
  | cell named => exact found_cell named
  | range named => exact found_range named
  | parentheses _ found => exact found_parentheses found
  | emptyCall => exact found_emptyCall
  | call derives found => exact found_call derives found
  | arguments _ derives first_found others_found =>
      exact found_arguments derives first_found others_found
  | noMore => exact found_noMore
  | more _ derives first_found others_found => exact found_more derives first_found others_found

end Completeness

end Formula
end Spreadsheet
