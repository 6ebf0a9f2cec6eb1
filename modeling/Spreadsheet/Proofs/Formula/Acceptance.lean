import Spreadsheet.Proofs.Formula.ReferenceShift

/-!
# Relocated formulas are formulas

What a call is named is nothing to the grammar, so a relocated text is accepted also where
relocation has found references in the names of calls. Only its length can stand against it: a
reference may need more characters at its new place than at its old one.
-/

namespace Spreadsheet

/-! ## Other names for calls -/

/-- The token with the name of a call replaced. -/
def Formula.Token.rename (f : String → String) : Formula.Token → Formula.Token
  | function name => function (f name)
  | t => t

namespace Expr

mutual

/-- The expression with the names of calls replaced. -/
def rename (f : String → String) : Expr → Expr
  | unary sign operand => unary sign (operand.rename f)
  | binary operator left right => binary operator (left.rename f) (right.rename f)
  | call name arguments => call (f name) (renameAll f arguments)
  | e => e

/-- The expressions with the names of calls replaced. -/
def renameAll (f : String → String) : List Expr → List Expr
  | [] => []
  | first :: rest => first.rename f :: renameAll f rest

end

mutual

/-- A name is neither a sign nor an operator. -/
@[simp] theorem operatorCount_rename (f : String → String) :
    ∀ e : Expr, (e.rename f).operatorCount = e.operatorCount
  | literal _ | cell _ | range _ => by rw [rename] <;> simp
  | unary _ operand => by rw [rename, operatorCount, operatorCount, operatorCount_rename f operand]
  | binary _ left right => by
      rw [rename, operatorCount, operatorCount, operatorCount_rename f left,
        operatorCount_rename f right]
  | call _ arguments => by
      rw [rename, operatorCount, operatorCount, operatorCountOfAll_renameAll f arguments]

theorem operatorCountOfAll_renameAll (f : String → String) :
    ∀ es : List Expr, operatorCountOfAll (renameAll f es) = operatorCountOfAll es
  | [] => rfl
  | first :: rest => by
      rw [renameAll, operatorCountOfAll, operatorCountOfAll, operatorCount_rename f first,
        operatorCountOfAll_renameAll f rest]

end

end Expr

namespace Formula

open Spreadsheet.Expr

variable {s : Shift} {n : Nat} {part : Part} {t : Token} {ts : List Token} {es : List Expr}
  {e : Expr}
  {text : String} {f : String → String}

/-- What goes on with an expression goes on with the renamed one. -/
def Part.rename (f : String → String) : Part → Part
  | rest l left => rest l (left.rename f)
  | other => other

theorem rename_operand (f : String → String) (l : Level) : l.operand.rename f = l.operand := by
  cases l <;> rfl

theorem rename_of_literal {value : Literal} (means : t.literal? = some value) :
    t.rename f = t := by
  cases t <;> first | rfl | contradiction

/-- Renaming the tokens of a derivation renames its trees. -/
theorem Derives.rename (f : String → String) (derives : Derives n part ts es) :
    Derives n (part.rename f) (ts.map (Token.rename f)) (renameAll f es) := by
  induction derives with
  | @level n l _ _ _ _ _ _ first_ih others_ih =>
      rw [rename_operand] at first_ih
      rw [List.map_append]
      exact .level first_ih others_ih
  | last => exact .last
  | operator is_operator _ _ operand_ih others_ih =>
      rw [rename_operand] at operand_ih
      rw [List.map_cons, List.map_append]
      exact .operator is_operator operand_ih others_ih
  | base _ ih => exact .base ih
  | power _ _ first_ih others_ih =>
      rw [List.map_append, List.map_cons]
      exact .power first_ih others_ih
  | unsigned _ ih => exact .unsigned ih
  | signed signs _ ih => exact .signed signs ih
  | literal means =>
      rw [List.map_singleton, rename_of_literal means]
      exact .literal means
  | cell named => exact .cell named
  | range named => exact .range named
  | parentheses _ ih =>
      rw [List.map_cons, List.map_append]
      exact .parentheses ih
  | emptyCall => exact .emptyCall
  | call _ ih =>
      rw [List.map_cons, List.map_cons, List.map_append]
      exact .call ih
  | arguments _ _ first_ih others_ih =>
      rw [List.map_append]
      exact .arguments first_ih others_ih
  | noMore => exact .noMore
  | more _ _ first_ih others_ih =>
      rw [List.map_cons, List.map_append]
      exact .more first_ih others_ih

theorem StandFor.rename (f : String → String) (standFor : StandFor ts e) :
    StandFor (ts.map (Token.rename f)) (e.rename f) := by
  rcases standFor with ⟨rfl, rfl⟩ | ⟨derives, room⟩
  · exact .inl ⟨rfl, rfl⟩
  · exact .inr ⟨derives.rename f, (operatorCount_rename f e).symm ▸ room⟩

/-! ## Relocated texts -/

/-- The name of a call after relocation. -/
def relocatedName (s : Shift) (name : String) : String :=
  String.ofList (relocateName s name.toList)

/-- Relocation shifts tokens and changes the names of calls. -/
theorem Token.relocate_eq (s : Shift) (t : Token) :
    t.relocate s = (t.shift s).rename (relocatedName s) := by
  unfold Token.relocate Token.shift
  cases t with
  | cell word =>
      dsimp only
      split
      · rfl
      · split
        · rfl
        · split <;> rfl
  | range word =>
      dsimp only
      split
      · rfl
      · split
        · rfl
        · split <;> rfl
  | _ => rfl

/-- A relocated text stands for the shifted tree with the names of calls changed, if no reference
in a name is lost. -/
theorem Means.relocate_rename (means : Means text e) (moves : s.delta ≠ 0)
    (kept : ∀ name ∈ e.functionNames, '#' ∉ relocateName s name.toList)
    (fits : ∀ reference ∈ e.references, reference.Fits s) :
    Means (Formula.relocate s text) ((e.shift s).rename (relocatedName s)) := by
  obtain ⟨ts, cuts, standFor⟩ := means
  obtain ⟨sound, names, chain⟩ := standFor.tokens_formula
  have kept := fun t member name named => kept name (names t member name named)
  have respelled := respelled_relocate cuts sound kept chain moves
  refine ⟨_, respelled.cuts, ?_⟩
  have renamed := (standFor.shift fits).rename (relocatedName s)
  rw [List.map_map] at renamed
  rwa [List.map_congr_left fun t _ => Token.relocate_eq s t]

/-- A relocated formula is a formula again exactly if it is not too long. No reference may be moved
to the last coordinate, and no reference in the name of a call may be lost. -/
theorem relocate_accepted_iff (s : Shift) (parsed : parse text = .ok e)
    (kept : ∀ name ∈ e.functionNames, '#' ∉ relocateName s name.toList)
    (fits : ∀ reference ∈ e.references, reference.Fits s) :
    (∃ e', parse (relocate s text) = .ok e') ↔ (relocate s text).length ≤ maxChars := by
  obtain ⟨short, means⟩ := parse_eq_ok_iff_means.mp parsed
  constructor
  · rintro ⟨e', parsed'⟩
    exact (parse_eq_ok_iff_means.mp parsed').1
  · intro short'
    by_cases still : s.delta = 0
    · refine ⟨e, ?_⟩
      rw [relocate, if_pos still, parsed]
    · exact ⟨_, parse_eq_ok_iff_means.mpr ⟨short', means.relocate_rename still kept fits⟩⟩

/-- A row is inserted. A reference becomes longer, and so does the name of a call with a colon in
it. -/
theorem relocate_accepted_inserted_row :
    let s : Shift := ⟨.row, 8, 1⟩
    let text := "=a9:f(\"A9\",$B$9,C9)"
    relocate s text = "=A10:f(\"A9\",$B$9,C10)" ∧ ∃ e', parse (relocate s text) = .ok e' := by
  have parsed : parse "=a9:f(\"A9\",$B$9,C9)" =
      .ok (.call "A9:F"
        [.literal (.text "A9"), .cell ⟨1, 8, true, true⟩, .cell ⟨2, 8, false, false⟩]) := by
    with_unfolding_all rfl
  have accepted := relocate_accepted_iff ⟨.row, 8, 1⟩ parsed (by decide +kernel) (by decide)
  exact ⟨by decide +kernel, accepted.mpr (by decide +kernel)⟩

/-! ## Texts of the greatest length -/

/-- A formula with blanks in front of a word. -/
def padded (blanks : Nat) (word : String) : String :=
  String.ofList ('=' :: (List.replicate blanks ' ' ++ word.toList))

theorem length_padded (blanks : Nat) (word : String) :
    (padded blanks word).length = blanks + word.length + 1 := by
  rw [padded, String.length_ofList, List.length_cons, List.length_append, List.length_replicate,
    String.length_toList]

theorem tokensOf_replicate_append (blanks : Nat) (cs : List Char) :
    tokensOf (List.replicate blanks ' ' ++ cs) = tokensOf cs := by
  induction blanks with
  | zero => rfl
  | succ blanks ih =>
      rw [List.replicate_succ, List.cons_append, tokensOf_cons_of_isBlank (by decide), ih]

theorem tokensOf_equal_cons (cs : List Char) :
    tokensOf ('=' :: cs) = .symbol .equal :: tokensOf cs := by
  have read : readToken '=' cs = (.symbol .equal, 0) := rfl
  rw [tokensOf_cons (by decide), read, List.drop_zero]

/-- Blanks behind the equals sign mean nothing. -/
theorem parse_padded {blanks : Nat} {word : String} (parsed : parse (padded 0 word) = .ok e)
    (short : (padded blanks word).length ≤ maxChars) : parse (padded blanks word) = .ok e := by
  obtain ⟨_, ts, tokens, standFor⟩ := parse_eq_ok_iff.mp parsed
  refine parse_eq_ok_iff.mpr ⟨short, ts, ?_, standFor⟩
  rw [← tokens]
  change tokensOf (padded blanks word).toList = tokensOf (padded 0 word).toList
  simp only [padded, String.toList_ofList, tokensOf_equal_cons, tokensOf_replicate_append]

/-- Relocation leaves blanks where they are. -/
theorem relocate_padded (moves : s.delta ≠ 0) (blanks : Nat) (word : String) :
    relocate s (padded (blanks + 1) word) =
      padded (blanks + 1) (String.ofList (relocateFrom s (some ' ') word.toList)) := by
  have plain : ∀ c ∈ '=' :: List.replicate (blanks + 1) ' ', ¬ startsWord c ∧ c ≠ '"' := by
    intro c member
    rcases List.mem_cons.mp member with rfl | member
    · decide
    · rw [List.eq_of_mem_replicate member]
      decide
  have last : ('=' :: List.replicate (blanks + 1) ' ').getLast? = some ' ' := by
    rw [List.getLast?_cons, List.getLast?_replicate]
    rfl
  have passes : relocateFrom s none ('=' :: List.replicate (blanks + 1) ' ' ++ word.toList) = _ :=
    relocateFrom_of_plain plain
  rw [last, Option.some_or, List.cons_append, List.cons_append] at passes
  rw [relocate, if_neg moves, flatMap_pieces, padded, String.toList_ofList, passes, padded,
    String.toList_ofList]

/-- Not every relocated formula is a formula: one of the greatest length may become too long. -/
theorem not_forall_relocate_accepted :
    ¬ ∀ (text : String) (e : Expr) (axis : Axis) (pivot count : UInt32) (delta : Int),
      delta = count.toNat ∨ delta = -count.toNat → parse text = .ok e →
        ∃ e', parse (relocate ⟨axis, pivot, delta⟩ text) = .ok e' := by
  intro accepted
  have parsed : parse (padded 0 "A9") = .ok (.cell ⟨0, 8, false, false⟩) := by
    with_unfolding_all rfl
  have longest : (padded 8189 "A9").length = maxChars := length_padded _ _
  have relocated : relocate ⟨.row, 0, 1⟩ (padded 8189 "A9") = padded 8189 "A10" := by
    have word : relocateFrom ⟨.row, 0, 1⟩ (some ' ') "A9".toList = "A10".toList := by
      decide +kernel
    have padding := relocate_padded (s := ⟨.row, 0, 1⟩) (by decide) 8188 "A9"
    rw [word, String.ofList_toList] at padding
    exact padding
  obtain ⟨e', parsed'⟩ :=
    accepted _ _ .row 0 1 1 (.inl rfl) (parse_padded parsed longest.le)
  rw [relocated] at parsed'
  have short := (parse_eq_ok_iff.mp parsed').1
  rw [length_padded] at short
  exact absurd short (by decide)

end Formula
end Spreadsheet
