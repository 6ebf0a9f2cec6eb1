import Spreadsheet.Proofs.Formula.Parsing
import Spreadsheet.Proofs.Formula.TokenShift
import Spreadsheet.Proofs.Movement

/-!
# Shifting trees

Relocating the text of a formula is shifting its tree: the relocated text stands for the tree in
which every reference is shifted, and for nothing else that changed.
-/

namespace Spreadsheet

/-! ## Shifted references -/

namespace Address

variable {s : Shift} {a shifted : Address} {axis : Axis} {value : UInt32}

@[simp] theorem withCoordinate_coordinate (a : Address) (axis : Axis) :
    a.withCoordinate axis (a.coordinate axis) = a := by
  cases axis <;> rfl

@[simp] theorem coordinate_withCoordinate (a : Address) (axis : Axis) (value : UInt32) :
    (a.withCoordinate axis value).coordinate axis = value := by
  cases axis <;> rfl

@[simp] theorem withCoordinate_withCoordinate (a : Address) (axis : Axis) (value value' : UInt32) :
    (a.withCoordinate axis value).withCoordinate axis value' = a.withCoordinate axis value' := by
  cases axis <;> rfl

@[simp] theorem isAbsolute_withCoordinate (a : Address) (axis axis' : Axis) (value : UInt32) :
    (a.withCoordinate axis value).isAbsolute axis' = a.isAbsolute axis' := by
  cases axis <;> rfl

/-- A shift changes one coordinate. -/
theorem eq_withCoordinate_of_shift? (survives : a.shift? s = some shifted) :
    shifted = a.withCoordinate s.axis (shifted.coordinate s.axis) := by
  rw [shift?] at survives
  split at survives
  · obtain rfl := Option.some.inj survives
    rw [withCoordinate_coordinate]
  · obtain ⟨value, _, rfl⟩ := Option.map_eq_some_iff.mp survives
    rw [coordinate_withCoordinate]

/-- Only the very last coordinate cannot be written. -/
theorem writable_withCoordinate (writable : a.Writable) (inside : value ≠ 0xFFFFFFFF) :
    (a.withCoordinate axis value).Writable := by
  have small : value.toNat + 1 < UInt32.size := by
    have bound : value.toNat < UInt32.size := value.toNat_lt
    have other : value.toNat ≠ UInt32.size - 1 := fun same => inside (UInt32.toNat_inj.mp same)
    omega
  cases axis with
  | row => exact ⟨writable.1, small⟩
  | column => exact ⟨small, writable.2⟩

theorem shift?_of_delta_eq_zero (still : s.delta = 0) (a : Address) : a.shift? s = some a := by
  have stays (value : UInt32) : s.coordinate? value = some value := by
    rw [Shift.coordinate?_eq_some_iff, still]
    rcases Nat.lt_or_ge value.toNat s.pivot.toNat with front | behind
    · exact .inl ⟨front, rfl⟩
    · exact .inr ⟨behind, behind, by omega⟩
  rw [shift?]
  split
  · rfl
  · rw [stays, Option.map_some, withCoordinate_coordinate]

end Address

theorem Position.shift?_of_delta_eq_zero {s : Shift} (still : s.delta = 0) (p : Position) :
    p.shift? s = some p := by
  rw [shift?, Address.shift?_of_delta_eq_zero still]
  rfl

namespace Range

variable {s : Shift} {r shifted : Range}

/-- The corners of a shifted range differ from those of the range in one coordinate. -/
theorem eq_withCoordinate_of_shift? (survives : r.shift? s = some shifted) :
    shifted.first = r.first.withCoordinate s.axis (shifted.first.coordinate s.axis) ∧
      shifted.last = r.last.withCoordinate s.axis (shifted.last.coordinate s.axis) := by
  rw [shift?] at survives
  split at survives
  · rename_i first last first_survives last_survives
    obtain rfl := Option.some.inj survives
    exact ⟨Address.eq_withCoordinate_of_shift? first_survives,
      Address.eq_withCoordinate_of_shift? last_survives⟩
  · rename_i last _ last_survives
    split at survives
    · contradiction
    · obtain rfl := Option.some.inj survives
      exact ⟨by simp, Address.eq_withCoordinate_of_shift? last_survives⟩
  · rename_i first first_survives _
    split at survives
    · obtain rfl := Option.some.inj survives
      exact ⟨Address.eq_withCoordinate_of_shift? first_survives, by simp⟩
    · contradiction
  · contradiction

theorem writable_between {a b : Address} (first : a.Writable) (last : b.Writable) :
    (between a b).first.Writable ∧ (between a b).last.Writable := by
  simp only [between]
  split <;> split
  · exact ⟨first, last⟩
  · exact ⟨⟨first.1, last.2⟩, last.1, first.2⟩
  · exact ⟨⟨last.1, first.2⟩, first.1, last.2⟩
  · exact ⟨last, first⟩

theorem shift?_of_delta_eq_zero (still : s.delta = 0) (r : Range) : r.shift? s = some r := by
  rw [shift?, Address.shift?_of_delta_eq_zero still, Address.shift?_of_delta_eq_zero still]

end Range

/-- No coordinate of the shifted reference is the last one that 32 bits hold; its number would need
more. -/
def Reference.Fits (s : Shift) : Reference → Prop
  | cell a => ∀ shifted ∈ a.shift? s, shifted.coordinate s.axis ≠ 0xFFFFFFFF
  | range r => ∀ shifted ∈ r.shift? s,
      shifted.first.coordinate s.axis ≠ 0xFFFFFFFF ∧ shifted.last.coordinate s.axis ≠ 0xFFFFFFFF

instance (s : Shift) : DecidablePred (Reference.Fits s)
  | .cell a => inferInstanceAs (Decidable (∀ shifted ∈ a.shift? s,
      shifted.coordinate s.axis ≠ 0xFFFFFFFF))
  | .range r => inferInstanceAs (Decidable (∀ shifted ∈ r.shift? s,
      shifted.first.coordinate s.axis ≠ 0xFFFFFFFF ∧ shifted.last.coordinate s.axis ≠ 0xFFFFFFFF))

namespace Expr

open Formula

mutual

/-- The expression after a shift: every reference is shifted, a range with its corners in order
again, and a reference that is lost becomes the error for it. -/
def shift (s : Shift) : Expr → Expr
  | literal value => literal value
  | cell a =>
    match a.shift? s with
    | none => literal (.error .reference)
    | some shifted => cell shifted
  | range r =>
    match r.shift? s with
    | none => literal (.error .reference)
    | some shifted => range (.between shifted.first shifted.last)
  | unary sign operand => unary sign (operand.shift s)
  | binary operator left right => binary operator (left.shift s) (right.shift s)
  | call name arguments => call name (shiftAll s arguments)

/-- The expressions after a shift. -/
def shiftAll (s : Shift) : List Expr → List Expr
  | [] => []
  | first :: rest => first.shift s :: shiftAll s rest

end

mutual

/-- A shift keeps the signs and operators of an expression. -/
@[simp] theorem operatorCount_shift (s : Shift) :
    ∀ e : Expr, (e.shift s).operatorCount = e.operatorCount
  | literal _ => by rw [shift]
  | cell a => by rw [shift]; split <;> rfl
  | range r => by rw [shift]; split <;> rfl
  | unary _ operand => by rw [shift, operatorCount, operatorCount, operatorCount_shift s operand]
  | binary _ left right => by
      rw [shift, operatorCount, operatorCount, operatorCount_shift s left,
        operatorCount_shift s right]
  | call _ arguments => by
      rw [shift, operatorCount, operatorCount, operatorCountOfAll_shiftAll s arguments]

theorem operatorCountOfAll_shiftAll (s : Shift) :
    ∀ es : List Expr, operatorCountOfAll (shiftAll s es) = operatorCountOfAll es
  | [] => rfl
  | first :: rest => by
      rw [shiftAll, operatorCountOfAll, operatorCountOfAll, operatorCount_shift s first,
        operatorCountOfAll_shiftAll s rest]

end

end Expr

namespace Formula

open Spreadsheet.Expr

variable {s : Shift} {n : Nat} {part : Part} {ts : List Token} {es : List Expr} {e : Expr}
  {text : String}

/-! ## Shifted derivations -/

/-- What goes on with an expression goes on with the shifted one. -/
def Part.shift (s : Shift) : Part → Part
  | rest l left => rest l (left.shift s)
  | other => other

theorem shift_operand (s : Shift) (l : Level) : l.operand.shift s = l.operand := by
  cases l <;> rfl

/-- A word that names an address stands for the shifted address after the shift. -/
theorem derives_cell {word : String} {a : Address} (named : Address.ofText? word = some a)
    (fits : (Reference.cell a).Fits s) :
    Derives n .operand [(Token.cell word).shift s] [(Expr.cell a).shift s] := by
  rw [shift_cell named, Expr.shift]
  cases survives : a.shift? s with
  | none => exact .literal rfl
  | some shifted =>
      dsimp only
      split
      · rename_i same
        exact .cell (same ▸ named)
      · rw [Address.eq_withCoordinate_of_shift? survives]
        exact .cell (Address.ofText?_text (Address.writable_withCoordinate
          (Address.writable_of_read? named) (fits shifted survives)))

/-- A word that names a range stands for the shifted range after the shift. -/
theorem derives_range {word : String} {r : Range} (named : Range.ofText? word = some r)
    (fits : (Reference.range r).Fits s) :
    Derives n .operand [(Token.range word).shift s] [(Expr.range r).shift s] := by
  obtain ⟨_, _, a, b, _, _, read_first, read_second, rfl⟩ := Range.read?_eq_some_iff.mp named
  obtain ⟨first, last⟩ := Range.writable_between (Address.writable_of_read? read_first)
    (Address.writable_of_read? read_second)
  rw [shift_range named, Expr.shift]
  cases survives : (Range.between a b).shift? s with
  | none => exact .literal rfl
  | some shifted =>
      dsimp only
      split
      · rename_i same
        rw [same, Range.between_first_last]
        exact .range named
      · obtain ⟨first_moved, last_moved⟩ := Range.eq_withCoordinate_of_shift? survives
        obtain ⟨first_inside, last_inside⟩ := fits shifted survives
        refine .range (Range.ofText?_text ?_ ?_)
        · rw [first_moved]
          exact Address.writable_withCoordinate first first_inside
        · rw [last_moved]
          exact Address.writable_withCoordinate last last_inside

theorem shift_of_literal {t : Token} {value : Literal} (means : t.literal? = some value) :
    t.shift s = t := by
  cases t <;> first | rfl | contradiction

/-- Shifting the tokens of a derivation shifts its trees. -/
theorem Derives.shift (derives : Derives n part ts es)
    (fits : ∀ reference ∈ ts.flatMap Token.references, reference.Fits s) :
    Derives n (part.shift s) (ts.map (Token.shift s)) (shiftAll s es) := by
  induction derives with
  | @level n l _ _ _ _ _ _ first_ih others_ih =>
      rw [List.flatMap_append, List.forall_mem_append] at fits
      have first := first_ih fits.1
      rw [shift_operand] at first
      rw [List.map_append]
      exact .level first (others_ih fits.2)
  | last => exact .last
  | operator is_operator _ _ operand_ih others_ih =>
      simp only [List.flatMap_cons, List.flatMap_append, List.forall_mem_append] at fits
      have operand := operand_ih fits.2.1
      rw [shift_operand] at operand
      rw [List.map_cons, List.map_append]
      exact .operator is_operator operand (others_ih fits.2.2)
  | base _ ih => exact .base (ih fits)
  | power _ _ first_ih others_ih =>
      simp only [List.flatMap_append, List.flatMap_cons, List.forall_mem_append] at fits
      rw [List.map_append, List.map_cons]
      exact .power (first_ih fits.1) (others_ih fits.2.2)
  | unsigned _ ih => exact .unsigned (ih fits)
  | signed signs _ ih => exact .signed signs (ih fits)
  | literal means =>
      rw [List.map_singleton, shift_of_literal means]
      exact .literal means
  | cell named => exact derives_cell named (fits _ (by simp [Token.references, named]))
  | range named => exact derives_range named (fits _ (by simp [Token.references, named]))
  | parentheses _ ih =>
      simp only [List.flatMap_cons, List.flatMap_append, List.forall_mem_append] at fits
      rw [List.map_cons, List.map_append]
      exact .parentheses (ih fits.2.1)
  | emptyCall => exact .emptyCall
  | call _ ih =>
      simp only [List.flatMap_cons, List.flatMap_append, List.forall_mem_append] at fits
      rw [List.map_cons, List.map_cons, List.map_append]
      exact .call (ih fits.2.2.1)
  | arguments _ _ first_ih others_ih =>
      rw [List.flatMap_append, List.forall_mem_append] at fits
      rw [List.map_append]
      exact .arguments (first_ih fits.1) (others_ih fits.2)
  | noMore => exact .noMore
  | more _ _ first_ih others_ih =>
      simp only [List.flatMap_cons, List.flatMap_append, List.forall_mem_append] at fits
      rw [List.map_cons, List.map_append]
      exact .more (first_ih fits.2.1) (others_ih fits.2.2)

theorem StandFor.shift (standFor : StandFor ts e)
    (fits : ∀ reference ∈ e.references, reference.Fits s) :
    StandFor (ts.map (Token.shift s)) (e.shift s) := by
  rw [standFor.references_eq] at fits
  rcases standFor with ⟨rfl, rfl⟩ | ⟨derives, room⟩
  · exact .inl ⟨rfl, rfl⟩
  · exact .inr ⟨derives.shift fits, (operatorCount_shift s e).symm ▸ room⟩

/-- The tokens of a formula, with the equals sign in front, are as relocation needs them. -/
theorem StandFor.tokens_formula (standFor : StandFor ts e) :
    (∀ t ∈ Token.symbol .equal :: ts, t.IsSound) ∧
      (∀ t ∈ Token.symbol .equal :: ts, ∀ name ∈ t.names, name ∈ e.functionNames) ∧
      (Token.symbol .equal :: ts).IsChain Derives.Adjacent := by
  obtain ⟨sound, names, chain⟩ := standFor.tokens
  refine ⟨List.forall_mem_cons.mpr ⟨trivial, sound⟩, List.forall_mem_cons.mpr ⟨?_, ?_⟩,
    Derives.isChain_symbol_cons _ chain⟩
  · simp [Token.names]
  · intro t member name named
    exact names ▸ List.mem_flatMap.mpr ⟨t, member, named⟩

theorem Token.shift_of_delta_eq_zero (still : s.delta = 0) (t : Token) : t.shift s = t := by
  unfold Token.shift
  split
  · split
    · rfl
    · rw [Address.shift?_of_delta_eq_zero still]
      exact if_pos rfl
  · split
    · rfl
    · rw [Range.shift?_of_delta_eq_zero still]
      exact if_pos rfl
  · rfl

/-- Relocation respells the tokens of a formula one by one. -/
theorem respelled_relocate (cuts : Cuts text.toList ts) (sound : ∀ t ∈ ts, t.IsSound)
    (kept : ∀ t ∈ ts, ∀ name ∈ t.names, '#' ∉ relocateName s name.toList)
    (chain : ts.IsChain Derives.Adjacent) (moves : s.delta ≠ 0) :
    Respelled s text.toList ts (relocate s text).toList := by
  rw [relocate, if_neg moves, String.toList_ofList, flatMap_pieces]
  exact cuts.respelled sound kept chain fun _ nothing => by contradiction

/-- The tokens of a relocated formula are the shifted tokens of the formula. -/
theorem cuts_relocate (cuts : Cuts text.toList ts) (sound : ∀ t ∈ ts, t.IsSound)
    (plain : ∀ t ∈ ts, ∀ name ∈ t.names, ':' ∉ name.toList) (chain : ts.IsChain Derives.Adjacent) :
    Cuts (relocate s text).toList (ts.map (Token.shift s)) := by
  by_cases still : s.delta = 0
  · rw [relocate, if_pos still, List.map_congr_left fun t _ =>
      Token.shift_of_delta_eq_zero still t, List.map_id']
    exact cuts
  · have passes := cuts.relocate_eq_shift (s := s) sound plain chain
    rw [← List.map_congr_left fun t member => (passes t member).1]
    exact (respelled_relocate cuts sound (fun t member => (passes t member).2) chain still).cuts

/-- Relocating the text of a formula is shifting its tree. The relocated text is a formula again,
if it is not too long, and it stands for the tree in which every reference is shifted. -/
theorem parse_relocate (s : Shift) (parsed : parse text = .ok e)
    (plain : ∀ name ∈ e.functionNames, ':' ∉ name.toList)
    (fits : ∀ reference ∈ e.references, reference.Fits s)
    (short : (relocate s text).length ≤ maxChars) :
    parse (relocate s text) = .ok (e.shift s) := by
  obtain ⟨_, ts, tokens, standFor⟩ := parse_eq_ok_iff.mp parsed
  obtain ⟨sound, names, chain⟩ := standFor.tokens
  have cuts : Cuts text.toList (.symbol .equal :: ts) := tokens ▸ cuts_tokensOf text.toList
  have relocated := cuts_relocate (s := s) cuts
    (List.forall_mem_cons.mpr ⟨trivial, sound⟩)
    (List.forall_mem_cons.mpr ⟨by simp [Token.names], fun t member name named =>
      plain name (names ▸ List.mem_flatMap.mpr ⟨t, member, named⟩)⟩)
    (Derives.isChain_symbol_cons _ chain)
  exact parse_eq_ok_iff.mpr ⟨short, _, relocated.tokensOf_eq, standFor.shift fits⟩

/-- The fourth row is deleted. A range in front of it, a quoted text and the name of a call that
looks like a cell stay as they are, one reference is lost and one moves up. -/
theorem parse_relocate_deleted_row :
    let s : Shift := ⟨.row, 3, -1⟩
    let text := "=SUM(a1:B$3,\"C4\")&log10(c4)+$D5"
    ∃ e, parse text = .ok e ∧ relocate s text = "=SUM(a1:B$3,\"C4\")&log10(#REF!)+$D4" ∧
      parse (relocate s text) = .ok (e.shift s) := by
  have parsed : parse "=SUM(a1:B$3,\"C4\")&log10(c4)+$D5" =
      .ok (.binary .concat
        (.call "SUM" [.range ⟨⟨0, 0, false, false⟩, ⟨1, 2, false, true⟩⟩, .literal (.text "C4")])
        (.binary (.arithmetic .add) (.call "LOG10" [.cell ⟨2, 3, false, false⟩])
          (.cell ⟨3, 4, true, false⟩))) := by
    with_unfolding_all rfl
  exact ⟨_, parsed, by decide +kernel,
    parse_relocate _ parsed (by decide) (by decide) (by decide +kernel)⟩

end Formula
end Spreadsheet
