import Spreadsheet.Proofs.Dependency.Footprint
import Spreadsheet.Proofs.Dependency.Mirror
import Spreadsheet.Proofs.Formula.ReferenceShift

/-!
# What relocated formulas read

A structural edit moves the graph cell by cell, and it relocates the references of formula text,
where a range moves by its corners. A formula whose references follow the edit reads the same cells
either way.
-/

namespace Spreadsheet

open Formula

variable {s : Shift} {e : Expr} {limit : Nat} {p q : Position} {text : String}

/-- A shifted tree reads the places of the cells that the tree reads, as far as they survive, if
this holds of each of its references. -/
theorem Expr.mem_precedents_shift
    (each : ∀ reference ∈ e.references,
      ((∃ shifted ∈ reference.shift? s, q ∈ shifted.positions limit) ↔
        ∃ p ∈ reference.positions limit, p.shift? s = some q)) :
    q ∈ (e.shift s).precedents limit ↔ ∃ p ∈ e.precedents limit, p.shift? s = some q := by
  simp only [precedents, mem_positionsOf, references_shift, List.mem_filterMap]
  constructor
  · rintro ⟨shifted, ⟨reference, member, survives⟩, covered⟩
    obtain ⟨p, covers, arrives⟩ := (each reference member).mp ⟨shifted, survives, covered⟩
    exact ⟨p, ⟨reference, member, covers⟩, arrives⟩
  · rintro ⟨p, ⟨reference, member, covers⟩, arrives⟩
    obtain ⟨shifted, survives, covered⟩ := (each reference member).mpr ⟨p, covers, arrives⟩
    exact ⟨shifted, ⟨reference, member, survives⟩, covered⟩

/-- A surviving cell reads in the moved graph the places of the cells that it has read before. -/
theorem Graph.mem_precedentsOf_shift_of_shift? {g : Graph} {reader target : Position}
    (moves : s.delta ≠ 0) (arrives : reader.shift? s = some target) :
    q ∈ (g.shift s).precedentsOf target ↔ ∃ p ∈ g.precedentsOf reader, p.shift? s = some q := by
  rw [mem_precedentsOf_shift moves]
  constructor
  · rintro ⟨reader', p, reads, arrives', p_arrives⟩
    obtain rfl := Position.shift?_injective arrives arrives'
    exact ⟨p, reads, p_arrives⟩
  · rintro ⟨p, reads, p_arrives⟩
    exact ⟨reader, p, reads, arrives, p_arrives⟩

/-- Moving the graph agrees with relocating the text. If all references of a formula follow a
shift, the relocated text is a formula that reads the places of the cells that the formula has
read, without those that are lost, and these are the cells that the moved graph has for it. -/
theorem precedents_relocate (s : Shift) (limit : Nat) (parsed : parse text = .ok e)
    (plain : ∀ name ∈ e.functionNames, ':' ∉ name.toList)
    (follow : ∀ reference ∈ e.references, reference.Follows s)
    (within : ∀ reference ∈ e.references, reference.Within limit) (moves : s.delta ≠ 0)
    (short : (relocate s text).length ≤ maxChars) :
    ∃ relocated, parse (relocate s text) = .ok relocated ∧
      (∀ q, q ∈ relocated.precedents limit ↔ ∃ p ∈ e.precedents limit, p.shift? s = some q) ∧
      ∀ (g : Graph) reader target, g.precedentsOf reader = e.precedents limit →
        reader.shift? s = some target →
        (g.shift s).precedentsOf target = relocated.precedents limit := by
  have means := (parse_eq_ok_iff_means.mp parsed).2
  have fits : ∀ reference ∈ e.references, reference.Fits s := fun reference member =>
    (follow reference member).fits (means.proper reference member)
  have reads (q : Position) := Expr.mem_precedents_shift (q := q) fun reference member =>
    (follow reference member).exists_mem_positions_iff (means.proper reference member)
      (within reference member)
  refine ⟨_, parse_eq_ok_iff_means.mpr ⟨short, means.relocate plain fits⟩, reads, ?_⟩
  intro g reader target tracked arrives
  apply Std.ExtTreeSet.ext_mem
  intro q
  rw [Graph.mem_precedentsOf_shift_of_shift? moves arrives, tracked, reads]

/-- Three rows are deleted: one reference is lost, and the last cell of the range moves up. -/
theorem precedents_relocate_deleted_rows :
    let s : Shift := ⟨.row, 1, -3⟩
    ∃ relocated, parse (relocate s "=SUM(B1:B6)+B3") = .ok relocated ∧
      ⟨1, 2⟩ ∈ relocated.precedents 6 := by
  have parsed : parse "=SUM(B1:B6)+B3" = .ok (.binary (.arithmetic .add)
      (.call "SUM" [.range ⟨⟨1, 0, false, false⟩, ⟨1, 5, false, false⟩⟩])
      (.cell ⟨1, 2, false, false⟩)) := by
    with_unfolding_all rfl
  obtain ⟨relocated, read, reads, _⟩ := precedents_relocate ⟨.row, 1, -3⟩ 6 parsed (by decide)
    (by decide) (by decide) (by decide) (by decide +kernel)
  exact ⟨relocated, read, (reads ⟨1, 2⟩).mpr ⟨⟨1, 5⟩, by decide +kernel, by decide +kernel⟩⟩

/-! ## Values -/

/-- Two surroundings have the same rules, and the values at the places to which the cells of
references move are those of the cells. -/
structure Surroundings.MovedOn (s : Shift) (references : List Reference)
    (before after : Surroundings) :
    Prop where
  /-- The functions are the same. -/
  library : after.library = before.library
  /-- The range limit is the same. -/
  maxRangeCells : after.maxRangeCells = before.maxRangeCells
  /-- The corners of the references can be written and are in order. -/
  proper : ∀ reference ∈ references, reference.Proper
  /-- The references move as a whole. -/
  whole : ∀ reference ∈ references, reference.MovesWhole s
  /-- The values have moved with the cells. -/
  valueAt : ∀ reference ∈ references, ∀ p ∈ reference.positions before.maxRangeCells,
    after.valueAt (p.moved s) = before.valueAt p

theorem Surroundings.MovedOn.mono {fewer more : List Reference} {before after : Surroundings}
    (moved : MovedOn s more before after) (subset : fewer ⊆ more) :
    MovedOn s fewer before after where
  library := moved.library
  maxRangeCells := moved.maxRangeCells
  proper reference member := moved.proper reference (subset member)
  whole reference member := moved.whole reference (subset member)
  valueAt reference member := moved.valueAt reference (subset member)

/-- A range that moves cell by cell takes its rows of values along. -/
theorem Range.MovesTo.valueRows_eq {r shifted : Range} (moves : MovesTo s r shifted)
    (valueAt : Position → CellValue) :
    shifted.valueRows valueAt = r.valueRows fun p => valueAt (p.moved s) := by
  rw [valueRows, valueRows, moves.positionRows_eq, List.map_map]
  simp only [Function.comp_def, List.map_map]

namespace Expr

variable {before after : Surroundings}

/-- An address that survives has the value that it had. -/
theorem value_shift_cell {a : Address} (moved : Surroundings.MovedOn s [.cell a] before after) :
    ((cell a).shift s).value after = (cell a).value before := by
  have proper := moved.proper _ List.mem_cons_self
  have whole := moved.whole _ List.mem_cons_self
  have value_eq := moved.valueAt _ List.mem_cons_self a.position List.mem_cons_self
  have covers : a.position ∈ (Reference.cell a).positions 0 := List.mem_cons_self
  obtain ⟨target, arrives⟩ := whole.exists_shift? proper covers
  have moves := Address.position_shift? (a := a) whole.follows.relative.1
  rw [Position.moved_eq_of_shift? arrives] at value_eq
  rw [arrives] at moves
  obtain ⟨shifted, survives, rfl⟩ := Option.map_eq_some_iff.mp moves
  rw [shift, survives]
  simp only [value]
  rw [value_eq]

/-- A range that moves as a whole has the table that it had, or is too large as before. -/
theorem value_shift_range {r : Range} (moved : Surroundings.MovedOn s [.range r] before after) :
    ((range r).shift s).value after = (range r).value before := by
  have proper := moved.proper _ List.mem_cons_self
  have whole := moved.whole _ List.mem_cons_self
  obtain ⟨shifted, moves⟩ := Range.exists_movesTo (r := r) whole.follows.relative proper.ordered
    (whole.follows.heldBy proper) whole.kept
  have ordered := Range.ordered_of_shift? (r := r) whole.follows.relative proper.ordered
    (whole.follows.heldBy proper) moves.shift?_eq
  rw [shift, moves.shift?_eq]
  dsimp only
  rw [Range.between_of_le ordered.1 ordered.2, value, value, Range.value, Range.value,
    moved.maxRangeCells, moves.count_eq]
  split
  · rfl
  · rename_i within
    have covered : ∀ p ∈ r.positions, after.valueAt (p.moved s) = before.valueAt p := by
      intro p member
      apply moved.valueAt _ List.mem_cons_self
      rwa [Reference.positions, if_neg within]
    rw [moves.valueRows_eq, Range.valueRows_congr covered]

mutual

/-- A shifted tree has the value of the tree where the values have moved with the cells. -/
theorem value_shift :
    (e : Expr) → Surroundings.MovedOn s e.references before after →
      (e.shift s).value after = e.value before
  | literal v, _ => by rw [shift, value, value]
  | cell address, moved => value_shift_cell moved
  | range block, moved => value_shift_range moved
  | unary sign operand, moved => by
      rw [shift, value, value, value_shift operand (moved.mono (by simp [references]))]
  | binary operator left right, moved => by
      rw [shift, value, value, value_shift left (moved.mono (by simp [references])),
        value_shift right (moved.mono (by simp [references]))]
  | call name arguments, moved => by
      rw [shift, value, value, moved.library,
        values_shiftAll arguments (moved.mono (by simp [references]))]

theorem values_shiftAll :
    (es : List Expr) → Surroundings.MovedOn s (referencesOfAll es) before after →
      values after (shiftAll s es) = values before es
  | [], _ => rfl
  | first :: rest, moved => by
      rw [shiftAll, values, values, value_shift first (moved.mono (by simp [referencesOfAll])),
        values_shiftAll rest (moved.mono (by simp [referencesOfAll]))]

end

end Expr

end Spreadsheet
