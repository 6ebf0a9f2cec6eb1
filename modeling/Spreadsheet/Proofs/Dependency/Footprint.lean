import Spreadsheet.Dependency.Graph
import Spreadsheet.Evaluation

/-!
# Evaluation reads tracked cells only

The value of an expression depends on the surroundings only through the functions, the range limit
and the values of the positions that its references cover. A range over the limit covers none and
has the same value in all surroundings.
-/

namespace Spreadsheet

theorem mem_positionsOf {maxRangeCells : Nat} {references : List Reference} {p : Position} :
    p ∈ positionsOf maxRangeCells references ↔
      ∃ reference ∈ references, p ∈ reference.positions maxRangeCells := by
  rw [positionsOf, Std.ExtTreeSet.mem_ofList, List.contains_iff_mem, List.mem_flatMap]

/-- Two surroundings have the same rules and the same values wherever references lead. -/
structure Surroundings.AgreeOn (references : List Reference) (s t : Surroundings) : Prop where
  /-- The functions are the same. -/
  library : s.library = t.library
  /-- The range limit is the same. -/
  maxRangeCells : s.maxRangeCells = t.maxRangeCells
  /-- The cells that the references cover have the same values. -/
  valueAt : ∀ reference ∈ references, ∀ p ∈ reference.positions t.maxRangeCells,
    s.valueAt p = t.valueAt p

theorem Surroundings.AgreeOn.mono {fewer more : List Reference} {s t : Surroundings}
    (agree : AgreeOn more s t) (subset : fewer ⊆ more) : AgreeOn fewer s t where
  library := agree.library
  maxRangeCells := agree.maxRangeCells
  valueAt reference member := agree.valueAt reference (subset member)

/-- The rows of values depend on the values of the cells in the range only. -/
theorem Range.valueRows_congr {block : Range} {valueAt valueAt' : Position → CellValue}
    (agree : ∀ p ∈ block.positions, valueAt p = valueAt' p) :
    block.valueRows valueAt = block.valueRows valueAt' := by
  rw [valueRows, valueRows]
  apply List.map_congr_left
  intro row row_member
  apply List.map_congr_left
  intro p member
  exact agree p (List.mem_flatten.mpr ⟨row, row_member, member⟩)

theorem Range.value_congr {block : Range} {s t : Surroundings}
    (agree : Surroundings.AgreeOn [.range block] s t) : block.value s = block.value t := by
  rw [Range.value, Range.value, agree.maxRangeCells]
  split
  · rfl
  · rename_i within
    have covered : ∀ p ∈ block.positions, s.valueAt p = t.valueAt p := by
      intro p member
      apply agree.valueAt _ List.mem_cons_self
      rwa [Reference.positions, if_neg within]
    rw [valueRows_congr covered]

namespace Expr

mutual

/-- Surroundings that agree on the references of an expression give it the same value. -/
theorem value_congr {s t : Surroundings} :
    (e : Expr) → Surroundings.AgreeOn e.references s t → e.value s = e.value t
  | literal v, _ => by rw [value, value]
  | cell address, agree => by
      rw [value, value, agree.valueAt (.cell address) (by simp [references])]
      simp [Reference.positions]
  | range block, agree => by
      rw [value, value]
      exact Range.value_congr (agree.mono (by simp [references]))
  | unary sign operand, agree => by
      rw [value, value, value_congr operand (agree.mono (by simp [references]))]
  | binary operator left right, agree => by
      rw [value, value, value_congr left (agree.mono (by simp [references])),
        value_congr right (agree.mono (by simp [references]))]
  | call name arguments, agree => by
      rw [value, value, agree.library,
        values_congr arguments (agree.mono (by simp [references]))]

theorem values_congr {s t : Surroundings} :
    (es : List Expr) → Surroundings.AgreeOn (referencesOfAll es) s t → values s es = values t es
  | [], _ => rfl
  | first :: rest, agree => by
      rw [values, values, value_congr first (agree.mono (by simp [referencesOfAll])),
        values_congr rest (agree.mono (by simp [referencesOfAll]))]

end

/-- An expression has the same value in surroundings that agree on all that it reads. -/
theorem value_eq_of_precedents {e : Expr} {s t : Surroundings} (library : s.library = t.library)
    (maxRangeCells : s.maxRangeCells = t.maxRangeCells)
    (valueAt : ∀ p ∈ e.precedents t.maxRangeCells, s.valueAt p = t.valueAt p) :
    e.value s = e.value t := by
  apply value_congr e ⟨library, maxRangeCells, ?_⟩
  intro reference member p covered
  exact valueAt p (mem_positionsOf.mpr ⟨reference, member, covered⟩)

/-- Whatever the functions and the range limit, an expression has the same value for two sources of
cell values that agree on the cells that are tracked for it. -/
theorem value_determined_by_tracked_cells (e : Expr) (library : Library) (maxRangeCells : Nat)
    {source other : Position → CellValue}
    (agree : ∀ p ∈ e.precedents maxRangeCells, source p = other p) :
    e.value ⟨source, library, maxRangeCells⟩ = e.value ⟨other, library, maxRangeCells⟩ := by
  exact value_eq_of_precedents rfl rfl agree

/-- The cells of a range over the limit are not tracked, and what is in them makes no
difference. -/
theorem value_determined_by_tracked_cells_of_wide_range :
    let e : Expr := .binary .concat
      (.call "SUM" [.range ⟨⟨0, 0, false, false⟩, ⟨1, 1, false, false⟩⟩])
      (.cell ⟨2, 0, false, false⟩)
    let other : Position → CellValue := fun p => if p = ⟨0, 0⟩ then .boolean true else .blank
    let library : Library := .standard ⟨⟨2000, 1, 1⟩, 0⟩
    (∀ p ∈ e.precedents 3, CellValue.blank = other p) ∧
      e.value ⟨fun _ => .blank, library, 3⟩ = e.value ⟨other, library, 3⟩ := by
  intro e other library
  have tracked : (e.precedents 3).toList = [⟨2, 0⟩] := by decide +kernel
  have agree : ∀ p ∈ e.precedents 3, CellValue.blank = other p := by
    intro p member
    rw [← Std.ExtTreeSet.mem_toList, tracked] at member
    rw [List.mem_singleton.mp member]
    rfl
  exact ⟨agree, value_determined_by_tracked_cells e library 3 agree⟩

end Expr
end Spreadsheet
