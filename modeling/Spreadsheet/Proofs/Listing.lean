import Spreadsheet.Evaluation
import Spreadsheet.Proofs.Coverage

/-!
# The cells of a range

A range can be asked for its size, for a list of its cells and for a table of their values, whether
it covers a cell, and for its text. If its corners can be written, the answers agree, and its sizes
can be computed with machine words.
-/

namespace Spreadsheet

/-- The position comes before the other one when rows are read one after the other. -/
def Position.Precedes (p q : Position) : Prop := p.row < q.row ∨ p.row = q.row ∧ p.col < q.col

namespace Range

variable {r : Range} {ps : List Position} {a b : Address}

/-! ## Sizes -/

/-- The sizes of the range can be computed with 32 bits for its sides and 64 bits for the number of
its cells. -/
structure SizesFit (r : Range) : Prop where
  /-- No difference of coordinates is negative. -/
  ordered : r.Ordered
  /-- The number of columns does not overflow. -/
  width : (r.last.col - r.first.col + 1).toNat = r.width
  /-- The number of rows does not overflow. -/
  height : (r.last.row - r.first.row + 1).toNat = r.height
  /-- The product of both does not overflow. -/
  count : (UInt64.ofNat r.width * UInt64.ofNat r.height).toNat = r.count

theorem toNat_sub_add_one {first last : UInt32} (ordered : first ≤ last)
    (inside : last.toNat + 1 < UInt32.size) :
    (last - first + 1).toNat = last.toNat + 1 - first.toNat := by
  rw [UInt32.toNat_add, UInt32.toNat_sub_of_le _ _ ordered, UInt32.toNat_one]
  rw [UInt32.le_iff_toNat_le] at ordered
  rw [UInt32.size] at inside
  omega

/-- Only a range that ends at the very last column or row can be too large. -/
theorem sizesFit_of_writable (ordered : r.Ordered) (last : r.last.Writable) : r.SizesFit where
  ordered := ordered
  width := toNat_sub_add_one ordered.1 last.1
  height := toNat_sub_add_one ordered.2 last.2
  count := by
    have width_lt : r.width < 2 ^ 32 := (Nat.sub_le _ _).trans_lt last.1
    have height_lt : r.height < 2 ^ 32 := (Nat.sub_le _ _).trans_lt last.2
    have count_lt : r.width * r.height < 2 ^ 64 := calc
      r.width * r.height < 2 ^ 32 * 2 ^ 32 := Nat.mul_lt_mul'' width_lt height_lt
      _ = 2 ^ 64 := (Nat.pow_add 2 32 32).symm
    rw [UInt64.toNat_mul, UInt64.toNat_ofNat_of_lt' (by rw [UInt64.size]; omega),
      UInt64.toNat_ofNat_of_lt' (by rw [UInt64.size]; omega), Nat.mod_eq_of_lt count_lt, count]

/-! ## Lists -/

/-- The list has the cells of the range row by row, and so each of them once. -/
structure ListedBy (r : Range) (ps : List Position) : Prop where
  /-- Each position comes before all that follow it. -/
  pairwise : ps.Pairwise Position.Precedes
  /-- The listed positions are those that the range covers. -/
  mem_iff : ∀ p, p ∈ ps ↔ r.contains p
  /-- The list is as long as the range is large. -/
  length_eq : ps.length = r.count

theorem length_span (first last : UInt32) :
    (span first last).length = last.toNat + 1 - first.toNat := by
  rw [span, List.length_map, List.length_range']

theorem pairwise_span (first last : UInt32) : (span first last).Pairwise (· < ·) := by
  have last_lt := last.toNat_lt
  rw [span, List.pairwise_map]
  refine (List.pairwise_lt_range' 1).imp_of_mem fun {n m} n_member m_member before => ?_
  rw [List.mem_range'_1] at n_member m_member
  rw [UInt32.lt_iff_toNat_lt, UInt32.toNat_ofNat_of_lt' (by rw [UInt32.size]; omega),
    UInt32.toNat_ofNat_of_lt' (by rw [UInt32.size]; omega)]
  exact before

theorem pairwise_positions (r : Range) : r.positions.Pairwise Position.Precedes := by
  rw [positions, positionRows_eq, List.pairwise_flatten]
  constructor
  · intro rowPositions member
    obtain ⟨row, _, rfl⟩ := List.mem_map.mp member
    rw [List.pairwise_map]
    exact (pairwise_span _ _).imp fun before => .inr ⟨rfl, before⟩
  · rw [List.pairwise_map]
    refine (pairwise_span _ _).imp fun before p p_member q q_member => .inl ?_
    obtain ⟨_, _, rfl⟩ := List.mem_map.mp p_member
    obtain ⟨_, _, rfl⟩ := List.mem_map.mp q_member
    exact before

theorem length_positionRows (r : Range) : r.positionRows.length = r.height := by
  rw [positionRows_eq, List.length_map, length_span, height]

theorem length_of_mem_positionRows (member : ps ∈ r.positionRows) : ps.length = r.width := by
  rw [positionRows_eq] at member
  obtain ⟨_, _, rfl⟩ := List.mem_map.mp member
  rw [List.length_map, length_span, width]

theorem length_positions (r : Range) : r.positions.length = r.count := by
  have lengths : r.positionRows.map List.length = List.replicate r.height r.width := by
    rw [← length_positionRows, List.eq_replicate_iff, List.length_map, List.forall_mem_map]
    exact ⟨rfl, fun _ => length_of_mem_positionRows⟩
  rw [positions, List.length_flatten, lengths, List.sum_replicate_nat, count, Nat.mul_comm]

theorem listedBy_positions (r : Range) : r.ListedBy r.positions where
  pairwise := r.pairwise_positions
  mem_iff _ := mem_positions
  length_eq := r.length_positions

/-! ## Tables -/

/-- The rows of values are those of the listed cells, row by row. -/
structure TabulatedBy (r : Range) (valueAt : Position → CellValue) (rows : List (List CellValue)) :
    Prop where
  /-- There is a row of values for each row of the range. -/
  length_eq : rows.length = r.height
  /-- In a row there is a value for each column. -/
  length_of_mem : ∀ row ∈ rows, row.length = r.width
  /-- The values come in the order of the list. -/
  flatten_eq : rows.flatten = r.positions.map valueAt

theorem tabulatedBy_valueRows (r : Range) (valueAt : Position → CellValue) :
    r.TabulatedBy valueAt (r.valueRows valueAt) where
  length_eq := by rw [valueRows, List.length_map, length_positionRows]
  length_of_mem := by
    rw [valueRows, List.forall_mem_map]
    intro ps member
    rw [List.length_map, length_of_mem_positionRows member]
  flatten_eq := by rw [valueRows, positions, List.map_flatten]

/-! ## All views -/

/-- For a range between two corners that can be written, the sizes can be computed with machine
words, the list has exactly the cells that the range covers, as many as it counts, and row by row,
the table has their values in the order of the list, and the text is read as the range. -/
theorem views_agree (a_writable : a.Writable) (b_writable : b.Writable) :
    let r := between a b
    r.SizesFit ∧ r.ListedBy r.positions ∧
      (∀ valueAt : Position → CellValue, r.TabulatedBy valueAt (r.valueRows valueAt)) ∧
      ofText? r.text = some r := by
  intro r
  obtain ⟨first, last⟩ := writable_between a_writable b_writable
  refine ⟨sizesFit_of_writable (ordered_between a b) last, r.listedBy_positions,
    r.tabulatedBy_valueRows, ?_⟩
  rw [ofText?_text first last, between_first_last]

/-- A range of two rows in the last two columns that can be written, given by its lower left and
its upper right corner. -/
theorem views_agree_at_last_columns :
    let r := between ⟨4294967293, 6, true, false⟩ ⟨4294967294, 5, false, true⟩
    let valueAt : Position → CellValue := fun p => .boolean (p.col < p.row)
    r.count = 4 ∧ r.SizesFit ∧ r.ListedBy r.positions ∧
      r.TabulatedBy valueAt (r.valueRows valueAt) ∧
      ofText? r.text = some r := by
  intro r valueAt
  obtain ⟨fits, listed, tabulated, read⟩ := views_agree (a := ⟨4294967293, 6, true, false⟩)
    (b := ⟨4294967294, 5, false, true⟩) ⟨by decide, by decide⟩ ⟨by decide, by decide⟩
  exact ⟨by decide, fits, listed, tabulated valueAt, read⟩

end Range
end Spreadsheet
