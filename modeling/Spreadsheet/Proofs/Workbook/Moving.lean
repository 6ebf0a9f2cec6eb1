import Spreadsheet.Proofs.Dependency.Relocation
import Spreadsheet.Proofs.Workbook.Repair

/-!
# Moved workbooks

One workbook may be carried into another one: its cells stand at other places there, and its
formulas are written differently but say the same about the moved cells. Without cycles, consistent
formulas have the same values in both. The induction is along the reading relation.
-/

namespace Spreadsheet

/-- The value of a cell and the error that it is. -/
def Cell.result (c : Cell) : CellValue × Option ErrorCode := (c.value, c.error)

variable {move : Position → Option Position} {limit : Nat} {p q : Position} {e e' : Expr}

/-- A tree says about the moved cells what another tree says about the cells. -/
structure Expr.Carried (move : Position → Option Position) (limit : Nat) (e e' : Expr) : Prop where
  /-- It reads moved cells only. -/
  reads : ∀ q ∈ e'.precedents limit, ∃ p ∈ e.precedents limit, move p = some q
  /-- Where the moved cells have the values of the cells it has the same value. -/
  value : ∀ before after : Surroundings, after.library = before.library →
    before.maxRangeCells = limit → after.maxRangeCells = limit →
    (∀ p ∈ e.precedents limit, ∀ q, move p = some q → after.valueAt q = before.valueAt p) →
    e'.value after = e.value before

/-- A shifted tree whose references move as a whole says the same about the moved cells. -/
theorem Expr.carried_shift {s : Shift} (proper : ∀ reference ∈ e.references, reference.Proper)
    (whole : ∀ reference ∈ e.references, reference.MovesWhole s) :
    Expr.Carried (Position.shift? s) limit e (e.shift s) where
  reads q read := (Expr.mem_precedents_shift fun reference member =>
    (whole reference member).exists_mem_positions_iff (proper reference member)).mp read
  value before after library before_limit after_limit same := by
    refine Expr.value_shift e
      ⟨library, after_limit.trans before_limit.symm, proper, whole, ?_⟩
    intro reference member p covers
    rw [before_limit] at covers
    obtain ⟨q, arrives⟩ := (whole reference member).exists_shift? (proper reference member) covers
    rw [Position.moved_eq_of_shift? arrives]
    exact same p (mem_positionsOf.mpr ⟨reference, member, covers⟩) q arrives

/-- A tree says the same about cells that stay. -/
theorem Expr.carried_refl (e : Expr) (limit : Nat) : Expr.Carried some limit e e where
  reads q read := ⟨q, read, rfl⟩
  value before after library before_limit after_limit same := by
    apply Expr.value_eq_of_precedents library (after_limit.trans before_limit.symm)
    intro p read
    exact same p (before_limit ▸ read) p rfl

namespace Workbook

variable {w w' : Workbook}

/-- What one workbook stores is found at other places in another one, its formulas maybe written
differently. -/
structure Carried (move : Position → Option Position) (w w' : Workbook) : Prop where
  /-- The functions are the same. -/
  library : w'.library = w.library
  /-- The range limit is the same. -/
  maxRangeCells : w'.settings.maxRangeCells = w.settings.maxRangeCells
  /-- Different cells move to different places. -/
  injective : ∀ {p p' q}, move p = some q → move p' = some q → p = p'
  /-- Values are moved, and formulas say the same about moved cells. -/
  cell : ∀ {p q}, move p = some q →
    (w.formula? p = none ∧ w'.get? q = w.get? p) ∨
      ∃ e e', w.expression? p = some e ∧ w'.expression? q = some e' ∧
        Expr.Carried move w.settings.maxRangeCells e e'
  /-- Nothing else is stored. -/
  source : ∀ {q cell}, w'.get? q = some cell → ∃ p, move p = some q

theorem exists_cell_of_expression? (read : w.expression? p = some e) :
    ∃ cell formula, w.get? p = some cell ∧ cell.formula = some formula ∧
      Formula.parse formula = .ok e := by
  obtain ⟨formula, stored, parse⟩ := Record.expression?_eq_some_iff.mp read
  obtain ⟨cell, present, own⟩ := exists_cell_of_formula? stored
  exact ⟨cell, formula, present, own, parse⟩

theorem mem_formulas_of_formula? {formula : String} (stored : w.formula? p = some formula) :
    p ∈ w.sheet.formulas := by
  apply Sheet.mem_formulas_iff.mpr
  change (w.formula? p).isSome
  rw [stored]
  rfl

theorem Consistent.value_eq {cell : Cell} (consistent : w.Consistent p)
    (read : w.expression? p = some e) (present : w.get? p = some cell) :
    cell.value = w.evaluate e := by
  obtain ⟨cell', formula, present', own, parse⟩ := exists_cell_of_expression? read
  obtain rfl := Option.some.inj (present.symm.trans present')
  rw [consistent cell formula present own, ownValue, parse]

theorem valueAt_of_get? {cell : Cell} (present : w.get? p = some cell) :
    w.valueAt p = cell.value := by
  rw [valueAt, Sheet.valueAt, show w.sheet.get? p = some cell from present]
  rfl

theorem Consistent.valueAt_eq (consistent : w.Consistent p) (read : w.expression? p = some e) :
    w.valueAt p = w.evaluate e := by
  obtain ⟨cell, _, present, _, _⟩ := exists_cell_of_expression? read
  rw [valueAt_of_get? present, consistent.value_eq read present]

namespace Carried

/-- A moved formula reads moved cells only. -/
theorem exists_reads (carried : Carried move w w') (tracked : w.Tracked) (tracked' : w'.Tracked)
    {r : Position} (reads : w'.graph.Reads q r) :
    ∃ p p', move p = some q ∧ move p' = some r ∧ w.graph.Reads p p' := by
  obtain ⟨e', read', member⟩ := tracked'.exists_expression_of_reads reads
  obtain ⟨cell, formula, present, own, _⟩ := exists_cell_of_expression? read'
  obtain ⟨p, arrives⟩ := carried.source present
  rcases carried.cell arrives with ⟨absent, same⟩ | ⟨e, e'', read, read'', expression⟩
  · rw [formula?_of_cell (same.symm.trans present) own] at absent
    contradiction
  · obtain rfl := Option.some.inj (read'.symm.trans read'')
    rw [carried.maxRangeCells] at member
    obtain ⟨p', read_p', arrives'⟩ := expression.reads r member
    refine ⟨p, p', arrives, arrives', ?_⟩
    rw [Graph.Reads, tracked.precedentsOf_of_expression read]
    exact read_p'

theorem exists_dependsOn (carried : Carried move w w') (tracked : w.Tracked)
    (tracked' : w'.Tracked) {r : Position} (path : w'.graph.DependsOn q r) :
    ∃ p p', move p = some q ∧ move p' = some r ∧ w.graph.DependsOn p p' := by
  induction path with
  | single reads =>
      obtain ⟨p, p', arrives, arrives', reads⟩ := carried.exists_reads tracked tracked' reads
      exact ⟨p, p', arrives, arrives', .single reads⟩
  | tail _ reads ih =>
      obtain ⟨p, middle, arrives, middle_arrives, path⟩ := ih
      obtain ⟨middle', p', middle_arrives', arrives', reads⟩ :=
        carried.exists_reads tracked tracked' reads
      obtain rfl := carried.injective middle_arrives middle_arrives'
      exact ⟨p, p', arrives, arrives', path.tail reads⟩

/-- Moving makes no cycle. -/
theorem acyclic (carried : Carried move w w') (tracked : w.Tracked) (tracked' : w'.Tracked)
    (acyclic : w.graph.Acyclic) : w'.graph.Acyclic := by
  intro q cycle
  obtain ⟨p, p', arrives, arrives', path⟩ := carried.exists_dependsOn tracked tracked' cycle
  obtain rfl := carried.injective arrives arrives'
  exact acyclic p path

/-- Without cycles, consistent formulas keep their values when they are moved. -/
theorem valueAt_eq (carried : Carried move w w') (tracked : w.Tracked) (acyclic : w.graph.Acyclic)
    (consistent : ∀ p, w.Consistent p) (consistent' : ∀ q, w'.Consistent q)
    (arrives : move p = some q) : w'.valueAt q = w.valueAt p := by
  induction p using acyclic.wellFounded.induction generalizing q with
  | h p ih =>
      rcases carried.cell arrives with ⟨_, same⟩ | ⟨e, e', read, read', expression⟩
      · rw [valueAt, valueAt, Sheet.valueAt, Sheet.valueAt]
        exact congrArg (fun cell : Option Cell => (cell.map Cell.value).getD .blank) same
      · rw [(consistent' q).valueAt_eq read', (consistent p).valueAt_eq read, evaluate, evaluate]
        congr 1
        apply expression.value w.surroundings w'.surroundings carried.library rfl
          carried.maxRangeCells
        intro r member target r_arrives
        apply ih r _ r_arrives
        rw [Graph.Reads, tracked.precedentsOf_of_expression read]
        exact member

/-- Without cycles, moved cells keep their results. -/
theorem result_eq (carried : Carried move w w') (tracked : w.Tracked) (acyclic : w.graph.Acyclic)
    (consistent : ∀ p, w.Consistent p) (consistent' : ∀ q, w'.Consistent q)
    (kept : w.sheet.WellKept) (kept' : w'.sheet.WellKept) (arrives : move p = some q) :
    (w'.get? q).map Cell.result = (w.get? p).map Cell.result := by
  rcases carried.cell arrives with ⟨_, same⟩ | ⟨e, e', read, read', _⟩
  · rw [same]
  · obtain ⟨cell, _, present, _, _⟩ := exists_cell_of_expression? read
    obtain ⟨cell', _, present', _, _⟩ := exists_cell_of_expression? read'
    have value_eq := carried.valueAt_eq tracked acyclic consistent consistent' arrives
    rw [valueAt_of_get? present, valueAt_of_get? present'] at value_eq
    have error_eq : cell'.error = cell.error := by
      rw [kept'.inStep q cell' present', kept.inStep p cell present, value_eq]
    rw [present, present', Option.map_some, Option.map_some, Cell.result, Cell.result, value_eq,
      error_eq]

end Carried

end Workbook
end Spreadsheet
