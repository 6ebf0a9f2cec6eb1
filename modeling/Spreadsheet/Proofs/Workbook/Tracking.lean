import Spreadsheet.Proofs.Workbook.Record

/-!
# Graph and trees match the stored texts

A workbook is tracked when the graph holds, for every cell, what the stored formula reads, and
every tree that is kept is the parse of the stored formula. Every operation on a workbook keeps it
tracked.
-/

namespace Spreadsheet

/-- The graph and the kept tree match the stored formula of a cell. -/
structure Record.Matches (maxRangeCells : Nat) (r : Record) : Prop where
  /-- The entry of the graph is what the formula reads, unless it reads nothing. -/
  precedents_eq : r.precedents =
    r.expression?.bind fun e => Graph.entryFor (e.precedents maxRangeCells)
  /-- The kept tree is the parse of the formula. -/
  expression_eq : ∀ e, r.parsed = some e → r.expression? = some e

namespace Record

variable {maxRangeCells : Nat} {r : Record} {e : Expr}

theorem matches_of_no_expression (unread : r.expression? = none) (precedents : r.precedents = none)
    (parsed : r.parsed = none) : r.Matches maxRangeCells where
  precedents_eq := by rw [unread, precedents]; rfl
  expression_eq e kept := by simp [parsed] at kept

theorem expression?_congr {r r' : Record} (same : r'.formula? = r.formula?) :
    r'.expression? = r.expression? := by
  rw [expression?, expression?, same]

theorem matches_of_no_formula (absent : r.formula? = none) (precedents : r.precedents = none)
    (parsed : r.parsed = none) : r.Matches maxRangeCells := by
  apply matches_of_no_expression _ precedents parsed
  rw [expression?, absent]
  rfl

theorem matches_of_parse {formula : String} (stored : r.formula? = some formula)
    (parse : Formula.parse formula = .ok e)
    (precedents : r.precedents = Graph.entryFor (e.precedents maxRangeCells))
    (parsed : r.parsed = some e) : r.Matches maxRangeCells := by
  have read : r.expression? = some e := expression?_eq_some_iff.mpr ⟨formula, stored, parse⟩
  refine ⟨by rw [read, precedents]; rfl, ?_⟩
  intro e' kept
  rw [read, ← parsed, kept]

theorem matches_of_syntax_error {formula : String} {cause : Formula.SyntaxError}
    (stored : r.formula? = some formula) (parse : Formula.parse formula = .error cause)
    (precedents : r.precedents = none) (parsed : r.parsed = none) : r.Matches maxRangeCells := by
  apply matches_of_no_expression _ precedents parsed
  rw [expression?, stored, Option.bind_some, parse]
  rfl

/-- A new value of the cell changes nothing of what has to match. -/
theorem Matches.of_same_formula {r' : Record} (matched : r.Matches maxRangeCells)
    (formula : r'.formula? = r.formula?) (precedents : r'.precedents = r.precedents)
    (parsed : r'.parsed = r.parsed) : r'.Matches maxRangeCells where
  precedents_eq := by rw [precedents, expression?_congr formula, matched.precedents_eq]
  expression_eq e kept := by
    rw [expression?_congr formula]
    exact matched.expression_eq e (parsed ▸ kept)

end Record

namespace Workbook

/-- The graph and the kept trees match the stored texts. -/
structure Tracked (w : Workbook) : Prop where
  /-- The graph leaves out the ranges that evaluation refuses. -/
  maxRangeCells_eq : w.graph.maxRangeCells = w.settings.maxRangeCells
  /-- The two directions of the graph agree. -/
  mirrored : w.graph.Mirrored
  /-- Every record matches. -/
  matching : ∀ p, (w.record p).Matches w.settings.maxRangeCells

variable {w before after : Workbook} {p q : Position} {e : Expr}

/-! ## What a tracked graph says -/

theorem Tracked.precedentsOf_of_expression (tracked : w.Tracked)
    (read : w.expression? p = some e) :
    w.graph.precedentsOf p = e.precedents w.settings.maxRangeCells := by
  have entry : w.graph.precedents[p]? = _ := (tracked.matching p).precedents_eq
  rw [Graph.precedentsOf_eq, entry, show (w.record p).expression? = some e from read]
  exact Graph.getD_entryFor

theorem Tracked.exists_expression_of_reads (tracked : w.Tracked) (reads : w.graph.Reads p q) :
    ∃ e, w.expression? p = some e ∧ q ∈ e.precedents w.settings.maxRangeCells := by
  cases read : w.expression? p with
  | some e =>
      rw [Graph.Reads, tracked.precedentsOf_of_expression read] at reads
      exact ⟨e, rfl, reads⟩
  | none =>
      have entry : w.graph.precedents[p]? = _ := (tracked.matching p).precedents_eq
      rw [show (w.record p).expression? = none from read] at entry
      rw [Graph.Reads, Graph.precedentsOf_eq, entry] at reads
      exact (Std.ExtTreeSet.not_mem_empty reads).elim

/-- A cell that reads another one stores a formula. -/
theorem Tracked.exists_formula_of_reads (tracked : w.Tracked) (reads : w.graph.Reads p q) :
    ∃ formula, w.formula? p = some formula := by
  obtain ⟨e, read, _⟩ := tracked.exists_expression_of_reads reads
  obtain ⟨formula, stored, _⟩ := Record.expression?_eq_some_iff.mp read
  exact ⟨formula, stored⟩

/-! ## Changes of one record -/

theorem tracked_empty (library : Library) (settings : Settings) :
    (empty library settings).Tracked where
  maxRangeCells_eq := rfl
  mirrored := Graph.mirrored_empty settings.maxRangeCells
  matching p := by
    apply Record.matches_of_no_formula
    · simp [Record.formula?, record, get?, empty]
    · simp [record, empty, Graph.empty]
    · simp [record, empty]

theorem Tracked.of_changesOnly (tracked : before.Tracked) (change : ChangesOnly {p} before after)
    (matched : (after.record p).Matches after.settings.maxRangeCells) : after.Tracked where
  maxRangeCells_eq := by
    rw [change.maxRangeCells, change.settings, tracked.maxRangeCells_eq]
  mirrored := change.mirrored tracked.mirrored
  matching q := by
    by_cases same : q = p
    · exact same ▸ matched
    · rw [change.record q same, change.settings]
      exact tracked.matching q

/-- Steps that keep a workbook tracked do so one after the other. -/
theorem Tracked.foldl {step : Workbook → Position → Workbook}
    (keeps : ∀ {w} p, w.Tracked → (step w p).Tracked) (tracked : w.Tracked)
    (list : List Position) : (list.foldl step w).Tracked :=
  List.foldlRecOn list step tracked fun _ tracked p _ => keeps p tracked

/-! ## Recalculation -/

theorem record_storeResult (w : Workbook) (p : Position) (value : CellValue) :
    ((w.storeResult p value).record p).formula? = (w.record p).formula? ∧
      ((w.storeResult p value).record p).precedents = (w.record p).precedents ∧
      ((w.storeResult p value).record p).parsed = (w.record p).parsed := by
  rw [storeResult]
  split
  · rename_i cell stored
    split
    · rw [record_setCell, if_pos rfl]
      refine ⟨?_, rfl, rfl⟩
      simp [Record.formula?, record, stored, Cell.withResult]
    · exact ⟨rfl, rfl, rfl⟩
  · exact ⟨rfl, rfl, rfl⟩

theorem Tracked.storeResult (tracked : w.Tracked) (p : Position) (value : CellValue) :
    (w.storeResult p value).Tracked := by
  have change := ChangesOnly.storeResult w p value
  obtain ⟨formula, precedents, parsed⟩ := record_storeResult w p value
  apply tracked.of_changesOnly change
  rw [change.settings]
  exact (tracked.matching p).of_same_formula formula precedents parsed

theorem Tracked.evaluateFormula {formula : String} (tracked : w.Tracked)
    (stored : w.formula? p = some formula) : (w.evaluateFormula p formula).2.Tracked := by
  rw [Workbook.evaluateFormula]
  split
  · exact tracked
  · split
    · rename_i e parse
      apply tracked.of_changesOnly (ChangesOnly.remember w p e)
      rw [record_remember, if_pos rfl]
      have read : (w.record p).expression? = some e :=
        Record.expression?_eq_some_iff.mpr ⟨formula, stored, parse⟩
      refine ⟨(tracked.matching p).precedents_eq, ?_⟩
      intro e' kept
      rw [← Option.some.inj kept]
      exact read
    · exact tracked

theorem Tracked.recalculateCell (p : Position) (tracked : w.Tracked) :
    (w.recalculateCell p).Tracked := by
  rw [Workbook.recalculateCell]
  split
  · rename_i formula stored
    exact (tracked.evaluateFormula stored).storeResult p _
  · exact tracked

theorem Tracked.recalculateCells (tracked : w.Tracked) (cells : PositionSet) :
    (w.recalculateCells cells).Tracked := by
  rw [Workbook.recalculateCells]
  split
  · exact tracked.foldl Tracked.recalculateCell _
  · exact tracked.foldl (fun p tracked => tracked.storeResult p _) _

theorem Tracked.recalculate (tracked : w.Tracked) : w.recalculate.Tracked :=
  tracked.recalculateCells _

/-! ## Editing -/

theorem Tracked.enterValue (tracked : w.Tracked) (p : Position) (text : String) :
    (w.enterValue p text).Tracked := by
  rw [Workbook.enterValue]
  split
  · have change := (ChangesOnly.untrack w p).trans (ChangesOnly.removeCell _ p)
    apply tracked.of_changesOnly change
    rw [record_removeCell, if_pos rfl, record_untrack, if_pos rfl]
    exact Record.matches_of_no_formula rfl rfl rfl
  · have change := (ChangesOnly.untrack w p).trans (ChangesOnly.setCell _ p (Entry.cell text))
    apply tracked.of_changesOnly change
    rw [record_setCell, if_pos rfl, record_untrack, if_pos rfl]
    exact Record.matches_of_no_formula rfl rfl rfl

theorem Tracked.enterFormula (tracked : w.Tracked) (p : Position) (formula : String) :
    (w.enterFormula p formula).Tracked := by
  rw [Workbook.enterFormula]
  split
  · rename_i cause parse
    apply tracked.of_changesOnly ((ChangesOnly.untrack w p).trans (ChangesOnly.setCell _ p _))
    rw [record_setCell, if_pos rfl, record_untrack, if_pos rfl]
    exact Record.matches_of_syntax_error rfl parse rfl rfl
  · rename_i e parse
    apply tracked.of_changesOnly ((ChangesOnly.track w p e).trans (ChangesOnly.setCell _ p _))
    rw [record_setCell, if_pos rfl, record_track, if_pos rfl]
    apply Record.matches_of_parse rfl parse _ rfl
    exact congrArg (fun limit => Graph.entryFor (e.precedents limit)) tracked.maxRangeCells_eq

theorem Tracked.enter (tracked : w.Tracked) (p : Position) (text : String) :
    (w.enter p text).Tracked := by
  rw [Workbook.enter]
  split
  · exact tracked.enterFormula p _
  · exact tracked.enterValue p text

theorem Tracked.edit (tracked : w.Tracked) (p : Position) (text : String) :
    (w.edit p text).Tracked := by
  rw [Workbook.edit]
  split
  · exact (tracked.enter p text).recalculateCells _
  · exact tracked.enter p text

theorem Tracked.setMode (tracked : w.Tracked) (mode : Mode) : (w.setMode mode).Tracked :=
  ⟨tracked.maxRangeCells_eq, tracked.mirrored, tracked.matching⟩

end Workbook
end Spreadsheet
