import Spreadsheet.Proofs.Workbook.Settled

/-!
# Consistent formulas

A formula is consistent when its cell holds what the formula evaluates to over the cells that are
stored. An edit evaluates again the formulas that depend on the edited cell, each after those that
it reads. All others read nothing that the edit has changed.
-/

namespace Spreadsheet
namespace Workbook

variable {w before after : Workbook} {p q : Position} {cells : Set Position} {e : Expr}
  {formula : String} {cell : Cell}

/-- What a formula evaluates to over the stored cells. A text that is no formula is the error for
wrong values. -/
def ownValue (w : Workbook) (formula : String) : CellValue :=
  match Formula.parse formula with
  | .ok e => w.evaluate e
  | .error _ => .error .value

/-- If the cell has a formula, its value is what the formula evaluates to. -/
def Consistent (w : Workbook) (p : Position) : Prop :=
  ∀ cell formula, w.get? p = some cell → cell.formula = some formula →
    cell.value = w.ownValue formula

/-! ## What does not change -/

/-- A formula that reads none of the changed cells evaluates to the same as before. -/
theorem ChangesOnly.ownValue_eq (change : ChangesOnly cells before after)
    (tracked : before.Tracked) (stored : before.formula? q = some formula)
    (unread : ∀ r, before.graph.Reads q r → r ∉ cells) :
    after.ownValue formula = before.ownValue formula := by
  rw [ownValue, ownValue]
  split
  · rename_i e parse
    have read : before.expression? q = some e :=
      Record.expression?_eq_some_iff.mpr ⟨formula, stored, parse⟩
    apply change.evaluate_eq
    rw [← tracked.precedentsOf_of_expression read]
    exact unread
  · rfl

/-- A consistent cell stays consistent when neither itself nor what it reads is changed. -/
theorem Consistent.of_changesOnly (consistent : before.Consistent q) (tracked : before.Tracked)
    (change : ChangesOnly cells before after) (other : q ∉ cells)
    (unread : ∀ r, before.graph.Reads q r → r ∉ cells) : after.Consistent q := by
  intro cell formula present own
  rw [change.get?_eq other] at present
  have stored := formula?_of_cell present own
  rw [change.ownValue_eq tracked stored unread]
  exact consistent cell formula present own

/-! ## Evaluating cells again -/

/-- In a tracked workbook formulas are evaluated by the parse of their texts. -/
theorem Tracked.tree?_eq (tracked : w.Tracked) (p : Position) : w.tree? p = w.expression? p := by
  rw [tree?, Record.tree?, expression?]
  cases kept : (w.record p).parsed with
  | none => rfl
  | some e => exact ((tracked.matching p).expression_eq e kept).symm

theorem Tracked.treeValue_eq (tracked : w.Tracked) (stored : w.formula? p = some formula) :
    w.treeValue p = w.ownValue formula := by
  rw [treeValue, tracked.tree?_eq, expression?, expression?_of_formula? stored, ownValue]
  cases Formula.parse formula <;> rfl

theorem Tracked.consistent_of_settled (tracked : w.Tracked) (settled : w.Settled p) :
    w.Consistent p := by
  intro cell formula present own
  rw [← tracked.treeValue_eq (formula?_of_cell present own)]
  exact settled cell formula present own

theorem Tracked.reads_of_mem_treePrecedents (tracked : w.Tracked) (read : q ∈ w.treePrecedents p) :
    w.graph.Reads p q := by
  rw [treePrecedents, tracked.tree?_eq] at read
  cases parsed : w.expression? p with
  | none =>
      rw [parsed] at read
      exact (Std.ExtTreeSet.not_mem_empty read).elim
  | some e =>
      rw [parsed] at read
      rw [Graph.Reads, tracked.precedentsOf_of_expression parsed]
      exact read

/-- When none of the given cells reaches a cycle, all of them end up consistent. -/
theorem Tracked.consistent_recalculateCells {members : PositionSet} (tracked : w.Tracked)
    (notCircular : ∀ p ∈ members, ¬ w.graph.Circular p) :
    ∀ p ∈ members, (w.recalculateCells members).Consistent p := by
  intro p member
  apply (tracked.recalculateCells members).consistent_of_settled
  refine settled_recalculateCells ?_ notCircular p member
  exact fun p _ q _ read => tracked.reads_of_mem_treePrecedents read

/-! ## Editing -/

theorem enterFormula_of_syntax_error {cause : Formula.SyntaxError}
    (parse : Formula.parse formula = .error cause) :
    w.enterFormula p formula =
      (w.untrack p).setCell p ((Cell.ofFormula formula).withResult (.error .value)) := by
  rw [enterFormula, parse]

theorem enterFormula_of_parse (parse : Formula.parse formula = .ok e) :
    w.enterFormula p formula =
      (w.track p e).setCell p ((Cell.ofFormula formula).withResult
        (if (w.track p e).graph.reachesCycle p then .error .circular
          else (w.track p e).evaluate e)) := by
  rw [enterFormula, parse]

theorem precedentsOf_track (w : Workbook) (p : Position) (e : Expr) :
    (w.track p e).graph.precedentsOf p = e.precedents w.graph.maxRangeCells := by
  rw [track, Graph.setReferences, Graph.precedentsOf_setPrecedents, if_pos rfl]
  rfl

/-- A new formula that reaches no cycle gets its own value. -/
theorem Tracked.get?_enterFormula (tracked : w.Tracked)
    (notCircular : ¬ (w.enterFormula p formula).graph.Circular p) :
    (w.enterFormula p formula).get? p = some
      ((Cell.ofFormula formula).withResult ((w.enterFormula p formula).ownValue formula)) := by
  cases parse : Formula.parse formula with
  | error cause =>
      rw [enterFormula_of_syntax_error parse, get?_setCell, if_pos rfl, ownValue, parse]
  | ok e =>
      rw [enterFormula_of_parse parse] at notCircular ⊢
      have misses : ¬ (w.track p e).graph.reachesCycle p = true := fun reaches =>
        notCircular (Graph.reachesCycle_iff.mp reaches)
      rw [if_neg misses, get?_setCell, if_pos rfl, ownValue, parse]
      dsimp only
      -- The value is computed before it is stored: only a formula that reads itself could tell.
      rw [(ChangesOnly.setCell (w.track p e) p _).evaluate_eq]
      rintro r read rfl
      have reads : (w.track r e).graph.Reads r r := by
        rw [Graph.Reads, precedentsOf_track, tracked.maxRangeCells_eq]
        exact read
      exact Graph.not_dependsOn_self_of_not_circular notCircular (.single reads)

/-- A new formula that reaches a cycle gets the error for circular references. -/
theorem get?_enterFormula_of_circular (circular : (w.enterFormula p formula).graph.Circular p) :
    (w.enterFormula p formula).get? p =
      some ((Cell.ofFormula formula).withResult (.error .circular)) := by
  cases parse : Formula.parse formula with
  -- A text that cannot be parsed reads nothing, so no cycle can be reached from it.
  | error cause =>
      rw [enterFormula_of_syntax_error parse] at circular
      obtain ⟨q, reads, _⟩ := Graph.circular_iff_exists_reads.mp circular
      have nothing : (w.untrack p).graph.precedentsOf p = ∅ :=
        Graph.precedentsOf_erase.trans (if_pos rfl)
      have reads : q ∈ (w.untrack p).graph.precedentsOf p := reads
      rw [nothing] at reads
      exact (Std.ExtTreeSet.not_mem_empty reads).elim
  | ok e =>
      rw [enterFormula_of_parse parse] at circular ⊢
      have reaches : (w.track p e).graph.reachesCycle p = true :=
        Graph.reachesCycle_iff.mpr circular
      rw [if_pos reaches, get?_setCell, if_pos rfl]

/-- A typed-in value is no formula. -/
theorem formula?_enterValue (w : Workbook) (p : Position) (text : String) :
    (w.enterValue p text).formula? p = none := by
  rw [enterValue]
  split
  · change ((w.untrack p).removeCell p).formula? p = none
    rw [formula?, record_removeCell, if_pos rfl]
    rfl
  · rw [formula?, record_setCell, if_pos rfl]
    rfl

/-- What is typed in is consistent unless it reaches a cycle. -/
theorem Tracked.consistent_enter (tracked : w.Tracked) (p : Position) (text : String)
    (notCircular : ¬ (w.enter p text).graph.Circular p) : (w.enter p text).Consistent p := by
  rw [Workbook.enter] at notCircular ⊢
  split
  · rename_i rest trimmed
    rw [trimmed] at notCircular
    intro cell formula present own
    rw [tracked.get?_enterFormula notCircular] at present
    rw [← Option.some.inj present] at own ⊢
    rw [← Option.some.inj own]
    rfl
  · intro cell formula present own
    have absent := formula?_enterValue w p text
    rw [formula?_of_cell present own] at absent
    contradiction

/-- Once the readers of a cell have been evaluated again, they are consistent, and so is every
other cell that was. -/
theorem Tracked.consistent_recalculateReaders (tracked : w.Tracked)
    (notCircular : ∀ q, w.graph.DependsOn q p → ¬ w.graph.Circular q)
    (others : ¬ w.graph.DependsOn q p → w.Consistent q) :
    (w.recalculateReaders p).Consistent q := by
  have readers : ∀ {q}, q ∈ w.graph.allReaders p ↔ w.graph.DependsOn q p :=
    Graph.mem_allReaders tracked.mirrored
  by_cases dependent : w.graph.DependsOn q p
  · apply tracked.consistent_recalculateCells _ q (readers.mpr dependent)
    exact fun q member => notCircular q (readers.mp member)
  · have outside : q ∉ w.graph.allReaders p := fun member => dependent (readers.mp member)
    apply (others dependent).of_changesOnly tracked (ChangesOnly.recalculateCells w _) outside
    exact fun r reads member => dependent (.head reads (readers.mp member))

/-- In automatic mode the cells that an edit reaches are consistent afterwards, unless one of them
reaches a cycle. -/
theorem Tracked.consistent_edit_of_reached (tracked : w.Tracked)
    (automatic : w.settings.mode = .automatic) {text : String}
    (notCircular : ∀ q ∈ w.reachedBy p text, ¬ (w.edit p text).graph.Circular q)
    (reached : q ∈ w.reachedBy p text) : (w.edit p text).Consistent q := by
  rw [reachedBy, graph_edit] at notCircular reached
  rw [edit_of_automatic automatic]
  apply (tracked.enter p text).consistent_recalculateReaders
  · exact fun r dependent => notCircular r (.inr dependent)
  · intro independent
    obtain rfl : q = p := reached.resolve_right independent
    exact tracked.consistent_enter q text (notCircular q (.inl rfl))

/-- An edit in automatic mode after which neither the edited cell nor any cell that depends on it
reaches a cycle leaves all formulas consistent that reach no cycle, provided that they were so
before. -/
theorem consistent_edit (tracked : w.Tracked) (automatic : w.settings.mode = .automatic)
    (consistent : ∀ q, ¬ w.graph.Circular q → w.Consistent q) (p : Position) (text : String)
    (notCircular : ∀ q ∈ w.reachedBy p text, ¬ (w.edit p text).graph.Circular q) :
    ∀ q, ¬ (w.edit p text).graph.Circular q → (w.edit p text).Consistent q := by
  intro q q_notCircular
  by_cases reached : q ∈ w.reachedBy p text
  · exact tracked.consistent_edit_of_reached automatic notCircular reached
  · have q_before : ¬ w.graph.Circular q := fun circular =>
      q_notCircular ((circular_edit_iff reached).mpr circular)
    apply (consistent q q_before).of_changesOnly tracked (tracked.changesOnly_edit p text) reached
    exact fun r reads => not_reached_of_reads reached reads

/-- Two edits of an empty workbook: a formula, and the cell that it reads. -/
theorem consistent_edit_of_read_cell :
    (((empty .empty ⟨.automatic, 4⟩).edit ⟨1, 0⟩ "=A1").edit ⟨0, 0⟩ "TRUE").Consistent ⟨1, 0⟩ := by
  have tracked := tracked_empty .empty ⟨.automatic, 4⟩
  have tracked_formula := tracked.edit ⟨1, 0⟩ "=A1"
  have tracked_value := tracked_formula.edit ⟨0, 0⟩ "TRUE"
  have nothing : ∀ q, (empty .empty ⟨.automatic, 4⟩).Consistent q := fun q cell _ present => by
    simp [get?, empty] at present
  have formula := consistent_edit tracked rfl (fun q _ => nothing q) ⟨1, 0⟩ "=A1"
    ((Graph.forall_dependent_iff tracked_formula.mirrored).mpr (by decide +kernel))
  exact consistent_edit tracked_formula (by decide +kernel) formula ⟨0, 0⟩ "TRUE"
    ((Graph.forall_dependent_iff tracked_value.mirrored).mpr (by decide +kernel)) ⟨1, 0⟩
    (by decide +kernel)

end Workbook
end Spreadsheet
