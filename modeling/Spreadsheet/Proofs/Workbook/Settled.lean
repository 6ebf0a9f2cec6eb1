import Spreadsheet.Proofs.Dependency.Footprint
import Spreadsheet.Proofs.Workbook.Reach

/-!
# Settled formulas

A formula is evaluated by the tree that has been kept for its cell; only where there is none its
text is parsed. A formula is settled when its cell holds what this tree evaluates to over the cells
that are stored. Evaluating formulas one after the other settles them if none reads, by its tree,
itself or one that comes later. Nothing here asks the kept trees to match the stored texts.
-/

namespace Spreadsheet

/-- The tree that evaluates the formula: the kept one, else the parse of the text. -/
def Record.tree? (r : Record) : Option Expr := r.parsed.or r.expression?

namespace Workbook

variable {w before after : Workbook} {p q : Position} {cells : Set Position} {e : Expr}
  {formula : String} {cell : Cell}

/-- The tree that evaluates the formula at a position. -/
def tree? (w : Workbook) (p : Position) : Option Expr := (w.record p).tree?

/-- What the formula at a position evaluates to by its tree. A text that is no formula is the error
for wrong values. -/
def treeValue (w : Workbook) (p : Position) : CellValue :=
  match w.tree? p with
  | some e => w.evaluate e
  | none => .error .value

/-- The cells that the formula at a position reads by its tree. -/
def treePrecedents (w : Workbook) (p : Position) : PositionSet :=
  ((w.tree? p).map (Expr.precedents w.settings.maxRangeCells)).getD ∅

/-- If the cell has a formula, its value is what its tree evaluates to. -/
def Settled (w : Workbook) (p : Position) : Prop :=
  ∀ cell formula, w.get? p = some cell → cell.formula = some formula → cell.value = w.treeValue p

theorem tree?_of_kept (kept : w.parsed[p]? = some e) : w.tree? p = some e := by
  rw [tree?, Record.tree?, show (w.record p).parsed = some e from kept]
  rfl

theorem tree?_of_not_kept (unkept : w.parsed[p]? = none) : w.tree? p = w.expression? p := by
  rw [tree?, Record.tree?, show (w.record p).parsed = none from unkept]
  rfl

theorem treePrecedents_of_tree? (kept : w.tree? p = some e) :
    w.treePrecedents p = e.precedents w.settings.maxRangeCells := by
  rw [treePrecedents, kept]
  rfl

/-! ## What does not change -/

theorem ChangesOnly.valueAt_eq (change : ChangesOnly cells before after) (other : q ∉ cells) :
    after.valueAt q = before.valueAt q := by
  rw [valueAt, valueAt, Sheet.valueAt, Sheet.valueAt]
  exact congrArg (fun cell : Option Cell => (cell.map Cell.value).getD .blank)
    (change.get?_eq other)

theorem ChangesOnly.evaluate_eq (change : ChangesOnly cells before after)
    (unread : ∀ r ∈ e.precedents before.settings.maxRangeCells, r ∉ cells) :
    after.evaluate e = before.evaluate e := by
  rw [evaluate, evaluate]
  congr 1
  apply Expr.value_eq_of_precedents change.library
  · exact congrArg Settings.maxRangeCells change.settings
  · exact fun r read => change.valueAt_eq (unread r read)

/-- A tree that reads none of the changed cells evaluates to the same as before. -/
theorem ChangesOnly.treeValue_eq (change : ChangesOnly cells before after)
    (same : after.tree? q = before.tree? q) (unread : ∀ r ∈ before.treePrecedents q, r ∉ cells) :
    after.treeValue q = before.treeValue q := by
  rw [treeValue, treeValue, same]
  cases kept : before.tree? q with
  | none => rfl
  | some e =>
      rw [treePrecedents_of_tree? kept] at unread
      exact change.evaluate_eq unread

/-- A settled cell stays settled when neither itself nor what it reads is changed. -/
theorem Settled.of_changesOnly (settled : before.Settled q)
    (change : ChangesOnly cells before after) (other : q ∉ cells)
    (unread : ∀ r ∈ before.treePrecedents q, r ∉ cells) : after.Settled q := by
  intro cell formula present own
  rw [change.get?_eq other] at present
  have same : after.tree? q = before.tree? q := congrArg Record.tree? (change.record q other)
  rw [change.treeValue_eq same unread]
  exact settled cell formula present own

/-! ## Evaluating one cell again -/

theorem get?_storeResult {value : CellValue} (present : w.get? p = some cell)
    (own : cell.formula = some formula) :
    (w.storeResult p value).get? p = some (cell.withResult value) := by
  have computes : cell.isFormula := by rw [Cell.isFormula, own, Option.isSome_some]
  rw [storeResult, present]
  dsimp only
  rw [if_pos computes, get?_setCell, if_pos rfl]

theorem expression?_of_formula? (stored : w.formula? p = some formula) :
    (w.record p).expression? = (Formula.parse formula).toOption := by
  rw [Record.expression?, show (w.record p).formula? = _ from stored, Option.bind_some]

theorem evaluateFormula_value (stored : w.formula? p = some formula) :
    (w.evaluateFormula p formula).1 = w.treeValue p := by
  rw [evaluateFormula, treeValue, tree?, Record.tree?, expression?_of_formula? stored,
    show (w.record p).parsed = w.parsed[p]? from rfl]
  cases w.parsed[p]? with
  | some e => rfl
  | none => cases Formula.parse formula <;> rfl

@[simp] theorem tree?_storeResult (w : Workbook) (p q : Position) (value : CellValue) :
    (w.storeResult p value).tree? q = w.tree? q := by
  by_cases same : q = p
  · obtain ⟨formula_eq, _, parsed_eq⟩ := record_storeResult w p value
    rw [same, tree?, tree?, Record.tree?, Record.tree?, parsed_eq,
      Record.expression?_congr formula_eq]
  · exact congrArg Record.tree? ((ChangesOnly.storeResult w p value).record q same)

/-- Evaluating a formula may keep its tree but does not exchange it. -/
theorem tree?_evaluateFormula (stored : w.formula? p = some formula) :
    (w.evaluateFormula p formula).2.tree? p = w.tree? p := by
  rw [evaluateFormula]
  cases kept : w.parsed[p]? with
  | some e => rfl
  | none =>
      cases parse : Formula.parse formula with
      | error cause => rfl
      | ok e =>
          change (w.remember p e).tree? p = _
          rw [tree?, tree?, record_remember, if_pos rfl, Record.tree?, Record.tree?,
            expression?_of_formula? stored, parse, show (w.record p).parsed = none from kept]
          rfl

@[simp] theorem tree?_recalculateCell (w : Workbook) (p q : Position) :
    (w.recalculateCell p).tree? q = w.tree? q := by
  by_cases same : q = p
  · subst same
    rw [recalculateCell]
    split
    · rename_i formula stored
      exact (tree?_storeResult _ q q _).trans (tree?_evaluateFormula stored)
    · rfl
  · exact congrArg Record.tree? ((ChangesOnly.recalculateCell w p).record q same)

@[simp] theorem tree?_recalculateCells (w : Workbook) (members : PositionSet) (q : Position) :
    (w.recalculateCells members).tree? q = w.tree? q := by
  rw [recalculateCells]
  split
  · exact List.foldlRecOn (motive := fun after : Workbook => after.tree? q = w.tree? q) _ _ rfl
      fun after same p _ => (tree?_recalculateCell after p q).trans same
  · exact List.foldlRecOn (motive := fun after : Workbook => after.tree? q = w.tree? q) _ _ rfl
      fun after same p _ => (tree?_storeResult after p q _).trans same

theorem treePrecedents_recalculateCell (w : Workbook) (p q : Position) :
    (w.recalculateCell p).treePrecedents q = w.treePrecedents q := by
  rw [treePrecedents, treePrecedents, tree?_recalculateCell,
    (ChangesOnly.recalculateCell w p).settings]

theorem get?_recalculateCell (present : w.get? p = some cell) (own : cell.formula = some formula) :
    (w.recalculateCell p).get? p = some (cell.withResult (w.treeValue p)) := by
  have stored := formula?_of_cell present own
  rw [recalculateCell, present, Option.bind_some, own]
  dsimp only
  rw [evaluateFormula_value stored]
  apply get?_storeResult _ own
  rw [get?, (evaluateFormula_sheet w p formula).1]
  exact present

/-- A cell that does not read itself is settled once it has been evaluated again. -/
theorem settled_recalculateCell (unread : p ∉ w.treePrecedents p) :
    (w.recalculateCell p).Settled p := by
  intro cell formula present own
  have stored : w.formula? p = some formula := by
    rw [← formula?_recalculateCell w p]
    exact formula?_of_cell present own
  obtain ⟨cell_before, present_before, own_before⟩ := exists_cell_of_formula? stored
  have recalculated := get?_recalculateCell present_before own_before
  have others : ∀ r ∈ w.treePrecedents p, r ∉ ({p} : Set Position) :=
    fun r read same => unread (same ▸ read)
  rw [(ChangesOnly.recalculateCell w p).treeValue_eq (tree?_recalculateCell w p p) others]
  rw [Option.some.inj (present.symm.trans recalculated)]
  rfl

/-! ## Evaluating several cells again -/

/-- When no cell reads itself or one that comes later, all cells end up settled: what is evaluated
later is read by none of the earlier cells. -/
theorem settled_foldl_recalculateCell {order : List Position} (distinct : order.Nodup)
    (independent : ∀ p ∈ order, p ∉ w.treePrecedents p)
    (sorted : order.Pairwise fun earlier later => later ∉ w.treePrecedents earlier) :
    ∀ p ∈ order, (order.foldl Workbook.recalculateCell w).Settled p := by
  induction order generalizing w with
  | nil => simp
  | cons first rest ih =>
      obtain ⟨first_notin, distinct⟩ := List.nodup_cons.mp distinct
      obtain ⟨first_sorted, sorted⟩ := List.pairwise_cons.mp sorted
      intro p member
      rcases List.mem_cons.mp member with rfl | member
      -- The first cell reads only what nothing in the rest changes any more.
      · have settled := settled_recalculateCell (independent p List.mem_cons_self)
        have change : ChangesOnly {q | q ∈ rest} (w.recalculateCell p)
            (rest.foldl Workbook.recalculateCell (w.recalculateCell p)) :=
          ChangesOnly.foldl (fun w q _ => .recalculateCell w q) _
        apply settled.of_changesOnly change first_notin
        rw [treePrecedents_recalculateCell]
        exact fun r read member => first_sorted r member read
      · refine ih distinct ?_ ?_ p member
        · intro q member
          rw [treePrecedents_recalculateCell]
          exact independent q (List.mem_cons_of_mem first member)
        · apply sorted.imp
          intro earlier later unread
          rw [treePrecedents_recalculateCell]
          exact unread

/-- When the graph knows what the given cells read of each other by their trees, and none of them
reaches a cycle, all of them end up settled. -/
theorem settled_recalculateCells {members : PositionSet}
    (known : ∀ p ∈ members, ∀ q ∈ members, q ∈ w.treePrecedents p → w.graph.Reads p q)
    (notCircular : ∀ p ∈ members, ¬ w.graph.Circular p) :
    ∀ p ∈ members, (w.recalculateCells members).Settled p := by
  rw [recalculateCells]
  cases found : w.graph.calculationOrder members with
  | error cycle =>
      obtain ⟨p, member, circular⟩ := Graph.exists_circular_of_eq_error found
      exact (notCircular p member circular).elim
  | ok order =>
      have sorting := (Graph.isCalculationOrder_of_eq_ok found).1
      have independent : ∀ p ∈ order, p ∉ w.treePrecedents p := by
        intro p listed read
        have member := (sorting.mem_iff p).mp listed
        exact Graph.not_dependsOn_self_of_not_circular (notCircular p member)
          (.single (known p member p member read))
      have sorted : order.Pairwise fun earlier later => later ∉ w.treePrecedents earlier := by
        refine sorting.sorted.imp_of_mem fun {p q} p_listed q_listed independent read => ?_
        exact independent (.single (known p ((sorting.mem_iff p).mp p_listed) q
          ((sorting.mem_iff q).mp q_listed) read))
      intro p member
      exact settled_foldl_recalculateCell sorting.nodup independent sorted p
        ((sorting.mem_iff p).mpr member)

end Workbook
end Spreadsheet
