import Spreadsheet.Proofs.Workbook.Repair

/-!
# Editing the sheet directly

A host may write cells into the sheet and remove them without going through the workbook. The graph
and the kept trees do not follow. Evaluating all formulas again then evaluates each one by its kept
tree, which may belong to a text that is no longer stored, and orders them by the graph of the
texts before. So it makes a formula consistent exactly if its kept tree, where it has one, still
evaluates to the same as the text.
-/

namespace Spreadsheet

/-- A change of a sheet that the workbook does not see. -/
inductive SheetEdit where
  /-- A cell is written. -/
  | write (p : Position) (cell : Cell)
  /-- A cell is removed. -/
  | remove (p : Position)

/-- Makes a change of a sheet. -/
def Sheet.change (s : Sheet) : SheetEdit → Sheet
  | .write p cell => s.set p cell
  | .remove p => s.erase p

namespace Workbook

variable {w : Workbook} {p q : Position} {edits : List SheetEdit} {formula : String}

/-- Makes several changes of the sheet, in order, that the workbook does not see. -/
def editDirectly (w : Workbook) (edits : List SheetEdit) : Workbook :=
  { w with sheet := edits.foldl Sheet.change w.sheet }

/-! ## Evaluating by kept trees -/

/-- What a kept tree reads is known to the graph even after the text has been replaced. -/
theorem Tracked.reads_of_kept {e : Expr} (tracked : w.Tracked) (kept : w.parsed[p]? = some e)
    (read : q ∈ (w.editDirectly edits).treePrecedents p) : w.graph.Reads p q := by
  have kept_after : (w.editDirectly edits).parsed[p]? = some e := kept
  apply tracked.reads_of_mem_treePrecedents
  rw [treePrecedents_of_tree? (tree?_of_kept kept)]
  rw [treePrecedents_of_tree? (tree?_of_kept kept_after)] at read
  exact read

/-- If the graph knows what new texts read, and no formula reaches a cycle of it, every formula is
settled after all have been evaluated again. -/
theorem Tracked.settled_recalculate_editDirectly (tracked : w.Tracked)
    (notCircular : ∀ p, ((w.editDirectly edits).formula? p).isSome → ¬ w.graph.Circular p)
    (known : ∀ p q, w.parsed[p]? = none → ((w.editDirectly edits).formula? q).isSome →
      (w.editDirectly edits).textGraph.Reads p q → w.graph.Reads p q)
    (computes : ((w.editDirectly edits).formula? p).isSome) :
    (w.editDirectly edits).recalculate.Settled p := by
  refine settled_recalculateCells ?_ ?_ p (mem_ofList_formulas_iff.mpr computes)
  · intro p _ q member read
    cases kept : w.parsed[p]? with
    | some e => exact tracked.reads_of_kept kept read
    | none =>
        apply known p q kept (mem_ofList_formulas_iff.mp member)
        have unkept : (w.editDirectly edits).parsed[p]? = none := kept
        rw [treePrecedents, tree?_of_not_kept unkept] at read
        rw [Graph.Reads, precedentsOf_textGraph]
        exact read
  · exact fun p member => notCircular p (mem_ofList_formulas_iff.mp member)

/-- A settled formula is consistent exactly if its tree evaluates to the same as its text. -/
theorem Settled.consistent_iff (settled : w.Settled p) :
    w.Consistent p ↔
      ∀ formula, w.formula? p = some formula → w.treeValue p = w.ownValue formula := by
  constructor
  · intro consistent formula stored
    obtain ⟨cell, present, own⟩ := exists_cell_of_formula? stored
    rw [← settled cell formula present own]
    exact consistent cell formula present own
  · intro agrees cell formula present own
    rw [settled cell formula present own]
    exact agrees formula (formula?_of_cell present own)

/-- A formula without a kept tree is evaluated by its text. -/
theorem treeValue_of_tree?_eq_expression? (stored : w.formula? p = some formula)
    (unkept : w.tree? p = w.expression? p) : w.treeValue p = w.ownValue formula := by
  rw [treeValue, unkept, expression?, expression?_of_formula? stored, ownValue]
  cases Formula.parse formula <;> rfl

/-! ## Every direct edit -/

/-- Where the text is the same as before, its kept tree evaluates to the same. -/
theorem Tracked.evaluate_kept {e : Expr} (tracked : w.Tracked)
    (unchanged : (w.editDirectly edits).formula? p = w.formula? p)
    (stored : (w.editDirectly edits).formula? p = some formula) (kept : w.parsed[p]? = some e)
    (w' : Workbook) : w'.evaluate e = w'.ownValue formula := by
  obtain ⟨formula', stored', parse⟩ :=
    Record.expression?_eq_some_iff.mp ((tracked.matching p).expression_eq e kept)
  have same : formula' = formula :=
    Option.some.inj (stored'.symm.trans (unchanged.symm.trans stored))
  rw [ownValue, ← same, parse]

/-- Direct edits that change no formula are followed: they leave a tracked workbook. -/
theorem Tracked.editDirectly (tracked : w.Tracked)
    (unchanged : ∀ p, (w.editDirectly edits).formula? p = w.formula? p) :
    (w.editDirectly edits).Tracked where
  maxRangeCells_eq := tracked.maxRangeCells_eq
  mirrored := tracked.mirrored
  matching p := (tracked.matching p).of_same_formula (unchanged p) rfl rfl

/-- Evaluating all formulas again makes them consistent with all values that have been written
directly, as long as the formulas are the same and make no cycle. -/
theorem Tracked.consistent_recalculate_editDirectly (tracked : w.Tracked)
    (unchanged : ∀ p, (w.editDirectly edits).formula? p = w.formula? p) (acyclic : w.graph.Acyclic)
    (p : Position) : (w.editDirectly edits).recalculate.Consistent p :=
  (tracked.editDirectly unchanged).consistent_recalculate acyclic p

/-- After direct edits of any workbook, evaluating all formulas again marks all of them if one
reaches a cycle of the graph, which still is that of the texts before. If none does, and the graph
knows what formulas without a kept tree read of each other, then a formula is consistent exactly if
its kept tree, where it has one, evaluates to the same as the text that is now stored. -/
theorem consistent_recalculate_editDirectly_iff (reachable : w.Reachable)
    (edits : List SheetEdit) :
    ((∀ p, ((w.editDirectly edits).formula? p).isSome → ¬ w.graph.Circular p) →
      (∀ p q, w.parsed[p]? = none → ((w.editDirectly edits).formula? q).isSome →
        (w.editDirectly edits).textGraph.Reads p q → w.graph.Reads p q) →
      ∀ p, (w.editDirectly edits).recalculate.Consistent p ↔
        ∀ formula e, (w.editDirectly edits).formula? p = some formula → w.parsed[p]? = some e →
          (w.editDirectly edits).recalculate.evaluate e =
            (w.editDirectly edits).recalculate.ownValue formula) ∧
      ∀ q, ((w.editDirectly edits).formula? q).isSome → w.graph.Circular q →
        ∀ p, ((w.editDirectly edits).recalculate.record p).HoldsCircular := by
  refine ⟨fun notCircular known p => ?_, fun q computes circular =>
    holdsCircular_recalculate computes circular⟩
  have formula_eq : (w.editDirectly edits).recalculate.formula? p =
      (w.editDirectly edits).formula? p := formula?_congr (input_recalculate _ p)
  have tree_eq : (w.editDirectly edits).recalculate.tree? p = (w.editDirectly edits).tree? p :=
    tree?_recalculateCells _ _ p
  cases stored : (w.editDirectly edits).formula? p with
  | none => simpa using consistent_of_no_formula (formula_eq.trans stored)
  | some formula =>
      have computes : ((w.editDirectly edits).formula? p).isSome := by rw [stored]; rfl
      have settled := reachable.tracked.settled_recalculate_editDirectly notCircular known computes
      have stored_after := formula_eq.trans stored
      rw [settled.consistent_iff, stored_after]
      cases kept : w.parsed[p]? with
      | some e =>
          have kept_after : (w.editDirectly edits).parsed[p]? = some e := kept
          rw [treeValue, tree_eq, tree?_of_kept kept_after]
          simp
      | none =>
          have unkept : (w.editDirectly edits).parsed[p]? = none := kept
          have text_eq : (w.editDirectly edits).recalculate.tree? p =
              (w.editDirectly edits).recalculate.expression? p := by
            rw [tree_eq, tree?_of_not_kept unkept]
            exact (Record.expression?_congr formula_eq).symm
          simpa using treeValue_of_tree?_eq_expression? stored_after text_eq

/-- A value is written directly over one that a formula reads. -/
theorem consistent_of_value_written_directly :
    (((empty .empty ⟨.automatic, 4⟩).run
      [.edit ⟨0, 0⟩ "FALSE", .edit ⟨1, 0⟩ "=A1"]).editDirectly
        [.write ⟨0, 0⟩ (.ofValue (.boolean true))]).recalculate.Consistent ⟨1, 0⟩ := by
  let w := (empty .empty ⟨.automatic, 4⟩).run [.edit ⟨0, 0⟩ "FALSE", .edit ⟨1, 0⟩ "=A1"]
  let edits : List SheetEdit := [.write ⟨0, 0⟩ (.ofValue (.boolean true))]
  have reachable : w.Reachable := reachable_run_empty _ _ _
  have acyclic : w.graph.Acyclic := by decide +kernel
  have readers : (w.editDirectly edits).textGraph.precedents.keys = [⟨1, 0⟩] := by decide +kernel
  have kept : w.parsed[(⟨1, 0⟩ : Position)]?.isSome := by decide +kernel
  have unchanged : (w.editDirectly edits).formula? ⟨1, 0⟩ = w.formula? ⟨1, 0⟩ := by decide +kernel
  refine ((consistent_recalculate_editDirectly_iff reachable edits).1 ?_ ?_ ⟨1, 0⟩).mpr ?_
  · exact fun p _ => Graph.acyclic_iff_forall_not_circular.mp acyclic p
  · intro p q unkept _ reads
    have member := reads.mem_keys
    rw [readers, List.mem_singleton] at member
    rw [member] at unkept
    simp [unkept] at kept
  · exact fun formula e stored kept => reachable.tracked.evaluate_kept unchanged stored kept _

/-- A formula that is written directly over another one is not followed. -/
theorem not_forall_consistent_recalculate_editDirectly :
    ¬ ∀ (library : Library) (settings : Settings) (actions : List Action) (edits : List SheetEdit),
      (((empty library settings).run actions).editDirectly edits).textGraph.Acyclic → ∀ p,
      (((empty library settings).run actions).editDirectly edits).recalculate.Consistent p := by
  intro follows
  let w := (empty .empty ⟨.automatic, 4⟩).run [.edit ⟨0, 0⟩ "=\"old\""]
  let edits : List SheetEdit := [.write ⟨0, 0⟩ (.ofFormula "=\"new\"")]
  have stored : (w.editDirectly edits).recalculate.formula? ⟨0, 0⟩ = some "=\"new\"" := by
    decide +kernel
  obtain ⟨cell, present, own⟩ := exists_cell_of_formula? stored
  have value := follows .empty ⟨.automatic, 4⟩ [.edit ⟨0, 0⟩ "=\"old\""] edits (by decide +kernel)
    ⟨0, 0⟩ cell _ present own
  have held : ((w.editDirectly edits).recalculate.get? ⟨0, 0⟩).map Cell.display = some "old" := by
    decide +kernel
  have asked : ((w.editDirectly edits).recalculate.ownValue "=\"new\"").display = "new" := by
    decide +kernel
  rw [present, Option.map_some, Cell.display, value, asked] at held
  exact absurd held (by decide)

end Workbook
end Spreadsheet
