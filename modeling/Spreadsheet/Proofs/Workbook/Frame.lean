import Spreadsheet.Proofs.Workbook.Input

/-!
# What an edit leaves alone

An edit writes the edited cell and then, in automatic mode, results of the cells that depend on it.
It creates and removes no other cell, and the formulas and the typed-in values of other cells stay
as they are, whether the cascade evaluates its cells or finds a cycle among them. This needs no
more of the graph than that its two directions agree.
-/

namespace Spreadsheet

namespace Cell

/-- Two states of a cell with the same content: the results of a formula may differ. -/
structure SameContent (before after : Cell) : Prop where
  /-- The text of the formula stays. -/
  formula : after.formula = before.formula
  /-- A typed-in value stays. -/
  value : before.formula = none → after = before

/-- Cells have the same content when they are the same before any calculation. -/
theorem sameContent_iff {before after : Cell} :
    SameContent before after ↔ after.uncalculated = before.uncalculated := by
  constructor
  · intro same
    cases own : before.formula with
    | none => rw [same.value own]
    | some formula =>
        rw [uncalculated_of_formula own, uncalculated_of_formula (same.formula.trans own)]
  · intro same
    have formula : after.formula = before.formula := by
      rw [← formula_uncalculated, same, formula_uncalculated]
    refine ⟨formula, fun own => ?_⟩
    rwa [uncalculated_of_value own, uncalculated_of_value (formula.trans own)] at same

end Cell

namespace Workbook

variable {w before after : Workbook} {p q : Position}

/-- Where the inputs are the same, a cell is stored afterwards exactly if one was before, and its
content is the same. -/
theorem rel_sameContent_of_input_eq (same : after.input q = before.input q) :
    Option.Rel Cell.SameContent (before.get? q) (after.get? q) := by
  rw [input, input] at same
  cases stored : before.get? q with
  | none =>
      rw [stored, Option.map_none, Option.map_eq_none_iff] at same
      rw [same]
      exact .none
  | some cell =>
      rw [stored, Option.map_some, Option.map_eq_some_iff] at same
      obtain ⟨cell', stored', uncalculated⟩ := same
      rw [stored']
      exact .some (Cell.sameContent_iff.mpr uncalculated)

/-- An edit leaves every other cell exactly as it was unless, in automatic mode, that cell depends
on the edited one afterwards. No other cell is created or removed, none changes its formula or its
typed-in value, and none changes what it reads. -/
theorem edit_leaves_others (mirrored : w.graph.Mirrored) (p : Position) (text : String)
    (other : q ≠ p) :
    ((w.settings.mode = .automatic → ¬ (w.edit p text).graph.DependsOn q p) →
        (w.edit p text).get? q = w.get? q) ∧
      (w.settings.mode = .manual → (w.edit p text).get? q = w.get? q) ∧
      Option.Rel Cell.SameContent (w.get? q) ((w.edit p text).get? q) ∧
      (w.edit p text).graph.precedents[q]? = w.graph.precedents[q]? := by
  have entered : (w.enter p text).record q = w.record q :=
    (ChangesOnly.enter w p text).record q other
  have unchanged_of_manual (manual : w.settings.mode = .manual) :
      (w.edit p text).get? q = w.get? q := by
    rw [edit_of_manual manual]
    exact congrArg Record.cell entered
  refine ⟨fun independent => ?_, unchanged_of_manual, ?_, ?_⟩
  · cases mode : w.settings.mode with
    | automatic =>
        have outside : q ∉ w.reachedBy p text := not_or.mpr ⟨other, independent mode⟩
        exact (ChangesOnly.edit_reached mirrored p text).get?_eq outside
    | manual => exact unchanged_of_manual mode
  -- A dependent cell is written by the cascade, so its content is followed through its input.
  · apply rel_sameContent_of_input_eq
    rw [input_edit, if_neg (Ne.symm other)]
  · rw [graph_edit]
    exact congrArg Record.precedents entered

/-- `A1` is a value, `B1` reads it, and `C1` reads `B1`; `D1` reads `D2`. -/
def chain : Workbook :=
  (empty .empty ⟨.automatic, 4⟩).run
    [.edit ⟨0, 0⟩ "FALSE", .edit ⟨1, 0⟩ "=A1", .edit ⟨2, 0⟩ "=B1", .edit ⟨3, 0⟩ "=D2"]

/-- A new value of `A1` does not concern `D1`, and at the end of the chain only a result
changes. -/
theorem edit_leaves_others_of_chain :
    (chain.edit ⟨0, 0⟩ "TRUE").get? ⟨3, 0⟩ = chain.get? ⟨3, 0⟩ ∧
      Option.Rel Cell.SameContent (chain.get? ⟨2, 0⟩)
        ((chain.edit ⟨0, 0⟩ "TRUE").get? ⟨2, 0⟩) := by
  have mirrored : chain.graph.Mirrored := (tracked_run_empty .empty ⟨.automatic, 4⟩ _).mirrored
  have independent : ¬ (chain.edit ⟨0, 0⟩ "TRUE").graph.DependsOn ⟨3, 0⟩ ⟨0, 0⟩ := by
    rw [← mem_allReaders_enter mirrored]
    decide +kernel
  constructor
  · exact (edit_leaves_others mirrored ⟨0, 0⟩ "TRUE" (by decide)).1 fun _ => independent
  · exact (edit_leaves_others mirrored ⟨0, 0⟩ "TRUE" (by decide)).2.2.1

end Workbook
end Spreadsheet
