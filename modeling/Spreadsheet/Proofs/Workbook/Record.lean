import Mathlib.Data.Set.Insert
import Spreadsheet.Proofs.Dependency.Mirror
import Spreadsheet.Proofs.Dependency.Order
import Spreadsheet.Proofs.Movement
import Spreadsheet.Workbook.Editing
import Spreadsheet.Workbook.Structure

/-!
# Records

A workbook keeps three things about a cell: what is stored, what its formula reads, and the tree of
its formula if it has been parsed. Together they are the record of the cell. Most operations
concern the record of one cell and leave all others alone; what they do to that one is said here.
-/

namespace Spreadsheet

/-- What a workbook keeps about one cell. -/
structure Record where
  /-- What is stored. -/
  cell : Option Cell
  /-- The entry of the graph. -/
  precedents : Option PositionSet
  /-- The tree of the formula. -/
  parsed : Option Expr

namespace Record

/-- The text of the stored formula. -/
def formula? (r : Record) : Option String := r.cell.bind Cell.formula

/-- The expression that the stored formula stands for, unless its text cannot be parsed. -/
def expression? (r : Record) : Option Expr :=
  r.formula?.bind fun formula => (Formula.parse formula).toOption

theorem expression?_eq_some_iff {r : Record} {e : Expr} :
    r.expression? = some e ↔
      ∃ formula, r.formula? = some formula ∧ Formula.parse formula = .ok e := by
  rw [expression?, Option.bind_eq_some_iff]
  constructor
  · rintro ⟨formula, stored, parsed⟩
    cases parse : Formula.parse formula with
    | error cause => simp [parse, Except.toOption] at parsed
    | ok e' =>
        have same : e' = e := by simpa [parse, Except.toOption] using parsed
        exact ⟨formula, stored, same ▸ parse⟩
  · rintro ⟨formula, stored, parse⟩
    exact ⟨formula, stored, by simp [parse, Except.toOption]⟩

end Record

namespace Workbook

variable {w before middle after : Workbook} {p q : Position}

/-- The record of a cell. -/
def record (w : Workbook) (p : Position) : Record where
  cell := w.get? p
  precedents := w.graph.precedents[p]?
  parsed := w.parsed[p]?

/-- The text of the formula that is stored at a position. -/
def formula? (w : Workbook) (p : Position) : Option String := (w.record p).formula?

/-- The expression that the formula at a position stands for. -/
def expression? (w : Workbook) (p : Position) : Option Expr := (w.record p).expression?

theorem formula?_eq : w.formula? p = (w.get? p).bind Cell.formula := rfl

theorem formula?_of_cell {cell : Cell} {formula : String} (present : w.get? p = some cell)
    (own : cell.formula = some formula) : w.formula? p = some formula := by
  rw [formula?_eq, present, Option.bind_some, own]

theorem exists_cell_of_formula? {formula : String} (stored : w.formula? p = some formula) :
    ∃ cell, w.get? p = some cell ∧ cell.formula = some formula :=
  Option.bind_eq_some_iff.mp stored

/-! ## Changes of single records -/

@[simp] theorem get?_setCell {cell : Cell} :
    (w.setCell p cell).get? q = if p = q then some cell else w.get? q :=
  Sheet.get?_set

theorem record_setCell {cell : Cell} :
    (w.setCell p cell).record q = if p = q then { w.record q with cell := some cell }
      else w.record q := by
  rw [record, get?_setCell]
  split <;> rfl

theorem record_track {e : Expr} :
    (w.track p e).record q =
      if p = q then
        { w.record q with
          precedents := Graph.entryFor (e.precedents w.graph.maxRangeCells)
          parsed := some e }
      else w.record q := by
  simp only [record, track, Graph.setReferences, Graph.getElem?_precedents_setPrecedents,
    Std.ExtTreeMap.getElem?_insert, Std.LawfulEqOrd.compare_eq_iff_eq]
  split <;> rfl

theorem record_untrack :
    (w.untrack p).record q =
      if p = q then { w.record q with precedents := none, parsed := none } else w.record q := by
  simp only [record, untrack, Graph.getElem?_precedents_erase, Std.ExtTreeMap.getElem?_erase,
    Std.LawfulEqOrd.compare_eq_iff_eq]
  split <;> rfl

/-- Keeps the tree of a formula. -/
def remember (w : Workbook) (p : Position) (e : Expr) : Workbook :=
  { w with parsed := w.parsed.insert p e }

theorem record_remember {e : Expr} :
    (w.remember p e).record q =
      if p = q then { w.record q with parsed := some e } else w.record q := by
  simp only [record, remember, Std.ExtTreeMap.getElem?_insert, Std.LawfulEqOrd.compare_eq_iff_eq]
  split <;> rfl

/-- Empties a position. -/
def removeCell (w : Workbook) (p : Position) : Workbook := { w with sheet := w.sheet.erase p }

theorem record_removeCell :
    (w.removeCell p).record q = if p = q then { w.record q with cell := none }
      else w.record q := by
  rw [record, get?, removeCell, Sheet.get?_erase]
  split <;> rfl

/-! ## Changes that leave the other records alone -/

/-- A change of the records of some cells; the functions and the settings stay. -/
structure ChangesOnly (cells : Set Position) (before after : Workbook) : Prop where
  /-- The settings stay. -/
  settings : after.settings = before.settings
  /-- The functions stay. -/
  library : after.library = before.library
  /-- The range limit of the graph stays. -/
  maxRangeCells : after.graph.maxRangeCells = before.graph.maxRangeCells
  /-- The directions of the graph still agree. -/
  mirrored : before.graph.Mirrored → after.graph.Mirrored
  /-- Other records stay. -/
  record : ∀ q, q ∉ cells → after.record q = before.record q

namespace ChangesOnly

variable {cells more : Set Position}

theorem refl (w : Workbook) : ChangesOnly cells w w where
  settings := rfl
  library := rfl
  maxRangeCells := rfl
  mirrored := id
  record _ _ := rfl

theorem trans (first : ChangesOnly cells before middle) (second : ChangesOnly cells middle after) :
    ChangesOnly cells before after where
  settings := second.settings.trans first.settings
  library := second.library.trans first.library
  maxRangeCells := second.maxRangeCells.trans first.maxRangeCells
  mirrored mirrored := second.mirrored (first.mirrored mirrored)
  record q other := (second.record q other).trans (first.record q other)

theorem mono (change : ChangesOnly cells before after) (subset : cells ⊆ more) :
    ChangesOnly more before after where
  settings := change.settings
  library := change.library
  maxRangeCells := change.maxRangeCells
  mirrored := change.mirrored
  record q other := change.record q fun member => other (subset member)

theorem everywhere (change : ChangesOnly cells before after) : ChangesOnly Set.univ before after :=
  change.mono (Set.subset_univ cells)

theorem formula?_eq (change : ChangesOnly cells before after) (other : q ∉ cells) :
    after.formula? q = before.formula? q :=
  congrArg Record.formula? (change.record q other)

theorem get?_eq (change : ChangesOnly cells before after) (other : q ∉ cells) :
    after.get? q = before.get? q :=
  congrArg Record.cell (change.record q other)

theorem setCell (w : Workbook) (p : Position) (cell : Cell) :
    ChangesOnly {p} w (w.setCell p cell) where
  settings := rfl
  library := rfl
  maxRangeCells := rfl
  mirrored := id
  record q other := by rw [record_setCell, if_neg (Ne.symm other)]

theorem removeCell (w : Workbook) (p : Position) : ChangesOnly {p} w (w.removeCell p) where
  settings := rfl
  library := rfl
  maxRangeCells := rfl
  mirrored := id
  record q other := by rw [record_removeCell, if_neg (Ne.symm other)]

theorem track (w : Workbook) (p : Position) (e : Expr) : ChangesOnly {p} w (w.track p e) where
  settings := rfl
  library := rfl
  maxRangeCells := rfl
  mirrored mirrored := mirrored.setReferences p _
  record q other := by rw [record_track, if_neg (Ne.symm other)]

theorem untrack (w : Workbook) (p : Position) : ChangesOnly {p} w (w.untrack p) where
  settings := rfl
  library := rfl
  maxRangeCells := rfl
  mirrored mirrored := mirrored.erase p
  record q other := by rw [record_untrack, if_neg (Ne.symm other)]

theorem remember (w : Workbook) (p : Position) (e : Expr) :
    ChangesOnly {p} w (w.remember p e) where
  settings := rfl
  library := rfl
  maxRangeCells := rfl
  mirrored := id
  record q other := by rw [record_remember, if_neg (Ne.symm other)]

theorem storeResult (w : Workbook) (p : Position) (value : CellValue) :
    ChangesOnly {p} w (w.storeResult p value) := by
  rw [Workbook.storeResult]
  split
  · split
    · exact setCell w p _
    · exact refl w
  · exact refl w

theorem evaluateFormula (w : Workbook) (p : Position) (formula : String) :
    ChangesOnly {p} w (w.evaluateFormula p formula).2 := by
  rw [Workbook.evaluateFormula]
  split
  · exact refl w
  · split
    · exact remember w p _
    · exact refl w

theorem recalculateCell (w : Workbook) (p : Position) :
    ChangesOnly {p} w (w.recalculateCell p) := by
  rw [Workbook.recalculateCell]
  split
  · exact (evaluateFormula w p _).trans (storeResult _ p _)
  · exact refl w

theorem enter (w : Workbook) (p : Position) (text : String) :
    ChangesOnly {p} w (w.enter p text) := by
  rw [Workbook.enter]
  split
  · rw [enterFormula]
    split
    · exact (untrack w p).trans (setCell _ p _)
    · exact (track w p _).trans (setCell _ p _)
  · rw [enterValue]
    split
    · exact (untrack w p).trans (removeCell _ p)
    · exact (untrack w p).trans (setCell _ p _)

theorem loadCell (w : Workbook) (p : Position) : ChangesOnly {p} w (w.loadCell p) := by
  rw [Workbook.loadCell]
  split
  · exact refl w
  · rename_i cell _
    split
    · exact refl w
    · rename_i formula _
      have stored : ChangesOnly {p} w
          (if cell.isFormula then w else w.setCell p (.ofFormula formula)) := by
        split
        · exact refl w
        · exact setCell w p _
      dsimp only
      split
      · exact stored.trans (track _ p _)
      · exact stored

theorem relocateCell (edit : Shift) (w : Workbook) (p : Position) :
    ChangesOnly {p} w (w.relocateCell edit p) := by
  rw [Workbook.relocateCell]
  split
  · exact refl w
  · split
    · exact refl w
    · dsimp only
      split
      · exact (track w p _).trans (setCell _ p _)
      · exact (untrack w p).trans (setCell _ p _)

/-- Steps that concern one cell each concern together no other cells. -/
theorem foldl {step : Workbook → Position → Workbook} {list : List Position}
    (each : ∀ w, ∀ p ∈ list, ChangesOnly {p} w (step w p)) (w : Workbook) :
    ChangesOnly {q | q ∈ list} w (list.foldl step w) := by
  induction list generalizing w with
  | nil => exact refl w
  | cons first rest ih =>
      have first_change : ChangesOnly {q | q ∈ first :: rest} w (step w first) :=
        (each w first List.mem_cons_self).mono (by simp)
      have rest_change :
          ChangesOnly {q | q ∈ rest} (step w first) (rest.foldl step (step w first)) :=
        ih (fun w p member => each w p (List.mem_cons_of_mem first member)) (step w first)
      exact first_change.trans (rest_change.mono fun q member => List.mem_cons_of_mem first member)

/-- What each step establishes for the record of its cell, given the range limit of the graph,
holds of all cells in the end. -/
theorem foldl_establishes {step : Workbook → Position → Workbook} {list : List Position}
    (ready done : Nat → Record → Prop) (distinct : list.Nodup)
    (each : ∀ w, ∀ p ∈ list, ChangesOnly {p} w (step w p))
    (establish : ∀ w, ∀ p ∈ list, ready w.graph.maxRangeCells (w.record p) →
      done w.graph.maxRangeCells ((step w p).record p))
    (w : Workbook) (all_ready : ∀ p ∈ list, ready w.graph.maxRangeCells (w.record p)) :
    ∀ p ∈ list, done w.graph.maxRangeCells ((list.foldl step w).record p) := by
  induction list generalizing w with
  | nil => simp
  | cons first rest ih =>
      obtain ⟨first_notin, distinct⟩ := List.nodup_cons.mp distinct
      have each_rest : ∀ w, ∀ p ∈ rest, ChangesOnly {p} w (step w p) :=
        fun w p member => each w p (List.mem_cons_of_mem first member)
      have first_change := each w first List.mem_cons_self
      intro p member
      rcases List.mem_cons.mp member with rfl | member
      · have rest_change := foldl each_rest (step w p)
        rw [List.foldl_cons, rest_change.record p first_notin]
        exact establish w p List.mem_cons_self (all_ready p List.mem_cons_self)
      · rw [List.foldl_cons, ← first_change.maxRangeCells]
        apply ih distinct each_rest _ _ _ p member
        · intro w p member
          exact establish w p (List.mem_cons_of_mem first member)
        · intro p member
          have other : p ≠ first := fun same => first_notin (same ▸ member)
          rw [first_change.record p other, first_change.maxRangeCells]
          exact all_ready p (List.mem_cons_of_mem first member)

theorem recalculateCells (w : Workbook) (members : PositionSet) :
    ChangesOnly {q | q ∈ members} w (w.recalculateCells members) := by
  rw [Workbook.recalculateCells]
  split
  · rename_i order found
    have order_mem := (Graph.isCalculationOrder_of_eq_ok found).1.mem_iff
    exact (foldl (fun w p _ => recalculateCell w p) w).mono fun q member => (order_mem q).mp member
  · refine (foldl (fun w p _ => storeResult w p _) w).mono fun q member => ?_
    exact Std.ExtTreeSet.mem_toList.mp member

/-- An edit concerns the cell itself and, in automatic mode, those that depend on it afterwards. -/
theorem edit (w : Workbook) (p : Position) (text : String) :
    ChangesOnly {q | q = p ∨ q ∈ (w.enter p text).graph.allReaders p} w (w.edit p text) := by
  have entered : ChangesOnly {q | q = p ∨ q ∈ (w.enter p text).graph.allReaders p} w
      (w.enter p text) := (enter w p text).mono fun q member => .inl member
  rw [Workbook.edit]
  split
  · exact entered.trans ((recalculateCells _ _).mono fun q member => .inr member)
  · exact entered

end ChangesOnly

end Workbook
end Spreadsheet
