import Spreadsheet.Proofs.Workbook.Repair

/-!
# Entering many texts

Texts for different cells may be typed in one after the other, in any order, or be stored without
being calculated and then loaded. If their formulas make no cycle, all ways end in the same sheet
and the same graph: each of them tracks and calculates the same inputs.
-/

namespace Spreadsheet

namespace Text

theorem trimEnd_cons_of_not_isBlank {c : Char} (dark : isBlank c = false) (cs : List Char) :
    (trimEnd (c :: cs)).head? = some c := by
  rw [trimEnd, List.reverse_cons, List.dropWhile_append]
  split
  · simp [dark]
  · simp

/-- Trimming at the end does not change how a trimmed text begins. -/
theorem head?_trimList (cs : List Char) : (trimList cs).head? = (trimStart cs).head? := by
  rw [trimList]
  cases trimmed : trimStart cs with
  | nil => simp [trimEnd]
  | cons d rest =>
      have lit : isBlank d = false := by
        have head := List.head?_dropWhile_not isBlank cs
        rw [show cs.dropWhile isBlank = _ from trimmed] at head
        simpa using head
      rw [trimEnd_cons_of_not_isBlank lit, List.head?_cons]

end Text

namespace Entry

theorem formula?_eq_none_iff {text : String} :
    formula? text = none ↔ (Text.trimStart text.toList).head? ≠ some '=' := by
  rw [← Text.head?_trimList, formula?]
  split
  · rename_i trimmed
    simp [trimmed]
  · rename_i other
    simp only [true_iff]
    intro sign
    obtain ⟨rest, trimmed⟩ := List.head?_eq_some_iff.mp sign
    exact other rest trimmed

/-- A text that is stored as a text is stored as it was typed. -/
theorem eq_of_value_cell_eq_text {text content : String}
    (entered : (cell text).value = .text content) : content = text := by
  rw [cell, Cell.ofValue, value] at entered
  split at entered
  · simp at entered
  · split at entered
    · simp at entered
    · split at entered
      · simp at entered
      · exact (CellValue.text.inj entered).symm

/-- What is stored for a text holds no error. -/
theorem inStep_of_input? {text : String} {cell : Cell} (typed : input? text = some cell) :
    cell.InStep := by
  rw [input?] at typed
  split at typed
  · rw [← Option.some.inj typed]
    exact Cell.inStep_ofFormula
  · split at typed
    · simp at typed
    · rw [← Option.some.inj typed]
      exact inStep_cell text

end Entry

namespace Workbook

variable {w w' w₀ : Workbook} {p q : Position} {text : String} {cell : Cell}
  {entries entries' : List (Position × String)}

/-! ## Storing texts without calculating them -/

/-- Stores what a text stands for, without calculating or tracking it; a blank text stores
nothing. -/
def write (w : Workbook) (p : Position) (text : String) : Workbook :=
  match Entry.input? text with
  | some cell => w.setCell p cell
  | none => w

/-- Stores what several texts stand for. -/
def writeAll (w : Workbook) (entries : List (Position × String)) : Workbook :=
  entries.foldl (fun w entry => w.write entry.1 entry.2) w

/-- Types several texts into their cells, in order. -/
def typeAll (w : Workbook) (entries : List (Position × String)) : Workbook :=
  w.run (entries.map fun entry => .edit entry.1 entry.2)

theorem writeAll_append_singleton (entry : Position × String) :
    w.writeAll (entries ++ [entry]) = (w.writeAll entries).write entry.1 entry.2 := by
  rw [writeAll, List.foldl_append]
  rfl

theorem typeAll_append_singleton (entry : Position × String) :
    w.typeAll (entries ++ [entry]) = (w.typeAll entries).edit entry.1 entry.2 := by
  rw [typeAll, run, List.map_append, List.foldl_append]
  rfl

theorem uncalculated_of_input? (typed : Entry.input? text = some cell) :
    cell.uncalculated = cell := by
  rw [Entry.input?] at typed
  split at typed
  · rw [← Option.some.inj typed]
    rfl
  · split at typed
    · contradiction
    · rw [← Option.some.inj typed]
      rfl

theorem input_write (absent : w.input p = none) :
    (w.write p text).input q = if p = q then Entry.input? text else w.input q := by
  rw [write]
  split
  · rename_i cell typed
    rw [input_setCell, typed, uncalculated_of_input? typed]
  · rename_i typed
    split
    · rename_i same
      rw [← same, absent, typed]
    · rfl

theorem write_changesOnly (w : Workbook) (p : Position) (text : String) :
    ChangesOnly {p} w (w.write p text) := by
  rw [write]
  split
  · exact .setCell w p _
  · exact .refl w

/-- The inputs of stored texts are those that typing them in would make. -/
theorem input_writeAll_empty (library : Library) (settings : Settings)
    (distinct : (entries.map Prod.fst).Nodup) :
    (∀ entry ∈ entries,
      ((empty library settings).writeAll entries).input entry.1 = Entry.input? entry.2) ∧
      ∀ p, p ∉ entries.map Prod.fst →
        ((empty library settings).writeAll entries).input p = none := by
  induction entries using List.reverseRecOn with
  | nil => exact ⟨by simp, fun p _ => by simp [writeAll, input, get?, empty]⟩
  | append_singleton init last ih =>
      rw [List.map_append, List.nodup_append] at distinct
      obtain ⟨distinct, _, fresh⟩ := distinct
      obtain ⟨stored, absent⟩ := ih distinct
      have last_fresh : last.1 ∉ init.map Prod.fst := fun member =>
        fresh last.1 member last.1 (by simp) rfl
      simp only [writeAll_append_singleton, input_write (absent last.1 last_fresh)]
      constructor
      · intro entry member
        rcases List.mem_append.mp member with member | member
        · have other : last.1 ≠ entry.1 := fun same =>
            last_fresh (same ▸ List.mem_map_of_mem member)
          rw [if_neg other, stored entry member]
        · rw [List.mem_singleton.mp member, if_pos rfl]
      · intro p outside
        rw [List.map_append, List.mem_append, not_or] at outside
        have other : last.1 ≠ p := fun same => outside.2 (by simp [same])
        rw [if_neg other, absent p outside.1]

theorem writeAll_changesOnly (w : Workbook) (entries : List (Position × String)) :
    ChangesOnly Set.univ w (w.writeAll entries) :=
  List.foldlRecOn (motive := ChangesOnly Set.univ w) _ _ (.refl w)
    fun w before entry _ => before.trans (write_changesOnly w entry.1 entry.2).everywhere

/-- The order in which texts are stored makes no difference to the inputs. -/
theorem sameInputs_writeAll_of_perm (library : Library) (settings : Settings)
    (distinct : (entries.map Prod.fst).Nodup) (perm : entries'.Perm entries) :
    SameInputs ((empty library settings).writeAll entries)
      ((empty library settings).writeAll entries') := by
  have change := writeAll_changesOnly (empty library settings) entries
  have change' := writeAll_changesOnly (empty library settings) entries'
  have distinct' : (entries'.map Prod.fst).Nodup := (perm.map Prod.fst).nodup_iff.mpr distinct
  obtain ⟨stored, absent⟩ := input_writeAll_empty library settings distinct
  obtain ⟨stored', absent'⟩ := input_writeAll_empty library settings distinct'
  refine ⟨?_, ?_, fun p => ?_⟩
  · rw [change.library, change'.library]
  · rw [change.settings, change'.settings]
  · by_cases member : p ∈ entries.map Prod.fst
    · obtain ⟨entry, listed, rfl⟩ := List.mem_map.mp member
      rw [stored entry listed, stored' entry (perm.mem_iff.mpr listed)]
    · have member' : p ∉ entries'.map Prod.fst := fun listed =>
        member ((perm.map Prod.fst).mem_iff.mp listed)
      rw [absent p member, absent' p member']

/-! ## Calculating the same inputs -/

/-- A workbook tracks and calculates the inputs of another one. -/
structure Calculates (w₀ w : Workbook) : Prop where
  /-- The inputs are the same. -/
  sameInputs : SameInputs w₀ w
  /-- The graph and the trees match the stored texts. -/
  tracked : w.Tracked
  /-- All formulas are consistent. -/
  consistent : ∀ p, w.Consistent p
  /-- Errors and extent are in order. -/
  wellKept : w.sheet.WellKept

theorem Calculates.graph_eq (calculates : Calculates w₀ w) : w.graph = w₀.textGraph := by
  rw [calculates.tracked.graph_eq_textGraph, calculates.sameInputs.textGraph_eq]

/-- Without a cycle there is only one way to calculate the same inputs. -/
theorem Calculates.eq (calculates : Calculates w₀ w) (calculates' : Calculates w₀ w')
    (acyclic : w₀.textGraph.Acyclic) : w'.sheet = w.sheet ∧ w'.graph = w.graph := by
  constructor
  · have same : SameInputs w w' := by
      refine ⟨?_, ?_, fun p => ?_⟩
      · rw [calculates'.sameInputs.library, calculates.sameInputs.library]
      · rw [calculates'.sameInputs.settings, calculates.sameInputs.settings]
      · rw [calculates'.sameInputs.input, calculates.sameInputs.input]
    apply same.sheet_eq _ calculates.consistent calculates'.consistent calculates.wellKept
      calculates'.wellKept
    rw [calculates.sameInputs.textGraph_eq]
    exact acyclic
  · rw [calculates'.graph_eq, calculates.graph_eq]

theorem Calculates.of_sameInputs (calculates : Calculates w₀ w) (same : SameInputs w' w₀) :
    Calculates w' w where
  sameInputs := by
    refine ⟨?_, ?_, fun p => ?_⟩
    · rw [calculates.sameInputs.library, same.library]
    · rw [calculates.sameInputs.settings, same.settings]
    · rw [calculates.sameInputs.input, same.input]
  tracked := calculates.tracked
  consistent := calculates.consistent
  wellKept := calculates.wellKept

/-! ## Typing texts in -/

/-- In automatic mode an edit after which there is no cycle leaves all formulas consistent that
were so before. -/
theorem Tracked.consistent_edit_of_acyclic (tracked : w.Tracked)
    (automatic : w.settings.mode = .automatic) (consistent : ∀ q, w.Consistent q)
    (acyclic : (w.edit p text).graph.Acyclic) (q : Position) : (w.edit p text).Consistent q := by
  have notCircular := Graph.acyclic_iff_forall_not_circular.mp acyclic
  by_cases reached : q ∈ w.reachedBy p text
  · exact tracked.consistent_edit_of_reached automatic (fun r _ => notCircular r) reached
  · apply (consistent q).of_changesOnly tracked (tracked.changesOnly_edit p text) reached
    exact fun r reads => not_reached_of_reads reached reads

/-- A text for a cell that is still empty only adds to what is read. -/
theorem reads_textGraph_write (absent : w.input p = none) (reads : w.textGraph.Reads q r) :
    (w.write p text).textGraph.Reads q r := by
  rw [Graph.Reads, precedentsOf_textGraph] at reads ⊢
  have other : p ≠ q := by
    rintro rfl
    have nothing : w.textPrecedents p = ∅ :=
      textPrecedents_of_no_formula (by rw [formula?_eq_input, absent, Option.bind_none])
    rw [nothing] at reads
    exact Std.ExtTreeSet.not_mem_empty reads
  have change := write_changesOnly w p text
  have read : (w.write p text).expression? q = w.expression? q :=
    Record.expression?_congr (change.formula?_eq (Ne.symm other))
  rw [textPrecedents, read, change.settings]
  exact reads

theorem calculates_empty (library : Library) (settings : Settings) :
    Calculates (empty library settings) (empty library settings) where
  sameInputs := ⟨rfl, rfl, fun _ => rfl⟩
  tracked := tracked_empty library settings
  consistent p cell formula present := by simp [get?, empty] at present
  wellKept := Sheet.wellKept_empty

/-- Typing in one more text calculates one more input. -/
theorem Calculates.edit (calculates : Calculates w₀ w) (automatic : w.settings.mode = .automatic)
    (absent : w₀.input p = none) (acyclic : (w₀.write p text).textGraph.Acyclic) :
    Calculates (w₀.write p text) (w.edit p text) := by
  have change := (ChangesOnly.edit w p text).everywhere
  have change₀ := write_changesOnly w₀ p text
  have same : SameInputs (w₀.write p text) (w.edit p text) := by
    refine ⟨?_, ?_, fun q => ?_⟩
    · rw [change.library, change₀.library, calculates.sameInputs.library]
    · rw [change.settings, change₀.settings, calculates.sameInputs.settings]
    · rw [input_edit, input_write absent, calculates.sameInputs.input]
  have tracked := calculates.tracked.edit p text
  refine ⟨same, tracked, ?_, wellKept_edit calculates.wellKept p text⟩
  apply calculates.tracked.consistent_edit_of_acyclic automatic calculates.consistent
  rw [tracked.graph_eq_textGraph, same.textGraph_eq]
  exact acyclic

/-- Typing in texts for different cells calculates the inputs that they stand for. -/
theorem calculates_typeAll (library : Library) {settings : Settings}
    (automatic : settings.mode = .automatic) (distinct : (entries.map Prod.fst).Nodup)
    (acyclic : ((empty library settings).writeAll entries).textGraph.Acyclic) :
    Calculates ((empty library settings).writeAll entries)
      ((empty library settings).typeAll entries) := by
  induction entries using List.reverseRecOn with
  | nil => exact calculates_empty library settings
  | append_singleton init last ih =>
      rw [writeAll_append_singleton] at acyclic ⊢
      rw [typeAll_append_singleton]
      rw [List.map_append, List.nodup_append] at distinct
      obtain ⟨distinct, _, fresh⟩ := distinct
      have absent : ((empty library settings).writeAll init).input last.1 = none :=
        (input_writeAll_empty library settings distinct).2 last.1 fun member =>
          fresh last.1 member last.1 (by simp) rfl
      have before := ih distinct (acyclic.of_reads fun _ _ => reads_textGraph_write absent)
      apply before.edit _ absent acyclic
      rw [typeAll, settings_run]
      · exact automatic
      · intro action member
        obtain ⟨entry, _, rfl⟩ := List.mem_map.mp member
        rfl

/-! ## Loading stored texts -/

/-- A value is taken for a formula only if it is a text that begins with an equals sign. -/
theorem loadedFormula?_of_value (own : cell.formula = none)
    (plain : ∀ content, cell.value = .text content →
      (Text.trimStart content.toList).head? ≠ some '=') : loadedFormula? cell = none := by
  obtain ⟨formula, value, error⟩ := cell
  obtain rfl : formula = none := own
  cases value with
  | text content => exact if_neg (plain content rfl)
  | _ => rfl

/-- A typed-in value is not taken for a formula. -/
theorem loadedFormula?_of_input? (typed : Entry.input? text = some cell)
    (own : cell.formula = none) :
    loadedFormula? cell = none := by
  rw [Entry.input?] at typed
  split at typed
  · rw [← Option.some.inj typed] at own
    simp [Cell.ofFormula] at own
  · rename_i untyped
    split at typed
    · simp at typed
    · apply loadedFormula?_of_value own
      rw [← Option.some.inj typed]
      intro content entered
      rw [Entry.eq_of_value_cell_eq_text entered]
      exact Entry.formula?_eq_none_iff.mp untyped

/-- Loading leaves a sheet as it is whose values are no formulas. -/
theorem sheet_foldl_loadCell {list : List Position}
    (values : ∀ p cell, w.get? p = some cell → cell.formula = none → loadedFormula? cell = none) :
    (list.foldl loadCell w).sheet = w.sheet := by
  apply List.foldlRecOn (motive := fun after : Workbook => after.sheet = w.sheet) _ _ rfl
  intro after same p _
  rw [loadCell]
  split
  · exact same
  · rename_i cell present
    split
    · exact same
    · rename_i formula loaded
      have computes : cell.isFormula := by
        by_contra own
        rw [Cell.isFormula, Option.not_isSome_iff_eq_none] at own
        rw [get?, same] at present
        rw [values p cell present own] at loaded
        simp at loaded
      rw [if_pos computes]
      dsimp only
      split <;> exact same

/-- Loading changes results only where no value is taken for a formula. -/
theorem input_load
    (values : ∀ p cell, w.get? p = some cell → cell.formula = none → loadedFormula? cell = none)
    (p : Position) : w.load.input p = w.input p := by
  let bare : Workbook := { w with graph := .empty w.graph.maxRangeCells, parsed := ∅ }
  have sheet_eq : (w.sheet.positions.foldl loadCell bare).sheet = w.sheet :=
    sheet_foldl_loadCell (w := bare) values
  rw [load, input_recalculate, input, get?, sheet_eq]
  rfl

/-- Loading stored texts calculates the inputs that they stand for. -/
theorem calculates_load (limit : w.graph.maxRangeCells = w.settings.maxRangeCells)
    (values : ∀ p cell, w.get? p = some cell → cell.formula = none → loadedFormula? cell = none)
    (kept : w.sheet.WellKept) (acyclic : w.textGraph.Acyclic) : Calculates w w.load := by
  have change := ChangesOnly.load w
  have same : SameInputs w w.load := ⟨change.library, change.settings, input_load values⟩
  have tracked := tracked_load limit
  have acyclic_load : w.load.graph.Acyclic := by
    rw [tracked.graph_eq_textGraph, same.textGraph_eq]
    exact acyclic
  refine ⟨same, tracked, ?_, wellKept_load kept⟩
  apply (tracked_foldl_loadCell limit).consistent_recalculate
  rw [load, Workbook.recalculate, graph_recalculateCells] at acyclic_load
  exact acyclic_load

/-- Every cell of a workbook is what some text stands for. -/
def IsTyped (w : Workbook) : Prop :=
  ∀ p cell, w.get? p = some cell → ∃ text, Entry.input? text = some cell

theorem IsTyped.write (isTyped : w.IsTyped) (p : Position) (text : String) :
    (w.write p text).IsTyped := by
  rw [Workbook.write]
  split
  · rename_i cell typed
    intro q stored present
    rw [get?_setCell] at present
    split at present
    · exact ⟨text, Option.some.inj present ▸ typed⟩
    · exact isTyped q stored present
  · exact isTyped

theorem wellKept_write (kept : w.sheet.WellKept) (p : Position) (text : String) :
    (w.write p text).sheet.WellKept := by
  rw [write]
  split
  · rename_i cell typed
    exact kept.set p (Entry.inStep_of_input? typed)
  · exact kept

/-- Storing texts in an empty workbook and loading them calculates the inputs that they stand
for. -/
theorem calculates_load_writeAll (library : Library) {settings : Settings}
    (acyclic : ((empty library settings).writeAll entries).textGraph.Acyclic) :
    Calculates ((empty library settings).writeAll entries)
      ((empty library settings).writeAll entries).load := by
  have change := writeAll_changesOnly (empty library settings) entries
  have typed : ((empty library settings).writeAll entries).IsTyped :=
    List.foldlRecOn (motive := IsTyped) _ _
      (fun p cell present => by simp [get?, empty] at present)
      fun _ isTyped entry _ => isTyped.write entry.1 entry.2
  have kept : ((empty library settings).writeAll entries).sheet.WellKept :=
    List.foldlRecOn (motive := fun w : Workbook => w.sheet.WellKept) _ _ Sheet.wellKept_empty
      fun _ kept entry _ => wellKept_write kept entry.1 entry.2
  apply calculates_load _ _ kept acyclic
  · rw [change.maxRangeCells, change.settings]
    rfl
  · intro p cell present own
    obtain ⟨text, input⟩ := typed p cell present
    exact loadedFormula?_of_input? input own

/-! ## All ways end in the same workbook -/

/-- If texts for different cells make no cycle, typing them in in any order, and storing them in
any order and loading them, all end in the same sheet and the same graph. -/
theorem typeAll_and_load_agree (library : Library) {settings : Settings}
    (automatic : settings.mode = .automatic) (distinct : (entries.map Prod.fst).Nodup)
    (acyclic : ((empty library settings).writeAll entries).textGraph.Acyclic)
    (perm : entries'.Perm entries) :
    ((empty library settings).typeAll entries').sheet =
        ((empty library settings).typeAll entries).sheet ∧
      ((empty library settings).typeAll entries').graph =
        ((empty library settings).typeAll entries).graph ∧
      ((empty library settings).writeAll entries').load.sheet =
        ((empty library settings).typeAll entries).sheet ∧
      ((empty library settings).writeAll entries').load.graph =
        ((empty library settings).typeAll entries).graph := by
  have same := sameInputs_writeAll_of_perm library settings distinct perm
  have distinct' : (entries'.map Prod.fst).Nodup := (perm.map Prod.fst).nodup_iff.mpr distinct
  have acyclic' : ((empty library settings).writeAll entries').textGraph.Acyclic := by
    rw [same.textGraph_eq]
    exact acyclic
  have typed := calculates_typeAll library automatic distinct acyclic
  have typed' := (calculates_typeAll library automatic distinct' acyclic').of_sameInputs same
  have loaded := (calculates_load_writeAll library acyclic').of_sameInputs same
  obtain ⟨typed_sheet, typed_graph⟩ := typed.eq typed' acyclic
  obtain ⟨loaded_sheet, loaded_graph⟩ := typed.eq loaded acyclic
  exact ⟨typed_sheet, typed_graph, loaded_sheet, loaded_graph⟩

/-- A formula may be typed in, or stored and loaded, before the cell that it reads. -/
theorem typeAll_and_load_agree_on_forward_reference :
    ((empty .empty ⟨.automatic, 4⟩).typeAll [(⟨1, 0⟩, "=A1"), (⟨0, 0⟩, "TRUE")]).sheet =
        ((empty .empty ⟨.automatic, 4⟩).typeAll [(⟨0, 0⟩, "TRUE"), (⟨1, 0⟩, "=A1")]).sheet ∧
      ((empty .empty ⟨.automatic, 4⟩).writeAll [(⟨1, 0⟩, "=A1"), (⟨0, 0⟩, "TRUE")]).load.sheet =
        ((empty .empty ⟨.automatic, 4⟩).typeAll [(⟨0, 0⟩, "TRUE"), (⟨1, 0⟩, "=A1")]).sheet := by
  have acyclic : ((empty .empty ⟨.automatic, 4⟩).writeAll
      [(⟨0, 0⟩, "TRUE"), (⟨1, 0⟩, "=A1")]).textGraph.Acyclic := by decide +kernel
  have agree := typeAll_and_load_agree .empty rfl (by decide) acyclic (List.Perm.swap _ _ [])
  exact ⟨agree.1, agree.2.2.1⟩

end Workbook
end Spreadsheet
