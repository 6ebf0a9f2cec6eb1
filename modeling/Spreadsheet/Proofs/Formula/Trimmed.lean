import Spreadsheet.Proofs.Formula.CallNames
import Spreadsheet.Proofs.Workbook.Input

/-!
# Formulas without blanks around them

A formula is stored as it is typed, less the blanks around it: it begins with the equals sign and
ends in a character that is no blank. Relocation keeps it so, whether it can be parsed or not,
since the sign is part of no reference and what is written for a reference contains no blanks.
-/

namespace Spreadsheet

namespace Text

variable {cs rest : List Char}

/-- The last character is no blank. -/
def EndsDark (cs : List Char) : Prop := ∃ c, cs.getLast? = some c ∧ isBlank c = false

theorem EndsDark.append_left (dark : EndsDark rest) (cs : List Char) : EndsDark (cs ++ rest) := by
  obtain ⟨c, last, lit⟩ := dark
  exact ⟨c, by rw [List.getLast?_append, last, Option.some_or], lit⟩

theorem EndsDark.of_append (cs : List Char) (dark : EndsDark (cs ++ rest))
    (some_rest : rest ≠ []) :
    EndsDark rest := by
  obtain ⟨c, last, lit⟩ := dark
  rw [List.getLast?_append_of_ne_nil cs some_rest] at last
  exact ⟨c, last, lit⟩

theorem endsDark_of_no_blank (some_chars : cs ≠ []) (dark : ∀ c ∈ cs, ¬ isBlank c) : EndsDark cs :=
  ⟨cs.getLast some_chars, List.getLast?_eq_some_getLast some_chars, by
    simpa using dark _ (List.getLast_mem some_chars)⟩

/-- What remains of a text after trimming ends in no blank. -/
theorem endsDark_trimEnd (some_chars : trimEnd cs ≠ []) : EndsDark (trimEnd cs) := by
  rw [trimEnd, ne_eq, List.reverse_eq_nil_iff] at some_chars
  obtain ⟨c, back, behind⟩ := List.exists_cons_of_ne_nil some_chars
  have head := List.head?_dropWhile_not isBlank cs.reverse
  rw [behind] at head
  exact ⟨c, by rw [trimEnd, behind, List.getLast?_reverse, List.head?_cons], by simpa using head⟩

theorem trimEnd_of_endsDark (dark : EndsDark cs) : trimEnd cs = cs := by
  obtain ⟨c, last, lit⟩ := dark
  have stop : cs.reverse.dropWhile isBlank = cs.reverse := dropWhile_of_stop fun d head => by
    rw [List.head?_reverse, last] at head
    obtain rfl := Option.some.inj head
    simp [lit]
  rw [trimEnd, stop, List.reverse_reverse]

end Text

namespace Entry

variable {text formula : String}

/-- What is stored for a formula begins with the equals sign and ends in no blank. -/
theorem trimmed_of_formula? (typed : formula? text = some formula) :
    formula.toList.head? = some '=' ∧ Text.EndsDark formula.toList := by
  rw [formula?] at typed
  split at typed
  · rename_i rest trimmed
    rw [← Option.some.inj typed, String.toList_ofList]
    refine ⟨rfl, ?_⟩
    rw [Text.trimList] at trimmed
    rw [← trimmed]
    exact Text.endsDark_trimEnd (by rw [trimmed]; exact List.cons_ne_nil _ _)
  · contradiction

theorem formula?_of_trimmed (head : formula.toList.head? = some '=')
    (dark : Text.EndsDark formula.toList) : formula? formula = some formula := by
  obtain ⟨rest, chars⟩ := List.head?_eq_some_iff.mp head
  have start : Text.trimStart formula.toList = formula.toList :=
    Text.dropWhile_of_stop fun c at_head => by
      rw [head] at at_head
      obtain rfl := Option.some.inj at_head
      decide
  have trimmed : Text.trimList formula.toList = '=' :: rest := by
    rw [Text.trimList, start, Text.trimEnd_of_endsDark dark, chars]
  simp only [formula?, trimmed]
  rw [← chars, String.ofList_toList]

/-- The formula that a text stands for stands for itself. -/
theorem formula?_formula (typed : formula? text = some formula) :
    formula? formula = some formula :=
  formula?_of_trimmed (trimmed_of_formula? typed).1 (trimmed_of_formula? typed).2

end Entry

namespace Formula

variable {s : Shift} {cs u : List Char} {formula : String}

/-- What is written for a reference ends in no blank unless the reference stays as it is. -/
theorem endsDark_relocateReference (dark : Text.EndsDark u) :
    Text.EndsDark (relocateReference s u) := by
  rcases relocateReference_cases s u with lost | same | word
  · rw [lost]
    exact ⟨'!', rfl, by decide⟩
  · rw [same]
    exact dark
  · have continues := word.continues
    obtain ⟨c, w, chars, _⟩ := word
    exact Text.endsDark_of_no_blank (by rw [chars]; exact List.cons_ne_nil _ _) fun d member =>
      not_isBlank_of_continuesWord (continues d member)

theorem endsDark_relocatePlain (before : Option Char) (dark : Text.EndsDark cs) :
    Text.EndsDark (relocatePlain s before cs) := by
  induction before, cs using relocatePlain_induction with
  | nil before =>
      obtain ⟨c, last, _⟩ := dark
      contradiction
  | plain before c rest nothing ih =>
      rw [relocatePlain, nothing]
      dsimp only
      by_cases final : rest = []
      · subst final
        simpa [relocatePlain] using dark
      · exact (ih (Text.EndsDark.of_append [c] dark final)).append_left [c]
  | reference before u rest some_chars found ih =>
      rw [relocatePlain_reference found some_chars]
      by_cases final : rest = []
      · subst final
        rw [List.append_nil] at dark
        rw [show relocatePlain s u.getLast? [] = [] by rw [relocatePlain], List.append_nil]
        split
        · exact dark
        · exact endsDark_relocateReference dark
      · exact (ih (dark.of_append u final)).append_left _

theorem endsDark_flatMap_pieces (dark : Text.EndsDark cs) :
    Text.EndsDark ((pieces cs).flatMap (Piece.relocate s)) := by
  -- The last piece decides; the pieces before it are only put in front.
  induction cs using pieces.induct with
  | case1 =>
      obtain ⟨c, last, _⟩ := dark
      contradiction
  | case2 cs length ih =>
      rw [pieces, if_pos rfl]
      dsimp only
      rw [List.flatMap_cons, Piece.relocate]
      by_cases final : cs.drop (quotedLength cs) = []
      · have whole : cs.take (quotedLength cs) = cs := by
          rw [← List.append_nil (cs.take _), ← final, List.take_append_drop]
        rw [final, whole, pieces, List.flatMap_nil, List.append_nil]
        exact dark
      · refine (ih (.of_append ('"' :: cs.take (quotedLength cs)) ?_ final)).append_left _
        rwa [List.cons_append, List.take_append_drop]
  | case3 c cs plain ih =>
      rw [pieces, if_neg plain, List.flatMap_cons, Piece.relocate]
      by_cases final : cs.dropWhile (· != '"') = []
      · have whole : cs.takeWhile (· != '"') = cs := by
          rw [← List.append_nil (cs.takeWhile _), ← final, List.takeWhile_append_dropWhile]
        rw [final, whole, pieces, List.flatMap_nil, List.append_nil]
        exact endsDark_relocatePlain none dark
      · refine (ih (.of_append (c :: cs.takeWhile (· != '"')) ?_ final)).append_left _
        rwa [List.cons_append, List.takeWhile_append_dropWhile]

/-- Relocation leaves a formula one that is stored as it stands. -/
theorem formula?_relocate (typed : Entry.formula? formula = some formula) :
    Entry.formula? (relocate s formula) = some (relocate s formula) := by
  obtain ⟨head, dark⟩ := Entry.trimmed_of_formula? typed
  obtain ⟨rest, chars⟩ := List.head?_eq_some_iff.mp head
  rw [relocate]
  split
  · exact typed
  · apply Entry.formula?_of_trimmed
    · rw [String.toList_ofList, flatMap_pieces, relocateFrom, chars,
        List.takeWhile_cons_of_pos (by decide),
        relocatePlain_cons (addressLength?_cons_eq_none (by decide) _)]
      rfl
    · rw [String.toList_ofList]
      exact endsDark_flatMap_pieces dark

end Formula
end Spreadsheet
