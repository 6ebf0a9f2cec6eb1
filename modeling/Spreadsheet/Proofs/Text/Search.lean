import Mathlib.Order.Bounds.Basic
import Spreadsheet.Proofs.Text.Slices

/-!
# Searching for a pattern

A search finds the first place where the pattern occurs, if there is one. It tells the place by the
characters in front of it or by their bytes, and the bytes lead back to the characters.
-/

namespace Spreadsheet
namespace Text

variable {pattern cs : List Char} {i : ℕ}

/-- The numbers of characters in front of the occurrences of a pattern. -/
def occurrences (pattern cs : List Char) : Set ℕ := {i | pattern <+: cs.drop i}

theorem mem_occurrences : i ∈ occurrences pattern cs ↔ pattern <+: cs.drop i := Iff.rfl

theorem succ_mem_occurrences_cons {c : Char} :
    i + 1 ∈ occurrences pattern (c :: cs) ↔ i ∈ occurrences pattern cs := Iff.rfl

theorem isLeast_zero (occurs : pattern <+: cs) : IsLeast (occurrences pattern cs) 0 :=
  ⟨occurs, fun _ _ => Nat.zero_le _⟩

theorem isLeast_occurrences_cons {c : Char} (absent : ¬ pattern <+: c :: cs)
    (least : IsLeast (occurrences pattern cs) i) :
    IsLeast (occurrences pattern (c :: cs)) (i + 1) := by
  refine ⟨succ_mem_occurrences_cons.mpr least.1, fun j member => ?_⟩
  cases j with
  | zero => exact absurd member absent
  | succ j => exact Nat.succ_le_succ (least.2 (succ_mem_occurrences_cons.mp member))

theorem occurrences_cons_eq_empty {c : Char} (absent : ¬ pattern <+: c :: cs)
    (none : occurrences pattern cs = ∅) : occurrences pattern (c :: cs) = ∅ := by
  refine Set.eq_empty_iff_forall_notMem.mpr fun i member => ?_
  cases i with
  | zero => exact absent member
  | succ i => exact Set.eq_empty_iff_forall_notMem.mp none i (succ_mem_occurrences_cons.mp member)

theorem occurrences_nil_eq_empty (filled : pattern ≠ []) : occurrences pattern [] = ∅ := by
  refine Set.eq_empty_iff_forall_notMem.mpr fun i member => filled ?_
  rwa [mem_occurrences, List.drop_nil, List.prefix_nil] at member

/-- A search finds the first occurrence, and nothing if there is none. -/
theorem indexOf?_spec (pattern cs : List Char) :
    (∃ i, IsLeast (occurrences pattern cs) i ∧ indexOf? pattern cs = some i) ∨
      occurrences pattern cs = ∅ ∧ indexOf? pattern cs = none := by
  induction cs with
  | nil =>
      rw [indexOf?]
      by_cases empty : pattern.isEmpty
      · obtain rfl := List.isEmpty_iff.mp empty
        exact .inl ⟨0, isLeast_zero List.nil_prefix, if_pos empty⟩
      · exact .inr ⟨occurrences_nil_eq_empty (by simpa using empty), if_neg empty⟩
  | cons c cs ih =>
      rw [indexOf?]
      by_cases occurs : pattern <+: c :: cs
      · exact .inl ⟨0, isLeast_zero occurs, if_pos (List.isPrefixOf_iff_prefix.mpr occurs)⟩
      · rw [if_neg (mt List.isPrefixOf_iff_prefix.mp occurs)]
        rcases ih with ⟨i, least, found⟩ | ⟨none, missed⟩
        · exact .inl ⟨i + 1, isLeast_occurrences_cons occurs least, by rw [found]; rfl⟩
        · exact .inr ⟨occurrences_cons_eq_empty occurs none, by rw [missed]; rfl⟩

/-- The first occurrence does not lie beyond the end of the text. -/
theorem le_length_of_isLeast (least : IsLeast (occurrences pattern cs) i) : i ≤ cs.length := by
  by_contra beyond
  have occurs := mem_occurrences.mp least.1
  rw [List.drop_eq_nil_of_le (Nat.le_of_not_le beyond), List.prefix_nil] at occurs
  subst occurs
  exact beyond (Nat.le_trans (least.2 (isLeast_zero List.nil_prefix).1) (Nat.zero_le _))

/-- The bytes in front of a place, counted in two parts, lead back to the characters in front of
it. -/
theorem cutAt?_size_take_add (skipped i : ℕ) (cs : List Char) :
    cutAt? (size (cs.take skipped) + size ((cs.drop skipped).take i)) cs =
      some (cs.take (skipped + i), cs.drop (skipped + i)) := by
  rw [← size_append, ← List.take_add]
  exact (congrArg (cutAt? _) (List.take_append_drop (skipped + i) cs).symm).trans (cutAt?_size _ _)

end Text
end Spreadsheet
