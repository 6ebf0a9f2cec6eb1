import Mathlib.Data.List.Basic
import Spreadsheet.Text.Occurrence

/-!
# Cutting at occurrences

Every number of bytes that a search reports is that of some characters at the front of the text, so
the text can be cut there, and behind an occurrence it can be cut again.
-/

namespace Spreadsheet
namespace Text

variable {pattern cs before after : List Char} {offset start skip : Nat}

theorem size_append (before after : List Char) :
    size (before ++ after) = size before + size after := by
  induction before with
  | nil => rw [List.nil_append, size, Nat.zero_add]
  | cons c before ih => rw [List.cons_append, size, size, ih, Nat.add_assoc]

/-- Characters can be cut behind any of them. -/
theorem cutAt?_size (before after : List Char) :
    cutAt? (size before) (before ++ after) = some (before, after) := by
  induction before with
  | nil => rw [List.nil_append, size, cutAt?]
  | cons c before ih =>
      obtain ⟨n, bytes⟩ := Nat.exists_eq_succ_of_ne_zero (Nat.ne_of_gt c.utf8Size_pos)
      rw [size, bytes, Nat.succ_add, List.cons_append, cutAt?, bytes, if_pos (by omega),
        show n + size before + 1 - n.succ = size before by omega, ih]
      rfl

/-- Every cut is behind some characters. -/
theorem cutAt?_eq_some_iff :
    cutAt? offset cs = some (before, after) ↔ cs = before ++ after ∧ offset = size before := by
  constructor
  · intro cut
    fun_induction cutAt? offset cs generalizing before with
    | case1 cs =>
        obtain ⟨rfl, rfl⟩ := Prod.mk.inj (Option.some.inj cut)
        exact ⟨rfl, rfl⟩
    | case2 => contradiction
    | case3 n c cs fits ih =>
        obtain ⟨⟨first, rest⟩, cut_behind, same⟩ := Option.map_eq_some_iff.mp cut
        obtain ⟨rfl, rfl⟩ := Prod.mk.inj same
        obtain ⟨rfl, bytes⟩ := ih cut_behind
        exact ⟨rfl, by rw [size]; omega⟩
    | case4 => contradiction
  · rintro ⟨rfl, rfl⟩
    exact cutAt?_size before after

/-- A search reports the size of some characters at the front. -/
theorem exists_of_offsetOf? (found : offsetOf? pattern cs = some offset) :
    ∃ before after, cs = before ++ after ∧ offset = size before := by
  obtain ⟨index, -, rfl⟩ := Option.map_eq_some_iff.mp found
  exact ⟨_, _, (List.take_append_drop index cs).symm, rfl⟩

/-- At every offset that is reported there is an occurrence. -/
theorem exists_of_mem_offsetsFrom (member : offset ∈ offsetsFrom pattern skip start cs) :
    ∃ before after, cs = before ++ (pattern ++ after) ∧ offset = start + size before := by
  fun_induction offsetsFrom pattern skip start cs with
  | case1 => cases member
  | case2 skip start c cs ih =>
      obtain ⟨before, after, rfl, rfl⟩ := ih member
      exact ⟨c :: before, after, rfl, by rw [size, Nat.add_assoc]⟩
  | case3 start c cs occurs ih =>
      rcases List.mem_cons.mp member with rfl | member
      · obtain ⟨after, eq⟩ := List.isPrefixOf_iff_prefix.mp occurs
        exact ⟨[], after, eq.symm, rfl⟩
      · obtain ⟨before, after, rfl, rfl⟩ := ih member
        exact ⟨c :: before, after, rfl, by rw [size, Nat.add_assoc]⟩
  | case4 start c cs absent ih =>
      obtain ⟨before, after, rfl, rfl⟩ := ih member
      exact ⟨c :: before, after, rfl, by rw [size, Nat.add_assoc]⟩

end Text
end Spreadsheet
