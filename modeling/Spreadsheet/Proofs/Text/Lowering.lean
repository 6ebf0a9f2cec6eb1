import Mathlib.Data.List.Count
import Spreadsheet.Text.Case

/-!
# Places in lowercase

Lowercase goes through a text character by character. Every character becomes one character, except
the capital I with a dot, which becomes two, so that the places behind it move. What a character
becomes depends on the characters around it for the capital sigma only.
-/

namespace Spreadsheet
namespace Text

variable {c : Char} {before xs ys cs : List Char}

/-- What a character becomes between the characters before it, the last one first, and the
characters behind it. -/
def lowerBetween (before : List Char) (c : Char) (behind : List Char) : List Char :=
  if c = 'Σ' then
    if startsCased before && !startsCased behind then ['ς'] else ['σ']
  else
    lowerChar c

theorem lowerAfter_cons (before : List Char) (c : Char) (cs : List Char) :
    lowerAfter before (c :: cs) = lowerBetween before c cs ++ lowerAfter (c :: before) cs := rfl

/-! ## Lengths -/

/-- Only one character becomes more than one. -/
theorem length_lowerChar (c : Char) : (lowerChar c).length = if c = 'İ' then 2 else 1 := by
  by_cases dotted : c = 'İ'
  · rw [dotted]
    rfl
  · have other : lowerExpansions.lookup c.toNat = none := by
      have code : c.toNat ≠ 0x130 := fun same => dotted (Char.toNat_inj.mp same)
      rw [lowerExpansions, List.lookup_cons, beq_false_of_ne code]
      rfl
    rw [lowerChar, mapCase, other, if_neg dotted]
    dsimp only
    split <;> rfl

theorem length_lowerBetween (before : List Char) (c : Char) (behind : List Char) :
    (lowerBetween before c behind).length = [c].length + [c].count 'İ' := by
  rw [lowerBetween, List.count_singleton]
  split <;> rename_i sigma
  · rw [sigma]
    split <;> rfl
  · rw [length_lowerChar]
    split <;> rename_i dotted <;> simp [dotted]

theorem length_lowerAfter (before cs : List Char) :
    (lowerAfter before cs).length = cs.length + cs.count 'İ' := by
  induction cs generalizing before with
  | nil => rfl
  | cons c cs ih =>
      change _ = ([c] ++ cs).length + ([c] ++ cs).count 'İ'
      rw [lowerAfter_cons, List.length_append, ih, length_lowerBetween, List.length_append,
        List.count_append]
      omega

/-! ## Parts -/

/-- The lowercase of a text goes on behind its first characters as if it began there. -/
theorem drop_lowerAfter (before xs ys : List Char) :
    (lowerAfter before (xs ++ ys)).drop (xs.length + xs.count 'İ') =
      lowerAfter (xs.reverse ++ before) ys := by
  induction xs generalizing before with
  | nil => rfl
  | cons x xs ih =>
      have length := length_lowerBetween before x (xs ++ ys)
      rw [← List.singleton_append, List.length_append, List.count_append, Nat.add_add_add_comm,
        ← length, List.singleton_append, List.cons_append, lowerAfter_cons,
        List.drop_length_add_append, ih, List.reverse_cons,
        List.append_assoc]
      rfl

theorem drop_lowerList {n : ℕ} (within : n ≤ cs.length) :
    (lowerList cs).drop (n + (cs.take n).count 'İ') =
      lowerAfter (cs.take n).reverse (cs.drop n) := by
  have whole := drop_lowerAfter [] (cs.take n) (cs.drop n)
  rwa [List.take_append_drop, List.length_take_of_le within, List.append_nil] at whole

/-- Without a capital sigma the characters become the same everywhere. -/
theorem lowerAfter_append (plain : 'Σ' ∉ xs) (before ys : List Char) :
    lowerAfter before (xs ++ ys) = xs.flatMap lowerChar ++
      lowerAfter (xs.reverse ++ before) ys := by
  induction xs generalizing before with
  | nil => rfl
  | cons x xs ih =>
      rw [List.mem_cons, not_or] at plain
      have alone : lowerBetween before x (xs ++ ys) = lowerChar x := if_neg (Ne.symm plain.1)
      rw [List.cons_append, lowerAfter_cons, alone, ih plain.2, List.flatMap_cons,
        List.reverse_cons, List.append_assoc, List.append_assoc]
      rfl

theorem lowerList_of_plain (plain : 'Σ' ∉ cs) : lowerList cs = cs.flatMap lowerChar := by
  have whole := lowerAfter_append plain [] []
  rwa [List.append_nil, List.append_nil, lowerAfter, List.append_nil] at whole

end Text
end Spreadsheet
