import Spreadsheet.Proofs.Library.Bodies
import Spreadsheet.Proofs.Text.Slices

/-!
# Text functions do not crash

Texts are cut only at numbers of bytes that a search or a count of characters gives, which never
lie inside a character, and places are counted down only after they are known to be positive.
-/

namespace Spreadsheet
namespace Library
namespace Texts

open Text

variable {cs old new : List Char} {offset : Nat}

theorem ensures_cutAt_size (before after : List Char) :
    Ensures (· = (before, after)) (cutAt (size before) (before ++ after)) := by
  rw [cutAt, cutAt?_size]
  rfl

/-- The text is cut in front of an occurrence and behind it. -/
theorem ensures_replacedAt (member : offset ∈ offsetsOf old cs) :
    Ensures Value.IsRegular (replacedAt offset old new cs) := by
  obtain ⟨before, after, rfl, rfl⟩ := exists_of_mem_offsetsFrom member
  rw [Nat.zero_add, replacedAt]
  refine (ensures_cutAt_size before (old ++ after)).bind fun first _ => ?_
  rw [← size_append, ← List.append_assoc]
  exact (ensures_cutAt_size (before ++ old) after).bind fun second _ => trivial

theorem ensures_middle (argument start count : Value) :
    Ensures Value.IsRegular (middle argument start count) := by
  refine ensuresUnless_bind.mpr (ensures_chars.mpr fun cs _ => ?_)
  refine ensuresUnless_bind.mpr (ensures_natural.mpr fun place _ => ?_)
  refine ensuresUnless_bind.mpr (ensures_natural.mpr fun n _ => ?_)
  refine ensuresUnless_ite.mpr ⟨fun _ => trivial, fun positive => ?_⟩
  exact (ensures_predecessor (Nat.not_lt.mp positive)).bind fun skipped _ => trivial

theorem ensures_substituted (argument pattern replacement : Value) (occurrence : Option Value) :
    Ensures Value.IsRegular (substituted argument pattern replacement occurrence) := by
  refine ensuresUnless_bind.mpr (ensures_chars.mpr fun cs _ => ?_)
  refine ensuresUnless_bind.mpr (ensures_chars.mpr fun old _ => ?_)
  refine ensuresUnless_bind.mpr (ensures_chars.mpr fun new _ => ?_)
  refine ensuresUnless_ite.mpr ⟨fun _ => trivial, fun _ => ?_⟩
  cases occurrence with
  | none => trivial
  | some which =>
      refine ensuresUnless_bind.mpr (ensures_natural.mpr fun n _ => ?_)
      refine ensuresUnless_ite.mpr ⟨fun _ => trivial, fun positive => ?_⟩
      refine (ensures_predecessor (Nat.not_lt.mp positive)).bind fun skipped _ => ?_
      cases found : (offsetsOf old cs)[skipped]? with
      | none => trivial
      | some offset => exact ensures_replacedAt (List.mem_of_getElem? found)

/-- The text is cut behind the characters that are skipped, and where the search behind them
ends. -/
theorem ensures_locatedBehind (skipped : Nat) (needle haystack : List Char) :
    Ensures Value.IsRegular (locatedBehind skipped needle haystack) := by
  have whole := List.take_append_drop skipped haystack
  rw [locatedBehind]
  have cut := ensures_cutAt_size (haystack.take skipped) (haystack.drop skipped)
  rw [whole] at cut
  refine cut.bind fun parts same => ?_
  subst same
  dsimp only
  cases found : offsetOf? needle (haystack.drop skipped) with
  | none => trivial
  | some offset =>
      obtain ⟨before, after, searched, rfl⟩ := exists_of_offsetOf? found
      have cut := ensures_cutAt_size (haystack.take skipped ++ before) after
      rw [size_append, List.append_assoc, ← searched, whole] at cut
      exact cut.bind fun _ _ => trivial

theorem ensures_located (f : List Char → List Char) (pattern argument : Value)
    (start : Option Value) :
    Ensures Value.IsRegular (located f pattern argument start) := by
  refine ensuresUnless_bind.mpr (ensures_chars.mpr fun needle _ => ?_)
  refine ensuresUnless_bind.mpr (ensures_chars.mpr fun haystack _ => ?_)
  refine (ensures_optional fun _ => by simp).bind fun place _ => ?_
  refine ensuresUnless_ite.mpr ⟨fun _ => trivial, fun inside => ?_⟩
  have positive : 0 < place := Nat.pos_of_ne_zero fun none => inside (.inl (by omega))
  refine (ensures_predecessor positive).bind fun skipped _ => ?_
  exact ensures_locatedBehind skipped (f needle) (f haystack)

theorem ensures_concatenated (arguments : List Value) :
    Ensures Value.IsRegular (concatenated arguments) := by
  have texts : Ensures (fun _ => True) (joined (Value.flattenRow arguments)) := by
    refine EnsuresUnless.bind (@ensuresUnless_mapM _ _ _ (fun _ => True) _ _ fun value _ => ?_)
      fun _ _ => trivial
    cases value <;> trivial
  exact texts.bind fun _ _ => trivial

/-- The characters at one end of a text. -/
theorem ensures_end (cut : List Char → Nat → List Char) (argument : Value) (count : Option Value) :
    Ensures Value.IsRegular (do
      let cs ← chars argument
      let n ← optional natural 1 count
      result (cut cs n)) := by
  refine ensuresUnless_bind.mpr (ensures_chars.mpr fun cs _ => ?_)
  exact (ensures_optional fun _ => by simp).bind fun _ _ => trivial

theorem ensures_toNumber (argument : Value) : Ensures Value.IsRegular (toNumber argument) := by
  rw [toNumber]
  split <;> simp

theorem isSafe_of_mem : ∀ d ∈ definitions, d.IsSafe := by
  simp only [definitions, List.forall_mem_cons, List.not_mem_nil, false_imp_iff, implies_true,
    and_true]
  have maps (name : String) (f : List Char → List Char) :
      (Definition.unary name (mapped f)).IsSafe :=
    isSafe_unary fun _ _ => by simp [mapped, result]
  exact ⟨isSafe_unary fun _ _ => by simp [length],
    maps _ _, maps _ _, maps _ _,
    isSafe_unary fun _ _ => by simp [squeezed],
    isSafeUnless_variadic ensures_concatenated,
    isSafeUnless_variadic ensures_concatenated,
    isSafe_oneOrTwo fun _ _ _ _ => ensures_end (fun cs n => cs.take n) _ _,
    isSafe_oneOrTwo fun _ _ _ _ => ensures_end (fun cs n => cs.drop (cs.length - n)) _ _,
    isSafe_ternary fun _ _ _ _ _ _ => ensures_middle _ _ _,
    isSafeUnless_binary fun _ _ _ _ => by simp [repeated, result],
    isSafe_threeOrFour fun _ _ _ _ _ _ _ _ => ensures_substituted _ _ _ _,
    isSafe_twoOrThree fun _ _ _ _ _ _ => ensures_located id _ _ _,
    isSafe_twoOrThree fun _ _ _ _ _ _ => ensures_located Text.lowerList _ _ _,
    isSafe_unary fun _ _ => ensures_toNumber _,
    isSafeUnless_binary fun _ _ _ _ => by simp [same]⟩

end Texts
end Library
end Spreadsheet
