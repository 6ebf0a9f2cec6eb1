import Spreadsheet.Proofs.Library.Arguments
import Spreadsheet.Proofs.Library.Calling
import Spreadsheet.Proofs.Text.Replacement

/-!
# Replacing a text in a text

A text is replaced everywhere or in one place, which is given by its number among the occurrences
from left to right. The two agree: replacing the occurrences one at a time, from the last one to
the first, has the result of replacing all of them, although the replacement may contain the text
or complete an occurrence with what stands around it.
-/

namespace Spreadsheet
namespace Library
namespace Texts

open Text

variable {s old new : String} {which : Value} {k n : ℕ} {now : Moment}
  {pattern replacement : List Char}

/-- Cutting a text in front of an occurrence and behind it replaces the occurrence. -/
theorem replacedAt_size (before pattern after replacement : List Char) :
    replacedAt (size before) pattern replacement (before ++ (pattern ++ after)) =
      result (before ++ (replacement ++ after)) := by
  have second := cutAt?_size (before ++ pattern) after
  rw [List.append_assoc, size_append] at second
  rw [replacedAt, cutAt, cutAt, cutAt?_size, second, ← List.append_assoc]
  rfl

/-- A number counts the occurrences from one. -/
theorem substituted_some (filled : old.toList ≠ []) (read : integer which = .ok (k + 1 : ℕ)) :
    substituted (.text s) (.text old) (.text new) (some which) =
      result (replaceNth old.toList new.toList k s.toList) := by
  have counted : natural which = .ok (k + 1) := by
    rw [natural, read]
    rfl
  change (if old.toList.isEmpty then _ else natural which >>= _) = _
  have preceding : predecessor (k + 1) = .ok k := rfl
  have shown (t : String) : (Value.text t).scalar.display = t := rfl
  rw [if_neg (by simpa using filled), counted]
  dsimp only [bind, Except.bind]
  rw [if_neg (Nat.not_lt.mpr (Nat.le_add_left 1 k)), preceding, shown, shown, shown]
  dsimp only
  rcases replaceNth_spec filled new.toList k s.toList
    with ⟨before, after, whole, found, replaced⟩ | ⟨missed, kept⟩
  · rw [found, replaced, whole]
    exact replacedAt_size before old.toList after new.toList
  · rw [missed, kept]

theorem substituted_none (filled : old.toList ≠ []) :
    substituted (.text s) (.text old) (.text new) none =
      result (replaceAll old.toList new.toList s.toList) := by
  change (if old.toList.isEmpty then _ else result (replaceAll old.toList new.toList s.toList)) = _
  rw [if_neg (by simpa using filled)]

theorem find?_substitute :
    (standard now).find? "SUBSTITUTE" = some (.threeOrFour "SUBSTITUTE" substituted) := by
  with_unfolding_all rfl

theorem call_substitute_one (filled : old.toList ≠ []) (read : integer which = .ok (k + 1 : ℕ))
    (cs : List Char) :
    (standard now).call "SUBSTITUTE" [.text (String.ofList cs), .text old, .text new, which] =
      .text (String.ofList (replaceNth old.toList new.toList k cs)) := by
  have called : (standard now).call "SUBSTITUTE"
      [.text (String.ofList cs), .text old, .text new, which] =
      valueOf (substituted (.text (String.ofList cs)) (.text old) (.text new) (some which)) :=
    call_of_find? find?_substitute rfl
  rw [called, substituted_some filled read, String.toList_ofList]
  rfl

/-- Replacing the occurrences of a text one at a time, the last one first, has the result of
replacing all of them, and a number beyond the last occurrence replaces nothing. -/
theorem substitute_one_by_one (now : Moment) (s new : String) (filled : old ≠ "") :
    let substitute := (standard now).call "SUBSTITUTE"
    ∃ n, (∀ m, OccursTimes old.toList m s.toList ↔ m = n) ∧
      (∀ number : ℕ → Value, (∀ k, 1 ≤ k → k ≤ n → integer (number k) = .ok k) →
        (List.range' 1 n).foldr (fun k t => substitute [t, .text old, .text new, number k])
            (.text s) =
          substitute [.text s, .text old, .text new]) ∧
      ∀ (k : ℕ) (which : Value), integer which = .ok k → n < k →
        substitute [.text s, .text old, .text new, which] = .text s := by
  intro substitute
  have filled : old.toList ≠ [] := by simpa using filled
  have one {k : ℕ} {which : Value} (read : integer which = .ok (k + 1 : ℕ)) (cs : List Char) :
      substitute [.text (String.ofList cs), .text old, .text new, which] =
        .text (String.ofList (replaceNth old.toList new.toList k cs)) :=
      call_substitute_one filled read cs
  have all : substitute [.text s, .text old, .text new] =
      .text (String.ofList (replaceAll old.toList new.toList s.toList)) := by
    have called : substitute [.text s, .text old, .text new] =
        valueOf (substituted (.text s) (.text old) (.text new) none) :=
      call_of_find? find?_substitute rfl
    rw [called, substituted_none filled]
    rfl
  have times : OccursTimes old.toList _ s.toList := (occursTimes_iff filled).mpr rfl
  refine ⟨_, fun m => occursTimes_iff filled, fun number read => ?_, fun k which read beyond => ?_⟩
  · rw [all, ← foldr_replaceNth_eq_replaceAll filled times, List.range'_eq_map_range,
      List.foldr_map]
    refine List.foldr_rel (r := fun value cs => value = Value.text (String.ofList cs)) ?_ ?_
    · rw [String.ofList_toList]
    · rintro k member _ cs rfl
      rw [List.mem_range] at member
      exact one (Nat.add_comm 1 k ▸ read (1 + k) (by omega) (by omega)) cs
  · obtain ⟨k, rfl⟩ := Nat.exists_eq_succ_of_ne_zero (Nat.ne_zero_of_lt beyond)
    have same := one read s.toList
    rwa [replaceNth_of_le times (Nat.le_of_lt_succ beyond), String.ofList_toList] at same

/-- Occurrences that overlap count once, and the replacement may contain the text that it
replaces. -/
theorem substitute_one_by_one_of_overlaps :
    let substitute := (standard ⟨⟨2000, 1, 1⟩, 0⟩).call "SUBSTITUTE"
    "aa" ≠ "" ∧ OccursTimes ['a', 'a'] 2 ['a', 'a', 'a', 'a', 'a'] ∧
      (substitute [substitute [.text "aaaaa", .text "aa", .text "baa", .count 2], .text "aa",
        .text "baa", .count 1] =
        substitute [.text "aaaaa", .text "aa", .text "baa"]) ∧
      substitute [.text "aaaaa", .text "aa", .text "baa", .count 3] = .text "aaaaa" := by
  intro substitute
  have filled : "aa" ≠ "" := by decide
  obtain ⟨n, times, all, beyond⟩ := substitute_one_by_one ⟨⟨2000, 1, 1⟩, 0⟩ "aaaaa" "baa" filled
  have twice : OccursTimes ['a', 'a'] 2 ['a', 'a', 'a', 'a', 'a'] :=
    (occursTimes_iff (by decide)).mpr (by decide)
  obtain rfl : 2 = n := (times 2).mp twice
  have both := all Value.count fun k _ le => integer_count (by omega)
  rw [show List.range' 1 2 = [1, 2] from rfl, List.foldr_cons, List.foldr_cons,
    List.foldr_nil] at both
  exact ⟨filled, twice, both, beyond 3 (.count 3) (integer_count (by decide)) (by decide)⟩

end Texts
end Library
end Spreadsheet
