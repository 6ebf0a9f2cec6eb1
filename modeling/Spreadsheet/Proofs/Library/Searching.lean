import Spreadsheet.Proofs.Library.Arguments
import Spreadsheet.Proofs.Library.Finding
import Spreadsheet.Proofs.Text.Lowering

/-!
# Searching for a text without regard to case

A search finds the first place of the haystack in lowercase where the needle in lowercase stands.
Where the needle stands as it is given, it stands in lowercase as well, unless it has a capital
sigma, and there are as many more places in front of it as there are capital I with a dot.
-/

namespace Spreadsheet
namespace Library
namespace Texts

open Text

variable {start : ℤ} {startArgument : Option Value} {now : Moment} {needle haystack : String}
  {place : ℕ}

theorem find?_search :
    (standard now).find? "SEARCH" = some (.twoOrThree "SEARCH" (located lowerList)) := by
  with_unfolding_all rfl

/-- The lowercase of a text goes on with the lowercase of another text from a place on, where the
places are counted in the text as it is given. -/
def StandsInLowercase (needle haystack : String) (place : ℕ) : Prop :=
  lowerList needle.toList <+: lowerAfter (haystack.toList.take (place - 1)).reverse
    (haystack.toList.drop (place - 1))

instance decidableStandsInLowercase : Decidable (StandsInLowercase needle haystack place) :=
  inferInstanceAs (Decidable (_ <+: _))

theorem mem_placesFrom : place ∈ placesFrom start needle haystack ↔
    start ≤ place ∧ needle.toList <+: haystack.toList.drop (place - 1) := by
  rw [List.prefix_iff_eq_take, String.length_toList, eq_comm]
  exact Iff.rfl

/-- A text stands in lowercase where it stands as it is given, if it has no capital sigma. -/
theorem standsInLowercase_of_plain (plain : 'Σ' ∉ needle.toList)
    (member : place ∈ placesFrom start needle haystack) :
    StandsInLowercase needle haystack place := by
  obtain ⟨behind, rest_eq⟩ := (mem_placesFrom.mp member).2
  rw [StandsInLowercase, ← rest_eq, lowerAfter_append plain, lowerList_of_plain plain]
  exact List.prefix_append _ _

/-- The place in lowercase of a place of the text as it is given. -/
theorem mem_placesFrom_lower (positive : 1 ≤ place) (within : place ≤ haystack.toList.length + 1)
    (behind : start ≤ place) (stands : StandsInLowercase needle haystack place) :
    place + (haystack.toList.take (place - 1)).count 'İ' ∈
      placesFrom start (lower needle) (lower haystack) := by
  refine mem_placesFrom.mpr ⟨by omega, ?_⟩
  rw [lower, lower, String.toList_ofList, String.toList_ofList, Nat.sub_add_comm positive,
    drop_lowerList (by omega)]
  exact stands

/-- Without a capital I with a dot the places are the same. -/
theorem placesFrom_lower (undotted : 'İ' ∉ haystack.toList) :
    placesFrom start (lower needle) (lower haystack) =
      {place : ℕ | start ≤ place ∧ StandsInLowercase needle haystack place} := by
  ext place
  rw [mem_placesFrom, lower, lower, String.toList_ofList, String.toList_ofList]
  refine and_congr_right fun behind => ?_
  have none (n : ℕ) : (haystack.toList.take n).count 'İ' = 0 :=
    List.count_eq_zero.mpr fun member => undotted (List.mem_of_mem_take member)
  rcases le_or_gt (place - 1) haystack.toList.length with within | beyond
  · have drop_eq := drop_lowerList within
    rw [none, Nat.add_zero] at drop_eq
    rw [drop_eq]
    exact Iff.rfl
  · have length : (lowerList haystack.toList).length = haystack.toList.length := by
      rw [lowerList, length_lowerAfter, List.count_eq_zero.mpr undotted, Nat.add_zero]
    rw [List.drop_eq_nil_of_le (by omega), StandsInLowercase, List.drop_eq_nil_of_le beyond.le]
    exact Iff.rfl

/-- The first place does not lie beyond the one behind the last character. -/
theorem le_of_isLeast_placesFrom (positive : 1 ≤ start)
    (inside : start ≤ haystack.toList.length + 1)
    (first : IsLeast (placesFrom start needle haystack) place) :
    place ≤ haystack.toList.length + 1 := by
  rw [placesFrom_eq_image positive] at first
  obtain ⟨i, occurs, rfl⟩ := first.1
  have least : IsLeast (occurrences needle.toList (haystack.toList.drop (start.toNat - 1))) i :=
    ⟨occurs, fun j member => Nat.le_of_add_le_add_left (first.2 ⟨j, member, rfl⟩)⟩
  have within := le_length_of_isLeast least
  rw [List.length_drop] at within
  dsimp only
  omega

/-- A text that is found as it is given is searched for from a place of the haystack or the one
behind it. -/
theorem bounds_of_find (read : optional integer 1 startArgument = .ok start)
    (found : (standard now).call "FIND"
      (.text needle :: .text haystack :: startArgument.toList) ≠ .error .value) :
    1 ≤ start ∧ start ≤ haystack.toList.length + 1 := by
  by_contra outside
  exact found (call_find_outside read (by omega))

theorem call_search (read : optional integer 1 startArgument = .ok start) (positive : 1 ≤ start)
    (inside : start ≤ haystack.toList.length + 1) :
    ReportsFirst (placesFrom start (lower needle) (lower haystack))
      ((standard now).call "SEARCH" (.text needle :: .text haystack :: startArgument.toList)) := by
  have toList_lower (s : String) : (lower s).toList = lowerList s.toList := String.toList_ofList
  have inside_lower : start ≤ (lower haystack).toList.length + 1 := by
    rw [toList_lower, lowerList, length_lowerAfter]
    omega
  have reports : ReportsFirst (placesFrom start (lower needle) (lower haystack)) _ :=
    reportsFirst_locatedBehind positive inside_lower
  rw [call_twoOrThree find?_search, located_eq lowerList needle haystack read, if_neg (by omega)]
  rwa [toList_lower, toList_lower] at reports

/-- A search reports the first place of the lowercase haystack where the lowercase needle stands.
These are the places of the haystack as it is given, if it has no capital I with a dot. If the
needle has no capital sigma, a search does not miss the first place where the needle stands as it
is given, but counts every capital I with a dot before it twice. -/
theorem search_first_in_lowercase (now : Moment) (needle haystack : String)
    (startArgument : Option Value) (read : optional integer 1 startArgument = .ok start)
    (found : (standard now).call "FIND"
      (.text needle :: .text haystack :: startArgument.toList) ≠ .error .value) :
    let arguments := Value.text needle :: .text haystack :: startArgument.toList
    let result := (standard now).call "SEARCH" arguments
    ReportsFirst (placesFrom start (lower needle) (lower haystack)) result ∧
      ('İ' ∉ haystack.toList →
        ReportsFirst {q : ℕ | start ≤ q ∧ StandsInLowercase needle haystack q} result) ∧
      ∃ place, IsLeast (placesFrom start needle haystack) place ∧
        (standard now).call "FIND" arguments = .count place ∧
        ('Σ' ∉ needle.toList → ∃ q : ℕ, start ≤ q ∧
          q ≤ place + (haystack.toList.take (place - 1)).count 'İ' ∧ result = .count q) := by
  intro arguments result
  obtain ⟨positive, inside⟩ := bounds_of_find read found
  have reports : ReportsFirst (placesFrom start (lower needle) (lower haystack)) result :=
    call_search read positive inside
  have finds : ReportsFirst (placesFrom start needle haystack)
      ((standard now).call "FIND" arguments) :=
    call_find read positive inside
  obtain ⟨place, first, place_found⟩ := finds.least
    (Set.nonempty_iff_ne_empty.mpr fun none => found (finds.notFound.mpr none))
  refine ⟨reports, fun undotted => placesFrom_lower undotted ▸ reports, place, first, place_found,
    fun plain => ?_⟩
  have behind := first.1.1
  have member := mem_placesFrom_lower (by omega)
    (le_of_isLeast_placesFrom positive inside first) behind
    (standsInLowercase_of_plain plain first.1)
  obtain ⟨q, least, reported⟩ := reports.least ⟨_, member⟩
  exact ⟨q, least.1.1, least.2 member, reported⟩

theorem isLeast_second (missing : ¬ needle.toList <+: haystack.toList)
    (stands : needle.toList <+: haystack.toList.drop 1) :
    IsLeast (placesFrom 1 needle haystack) 2 := by
  refine ⟨mem_placesFrom.mpr ⟨by decide, stands⟩, fun place member => ?_⟩
  by_contra before
  have behind := member.1
  obtain rfl : place = 1 := by omega
  exact missing (mem_placesFrom.mp member).2

/-- A small letter is found in front of the capital one. -/
theorem search_first_in_lowercase_of_both_cases :
    let library := standard ⟨⟨2000, 1, 1⟩, 0⟩
    optional integer 1 none = .ok 1 ∧ library.call "FIND" [.text "A", .text "aA"] = .count 2 ∧
      IsLeast (placesFrom 1 "A" "aA") 2 ∧
      library.call "SEARCH" [.text "A", .text "aA"] = .count 1 := by
  intro library
  have found : library.call "FIND" [.text "A", .text "aA"] = .count 2 :=
    (call_of_find? find?_find rfl).trans rfl
  have first : IsLeast (placesFrom 1 "A" "aA") 2 := isLeast_second (by decide) (by decide)
  obtain ⟨-, reports, -⟩ := search_first_in_lowercase ⟨⟨2000, 1, 1⟩, 0⟩ "A" "aA" none rfl
    (found.trans_ne (number_ne_error _ _))
  have least : IsLeast {q : ℕ | (1 : ℤ) ≤ q ∧ StandsInLowercase "A" "aA" q} 1 :=
    ⟨⟨by decide, by decide⟩, fun q member => Int.ofNat_le.mp member.1⟩
  obtain ⟨q, first', searched⟩ := (reports (by decide)).least ⟨1, least.1⟩
  obtain rfl := first'.unique least
  exact ⟨rfl, found, first, searched⟩

/-- The capital I with a dot becomes two characters, so that what stands behind it is reported one
place too late. -/
theorem not_forall_search_le_find :
    ¬ ∀ (now : Moment) (needle haystack : String) (startArgument : Option Value) (start : ℤ)
        (place : ℕ), place < 2 ^ 53 → optional integer 1 startArgument = .ok start →
      (standard now).call "FIND" (.text needle :: .text haystack :: startArgument.toList) =
        .count place →
      ∃ q : ℕ, start ≤ q ∧ q ≤ place ∧
        (standard now).call "SEARCH" (.text needle :: .text haystack :: startArgument.toList) =
          .count q := by
  intro search_le_find
  have found : (standard ⟨⟨2000, 1, 1⟩, 0⟩).call "FIND" [.text "a", .text "İa"] = .count 2 :=
    (call_of_find? find?_find rfl).trans rfl
  have searched : (standard ⟨⟨2000, 1, 1⟩, 0⟩).call "SEARCH" [.text "a", .text "İa"] = .count 3 :=
    (call_of_find? find?_search rfl).trans rfl
  obtain ⟨q, -, q_le, result⟩ :=
    search_le_find ⟨⟨2000, 1, 1⟩, 0⟩ "a" "İa" none 1 2 (by decide) rfl found
  obtain rfl : 3 = q := count_inj (by decide) (by omega) (searched.symm.trans result)
  exact absurd q_le (by decide)

end Texts
end Library
end Spreadsheet
