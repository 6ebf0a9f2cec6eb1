import Mathlib.Order.Bounds.Image
import Spreadsheet.Proofs.Library.Calling
import Spreadsheet.Proofs.Text.Search

/-!
# Finding a text in a text

A text is found at the first place, at or behind the start, from which on its characters stand in
the other text. Places are counted in characters, although the search reports bytes, and the place
behind the last character is a start as well.
-/

namespace Spreadsheet
namespace Library
namespace Texts

open Text

variable {start : ℤ} {startArgument : Option Value} {now : Moment}

/-! ## Searching behind a start -/

/-- What a search behind some characters ends in. -/
theorem locatedBehind_eq (skipped : ℕ) (pattern cs : List Char) :
    locatedBehind skipped pattern cs =
      match indexOf? pattern (cs.drop skipped) with
      | some i => .ok (.count ((cs.take (skipped + i)).length + 1))
      | none => fail .value := by
  have cut := cutAt?_size (cs.take skipped) (cs.drop skipped)
  rw [List.take_append_drop] at cut
  rw [locatedBehind, cutAt, cut]
  change (match offsetOf? pattern (cs.drop skipped) with | some offset => _ | none => _) = _
  rw [offsetOf?]
  cases indexOf? pattern (cs.drop skipped) with
  | none => rfl
  | some i =>
      change cutAt _ cs >>= _ = _
      rw [cutAt, cutAt?_size_take_add]
      rfl

/-- A count that is read as an integer fails if the integer is negative. -/
theorem optional_natural (read : optional integer 1 startArgument = .ok start) :
    optional natural 1 startArgument = if start < 0 then fail .value else .ok start.toNat := by
  cases startArgument with
  | none =>
      obtain rfl := Except.ok.inj read
      rfl
  | some argument =>
      change natural argument = _
      rw [natural, show integer argument = .ok start from read]
      rfl

/-- A search in a text begins at a place of the text or behind its end, and fails everywhere
else. -/
theorem located_eq (f : List Char → List Char) (needle haystack : String)
    (read : optional integer 1 startArgument = .ok start) :
    located f (.text needle) (.text haystack) startArgument =
      if start < 1 ∨ haystack.toList.length + 1 < start then fail .value
      else locatedBehind (start.toNat - 1) (f needle.toList) (f haystack.toList) := by
  change (optional natural 1 startArgument >>= fun place =>
    if place < 1 ∨ haystack.toList.length + 1 < place then fail .value
    else predecessor place >>= fun skipped =>
      locatedBehind skipped (f needle.toList) (f haystack.toList)) = _
  rw [optional_natural read]
  by_cases negative : start < 0
  · rw [if_pos negative, if_pos (.inl (by omega))]
    rfl
  · obtain ⟨place, rfl⟩ := Int.eq_ofNat_of_zero_le (not_lt.mp negative)
    rw [if_neg negative]
    change (if place < 1 ∨ haystack.toList.length + 1 < place then fail .value else _) = _
    by_cases outside : place < 1 ∨ haystack.toList.length + 1 < place
    · rw [if_pos outside, if_pos (by omega)]
    · rw [if_neg outside, if_neg (by omega)]
      cases place with
      | zero => exact absurd (.inl Nat.one_pos) outside
      | succ skipped => rfl

/-! ## Places -/

/-- The places, counted from one, at or behind a start from which on the characters of a text
stand. -/
def placesFrom (start : ℤ) (needle haystack : String) : Set ℕ :=
  {place | start ≤ place ∧ (haystack.toList.drop (place - 1)).take needle.length = needle.toList}

/-- A call reports the first of some places: it ends in the least, and in the error for wrong
arguments exactly if there is none. -/
structure ReportsFirst (places : Set ℕ) (result : Value) : Prop where
  /-- The least place is reported. -/
  least : places.Nonempty → ∃ place, IsLeast places place ∧ result = .count place
  /-- Nothing is found only if there is nothing. -/
  notFound : result = .error .value ↔ places = ∅

/-- The places from a start are the occurrences behind it. -/
theorem placesFrom_eq_image (positive : 1 ≤ start) (needle haystack : String) :
    placesFrom start needle haystack =
      (start.toNat + ·) '' occurrences needle.toList (haystack.toList.drop (start.toNat - 1)) := by
  ext place
  have atPlace (i : ℕ) : i ∈ occurrences needle.toList (haystack.toList.drop (start.toNat - 1)) ↔
      (haystack.toList.drop (start.toNat + i - 1)).take needle.length = needle.toList := by
    rw [mem_occurrences, List.drop_drop, List.prefix_iff_eq_take, String.length_toList, eq_comm,
      show start.toNat - 1 + i = start.toNat + i - 1 by omega]
  constructor
  · rintro ⟨behind, stands⟩
    obtain ⟨i, rfl⟩ := Nat.exists_eq_add_of_le (Int.toNat_le.mpr behind)
    exact ⟨i, (atPlace i).mpr stands, rfl⟩
  · rintro ⟨i, occurs, rfl⟩
    have behind : start ≤ ((start.toNat + i : ℕ) : ℤ) := by omega
    exact ⟨behind, (atPlace i).mp occurs⟩

/-- A search from a place of a text reports the first place from which on the other text stands. -/
theorem reportsFirst_locatedBehind {needle haystack : String} (positive : 1 ≤ start)
    (inside : start ≤ haystack.toList.length + 1) :
    ReportsFirst (placesFrom start needle haystack)
      (valueOf (locatedBehind (start.toNat - 1) needle.toList haystack.toList)) := by
  rw [placesFrom_eq_image positive, locatedBehind_eq]
  rcases indexOf?_spec needle.toList (haystack.toList.drop (start.toNat - 1)) with
    ⟨i, least, found⟩ | ⟨none, missed⟩
  · have within := le_length_of_isLeast least
    rw [List.length_drop] at within
    have place_eq : (haystack.toList.take (start.toNat - 1 + i)).length + 1 = start.toNat + i := by
      rw [List.length_take_of_le (by omega)]
      omega
    rw [found]
    change ReportsFirst _ (Value.count _)
    rw [place_eq]
    have monotone : Monotone (start.toNat + ·) := fun _ _ le => Nat.add_le_add_left le _
    have first := monotone.map_isLeast least
    refine ⟨fun _ => ⟨_, first, rfl⟩, fun isError => absurd isError (number_ne_error _ _),
      fun none => ?_⟩
    exact absurd first.1 (none ▸ Set.notMem_empty _)
  · rw [missed, none, Set.image_empty]
    exact ⟨fun nonempty => absurd nonempty Set.not_nonempty_empty, fun _ => rfl, fun _ => rfl⟩

theorem find?_find : (standard now).find? "FIND" = some (.twoOrThree "FIND" (located id)) := by
  with_unfolding_all rfl

/-- Nothing is found from a start that is neither a place of the text nor the one behind it. -/
theorem call_find_outside {needle haystack : String}
    (read : optional integer 1 startArgument = .ok start)
    (outside : start < 1 ∨ haystack.toList.length + 1 < start) :
    (standard now).call "FIND" (.text needle :: .text haystack :: startArgument.toList) =
      .error .value := by
  rw [call_twoOrThree find?_find, located_eq id needle haystack read, if_pos outside]
  rfl

theorem call_find {needle haystack : String} (read : optional integer 1 startArgument = .ok start)
    (positive : 1 ≤ start) (inside : start ≤ haystack.toList.length + 1) :
    ReportsFirst (placesFrom start needle haystack)
      ((standard now).call "FIND" (.text needle :: .text haystack :: startArgument.toList)) := by
  rw [call_twoOrThree find?_find, located_eq id needle haystack read, if_neg (by omega)]
  exact reportsFirst_locatedBehind positive inside

/-- A text is found in another one at the first place, at or behind the start, from which on it
stands there, and nothing is found exactly if there is no such place. A start that is neither a
place of the text nor the one behind it is an error. -/
theorem find_first_occurrence (now : Moment) (needle haystack : String)
    (startArgument : Option Value) (read : optional integer 1 startArgument = .ok start) :
    let result := (standard now).call "FIND"
      (.text needle :: .text haystack :: startArgument.toList)
    (start < 1 ∨ haystack.length + 1 < start → result = .error .value) ∧
      (1 ≤ start → start ≤ haystack.length + 1 →
        ReportsFirst (placesFrom start needle haystack) result) := by
  intro result
  rw [← String.length_toList]
  exact ⟨call_find_outside read, call_find read⟩

/-- A character of two bytes is found behind one of four bytes, at its place among the
characters. -/
theorem find_first_occurrence_of_wide_characters :
    let library := standard ⟨⟨2000, 1, 1⟩, 0⟩
    optional integer 1 (some (.number 3.0)) = .ok 3 ∧ IsLeast (placesFrom 3 "ß" "aßb😀ß") 5 ∧
      library.call "FIND" [.text "ß", .text "aßb😀ß", .number 3.0] = .count 5 := by
  intro library
  have third : optional integer 1 (some (.number 3.0)) = .ok 3 := by decide +kernel
  have first : IsLeast (placesFrom 3 "ß" "aßb😀ß") 5 := by
    refine ⟨⟨by decide, by decide⟩, ?_⟩
    rintro place ⟨behind, stands⟩
    by_contra before
    obtain rfl | rfl : place = 3 ∨ place = 4 := by omega
    · exact absurd stands (by decide)
    · exact absurd stands (by decide)
  obtain ⟨-, reports⟩ :=
    find_first_occurrence ⟨⟨2000, 1, 1⟩, 0⟩ "ß" "aßb😀ß" (some (.number 3.0)) third
  obtain ⟨place, least, found⟩ := (reports (by decide) (by decide)).least ⟨5, first.1⟩
  obtain rfl := least.unique first
  exact ⟨third, first, found⟩

end Texts
end Library
end Spreadsheet
