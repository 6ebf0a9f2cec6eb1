import Spreadsheet.Proofs.Formula.Relocation

/-!
# Relocating the names of calls

A name of a call may contain colons, and then relocation finds references in it that end at a
colon. What becomes of a name does not depend on the text around it or on the case of its letters.
It is a word again unless a reference in it is lost.
-/

namespace Spreadsheet
namespace Formula

variable {s : Shift} {c x : Char} {cs u rest : List Char} {before : Option Char} {length : Nat}

/-! ## Where a match ends -/

theorem markLength_append (other : x ≠ '$') (u rest : List Char) :
    markLength (u ++ x :: rest) = markLength u := by
  cases u with
  | nil => simp [markLength, other]
  | cons c u => by_cases marked : c = '$' <;> simp [markLength, marked]

theorem markLength_le (cs : List Char) : markLength cs ≤ cs.length := by
  cases cs with
  | nil => exact le_rfl
  | cons c cs => by_cases marked : c = '$' <;> simp [markLength, marked]

/-- A run of characters of one kind ends at a character of another kind. -/
theorem takeWhile_append_cons {p : Char → Bool} (other : ¬ p x) (u rest : List Char) :
    (u ++ x :: rest).takeWhile p = u.takeWhile p := by
  induction u with
  | nil => exact List.takeWhile_cons_of_neg other
  | cons c u ih =>
      rw [List.cons_append, List.takeWhile_cons, List.takeWhile_cons, ih]

/-- An address ends at a character that cannot be part of it. -/
theorem addressLength?_append_cons (other : ¬ Address.IsPart x) (u rest : List Char) :
    addressLength? (u ++ x :: rest) = addressLength? u := by
  have no_mark : x ≠ '$' := fun same => other (.inr same)
  have no_letter : ¬ x.isAlpha := fun letter =>
    other (.inl (by rw [Char.isAlphanum, letter, Bool.true_or]))
  have no_digit : ¬ x.isDigit := fun digit =>
    other (.inl (by rw [Char.isAlphanum, digit, Bool.or_true]))
  have mark_le := markLength_le u
  have letters_le := (List.takeWhile_prefix (l := u.drop (markLength u)) Char.isAlpha).length_le
  rw [List.length_drop] at letters_le
  have mark_le' :=
    markLength_le (u.drop (markLength u + ((u.drop (markLength u)).takeWhile Char.isAlpha).length))
  rw [List.length_drop] at mark_le'
  simp only [addressLength?, markLength_append no_mark]
  rw [List.drop_append_of_le_length mark_le, takeWhile_append_cons no_letter,
    List.drop_append_of_le_length (by omega), markLength_append no_mark,
    List.drop_append_of_le_length (by rw [List.length_drop]; omega),
    takeWhile_append_cons no_digit]

theorem addressLength?_le (found : addressLength? cs = some length) : length ≤ cs.length := by
  obtain ⟨u, rest, rfl, rfl, _⟩ := looksLikeAddress_of_addressLength? found
  simp

/-- So does a reference, unless the character is a colon. -/
theorem referenceLength?_append_cons (other : ¬ Address.IsPart x) (no_colon : x ≠ ':')
    (u rest : List Char) : referenceLength? (u ++ x :: rest) = referenceLength? u := by
  rw [referenceLength?, referenceLength?, addressLength?_append_cons other]
  cases found : addressLength? u with
  | none => rfl
  | some first =>
      rw [Option.map_some, Option.map_some,
        List.drop_append_of_le_length (addressLength?_le found)]
      cases u.drop first with
      | nil => simp [no_colon]
      | cons c back =>
          by_cases colon : c = ':'
          · subst colon
            simp only [List.cons_append, addressLength?_append_cons other]
          · simp [colon]

theorem referenceLength?_le (found : referenceLength? cs = some length) : length ≤ cs.length := by
  obtain ⟨first, first_found, rfl⟩ := Option.map_eq_some_iff.mp found
  have first_le := addressLength?_le first_found
  split
  · rename_i afterColon behind
    have whole := congrArg List.length behind
    rw [List.length_drop, List.length_cons] at whole
    split
    · rename_i second second_found
      have second_le := addressLength?_le second_found
      omega
    · exact first_le
  · exact first_le

theorem referenceLength?_pos (found : referenceLength? cs = some length) : 0 < length := by
  obtain ⟨first, first_found, rfl⟩ := Option.map_eq_some_iff.mp found
  obtain ⟨u, rest, _, rfl, looks⟩ := looksLikeAddress_of_addressLength? first_found
  obtain ⟨c, w, rfl, _⟩ := looks.exists_cons
  have some_chars : 0 < (c :: w).length := by simp
  split
  · split <;> omega
  · exact some_chars

/-- Relocation goes through a text character by character and reference by reference. -/
theorem relocatePlain_induction {motive : Option Char → List Char → Prop}
    (nil : ∀ before, motive before [])
    (plain : ∀ before c rest, referenceLength? (c :: rest) = none → motive (some c) rest →
      motive before (c :: rest))
    (reference : ∀ before u rest, u ≠ [] → referenceLength? (u ++ rest) = some u.length →
      motive u.getLast? rest → motive before (u ++ rest))
    (before : Option Char) (cs : List Char) : motive before cs := by
  generalize size : cs.length = n
  induction n using Nat.strongRecOn generalizing before cs with
  | ind n ih =>
      cases cs with
      | nil => exact nil before
      | cons c rest =>
          cases found : referenceLength? (c :: rest) with
          | none => exact plain before c rest found (ih _ (by simp [← size]) _ _ rfl)
          | some length =>
              have pos := referenceLength?_pos found
              have le := referenceLength?_le found
              have taken : ((c :: rest).take length).length = length := List.length_take_of_le le
              rw [← List.take_append_drop length (c :: rest)] at found ⊢
              refine reference before _ _ ?_ (by rw [found, taken]) (ih _ ?_ _ _ rfl)
              · intro nothing
                rw [nothing, List.length_nil] at taken
                omega
              · rw [List.length_drop]
                omega

/-! ## Names -/

/-- The character in front of a text matters only if it hides a reference. -/
theorem relocatePlain_congr {before' : Option Char} (cs : List Char)
    (same : before.any gluesBefore = before'.any gluesBefore) :
    relocatePlain s before cs = relocatePlain s before' cs := by
  cases cs with
  | nil => simp [relocatePlain]
  | cons c rest =>
      unfold relocatePlain
      simp only [same]

/-- What relocation makes of the name of a call. -/
def relocateName (s : Shift) (name : List Char) : List Char :=
  (relocatePlain s none (name ++ ['('])).dropLast

/-- A relocated reference is lost, as it was, or a word. -/
theorem relocateReference_cases (s : Shift) (u : List Char) :
    relocateReference s u = ErrorCode.reference.code.toList ∨ relocateReference s u = u ∨
      IsWord (relocateReference s u) := by
  unfold relocateReference
  split
  · split
    · exact .inr (.inl rfl)
    · split
      · exact .inl rfl
      · split
        · exact .inr (.inl rfl)
        · exact .inr (.inr (isWord_text _))
  · split
    · exact .inr (.inl rfl)
    · split
      · exact .inl rfl
      · split
        · exact .inr (.inl rfl)
        · exact .inr (.inr (looksLikeAddress_chars _).isWord)

/-- One text is another one with some references in it written anew, and none lost. -/
structure Rewritten (u u' : List Char) : Prop where
  /-- The characters are those of the other text or those of words. -/
  mem : ∀ c ∈ u', c ∈ u ∨ continuesWord c
  /-- So is the first one. -/
  head : u ≠ [] → ∃ c w, u' = c :: w ∧ (u.head? = some c ∨ startsWord c)

theorem rewritten_relocateReference (kept : '#' ∉ relocateReference s u) :
    Rewritten u (relocateReference s u) := by
  rcases relocateReference_cases s u with lost | same | word
  · rw [lost] at kept
    exact absurd (by decide) kept
  · rw [same]
    refine ⟨fun c member => .inl member, fun some_chars => ?_⟩
    obtain ⟨c, w, rfl⟩ := List.exists_cons_of_ne_nil some_chars
    exact ⟨c, w, rfl, .inl rfl⟩
  · refine ⟨fun c member => .inr (word.continues c member), fun _ => ?_⟩
    obtain ⟨c, w, chars, starts, _⟩ := word
    exact ⟨c, w, chars, .inr starts⟩

theorem Rewritten.append {u u' v v' : List Char} (first : Rewritten u u') (second : Rewritten v v')
    (some_chars : u ≠ []) : Rewritten (u ++ v) (u' ++ v') where
  mem c member := by
    rw [List.mem_append] at member ⊢
    rcases member with member | member
    · exact (first.mem c member).imp_left .inl
    · exact (second.mem c member).imp_left .inr
  head _ := by
    obtain ⟨c, w, rfl, head⟩ := first.head some_chars
    refine ⟨c, w ++ v', rfl, head.imp_left fun head => ?_⟩
    rw [List.head?_append, head, Option.some_or]

theorem rewritten_refl (u : List Char) : Rewritten u u where
  mem _ member := .inl member
  head some_chars := by
    obtain ⟨c, w, rfl⟩ := List.exists_cons_of_ne_nil some_chars
    exact ⟨c, w, rfl, .inl rfl⟩

theorem exists_relocatedName (s : Shift) (before : Option Char) (u : List Char) :
    ∃ name, (∀ rest, relocatePlain s before (u ++ '(' :: rest) =
      name ++ '(' :: relocatePlain s (some '(') rest) ∧ ('#' ∉ name → Rewritten u name) := by
  have stop : ¬ Address.IsPart '(' := by decide
  induction before, u using relocatePlain_induction with
  | nil before =>
      refine ⟨[], fun rest => relocatePlain_cons ?_, fun _ => rewritten_refl []⟩
      rw [← List.nil_append ('(' :: rest), addressLength?_append_cons stop]
      rfl
  | plain before c u nothing ih =>
      obtain ⟨name, relocated, rewritten⟩ := ih
      refine ⟨[c] ++ name, fun rest => ?_, fun kept => ?_⟩
      · rw [List.cons_append, relocatePlain, ← List.cons_append,
          referenceLength?_append_cons stop (by decide), nothing]
        simp [relocated rest]
      · rw [List.mem_append, not_or] at kept
        exact (rewritten_refl [c]).append (rewritten kept.2) (by simp)
  | reference before u v some_chars found ih =>
      obtain ⟨name, relocated, rewritten⟩ := ih
      refine ⟨(if before.any gluesBefore || (v ++ ['(']).head?.any gluesAfter then u
        else relocateReference s u) ++ name, fun rest => ?_, fun kept => ?_⟩
      · have head : (v ++ '(' :: rest).head? = (v ++ ['(']).head? := by
          cases v <;> rfl
        have found' : referenceLength? (u ++ (v ++ '(' :: rest)) = some u.length := by
          rw [← List.append_assoc, referenceLength?_append_cons stop (by decide), found]
        rw [List.append_assoc, relocatePlain_reference found' some_chars, relocated, head,
          List.append_assoc]
      · rw [List.mem_append, not_or] at kept
        refine Rewritten.append ?_ (rewritten kept.2) some_chars
        split at kept
        · rename_i glued
          rw [if_pos glued]
          exact rewritten_refl u
        · rename_i free
          rw [if_neg free]
          exact rewritten_relocateReference kept.1

/-- The name of a call may be relocated by itself. -/
theorem relocatePlain_called (s : Shift) (free : before.any gluesBefore = false)
    (u rest : List Char) :
    relocatePlain s before (u ++ '(' :: rest) =
      relocateName s u ++ '(' :: relocatePlain s (some '(') rest := by
  obtain ⟨name, relocated, _⟩ := exists_relocatedName s none u
  rw [relocatePlain_congr _
    (show before.any gluesBefore = (none : Option Char).any gluesBefore from free),
    relocated, relocateName, relocated, relocatePlain]
  simp

/-- A name without colons stays as it is. -/
theorem relocateName_of_isPart (part : ∀ c ∈ u, Address.IsPart c) : relocateName s u = u := by
  have passes (before : Option Char) : relocatePlain s before ['('] = ['('] := by
    rw [relocatePlain_cons (addressLength?_cons_eq_none (by decide) _), relocatePlain]
  rw [relocateName, relocatePlain_of_called part, passes, List.dropLast_concat]

/-- A word in which no reference is lost stays a word. -/
theorem isWord_relocateName (word : IsWord u) (kept : '#' ∉ relocateName s u) :
    IsWord (relocateName s u) := by
  obtain ⟨name, relocated, rewritten⟩ := exists_relocatedName s none u
  have same : relocateName s u = name := by
    rw [relocateName, relocated, relocatePlain]
    simp
  rw [same] at kept ⊢
  have rewritten := rewritten kept
  have continues := word.continues
  obtain ⟨first, _, rfl, first_starts, _⟩ := word
  obtain ⟨c, w, rfl, head⟩ := rewritten.head (by simp)
  refine ⟨c, w, rfl, ?_, fun d member => ?_⟩
  · rcases head with head | starts
    · exact Option.some.inj head ▸ first_starts
    · exact starts
  · exact (rewritten.mem d (List.mem_cons_of_mem c member)).elim (continues d) id

/-! ## Capitals -/

theorem addressLength?_map_toUpper (cs : List Char) :
    addressLength? (cs.map Char.toUpper) = addressLength? cs := by
  have letter : Char.isAlpha ∘ Char.toUpper = Char.isAlpha := funext fun _ => Text.isAlpha_toUpper
  have digit : Char.isDigit ∘ Char.toUpper = Char.isDigit := funext fun _ => Text.isDigit_toUpper
  simp only [addressLength?_eq, Address.takeMark_map_toUpper, List.takeWhile_map,
    List.dropWhile_map, letter, digit, List.isEmpty_map, List.length_append, List.length_map]

theorem referenceLength?_map_toUpper (cs : List Char) :
    referenceLength? (cs.map Char.toUpper) = referenceLength? cs := by
  rw [referenceLength?, referenceLength?, addressLength?_map_toUpper]
  congr 1
  funext first
  rw [← List.map_drop]
  cases cs.drop first with
  | nil => rfl
  | cons c back =>
      by_cases colon : c = ':'
      · subst colon
        simp only [List.map_cons, show Char.toUpper ':' = ':' from rfl, addressLength?_map_toUpper]
      · have colon' : c.toUpper ≠ ':' := fun same =>
          colon ((Text.toUpper_eq_iff (by decide)).mp same)
        simp [colon, colon']

theorem relocateReference_map_toUpper (s : Shift) (u : List Char) :
    relocateReference s (u.map Char.toUpper) = (relocateReference s u).map Char.toUpper := by
  have colon : (u.map Char.toUpper).contains ':' = u.contains ':' := by
    rw [Bool.eq_iff_iff, List.contains_iff_mem, List.contains_iff_mem, List.mem_map]
    constructor
    · rintro ⟨c, member, same⟩
      rwa [← (Text.toUpper_eq_iff (by decide)).mp same]
    · exact fun member => ⟨':', member, rfl⟩
  have code : ErrorCode.reference.code.toList.map Char.toUpper =
      ErrorCode.reference.code.toList := by
    decide
  rw [relocateReference, relocateReference, colon, Range.read?_map_toUpper,
    Address.read?_map_toUpper]
  split
  · split
    · rfl
    · split
      · exact code.symm
      · split
        · rfl
        · exact (map_toUpper_text _).symm
  · split
    · rfl
    · split
      · exact code.symm
      · split
        · rfl
        · exact (Address.map_toUpper_chars _).symm

theorem toUpper_beq {d : Char} (plain : ¬ d.isAlpha) (c : Char) : (c.toUpper == d) = (c == d) := by
  rw [Bool.eq_iff_iff, beq_iff_eq, beq_iff_eq, Text.toUpper_eq_iff plain]

theorem gluesBefore_toUpper (c : Char) : gluesBefore c.toUpper = gluesBefore c := by
  simp [gluesBefore, Char.isAlphanum, toUpper_beq]

theorem gluesAfter_toUpper (c : Char) : gluesAfter c.toUpper = gluesAfter c := by
  simp [gluesAfter, Char.isAlphanum, toUpper_beq]

theorem continuesWord_toUpper (c : Char) : continuesWord c.toUpper = continuesWord c := by
  simp [continuesWord, Char.isAlphanum, toUpper_beq]

theorem startsWord_toUpper (c : Char) : startsWord c.toUpper = startsWord c := by
  simp [startsWord, toUpper_beq]

/-- A word in another case is a word. -/
theorem isWord_of_map_toUpper_eq {u' : List Char} (word : IsWord u)
    (same : u'.map Char.toUpper = u.map Char.toUpper) : IsWord u' := by
  obtain ⟨c, w, rfl, starts, continues⟩ := word
  rw [List.map_cons, List.map_eq_cons_iff] at same
  obtain ⟨c', w', rfl, head, tail⟩ := same
  refine ⟨c', w', rfl, ?_, fun d member => ?_⟩
  · rw [← startsWord_toUpper, head, startsWord_toUpper]
    exact starts
  · have capital : d.toUpper ∈ w.map Char.toUpper := tail ▸ List.mem_map_of_mem member
    obtain ⟨d', member', same⟩ := List.mem_map.mp capital
    rw [← continuesWord_toUpper, ← same, continuesWord_toUpper]
    exact continues d' member'

/-- Relocation does not look at the case of letters. -/
theorem relocatePlain_map_toUpper (s : Shift) (before : Option Char) (cs : List Char) :
    relocatePlain s (before.map Char.toUpper) (cs.map Char.toUpper) =
      (relocatePlain s before cs).map Char.toUpper := by
  induction before, cs using relocatePlain_induction with
  | nil before => simp [relocatePlain]
  | plain before c rest nothing ih =>
      have nothing' := nothing
      rw [← referenceLength?_map_toUpper, List.map_cons] at nothing'
      rw [List.map_cons, relocatePlain, nothing', relocatePlain, nothing]
      exact congrArg (c.toUpper :: ·) ih
  | reference before u rest some_chars found ih =>
      have found' := found
      rw [← referenceLength?_map_toUpper, List.map_append,
        ← List.length_map (f := Char.toUpper)] at found'
      have before_eq : (before.map Char.toUpper).any gluesBefore = before.any gluesBefore := by
        cases before <;> simp [gluesBefore_toUpper]
      have after_eq : (rest.map Char.toUpper).head?.any gluesAfter =
          rest.head?.any gluesAfter := by
        cases rest <;> simp [gluesAfter_toUpper]
      rw [List.map_append, relocatePlain_reference found' (by simpa using some_chars),
        relocatePlain_reference found some_chars, before_eq, after_eq, List.map_append,
        List.getLast?_map, ih, apply_ite (List.map Char.toUpper), relocateReference_map_toUpper]

theorem relocateName_map_toUpper (s : Shift) (u : List Char) :
    relocateName s (u.map Char.toUpper) = (relocateName s u).map Char.toUpper := by
  have capitals := relocatePlain_map_toUpper s none (u ++ ['('])
  rw [List.map_append] at capitals
  rw [relocateName, relocateName, List.map_dropLast, ← capitals]
  rfl

end Formula
end Spreadsheet
