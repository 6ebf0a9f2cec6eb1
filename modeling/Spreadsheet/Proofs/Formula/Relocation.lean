import Spreadsheet.Formula.Relocate
import Spreadsheet.Proofs.Formula.Words

/-!
# Relocating token by token

What relocating does to the characters of one token in front of the rest of a text. Only the words
that name an address or a range change; everything else passes through, because it contains nothing
that looks like an address or because what looks like one is glued to the characters next to it.
-/

namespace Spreadsheet
namespace Formula

variable {s : Shift} {c : Char} {cs u rest : List Char} {before : Option Char} {length : Nat}

/-! ## What looks like an address -/

theorem markLength_eq (cs : List Char) :
    markLength cs = (Address.mark (Address.takeMark cs).1).length := by
  cases cs with
  | nil => rfl
  | cons c rest =>
      by_cases marked : c = '$'
      · rw [marked]
        rfl
      · simp [markLength, Address.takeMark, Address.mark, marked]

theorem drop_markLength (cs : List Char) : cs.drop (markLength cs) = (Address.takeMark cs).2 := by
  have whole := Address.eq_mark_append cs
  rw [markLength_eq]
  generalize Address.takeMark cs = taken at whole ⊢
  rw [whole, List.drop_left]

/-- The length of an address is that of its four parts. -/
theorem addressLength?_eq (cs : List Char) :
    addressLength? cs =
      let col := Address.takeMark cs
      let letters := col.2.takeWhile Char.isAlpha
      let row := Address.takeMark (col.2.dropWhile Char.isAlpha)
      let digits := row.2.takeWhile Char.isDigit
      if letters.isEmpty || digits.isEmpty then none
      else some (Address.mark col.1 ++ (letters ++ (Address.mark row.1 ++ digits))).length := by
  have behind : (Address.takeMark cs).2.drop
      ((Address.takeMark cs).2.takeWhile Char.isAlpha).length =
      (Address.takeMark cs).2.dropWhile Char.isAlpha := by
    generalize (Address.takeMark cs).2 = after
    nth_rewrite 2 [← List.takeWhile_append_dropWhile (p := Char.isAlpha) (l := after)]
    rw [List.drop_left]
  simp only [addressLength?, ← List.drop_drop, drop_markLength, behind]
  simp only [markLength_eq, List.length_append, Nat.add_assoc]

/-- An address is as long as it can be. -/
theorem addressLength?_append (looks : LooksLikeAddress u) (stop : ∀ c ∈ rest.head?, ¬ c.isDigit) :
    addressLength? (u ++ rest) = some u.length := by
  obtain ⟨colAbsolute, letters, rowAbsolute, digits, rfl, ⟨some_letters, letter⟩, some_digits,
      digit⟩ :=
    looks
  have digits_plain : (digits ++ rest).head? ≠ some '$' := by
    obtain ⟨d, back, rfl⟩ := List.exists_cons_of_ne_nil some_digits
    rintro ⟨rfl⟩
    exact absurd (digit '$' List.mem_cons_self) (by decide)
  have letters_plain : (letters ++ (Address.mark rowAbsolute ++ (digits ++ rest))).head? ≠
      some '$' := by
    obtain ⟨c, others, rfl⟩ := List.exists_cons_of_ne_nil some_letters
    rintro ⟨rfl⟩
    exact absurd (letter '$' List.mem_cons_self) (by decide)
  have letters_stop : ∀ c ∈ (Address.mark rowAbsolute ++ (digits ++ rest)).head?, ¬ c.isAlpha := by
    obtain ⟨d, back, rfl⟩ := List.exists_cons_of_ne_nil some_digits
    rintro c head letter
    cases rowAbsolute with
    | true =>
        obtain rfl : '$' = c := Option.some.inj head
        exact absurd letter (by decide)
    | false =>
        obtain rfl : d = c := Option.some.inj head
        exact Text.not_isDigit_of_isAlpha letter (digit d List.mem_cons_self)
  simp only [List.append_assoc, addressLength?_eq, Address.takeMark_mark letters_plain,
    Text.takeWhile_append_of_stop letter letters_stop,
    Text.dropWhile_append_of_stop letter letters_stop,
    Address.takeMark_mark digits_plain, Text.takeWhile_append_of_stop digit stop]
  simp [some_letters, some_digits]

/-- What is taken for an address looks like one. -/
theorem looksLikeAddress_of_addressLength? (found : addressLength? cs = some length) :
    ∃ u rest, cs = u ++ rest ∧ u.length = length ∧ LooksLikeAddress u := by
  rw [addressLength?_eq] at found
  dsimp only at found
  split at found
  · contradiction
  · rename_i parts
    simp only [Bool.or_eq_true, List.isEmpty_iff, not_or] at parts
    refine ⟨_, List.dropWhile Char.isDigit
      (Address.takeMark ((Address.takeMark cs).2.dropWhile Char.isAlpha)).2, ?_,
      Option.some.inj found, _, _, _, _, rfl, ⟨parts.1, fun c => List.mem_takeWhile_imp⟩, parts.2,
      fun c => List.mem_takeWhile_imp⟩
    simp only [List.append_assoc, List.takeWhile_append_dropWhile, ← Address.eq_mark_append]

/-! ## What is taken for a reference -/

theorem addressLength?_cons_eq_none (plain : ¬ startsWord c) (rest : List Char) :
    addressLength? (c :: rest) = none := by
  rw [Option.eq_none_iff_forall_ne_some]
  intro length found
  obtain ⟨u, others, same, _, looks⟩ := looksLikeAddress_of_addressLength? found
  obtain ⟨d, w, rfl, starts⟩ := looks.exists_cons
  obtain ⟨rfl, _⟩ := List.cons.inj same
  exact plain starts

theorem referenceLength?_eq_none (nothing : addressLength? cs = none) :
    referenceLength? cs = none := by
  rw [referenceLength?, nothing, Option.map_none]

theorem referenceLength?_address (found : addressLength? (u ++ rest) = some u.length)
    (no_colon : rest.head? ≠ some ':') : referenceLength? (u ++ rest) = some u.length := by
  rw [referenceLength?, found, Option.map_some, List.drop_left]
  split
  · exact absurd rfl no_colon
  · rfl

theorem referenceLength?_range {first second : List Char} (first_looks : LooksLikeAddress first)
    (second_looks : LooksLikeAddress second) (stop : ∀ c ∈ rest.head?, ¬ c.isDigit) :
    referenceLength? (first ++ ':' :: second ++ rest) = some (first ++ ':' :: second).length := by
  have colon : ∀ c ∈ (':' :: (second ++ rest)).head?, ¬ c.isDigit := by
    rintro c ⟨rfl⟩
    decide
  rw [List.append_assoc, List.cons_append, referenceLength?,
    addressLength?_append first_looks colon, Option.map_some, List.drop_left]
  simp [addressLength?_append second_looks stop]
  omega

theorem relocatePlain_cons (nothing : addressLength? (c :: rest) = none) :
    relocatePlain s before (c :: rest) = c :: relocatePlain s (some c) rest := by
  rw [relocatePlain, referenceLength?_eq_none nothing]

theorem relocatePlain_reference (found : referenceLength? (u ++ rest) = some u.length)
    (some_chars : u ≠ []) :
    relocatePlain s before (u ++ rest) =
      (if before.any gluesBefore || rest.head?.any gluesAfter then u else relocateReference s u) ++
        relocatePlain s u.getLast? rest := by
  obtain ⟨c, w, rfl⟩ := List.exists_cons_of_ne_nil some_chars
  rw [List.cons_append] at found ⊢
  rw [relocatePlain, found]
  simp

/-! ## What passes through -/

theorem or_getLast?_cons (c : Char) (u : List Char) (before : Option Char) :
    (c :: u).getLast?.or before = u.getLast?.or (some c) := by
  cases last : u.getLast? <;> simp [List.getLast?_cons, last]

/-- Characters that begin no address pass through. -/
theorem relocatePlain_of_not_startsWord (plain : ∀ c ∈ u, ¬ startsWord c) :
    relocatePlain s before (u ++ rest) = u ++ relocatePlain s (u.getLast?.or before) rest := by
  induction u generalizing before with
  | nil => rfl
  | cons c u ih =>
      obtain ⟨first, others⟩ := List.forall_mem_cons.mp plain
      rw [List.cons_append, relocatePlain_cons (addressLength?_cons_eq_none first _), ih others,
        or_getLast?_cons, List.cons_append]

/-- A run of characters of one kind ends where another kind begins. -/
theorem prefix_of_run {p : Char → Prop} {run : List Char} (all : ∀ c ∈ run, p c)
    (stop : ∀ c ∈ rest.head?, ¬ p c) (within : run <+: u ++ rest) : run <+: u := by
  rcases List.prefix_or_prefix_of_prefix within (List.prefix_append u rest)
    with shorter | ⟨more, rfl⟩
  · exact shorter
  · cases more with
    | nil => simp
    | cons c more =>
        obtain ⟨others, rfl⟩ := (List.prefix_append_right_inj u).mp within
        exact absurd (all c (by simp)) (stop c rfl)

/-- Characters pass through if no digit among them could be the row of an address. -/
theorem relocatePlain_of_apart (apart : u.IsChain Apart)
    (stop : ∀ c ∈ rest.head?, ¬ Address.IsPart c) :
    relocatePlain s before (u ++ rest) = u ++ relocatePlain s (u.getLast?.or before) rest := by
  induction u generalizing before with
  | nil => rfl
  | cons c u ih =>
      have nothing : addressLength? (c :: u ++ rest) = none := by
        rw [Option.eq_none_iff_forall_ne_some]
        intro length found
        obtain ⟨m, others, same, _, looks⟩ := looksLikeAddress_of_addressLength? found
        exact not_looksLikeAddress_of_apart apart
          (prefix_of_run looks.isPart stop (same ▸ List.prefix_append m others)) looks
      rw [List.cons_append] at nothing
      rw [List.cons_append, relocatePlain_cons nothing, ih apart.tail, or_getLast?_cons,
        List.cons_append]

theorem gluesAfter_of_isPart (part : Address.IsPart c) : gluesAfter c := by
  rcases part with plain | rfl
  · simp [gluesAfter, plain]
  · decide

/-- What looks like an address passes through if the character behind it is glued to it. -/
theorem relocatePlain_of_glued (found : addressLength? (c :: u ++ rest) = some (c :: u).length)
    (glues : ∃ d ∈ rest.head?, gluesAfter d ∧ d ≠ ':') :
    relocatePlain s before (c :: u ++ rest) =
      c :: u ++ relocatePlain s (c :: u).getLast? rest := by
  obtain ⟨d, head, glues, no_colon⟩ := glues
  have reference := referenceLength?_address found (by
    rw [head]
    simpa using no_colon)
  have glued : (before.any gluesBefore || rest.head?.any gluesAfter) = true := by
    rw [head, Option.any_some, glues, Bool.or_true]
  rw [relocatePlain_reference reference (by simp), if_pos glued]

/-- The name of a call passes through: all in it that looks like an address is glued to what
follows. -/
theorem relocatePlain_of_called (part : ∀ c ∈ u, Address.IsPart c) :
    relocatePlain s before (u ++ '(' :: rest) =
      u ++ relocatePlain s (u.getLast?.or before) ('(' :: rest) := by
  have stop : ∀ c ∈ ('(' :: rest).head?, ¬ Address.IsPart c := by
    rintro c ⟨rfl⟩
    decide
  generalize size : u.length = n
  induction n using Nat.strongRecOn generalizing u before with
  | ind n ih =>
      cases found : addressLength? (u ++ '(' :: rest) with
      | none =>
          cases u with
          | nil => rfl
          | cons c u =>
              rw [List.cons_append] at found
              rw [List.cons_append, relocatePlain_cons found,
                ih _ (by simp [← size]) (List.forall_mem_cons.mp part).2 rfl, or_getLast?_cons,
                List.cons_append]
      | some length =>
          -- The match ends inside the name: behind it is the rest of the name or the parenthesis.
          obtain ⟨m, others, same, rfl, looks⟩ := looksLikeAddress_of_addressLength? found
          obtain ⟨v, rfl⟩ := prefix_of_run looks.isPart stop (same ▸ List.prefix_append m others)
          obtain ⟨c, w, rfl, _⟩ := looks.exists_cons
          obtain ⟨_, v_part⟩ := List.forall_mem_append.mp part
          have glues : ∃ d ∈ (v ++ '(' :: rest).head?, gluesAfter d ∧ d ≠ ':' := by
            cases v with
            | nil => exact ⟨'(', rfl, by decide, by decide⟩
            | cons d v =>
                have d_part := v_part d List.mem_cons_self
                exact ⟨d, rfl, gluesAfter_of_isPart d_part, d_part.ne (by decide)⟩
          have shorter : v.length < n := by
            rw [← size, List.length_append, List.length_cons]
            omega
          rw [List.append_assoc] at found
          rw [List.append_assoc, relocatePlain_of_glued found glues,
            ih v.length shorter v_part rfl, List.append_assoc, List.getLast?_append,
            Option.or_assoc, List.getLast?_cons,
            Option.some_or]

/-! ## Quotes -/

/-- Relocates the references of a text. `before` is the character in front of it. -/
def relocateFrom (s : Shift) (before : Option Char) (cs : List Char) : List Char :=
  relocatePlain s before (cs.takeWhile (· != '"')) ++
    (pieces (cs.dropWhile (· != '"'))).flatMap (Piece.relocate s)

theorem flatMap_pieces (s : Shift) (cs : List Char) :
    (pieces cs).flatMap (Piece.relocate s) = relocateFrom s none cs := by
  cases cs with
  | nil => simp [pieces, relocateFrom, relocatePlain]
  | cons c cs =>
      by_cases quote : c = '"'
      · simp [relocateFrom, relocatePlain, quote]
      · rw [pieces, if_neg quote, List.flatMap_cons, relocateFrom,
          List.takeWhile_cons_of_pos (by simpa), List.dropWhile_cons_of_pos (by simpa)]
        rfl

/-- Text without quotes may be relocated by itself. -/
theorem relocateFrom_append {u' : List Char} {after : Option Char} (no_quote : ∀ c ∈ u, c ≠ '"')
    (plain : relocatePlain s before (u ++ rest.takeWhile (· != '"')) =
      u' ++ relocatePlain s after (rest.takeWhile (· != '"'))) :
    relocateFrom s before (u ++ rest) = u' ++ relocateFrom s after rest := by
  have pass : ∀ c ∈ u, (c != '"') = true := by simpa using no_quote
  rw [relocateFrom, List.takeWhile_append_of_pos pass, List.dropWhile_append_of_pos pass, plain,
    List.append_assoc, relocateFrom]

/-- The length of a quoted text is counted as it is read. -/
theorem quotedLength_of_quoted? {content : List Char}
    (read : quoted? cs = some (content, length)) :
    quotedLength cs = length := by
  induction cs using quoted?.induct generalizing content length with
  | case1 => rw [quoted?] at read; contradiction
  | case2 cs =>
      rw [quoted?] at read
      obtain ⟨rfl, rfl⟩ := Prod.mk.inj (Option.some.inj read)
      rw [quotedLength]
  | case3 c cs ih =>
      rw [quoted?] at read
      obtain ⟨⟨inner, k⟩, read_inner, same⟩ := Option.map_eq_some_iff.mp read
      obtain ⟨rfl, rfl⟩ := Prod.mk.inj same
      rw [quotedLength, ih read_inner]
  | case4 c cs no_quote no_escape ih =>
      rw [quoted?.eq_4 _ _ no_quote no_escape] at read
      obtain ⟨⟨inner, k⟩, read_inner, same⟩ := Option.map_eq_some_iff.mp read
      obtain ⟨rfl, rfl⟩ := Prod.mk.inj same
      rw [quotedLength.eq_4 _ _ no_quote no_escape, ih read_inner]

/-- A quoted text is never touched. -/
theorem relocateFrom_quoted {w content : List Char} (read : quoted? w = some (content, w.length)) :
    relocateFrom s before ('"' :: w ++ rest) = '"' :: w ++ relocateFrom s none rest := by
  rw [List.cons_append, relocateFrom, ← flatMap_pieces]
  simp [relocatePlain, pieces, quotedLength_of_quoted? (quoted?_append read rest), Piece.relocate]

end Formula
end Spreadsheet
