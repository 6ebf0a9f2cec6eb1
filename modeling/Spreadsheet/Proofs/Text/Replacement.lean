import Spreadsheet.Proofs.Text.Search

/-!
# Replacing occurrences

Occurrences are taken from left to right and do not overlap: each is the first behind the end of
the one before. Where the first of them lies does not depend on the text behind it, so what comes
of the later ones leaves the earlier ones in place. Replacing them one at a time, the last first,
therefore replaces the same occurrences as replacing all of them in one pass.
-/

namespace Spreadsheet
namespace Text

variable {pattern replacement cs gap rest : List Char} {i k n skip start : ℕ}

/-- A pattern occurs a number of times in a text, from left to right and without overlaps. -/
inductive OccursTimes (pattern : List Char) : ℕ → List Char → Prop
  /-- It does not occur. -/
  | absent {cs : List Char} (none : occurrences pattern cs = ∅) : OccursTimes pattern 0 cs
  /-- It occurs first somewhere, and then behind the end of that occurrence. -/
  | first {cs : List Char} {i n : ℕ} (least : IsLeast (occurrences pattern cs) i)
      (behind : OccursTimes pattern n (cs.drop (i + pattern.length))) :
      OccursTimes pattern (n + 1) cs

/-! ## The first occurrence -/

/-- The text behind the end of the first occurrence does not matter. -/
theorem isLeast_append_iff (rest : List Char) :
    IsLeast (occurrences pattern (gap ++ (pattern ++ rest))) gap.length ↔
      IsLeast (occurrences pattern (gap ++ pattern)) gap.length := by
  have same {j : ℕ} (before : j ≤ gap.length) :
      j ∈ occurrences pattern (gap ++ (pattern ++ rest)) ↔
        j ∈ occurrences pattern (gap ++ pattern) := by
    rw [mem_occurrences, mem_occurrences, ← List.append_assoc,
      List.drop_append_of_le_length (by rw [List.length_append]; omega)]
    refine ⟨fun occurs => ?_, fun occurs => List.prefix_append_of_prefix occurs⟩
    refine List.prefix_of_prefix_length_le occurs (List.prefix_append _ _) ?_
    rw [List.length_drop, List.length_append]
    omega
  constructor <;> rintro ⟨member, lower⟩
  · refine ⟨(same le_rfl).mp member, fun j occurs => ?_⟩
    by_contra before
    exact before (lower ((same (by omega)).mpr occurs))
  · refine ⟨(same le_rfl).mpr member, fun j occurs => ?_⟩
    by_contra before
    exact before (lower ((same (by omega)).mp occurs))

/-- A text with an occurrence is cut in front of the first one and behind it. -/
theorem exists_gap_of_isLeast (least : IsLeast (occurrences pattern cs) i) :
    ∃ gap rest, cs = gap ++ (pattern ++ rest) ∧ gap.length = i ∧
      cs.drop (i + pattern.length) = rest ∧
      IsLeast (occurrences pattern (gap ++ pattern)) gap.length := by
  obtain ⟨rest, behind⟩ := mem_occurrences.mp least.1
  have length : (cs.take i).length = i := List.length_take_of_le (le_length_of_isLeast least)
  have whole : cs = cs.take i ++ (pattern ++ rest) := by rw [behind, List.take_append_drop]
  refine ⟨cs.take i, rest, whole, length, ?_, ?_⟩
  · rw [← List.drop_drop, ← behind, List.drop_left]
  · refine (isLeast_append_iff rest).mp ?_
    rwa [← whole, length]

theorem indexOf?_of_isLeast (least : IsLeast (occurrences pattern cs) i) :
    indexOf? pattern cs = some i := by
  rcases indexOf?_spec pattern cs with ⟨j, first, found⟩ | ⟨none, -⟩
  · rw [found, least.unique first]
  · exact absurd least.1 (none ▸ Set.notMem_empty i)

/-- The first occurrence behind a character in which the pattern does not begin. -/
theorem isLeast_of_cons {c : Char}
    (least : IsLeast (occurrences pattern (c :: gap ++ pattern)) (gap.length + 1)) :
    (∀ rest, ¬ pattern <+: c :: (gap ++ (pattern ++ rest))) ∧
      IsLeast (occurrences pattern (gap ++ pattern)) gap.length := by
  refine ⟨fun rest occurs => ?_, least.1, fun j occurs => ?_⟩
  · have whole : IsLeast (occurrences pattern (c :: gap ++ (pattern ++ rest))) (c :: gap).length :=
      (isLeast_append_iff rest).mpr least
    exact absurd (whole.2 (isLeast_zero occurs).1) (by simp)
  · exact Nat.succ_le_succ_iff.mp (least.2 (succ_mem_occurrences_cons.mpr occurs))

/-! ## Replacing all occurrences -/

theorem isPrefixOf_append (c : Char) (tail rest : List Char) :
    (c :: tail).isPrefixOf (c :: (tail ++ rest)) :=
  List.isPrefixOf_iff_prefix.mpr (List.prefix_append (c :: tail) rest)

theorem replaceAllFrom_length_append (passed rest : List Char) :
    replaceAllFrom pattern replacement passed.length (passed ++ rest) =
      replaceAllFrom pattern replacement 0 rest := by
  induction passed with
  | nil => rfl
  | cons c passed ih => exact ih

theorem replaceAll_of_absent (none : occurrences pattern cs = ∅) :
    replaceAll pattern replacement cs = cs := by
  rw [replaceAll]
  induction cs with
  | nil => rfl
  | cons c cs ih =>
      have absent : ¬ pattern.isPrefixOf (c :: cs) := fun occurs =>
        Set.eq_empty_iff_forall_notMem.mp none 0 (List.isPrefixOf_iff_prefix.mp occurs)
      have later : occurrences pattern cs = ∅ := Set.eq_empty_iff_forall_notMem.mpr fun i member =>
        Set.eq_empty_iff_forall_notMem.mp none (i + 1) (succ_mem_occurrences_cons.mpr member)
      rw [replaceAllFrom, if_neg absent, ih later]

/-- Replacing all occurrences replaces the first one and goes on behind it. -/
theorem replaceAll_gap (filled : pattern ≠ [])
    (least : IsLeast (occurrences pattern (gap ++ pattern)) gap.length) (rest : List Char) :
    replaceAll pattern replacement (gap ++ (pattern ++ rest)) =
      gap ++ (replacement ++ replaceAll pattern replacement rest) := by
  rw [replaceAll, replaceAll]
  induction gap with
  | nil =>
      obtain ⟨c, tail, rfl⟩ := List.exists_cons_of_ne_nil filled
      rw [List.nil_append, List.cons_append, replaceAllFrom,
        if_pos (isPrefixOf_append c tail rest), List.nil_append]
      exact congrArg _ (replaceAllFrom_length_append tail rest)
  | cons c gap ih =>
      obtain ⟨absent, later⟩ := isLeast_of_cons least
      rw [List.cons_append, replaceAllFrom,
        if_neg (mt List.isPrefixOf_iff_prefix.mp (absent rest)), ih later, List.cons_append]

/-! ## The offsets of occurrences -/

theorem offsetsFrom_length_append (passed rest : List Char) (start : ℕ) :
    offsetsFrom pattern passed.length start (passed ++ rest) =
      offsetsFrom pattern 0 (start + size passed) rest := by
  induction passed generalizing start with
  | nil => rfl
  | cons c passed ih => exact (ih _).trans (by rw [size, Nat.add_assoc])

/-- Offsets count from the front of the text. -/
theorem offsetsFrom_eq_map (pattern : List Char) (skip start : ℕ) (cs : List Char) :
    offsetsFrom pattern skip start cs = (offsetsFrom pattern skip 0 cs).map (start + ·) := by
  induction cs generalizing skip start with
  | nil => rfl
  | cons c cs ih =>
      have shifted (skip : ℕ) : offsetsFrom pattern skip (start + c.utf8Size) cs =
          (offsetsFrom pattern skip (0 + c.utf8Size) cs).map (start + ·) := by
        rw [ih skip (start + c.utf8Size), ih skip (0 + c.utf8Size), List.map_map, Nat.zero_add]
        exact List.map_congr_left fun offset _ => Nat.add_assoc ..
      cases skip with
      | succ skip => exact shifted skip
      | zero =>
          rw [offsetsFrom, offsetsFrom]
          split
          · rw [List.map_cons, shifted, Nat.add_zero]
          · exact shifted 0

theorem offsetsOf_of_absent (none : occurrences pattern cs = ∅) : offsetsOf pattern cs = [] := by
  refine List.eq_nil_iff_forall_not_mem.mpr fun offset member => ?_
  obtain ⟨before, after, rfl, -⟩ := exists_of_mem_offsetsFrom member
  refine Set.eq_empty_iff_forall_notMem.mp none before.length (mem_occurrences.mpr ?_)
  rw [List.drop_left]
  exact List.prefix_append pattern after

/-- The first offset, and those behind the end of the first occurrence. -/
theorem offsetsOf_gap (filled : pattern ≠ [])
    (least : IsLeast (occurrences pattern (gap ++ pattern)) gap.length) (rest : List Char) :
    offsetsOf pattern (gap ++ (pattern ++ rest)) =
      size gap :: (offsetsOf pattern rest).map (size (gap ++ pattern) + ·) := by
  have scanned (start : ℕ) : offsetsFrom pattern 0 start (gap ++ (pattern ++ rest)) =
      (start + size gap) :: offsetsFrom pattern 0 (start + size (gap ++ pattern)) rest := by
    induction gap generalizing start with
    | nil =>
        obtain ⟨c, tail, rfl⟩ := List.exists_cons_of_ne_nil filled
        rw [List.nil_append, List.cons_append, offsetsFrom, if_pos (isPrefixOf_append c tail rest),
          List.nil_append]
        refine congrArg _ ((offsetsFrom_length_append tail rest _).trans ?_)
        rw [size, Nat.add_assoc]
    | cons c gap ih =>
        obtain ⟨absent, later⟩ := isLeast_of_cons least
        rw [List.cons_append, offsetsFrom, if_neg (mt List.isPrefixOf_iff_prefix.mp (absent rest)),
          ih later, List.cons_append, size, size, Nat.add_assoc, Nat.add_assoc]
  rw [offsetsOf, scanned, offsetsFrom_eq_map, Nat.zero_add, Nat.zero_add]
  rfl

/-- A pattern occurs as often as a search reports it. -/
theorem occursTimes_iff (filled : pattern ≠ []) :
    OccursTimes pattern n cs ↔ n = (offsetsOf pattern cs).length := by
  constructor
  · intro times
    induction times with
    | absent none => rw [offsetsOf_of_absent none, List.length_nil]
    | first least _ ih =>
        obtain ⟨gap, rest, rfl, -, behind, first⟩ := exists_gap_of_isLeast least
        rw [behind] at ih
        rw [offsetsOf_gap filled first, List.length_cons, List.length_map, ih]
  · rintro rfl
    generalize times : (offsetsOf pattern cs).length = n
    induction n generalizing cs with
    | zero =>
        rcases indexOf?_spec pattern cs with ⟨i, least, -⟩ | ⟨none, -⟩
        · obtain ⟨gap, rest, rfl, -, -, first⟩ := exists_gap_of_isLeast least
          rw [offsetsOf_gap filled first] at times
          contradiction
        · exact .absent none
    | succ n ih =>
        rcases indexOf?_spec pattern cs with ⟨i, least, -⟩ | ⟨none, -⟩
        · refine .first least (ih ?_)
          obtain ⟨gap, rest, rfl, -, behind, first⟩ := exists_gap_of_isLeast least
          rw [offsetsOf_gap filled first, List.length_cons, List.length_map] at times
          rw [behind]
          exact Nat.succ.inj times
        · rw [offsetsOf_of_absent none] at times
          contradiction

/-! ## Replacing one occurrence -/

/-- The text with one occurrence replaced, which a number of occurrences precede. A text with no
more occurrences than that stays as it is. -/
def replaceNth (pattern replacement : List Char) : ℕ → List Char → List Char
  | 0, cs =>
    match indexOf? pattern cs with
    | some i => cs.take i ++ replacement ++ cs.drop (i + pattern.length)
    | none => cs
  | k + 1, cs =>
    match indexOf? pattern cs with
    | some i =>
        cs.take (i + pattern.length) ++ replaceNth pattern replacement k
          (cs.drop (i + pattern.length))
    | none => cs

theorem replaceNth_of_absent (none : occurrences pattern cs = ∅) :
    replaceNth pattern replacement k cs = cs := by
  rcases indexOf?_spec pattern cs with ⟨i, first, -⟩ | ⟨-, missed⟩
  · exact absurd first.1 (none ▸ Set.notMem_empty i)
  · cases k <;> rw [replaceNth, missed]

theorem replaceNth_zero_gap (least : IsLeast (occurrences pattern (gap ++ pattern)) gap.length) :
    replaceNth pattern replacement 0 (gap ++ (pattern ++ rest)) =
      gap ++ (replacement ++ rest) := by
  rw [replaceNth, indexOf?_of_isLeast ((isLeast_append_iff _).mpr least)]
  dsimp only
  rw [List.take_left, ← List.drop_drop, List.drop_left, List.drop_left, List.append_assoc]

/-- Replacing a later occurrence leaves the first one in place. -/
theorem replaceNth_succ_gap (least : IsLeast (occurrences pattern (gap ++ pattern)) gap.length) :
    replaceNth pattern replacement (k + 1) (gap ++ (pattern ++ rest)) =
      gap ++ (pattern ++ replaceNth pattern replacement k rest) := by
  rw [replaceNth, indexOf?_of_isLeast ((isLeast_append_iff _).mpr least)]
  dsimp only
  rw [List.take_length_add_append, List.take_left, ← List.drop_drop, List.drop_left,
    List.drop_left, List.append_assoc]

/-- The offset with a number leads to the occurrence that is replaced, and there is none where
nothing is replaced. -/
theorem replaceNth_spec (filled : pattern ≠ []) (replacement : List Char) (k : ℕ)
    (cs : List Char) :
    (∃ before after, cs = before ++ (pattern ++ after) ∧
      (offsetsOf pattern cs)[k]? = some (size before) ∧
        replaceNth pattern replacement k cs = before ++ (replacement ++ after)) ∨
      (offsetsOf pattern cs)[k]? = none ∧ replaceNth pattern replacement k cs = cs := by
  induction k generalizing cs with
  | zero =>
      rcases indexOf?_spec pattern cs with ⟨i, least, -⟩ | ⟨none, -⟩
      · obtain ⟨gap, rest, rfl, -, -, first⟩ := exists_gap_of_isLeast least
        exact .inl ⟨gap, rest, rfl, by rw [offsetsOf_gap filled first]; rfl,
          replaceNth_zero_gap first⟩
      · exact .inr ⟨by rw [offsetsOf_of_absent none]; rfl, replaceNth_of_absent none⟩
  | succ k ih =>
      rcases indexOf?_spec pattern cs with ⟨i, least, -⟩ | ⟨none, -⟩
      · obtain ⟨gap, rest, rfl, -, -, first⟩ := exists_gap_of_isLeast least
        rw [offsetsOf_gap filled first, List.getElem?_cons_succ, List.getElem?_map,
          replaceNth_succ_gap first]
        rcases ih rest with ⟨before, after, rfl, found, replaced⟩ | ⟨missed, kept⟩
        · refine .inl ⟨gap ++ (pattern ++ before), after, by simp, ?_, by rw [replaced]; simp⟩
          rw [found, Option.map_some, ← size_append, List.append_assoc]
        · exact .inr ⟨by rw [missed]; rfl, by rw [kept]⟩
      · exact .inr ⟨by rw [offsetsOf_of_absent none]; rfl, replaceNth_of_absent none⟩

theorem foldr_replaceNth_gap (least : IsLeast (occurrences pattern (gap ++ pattern)) gap.length)
    (ks : List ℕ) :
    ks.foldr (fun k => replaceNth pattern replacement (k + 1)) (gap ++ (pattern ++ rest)) =
      gap ++ (pattern ++ ks.foldr (replaceNth pattern replacement) rest) := by
  induction ks with
  | nil => rfl
  | cons k ks ih => rw [List.foldr_cons, ih, replaceNth_succ_gap least, List.foldr_cons]

/-- Replacing every occurrence by itself, the last one first, replaces all of them. -/
theorem foldr_replaceNth_eq_replaceAll (filled : pattern ≠ []) (times : OccursTimes pattern n cs) :
    (List.range n).foldr (replaceNth pattern replacement) cs =
      replaceAll pattern replacement cs := by
  induction times with
  | absent none => exact (replaceAll_of_absent none).symm
  | first least _ ih =>
      obtain ⟨gap, rest, rfl, -, behind, first⟩ := exists_gap_of_isLeast least
      rw [behind] at ih
      rw [List.range_succ_eq_map, List.foldr_cons, List.foldr_map, foldr_replaceNth_gap first, ih,
        replaceNth_zero_gap first, replaceAll_gap filled first]

/-- There is nothing to replace behind the last occurrence. -/
theorem replaceNth_of_le (times : OccursTimes pattern n cs) (beyond : n ≤ k) :
    replaceNth pattern replacement k cs = cs := by
  induction times generalizing k with
  | absent none => exact replaceNth_of_absent none
  | first least _ ih =>
      obtain ⟨gap, rest, rfl, -, behind, first⟩ := exists_gap_of_isLeast least
      obtain ⟨k, rfl⟩ := Nat.exists_eq_succ_of_ne_zero (Nat.ne_zero_of_lt beyond)
      rw [behind] at ih
      rw [replaceNth_succ_gap first, ih (Nat.le_of_succ_le_succ beyond)]

end Text
end Spreadsheet
