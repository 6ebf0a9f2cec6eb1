import Spreadsheet.Dependency.Graph
import Spreadsheet.Proofs.Coverage

/-!
# Shifting references

The references of a shifted tree are the shifted references of the tree, without those that are
lost. A reference follows a shift when its cells are what becomes of the cells of the reference;
references with absolute coordinates or with an insertion in the middle do not.
-/

namespace Spreadsheet

variable {s : Shift}

namespace Address

variable {a : Address} {axis : Axis}

theorem Writable.coordinate (writable : a.Writable) (axis : Axis) :
    (a.coordinate axis).toNat + 1 < UInt32.size := by
  cases axis with
  | row => exact writable.2
  | column => exact writable.1

theorem shift?_eq_of_relative (relative : ¬ a.isAbsolute s.axis) :
    a.shift? s = (s.coordinate? (a.coordinate s.axis)).map (a.withCoordinate s.axis) := by
  rw [shift?, if_neg relative]

/-- A relative address moves as its cell does. -/
theorem position_shift? (relative : ¬ a.isAbsolute s.axis) :
    (a.shift? s).map position = a.position.shift? s := by
  rw [shift?_eq_of_relative relative, Position.shift?_eq, Option.map_map]
  cases s.axis <;> rfl

end Address

theorem ne_last_of_toNat_lt {value : UInt32} (small : value.toNat < 0xFFFFFFFF) :
    value ≠ 0xFFFFFFFF := by
  rintro rfl
  exact absurd small (by decide)

/-- What is left of an interval does not reach the last coordinate if the interval is not pushed
there. -/
theorem Shift.Remains.last_lt {first last first' last' : UInt32}
    (remains : s.Remains first last first' last') (inside : last.toNat + 1 < UInt32.size)
    (below : s.pivot ≤ last → last.toNat + s.delta < 0xFFFFFFFF) : last'.toNat < 0xFFFFFFFF := by
  rw [UInt32.le_iff_toNat_le] at below
  rw [UInt32.size] at inside
  have ordered := remains.ordered
  rcases Nat.lt_or_ge last'.toNat s.pivot.toNat with front | behind
  · have old := (remains.front _ front).mp ⟨ordered, le_refl _⟩
    omega
  · have old := (remains.behind _ behind).mp ⟨ordered, le_refl _⟩
    omega

namespace Reference

variable {reference shifted : Reference} {limit : Nat} {p q : Position}

/-- The cells that a reference names, as a range. -/
def block : Reference → Range
  | cell a => ⟨a, a⟩
  | range r => r

/-- The reference after a shift, if something of it survives; the corners of a range are put in
order again. -/
def shift? (s : Shift) : Reference → Option Reference
  | cell a => (a.shift? s).map cell
  | range r => (r.shift? s).map fun shifted => range (.between shifted.first shifted.last)

/-- A reference as formulas have it: its corners can be written and are in order. -/
structure Proper (reference : Reference) : Prop where
  /-- The first corner can be written. -/
  first : reference.block.first.Writable
  /-- The last corner can be written. -/
  last : reference.block.last.Writable
  /-- The corners are in order. -/
  ordered : reference.block.Ordered

/-- A reference follows a shift cell by cell. -/
structure Follows (s : Shift) (reference : Reference) : Prop where
  /-- It moves at both ends. -/
  relative : reference.block.IsRelative s.axis
  /-- An insertion does not fall into it. -/
  unsplit : 0 < s.delta → ¬ (reference.block.first.coordinate s.axis < s.pivot ∧
    s.pivot ≤ reference.block.last.coordinate s.axis)
  /-- It is not pushed to the last coordinate or beyond. -/
  below : s.pivot ≤ reference.block.last.coordinate s.axis →
    (reference.block.last.coordinate s.axis).toNat + s.delta < 0xFFFFFFFF

instance (s : Shift) : DecidablePred (Follows s) := fun reference =>
  decidable_of_iff
    ((¬ reference.block.first.isAbsolute s.axis ∧ ¬ reference.block.last.isAbsolute s.axis) ∧
      (0 < s.delta → ¬ (reference.block.first.coordinate s.axis < s.pivot ∧
        s.pivot ≤ reference.block.last.coordinate s.axis)) ∧
      (s.pivot ≤ reference.block.last.coordinate s.axis →
        (reference.block.last.coordinate s.axis).toNat + s.delta < 0xFFFFFFFF))
    ⟨fun ⟨relative, unsplit, below⟩ => ⟨relative, unsplit, below⟩,
      fun follows => ⟨follows.relative, follows.unsplit, follows.below⟩⟩

/-- A range is small enough to be tracked. -/
def Within (limit : Nat) : Reference → Prop
  | cell _ => True
  | range r => r.count ≤ limit

instance (limit : Nat) : DecidablePred (Within limit)
  | .cell _ => inferInstanceAs (Decidable True)
  | .range r => inferInstanceAs (Decidable (r.count ≤ limit))

theorem Follows.heldBy (follows : reference.Follows s) (proper : reference.Proper) :
    reference.block.HeldBy s where
  ordered := proper.ordered.coordinate s.axis
  unsplit := follows.unsplit
  fits behind := by
    have below := follows.below behind
    omega

/-- What follows a shift can be written afterwards. -/
theorem Follows.fits (follows : reference.Follows s) (proper : reference.Proper) :
    reference.Fits s := by
  have held := follows.heldBy proper
  have inside := proper.last.coordinate s.axis
  cases reference with
  | cell a =>
      intro shifted moves
      rw [Option.mem_def, Address.shift?_eq_of_relative (a := a) follows.relative.1] at moves
      obtain ⟨value, goes, rfl⟩ := Option.map_eq_some_iff.mp moves
      have remains : s.Remains _ _ value value :=
        held.remains (by rw [Shift.interval?]; simp [block, goes])
      rw [Address.coordinate_withCoordinate]
      exact ne_last_of_toNat_lt (remains.last_lt inside follows.below)
  | range r =>
      intro shifted moves
      obtain ⟨first, last, ends, rfl⟩ := (Range.shift?_eq_some_iff follows.relative).mp moves
      have remains := held.remains ends
      have last_lt := remains.last_lt inside follows.below
      have ordered := remains.ordered
      rw [Address.coordinate_withCoordinate, Address.coordinate_withCoordinate]
      exact ⟨ne_last_of_toNat_lt (by omega), ne_last_of_toNat_lt last_lt⟩

/-- The corners of a range that follows a shift stay in order. -/
theorem Follows.shift?_range {r : Range} (follows : (range r).Follows s)
    (proper : (range r).Proper) :
    (range r).shift? s = (r.shift? s).map range := by
  apply Option.map_congr
  intro shifted moves
  have ordered :=
    Range.ordered_of_shift? follows.relative proper.ordered (follows.heldBy proper) moves
  rw [Range.between_of_le ordered.1 ordered.2]

theorem mem_positions_range {r : Range} (within : (range r).Within limit) :
    p ∈ (range r).positions limit ↔ r.contains p := by
  rw [positions, if_neg (Nat.not_lt.mpr within), Range.mem_positions]

/-- The cells of a shifted reference are the places of the cells of the reference that survive. -/
theorem Follows.exists_mem_positions_iff (follows : reference.Follows s)
    (proper : reference.Proper) (within : reference.Within limit) :
    (∃ shifted ∈ reference.shift? s, q ∈ shifted.positions limit) ↔
      ∃ p ∈ reference.positions limit, p.shift? s = some q := by
  cases reference with
  | cell a =>
      have moves := Address.position_shift? (a := a) follows.relative.1
      simp only [shift?, positions, List.mem_singleton, exists_eq_left, ← moves]
      cases a.shift? s with
      | none => simp
      | some shifted => simp [eq_comm]
  | range r =>
      have held : r.HeldBy s := follows.heldBy proper
      have covers := Range.exists_contains_shift?_iff (r := r) (q := q) follows.relative held
      simp only [follows.shift?_range proper, mem_positions_range within]
      rw [← covers]
      constructor
      · rintro ⟨_, survives, member⟩
        obtain ⟨shifted, moves, rfl⟩ := Option.map_eq_some_iff.mp survives
        have smaller := Range.count_le_of_shift? follows.relative held moves
        exact ⟨shifted, moves, (mem_positions_range (smaller.trans within)).mp member⟩
      · rintro ⟨shifted, moves, covered⟩
        have smaller := Range.count_le_of_shift? follows.relative held moves
        exact ⟨range shifted, Option.map_eq_some_iff.mpr ⟨shifted, moves, rfl⟩,
          (mem_positions_range (smaller.trans within)).mpr covered⟩

/-- A reference moves as a whole: it follows the shift and none of its cells is deleted. -/
structure MovesWhole (s : Shift) (reference : Reference) : Prop where
  /-- It follows the shift. -/
  follows : reference.Follows s
  /-- None of its cells is deleted. -/
  kept : reference.block.KeptBy s

instance (s : Shift) : DecidablePred (MovesWhole s) := fun reference =>
  decidable_of_iff (reference.Follows s ∧ reference.block.KeptBy s)
    ⟨fun ⟨follows, kept⟩ => ⟨follows, kept⟩, fun whole => ⟨whole.follows, whole.kept⟩⟩

/-- All cells of a reference that moves as a whole survive. -/
theorem MovesWhole.exists_shift? (whole : reference.MovesWhole s) (proper : reference.Proper)
    (covers : p ∈ reference.positions limit) : ∃ q, p.shift? s = some q := by
  apply Range.exists_shift?_of_contains proper.ordered (whole.follows.heldBy proper) whole.kept
  cases reference with
  | cell a =>
      rw [List.mem_singleton.mp covers]
      simp [block, Range.contains, Address.position]
  | range r =>
      rw [positions] at covers
      split at covers
      · simp at covers
      · exact Range.mem_positions.mp covers

/-- The cells of such a reference are moved, and if it is too large to be tracked it stays so. -/
theorem MovesWhole.exists_mem_positions_iff (whole : reference.MovesWhole s)
    (proper : reference.Proper) :
    (∃ shifted ∈ reference.shift? s, q ∈ shifted.positions limit) ↔
      ∃ p ∈ reference.positions limit, p.shift? s = some q := by
  by_cases within : reference.Within limit
  · exact whole.follows.exists_mem_positions_iff proper within
  · cases reference with
    | cell a => exact absurd trivial within
    | range r =>
        obtain ⟨shifted, moves⟩ :=
          Range.exists_movesTo (r := r) whole.follows.relative proper.ordered
          (whole.follows.heldBy proper) whole.kept
        have large : limit < r.count := Nat.not_le.mp within
        simp [whole.follows.shift?_range proper, moves.shift?_eq, positions, moves.count_eq, large]

end Reference

/-! ## Trees -/

namespace Expr

mutual

/-- A shifted tree has the shifted references that are left. -/
@[simp] theorem references_shift (s : Shift) :
    ∀ e : Expr, (e.shift s).references = e.references.filterMap (Reference.shift? s)
  | literal _ => by rw [shift]; rfl
  | cell a => by
      rw [shift]
      cases survives : a.shift? s <;> simp [references, Reference.shift?, survives]
  | range r => by
      rw [shift]
      cases survives : r.shift? s <;> simp [references, Reference.shift?, survives]
  | unary _ operand => by rw [shift, references, references, references_shift s operand]
  | binary _ left right => by
      rw [shift, references, references, references_shift s left, references_shift s right,
        List.filterMap_append]
  | call _ arguments => by rw [shift, references, references, referencesOfAll_shiftAll s arguments]

theorem referencesOfAll_shiftAll (s : Shift) : ∀ es : List Expr,
    referencesOfAll (shiftAll s es) = (referencesOfAll es).filterMap (Reference.shift? s)
  | [] => rfl
  | first :: rest => by
      rw [shiftAll, referencesOfAll, referencesOfAll, references_shift s first,
        referencesOfAll_shiftAll s rest, List.filterMap_append]

end

mutual

/-- A shift keeps the names of calls. -/
@[simp] theorem functionNames_shift (s : Shift) :
    ∀ e : Expr, (e.shift s).functionNames = e.functionNames
  | literal _ => by rw [shift]
  | cell a => by rw [shift]; split <;> rfl
  | range r => by rw [shift]; split <;> rfl
  | unary _ operand => by rw [shift, functionNames, functionNames, functionNames_shift s operand]
  | binary _ left right => by
      rw [shift, functionNames, functionNames, functionNames_shift s left,
        functionNames_shift s right]
  | call _ arguments => by
      rw [shift, functionNames, functionNames, functionNamesOfAll_shiftAll s arguments]

theorem functionNamesOfAll_shiftAll (s : Shift) : ∀ es : List Expr,
    functionNamesOfAll (shiftAll s es) = functionNamesOfAll es
  | [] => rfl
  | first :: rest => by
      rw [shiftAll, functionNamesOfAll, functionNamesOfAll, functionNames_shift s first,
        functionNamesOfAll_shiftAll s rest]

end

end Expr

/-! ## Formula texts -/

namespace Formula

open Spreadsheet.Expr

variable {text : String} {ts : List Token} {t : Token} {e : Expr} {reference : Reference}

theorem Token.proper_of_mem_references (member : reference ∈ t.references) : reference.Proper := by
  cases t with
  | cell word =>
      obtain ⟨a, named, rfl⟩ :
          ∃ a, Address.ofText? word = some a ∧ Reference.cell a = reference := by
        simpa [references] using member
      have writable := Address.writable_of_read? named
      exact ⟨writable, writable, UInt32.le_refl _, UInt32.le_refl _⟩
  | range word =>
      obtain ⟨r, named, rfl⟩ :
          ∃ r, Range.ofText? word = some r ∧ Reference.range r = reference := by
        simpa [references] using member
      obtain ⟨_, _, a, b, _, _, read_first, read_second, rfl⟩ := Range.read?_eq_some_iff.mp named
      obtain ⟨first, last⟩ := Range.writable_between (Address.writable_of_read? read_first)
        (Address.writable_of_read? read_second)
      exact ⟨first, last, Range.ordered_between a b⟩
  | _ => simp [references] at member

/-- The text stands for the expression, however long it is. -/
def Means (text : String) (e : Expr) : Prop :=
  ∃ ts, Cuts text.toList (.symbol .equal :: ts) ∧ StandFor ts e

theorem parse_eq_ok_iff_means : parse text = .ok e ↔ text.length ≤ maxChars ∧ Means text e := by
  rw [parse_eq_ok_iff]
  constructor
  · rintro ⟨short, ts, tokens, standFor⟩
    exact ⟨short, ts, tokens ▸ cuts_tokensOf text.toList, standFor⟩
  · rintro ⟨short, ts, cuts, standFor⟩
    exact ⟨short, ts, cuts.tokensOf_eq, standFor⟩

/-- The references of a formula are as formulas have them. -/
theorem Means.proper (means : Means text e) : ∀ reference ∈ e.references, reference.Proper := by
  obtain ⟨ts, _, standFor⟩ := means
  rw [standFor.references_eq]
  intro reference member
  obtain ⟨t, _, member⟩ := List.mem_flatMap.mp member
  exact Token.proper_of_mem_references member

/-- A relocated text stands for the shifted tree. -/
theorem Means.relocate (means : Means text e) (plain : ∀ name ∈ e.functionNames, ':' ∉ name.toList)
    (fits : ∀ reference ∈ e.references, reference.Fits s) :
    Means (Formula.relocate s text) (e.shift s) := by
  obtain ⟨ts, cuts, standFor⟩ := means
  obtain ⟨sound, names, chain⟩ := standFor.tokens_formula
  have plain := fun t member name named => plain name (names t member name named)
  exact ⟨_, cuts_relocate cuts sound plain chain, standFor.shift fits⟩

end Formula
end Spreadsheet
