import Spreadsheet.Library.Arguments
import Spreadsheet.Proofs.Double.Whole
import Spreadsheet.Proofs.Library.Outcome

/-!
# Regular values and arguments

Evaluation knows two shapes of values: single values, and tables that are rectangles of single
values with at least one item. Reading an argument never crashes, whatever its shape is; integers
that are read have 64 bits, and the rows of a regular argument form a rectangle.
-/

namespace Spreadsheet

/-- Rows of single values that are equally long. There is one row at least, and one column. -/
structure IsRectangle (rows : List (List Value)) : Prop where
  /-- There is a row. -/
  nonempty : rows ≠ []
  /-- The rows are equally long, and not empty. -/
  exists_width : ∃ width, 0 < width ∧ ∀ row ∈ rows, row.length = width
  /-- The items are single values. -/
  single : ∀ row ∈ rows, ∀ item ∈ row, ∃ value, item = .single value

/-- A value is single, or a rectangle of single values. -/
def Value.IsRegular : Value → Prop
  | .single _ => True
  | .table rows => IsRectangle rows

namespace Value

@[simp] theorem isRegular_single (value : CellValue) : (single value).IsRegular := trivial

@[simp] theorem isRegular_number (x : Float) : (number x).IsRegular := trivial

@[simp] theorem isRegular_count (n : Nat) : (count n).IsRegular := trivial

@[simp] theorem isRegular_text (s : String) : (text s).IsRegular := trivial

@[simp] theorem isRegular_boolean (b : Bool) : (boolean b).IsRegular := trivial

@[simp] theorem isRegular_error (code : ErrorCode) : (error code).IsRegular := trivial

end Value

theorem IsRectangle.isRegular_of_mem {rows : List (List Value)} {row : List Value} {item : Value}
    (rectangle : IsRectangle rows) (rowIn : row ∈ rows) (itemIn : item ∈ row) :
    item.IsRegular := by
  obtain ⟨value, rfl⟩ := rectangle.single row rowIn item itemIn
  trivial

theorem isRectangle_single (value : CellValue) : IsRectangle [[.single value]] :=
  ⟨by simp, ⟨1, by simp⟩, by simp⟩

namespace Library

variable {α : Type} {exception : Prop} {argument : Value} {arguments : List Value}

/-! ## Single arguments -/

theorem scalar_ne_crash : scalar argument ≠ .error .crash := by
  rw [scalar]
  split <;> simp [fail]

@[simp] theorem ensures_scalar {property : CellValue → Prop} :
    EnsuresUnless exception property (scalar argument) ↔
      ∀ value, scalar argument = .ok value → property value :=
  ensuresUnless_iff_of_ne_crash scalar_ne_crash

@[simp] theorem ensures_orWrong {found : Option α} {property : α → Prop} :
    EnsuresUnless exception property (orWrong found) ↔
      ∀ result, found = some result → property result := by
  cases found <;> simp [orWrong]

@[simp] theorem ensures_number {property : Float → Prop} :
    EnsuresUnless exception property (number argument) ↔
      ∀ x, number argument = .ok x → property x :=
  ensuresUnless_iff_of_ne_crash (by simp [ne_crash_iff, number])

@[simp] theorem ensures_integer {property : Int → Prop} :
    EnsuresUnless exception property (integer argument) ↔
      ∀ n, integer argument = .ok n → property n :=
  ensuresUnless_iff_of_ne_crash (by simp [ne_crash_iff, integer])

theorem bounds_toInt (x : Float) :
    Int64.minValue.toInt ≤ Double.toInt x ∧ Double.toInt x ≤ Int64.maxValue.toInt := by
  have clamped (n : Int) : Int64.minValue.toInt ≤ Double.clampInt64 n ∧
      Double.clampInt64 n ≤ Int64.maxValue.toInt :=
    ⟨Int.le_max_left _ _, Int.max_le.mpr ⟨by decide, Int.min_le_right _ _⟩⟩
  rw [Double.toInt]
  split
  · decide
  · split <;> decide
  · exact clamped _

/-- An integer that is read has 64 bits. -/
theorem bounds_of_integer {n : Int} (read : integer argument = .ok n) :
    Int64.minValue.toInt ≤ n ∧ n ≤ Int64.maxValue.toInt := by
  have bounded : Ensures (fun n => Int64.minValue.toInt ≤ n ∧ n ≤ Int64.maxValue.toInt)
      (integer argument) := by
    exact ensuresUnless_bind.mpr (ensures_number.mpr fun x _ => bounds_toInt x)
  rw [read] at bounded
  exact bounded

/-- A count that is given as an argument is read as the number that it is. -/
theorem integer_count {n : ℕ} (small : n < 2 ^ 53) : integer (.count n) = .ok n :=
  congrArg Except.ok (Double.toInt_ofNat small)

/-- Small counts are different values. -/
theorem count_inj {n k : ℕ} (n_small : n < 2 ^ 53) (k_small : k < 2 ^ 53)
    (same : Value.count n = .count k) :
    n = k := by
  have read := congrArg integer same
  rw [integer_count n_small, integer_count k_small] at read
  exact Int.ofNat.inj (Except.ok.inj read)

theorem integer_ofInt {n : ℤ} (nonneg : 0 ≤ n) (small : n < 2 ^ 53) :
    integer (.number (Float.ofInt n)) = .ok n := by
  obtain ⟨n, rfl⟩ := Int.eq_ofNat_of_zero_le nonneg
  exact integer_count (by omega)

@[simp] theorem ensures_natural {property : Nat → Prop} :
    EnsuresUnless exception property (natural argument) ↔
      ∀ n, natural argument = .ok n → property n :=
  ensuresUnless_iff_of_ne_crash (by simp [ne_crash_iff, natural])

@[simp] theorem ensures_text {property : String → Prop} :
    EnsuresUnless exception property (text argument) ↔
      ∀ s, text argument = .ok s → property s :=
  ensuresUnless_iff_of_ne_crash (by simp [ne_crash_iff, text])

@[simp] theorem ensures_chars {property : List Char → Prop} :
    EnsuresUnless exception property (chars argument) ↔
      ∀ cs, chars argument = .ok cs → property cs :=
  ensuresUnless_iff_of_ne_crash (by simp [ne_crash_iff, chars])

@[simp] theorem ensures_boolean {property : Bool → Prop} :
    EnsuresUnless exception property (boolean argument) ↔
      ∀ b, boolean argument = .ok b → property b :=
  ensuresUnless_iff_of_ne_crash (by simp [ne_crash_iff, boolean])

/-- An argument that may be left out. -/
theorem ensures_optional {convert : Value → Outcome α} {standard : α} {choice : Option Value}
    (given : ∀ argument, Ensures (fun _ => True) (convert argument)) :
    Ensures (fun _ => True) (optional convert standard choice) := by
  cases choice with
  | none => trivial
  | some argument => exact given argument

/-! ## Aggregates and tables -/

theorem numbersOf_ne_crash : numbersOf argument ≠ .error .crash := by
  fun_cases numbersOf argument <;> simp [fail]

theorem numbers_ne_crash : numbers arguments ≠ .error .crash := by
  refine ne_crash_iff.mpr (ensuresUnless_bind.mpr ?_)
  exact (ensuresUnless_mapM fun _ _ => ne_crash_iff.mp numbersOf_ne_crash).imp fun _ _ => trivial

@[simp] theorem ensures_numbers {property : List Float → Prop} :
    EnsuresUnless exception property (numbers arguments) ↔
      ∀ xs, numbers arguments = .ok xs → property xs :=
  ensuresUnless_iff_of_ne_crash numbers_ne_crash

@[simp] theorem ensures_mean {xs : List Float} {property : Float → Prop} :
    EnsuresUnless exception property (mean xs) ↔ ∀ x, mean xs = .ok x → property x :=
  ensuresUnless_iff_of_ne_crash (by simp [ne_crash_iff, mean])

@[simp] theorem ensures_finite {x : Float} :
    EnsuresUnless exception Value.IsRegular (finite x) := by
  simp [finite]

theorem rowsOf_ne_crash : rowsOf argument ≠ .error .crash := by
  fun_cases rowsOf argument <;> simp [fail]

@[simp] theorem ensures_rowsOf {property : List (List Value) → Prop} :
    EnsuresUnless exception property (rowsOf argument) ↔
      ∀ rows, rowsOf argument = .ok rows → property rows :=
  ensuresUnless_iff_of_ne_crash rowsOf_ne_crash

/-- The rows of a regular argument form a rectangle. -/
theorem isRectangle_of_rowsOf {rows : List (List Value)} (regular : argument.IsRegular)
    (read : rowsOf argument = .ok rows) : IsRectangle rows := by
  cases argument with
  | table items =>
      obtain rfl := Except.ok.inj read
      exact regular
  | single value =>
      cases value
      case error code => cases read
      all_goals
        obtain rfl := Except.ok.inj read
        exact isRectangle_single _

end Library
end Spreadsheet
