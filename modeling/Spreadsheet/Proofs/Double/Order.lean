import Mathlib.Data.Prod.Lex
import Mathlib.Algebra.Order.Ring.Int

/-!
# The order of doubles

Doubles other than NaN are compared by keys in a linear order: first the sign and whether there is
a magnitude, then exponent and mantissa, which count backwards for negative doubles.
-/

namespace Spreadsheet
namespace Double

open Float.Model UnpackedFloat

/-- The key of an unpacked double. -/
def unpackedKey : UnpackedFloat → ℤ ×ₗ ℤ ×ₗ ℤ
  | .notANumber => toLex (0, toLex (0, 0))
  | .infinity .negative => toLex (-2, toLex (0, 0))
  | .finite .negative mantissa exponent _ => toLex (-1, toLex (-exponent, -(mantissa : ℤ)))
  | .zero _ => toLex (0, toLex (0, 0))
  | .finite .positive mantissa exponent _ => toLex (1, toLex (exponent, (mantissa : ℤ)))
  | .infinity .positive => toLex (2, toLex (0, 0))

/-- The key that a double is compared by. -/
def key (x : Float) : ℤ ×ₗ ℤ ×ₗ ℤ := unpackedKey x.toModel.unpack

theorem compare_magnitude_eq_lt {m n : ℕ} {e f : ℤ} :
    (compare e f).then (compare m n) = .lt ↔ e < f ∨ e = f ∧ m < n := by
  rw [Ordering.then_eq_lt, compare_lt_iff_lt, compare_eq_iff_eq, compare_lt_iff_lt]

theorem compare_magnitude_eq_gt {m n : ℕ} {e f : ℤ} :
    (compare e f).then (compare m n) = .gt ↔ f < e ∨ e = f ∧ n < m := by
  rw [Ordering.then_eq_gt, compare_gt_iff_gt, compare_eq_iff_eq, compare_gt_iff_gt]

theorem lt_unpacked_iff {a b : UnpackedFloat} (a_ne : a ≠ .notANumber) (b_ne : b ≠ .notANumber) :
    a.lt b ↔ unpackedKey a < unpackedKey b := by
  rcases a with (_ | _) | _ | (_ | _) | ⟨_ | _, m, e, _⟩ <;>
  rcases b with (_ | _) | _ | (_ | _) | ⟨_ | _, n, f, _⟩ <;>
  first
  | exact absurd rfl a_ne
  | exact absurd rfl b_ne
  | dsimp only [UnpackedFloat.lt, UnpackedFloat.compare, unpackedKey]
    simp [Prod.Lex.toLex_lt_toLex, compare_magnitude_eq_lt, compare_magnitude_eq_gt,
      show compare Sign.negative Sign.positive = .lt from rfl]

/-- Doubles other than NaN are compared by their keys. -/
theorem lt_iff_key_lt {x y : Float} (properX : ¬ x.isNaN) (properY : ¬ y.isNaN) :
    x < y ↔ key x < key y := by
  have unpacked_ne {z : Float} (proper : ¬ z.isNaN) : z.toModel.unpack ≠ .notANumber := by
    intro eq
    have isNaN : z.toModel.unpack.isNaN := by rw [eq]; rfl
    exact proper isNaN
  have unfolded : x < y ↔ x.toModel.unpack.lt y.toModel.unpack := decide_eq_true_iff
  exact unfolded.trans (lt_unpacked_iff (unpacked_ne properX) (unpacked_ne properY))

end Double
end Spreadsheet
