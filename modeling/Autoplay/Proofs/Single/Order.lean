import Mathlib.Data.Prod.Lex
import Mathlib.Tactic.Common

/-!
# The order of numbers in single precision

Numbers in single precision are compared by sign, then by exponent, then by mantissa, and what is
not a number compares with nothing. So they are ordered as their ranks are (`le_iff_rank`,
`lt_iff_rank`), and the order is transitive (`single_le_trans`).
-/

namespace Autoplay

open Float.Model (UnpackedFloat)

/-- The place of a number in the order: infinities at both ends, negative numbers below zero with
the larger exponents and mantissas first, positive ones above it. What is not a number has none. -/
def rank : UnpackedFloat → Option (ℤ ×ₗ ℤ ×ₗ ℤ)
  | .infinity .negative => some (toLex (-2, toLex (0, 0)))
  | .finite .negative m e _ => some (toLex (-1, toLex (-e, -(m : ℤ))))
  | .zero _ => some (toLex (0, toLex (0, 0)))
  | .finite .positive m e _ => some (toLex (1, toLex (e, (m : ℤ))))
  | .infinity .positive => some (toLex (2, toLex (0, 0)))
  | .notANumber => none

/-- Exponents are compared first, and mantissas where the exponents are equal. -/
theorem isLE_then (e e' : ℤ) (m m' : ℕ) :
    ((compare e e').then (compare m m')).isLE = true ↔ e < e' ∨ e = e' ∧ m ≤ m' := by
  rcases lt_trichotomy e e' with h | rfl | h
  · simp [compare_lt_iff_lt.mpr h, h]
  · simp [Nat.isLE_compare]
  · simp [compare_gt_iff_gt.mpr h, not_lt_of_gt h, ne_of_gt h]

/-- The same the other way round. -/
theorem isGE_then (e e' : ℤ) (m m' : ℕ) :
    ((compare e e').then (compare m m')).isGE = true ↔ e' < e ∨ e = e' ∧ m' ≤ m := by
  rw [← Ordering.isLE_swap, Ordering.swap_then, ← Std.OrientedOrd.eq_swap,
    ← Std.OrientedOrd.eq_swap, isLE_then, eq_comm]

/-- The mantissas decide strictly where the exponents are equal. -/
theorem eq_lt_then (e e' : ℤ) (m m' : ℕ) :
    (compare e e').then (compare m m') = .lt ↔ e < e' ∨ e = e' ∧ m < m' := by
  rcases lt_trichotomy e e' with h | rfl | h
  · simp [compare_lt_iff_lt.mpr h, h]
  · simp [Nat.compare_eq_lt]
  · simp [compare_gt_iff_gt.mpr h, not_lt_of_gt h, ne_of_gt h]

/-- The same the other way round. -/
theorem eq_gt_then (e e' : ℤ) (m m' : ℕ) :
    (compare e e').then (compare m m') = .gt ↔ e' < e ∨ e = e' ∧ m' < m := by
  rw [← Ordering.swap_eq_lt, Ordering.swap_then, ← Std.OrientedOrd.eq_swap,
    ← Std.OrientedOrd.eq_swap, eq_lt_then, eq_comm]

/-- Numbers are ordered as their ranks are. -/
theorem le_iff_rank (x y : UnpackedFloat) :
    x.le y = true ↔ ∃ r ∈ rank x, ∃ r' ∈ rank y, r ≤ r' := by
  rcases x with (_ | _) | _ | _ | ⟨_ | _, m, e, hm⟩ <;>
    rcases y with (_ | _) | _ | _ | ⟨_ | _, m', e', hm'⟩ <;>
      dsimp only [UnpackedFloat.le, UnpackedFloat.compare, rank] <;>
        simp [Prod.Lex.toLex_le_toLex, isLE_then, isGE_then]
  -- What is left compares two infinities.
  all_goals decide

/-- Numbers are ordered strictly as their ranks are. -/
theorem lt_iff_rank (x y : UnpackedFloat) :
    x.lt y = true ↔ ∃ r ∈ rank x, ∃ r' ∈ rank y, r < r' := by
  rcases x with (_ | _) | _ | _ | ⟨_ | _, m, e, hm⟩ <;>
    rcases y with (_ | _) | _ | _ | ⟨_ | _, m', e', hm'⟩ <;>
      dsimp only [UnpackedFloat.lt, UnpackedFloat.compare, rank] <;>
        simp [Prod.Lex.toLex_lt_toLex, Ordering.swap_eq_lt, eq_lt_then, eq_gt_then]
  -- What is left compares two infinities.
  all_goals decide

/-- The order of numbers in single precision is transitive. -/
theorem single_le_trans {x y z : Float32} (h : x ≤ y) (h' : y ≤ z) : x ≤ z := by
  have hle (x y : Float32) : x ≤ y ↔ (x.toModel.unpack).le y.toModel.unpack = true :=
    decide_eq_true_iff
  rw [hle, le_iff_rank] at *
  obtain ⟨r, hr, s, hs, hrs⟩ := h
  obtain ⟨s', hs', t, ht, hst⟩ := h'
  obtain rfl : s = s' := Option.mem_unique hs hs'
  exact ⟨r, hr, t, ht, hrs.trans hst⟩

end Autoplay
