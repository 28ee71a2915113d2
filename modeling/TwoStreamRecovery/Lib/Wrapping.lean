import Mathlib.Order.Lattice.Nat

/-!
# Sizes computed in machine arithmetic

A quotient of a number that may have wrapped around, clamped between two bounds.

* `clamp`: the clamping; `clamp_mono`.
* `clamp_wrap_iff`: clamping hides the wrap exactly where the remainder still reaches the upper bound.
-/

/-- The number of `low`..`high` that is closest to `n`. -/
def clamp (low high n : ℕ) : ℕ := min (max n low) high

variable {low high n n' high' d m x : ℕ}

theorem clamp_mono (hn : n ≤ n') (hhigh : high ≤ high') : clamp low high n ≤ clamp low high' n' :=
  min_le_min (max_le_max hn le_rfl) hhigh

theorem clamp_of_le (hn : high ≤ n) : clamp low high n = high := by
  rw [clamp, min_eq_right (hn.trans (le_max_left n low))]

theorem clamp_eq_high_iff (hlow : low < high) : clamp low high n = high ↔ high ≤ n := by
  rw [clamp, min_eq_right_iff, le_max_iff, or_iff_left (Nat.not_le.mpr hlow)]

/-- **A wrap before the clamping** shows, unless the remainder reaches the upper bound. -/
theorem clamp_wrap_iff (hlow : low < high) (hd : 0 < d) (hhigh : high * d ≤ m) :
    clamp low high (x % m / d) = clamp low high (x / d) ↔ x < m ∨ high * d ≤ x % m := by
  rcases Nat.lt_or_ge x m with hx | hx
  · rw [Nat.mod_eq_of_lt hx]
    exact iff_of_true rfl (.inl hx)
  · have hexact : clamp low high (x / d) = high :=
      clamp_of_le ((Nat.le_div_iff_mul_le hd).mpr (hhigh.trans hx))
    rw [hexact, clamp_eq_high_iff hlow, Nat.le_div_iff_mul_le hd, or_iff_right (Nat.not_lt.mpr hx)]
