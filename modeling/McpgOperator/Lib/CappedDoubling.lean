import Mathlib.Algebra.Order.Ring.Nat
import Mathlib.Tactic.Common

/-!
# Delays that double up to a cap

The delay after `n` failures in a row is the base doubled `n` times, or the
cap where that is less. It can be kept in a variable that is doubled and
capped after each failure, or computed from the count of failures; and a count
that is itself capped gives the same, if the cap of the count is high enough.
-/

namespace CappedDoubling

/-- The delay after `n` failures in a row. -/
def delay (base cap n : Nat) : Nat := min (base * 2 ^ n) cap

/-- What a failure makes of the variable. -/
def double (cap current : Nat) : Nat := min (current * 2) cap

theorem delay_zero {base cap : Nat} (h : base ≤ cap) :
    delay base cap 0 = base := by
  rw [delay, Nat.pow_zero, Nat.mul_one, Nat.min_eq_left h]

/-- The variable keeps up with the count. -/
theorem double_delay (base cap n : Nat) :
    double cap (delay base cap n) = delay base cap (n + 1) := by
  unfold double delay
  rw [Nat.pow_succ, ← Nat.mul_assoc]
  omega

theorem delay_le (base cap n : Nat) : delay base cap n ≤ cap :=
  Nat.min_le_right _ _

theorem delay_mono (base cap : Nat) : Monotone (delay base cap) :=
  fun _ _ h => min_le_min_right cap
    (Nat.mul_le_mul_left base (Nat.pow_le_pow_right Nat.zero_lt_two h))

theorem base_le_delay {base cap : Nat} (h : base ≤ cap) (n : Nat) :
    base ≤ delay base cap n :=
  Nat.le_trans (Nat.le_of_eq (delay_zero h).symm)
    (delay_mono base cap (Nat.zero_le n))

/-- A count that stops where the cap is reached gives the same delay. -/
theorem delay_min {base cap top : Nat} (h : cap ≤ base * 2 ^ top) (n : Nat) :
    delay base cap (min n top) = delay base cap n := by
  rcases Nat.le_total n top with hle | hle
  · rw [Nat.min_eq_left hle]
  · rw [Nat.min_eq_right hle]
    have hpow := Nat.mul_le_mul_left base
      (Nat.pow_le_pow_right Nat.zero_lt_two hle)
    rw [delay, delay, Nat.min_eq_right h, Nat.min_eq_right (h.trans hpow)]

end CappedDoubling
