import Mathlib.Algebra.Group.Nat.Defs

/-!
# Wrapping serial numbers

A counter of 64 bits starts over after `2 ^ 64` steps. What it numbers is told apart
by the number as long as it is not that old.
-/

namespace Serial

/-- The number of the `n`th step. -/
def serial (n : ℕ) : UInt64 := UInt64.ofNat n

/-- One step on, the counter is one up, or has started over. -/
theorem serial_succ (n : ℕ) : serial (n + 1) = serial n + 1 := by
  unfold serial
  rw [UInt64.ofNat_add, UInt64.ofNat_one]

theorem serial_eq_iff {m n : ℕ} : serial m = serial n ↔ m % 2 ^ 64 = n % 2 ^ 64 := by
  unfold serial
  rw [UInt64.ofNat_eq_iff_mod_eq_toNat, UInt64.toNat_ofNat']

/-- A number that is not `2 ^ 64` steps old is in force only if it is the latest. -/
theorem eq_of_serial_eq {m n : ℕ} (h : serial m = serial n) (hle : m ≤ n)
    (hyoung : n < m + 2 ^ 64) : m = n := by
  have hmod := serial_eq_iff.1 h
  omega

end Serial
