import Mathlib.Algebra.Order.Floor.Ring
import Mathlib.Algebra.Order.Field.Power
import Mathlib.Tactic.NormNum
import Mathlib.Tactic.Linarith
import Mathlib.Tactic.FieldSimp
import Mathlib.Tactic.Positivity
import ServerPilot.Spec.Estimate

/-!
# Doubles that a subtraction leaves exact

`toDouble` rounds to a multiple of a power of two that depends on the number's exponent, so a
multiple of a larger power is left as it is (`toDouble_of_grid`), and a whole number of seconds
is taken from a clock's reading without rounding (`toDouble_sub`).
-/

namespace ServerPilot

theorem powTwo_eq (e : ℤ) : powTwo e = (2 : ℚ) ^ e := by
  unfold powTwo
  split
  · rename_i he
    obtain ⟨n, rfl⟩ := Int.eq_ofNat_of_zero_le he
    simp
  · rename_i he
    obtain ⟨n, hn⟩ := Int.eq_ofNat_of_zero_le (show 0 ≤ -e by omega)
    have hen : e = -(n : ℤ) := by omega
    subst hen
    simp

/-- **The exponent of a number.** -/
theorem exponent_spec {q : ℚ} (hq : q ≠ 0) :
    (2 : ℚ) ^ exponent q ≤ |q| ∧ |q| < 2 ^ (exponent q + 1) := by
  have hnum : q.num.natAbs ≠ 0 := by simpa using hq
  have hden : q.den ≠ 0 := q.den_nz
  have habs : |q| = (q.num.natAbs : ℚ) / q.den := by
    calc |q| = |(q.num : ℚ) / q.den| := by rw [Rat.num_div_den]
      _ = (q.num.natAbs : ℚ) / q.den := by
        rw [abs_div, Nat.abs_cast, Nat.cast_natAbs, Int.cast_abs]
  have h1 : ((2 : ℚ) ^ (q.num.natAbs.log2 : ℤ)) ≤ q.num.natAbs := by
    exact_mod_cast Nat.log2_self_le hnum
  have h2 : (q.num.natAbs : ℚ) < 2 ^ ((q.num.natAbs.log2 : ℤ) + 1) := by
    exact_mod_cast Nat.lt_log2_self (n := q.num.natAbs)
  have h3 : ((2 : ℚ) ^ (q.den.log2 : ℤ)) ≤ q.den := by
    exact_mod_cast Nat.log2_self_le hden
  have h4 : (q.den : ℚ) < 2 ^ ((q.den.log2 : ℤ) + 1) := by
    exact_mod_cast Nat.lt_log2_self (n := q.den)
  set a : ℤ := (q.num.natAbs.log2 : ℤ) with ha
  set b : ℤ := (q.den.log2 : ℤ) with hb
  have hd : (0 : ℚ) < q.den := by positivity
  -- a quotient of numbers below the next powers of two
  have hupper : |q| < 2 ^ (a - b + 1) := by
    rw [habs, div_lt_iff₀ hd]
    have heq : (2 : ℚ) ^ (a + 1) = 2 ^ (a - b + 1) * 2 ^ b := by
      rw [← zpow_add₀ (by norm_num)]; congr 1; omega
    have hle : (2 : ℚ) ^ (a - b + 1) * 2 ^ b ≤ 2 ^ (a - b + 1) * q.den :=
      mul_le_mul_of_nonneg_left h3 (by positivity)
    linarith
  have hlower : (2 : ℚ) ^ (a - b - 1) < |q| := by
    rw [habs, lt_div_iff₀ hd]
    have heq : (2 : ℚ) ^ a = 2 ^ (a - b - 1) * 2 ^ (b + 1) := by
      rw [← zpow_add₀ (by norm_num)]; congr 1; omega
    have hlt : (2 : ℚ) ^ (a - b - 1) * q.den < 2 ^ (a - b - 1) * 2 ^ (b + 1) :=
      mul_lt_mul_of_pos_left h4 (by positivity)
    linarith
  have hunfold : exponent q = if |q| < 2 ^ (a - b) then a - b - 1 else a - b := by
    unfold exponent
    simp only [powTwo_eq, habs]
    rfl
  rw [hunfold]
  split
  · rename_i hlt
    refine ⟨hlower.le, ?_⟩
    rwa [sub_add_cancel]
  · rename_i hge
    exact ⟨not_lt.1 hge, hupper⟩

/-- A number that is not larger has no larger exponent. -/
theorem exponent_le {q : ℚ} {e : ℤ} (hq : q ≠ 0) (h : |q| < 2 ^ (e + 1)) : exponent q ≤ e := by
  have hlt : (2 : ℚ) ^ exponent q < 2 ^ (e + 1) := lt_of_le_of_lt (exponent_spec hq).1 h
  have hexp : exponent q < e + 1 := (zpow_lt_zpow_iff_right₀ (by norm_num)).1 hlt
  omega

theorem roundEven_intCast (k : ℤ) : roundEven (k : ℚ) = k := by
  simp [roundEven]

/-- **A multiple of a power of two that is not too small for its size is a double.** -/
theorem toDouble_of_grid {q : ℚ} {j k : ℤ} (hq : q = k * 2 ^ j) (hj : q ≠ 0 → exponent q - 52 ≤ j) :
    toDouble q = q := by
  unfold toDouble
  split
  · rename_i h0
    exact h0.symm
  · rename_i h0
    have hj := hj h0
    obtain ⟨n, hn⟩ := Int.eq_ofNat_of_zero_le (show 0 ≤ j - (exponent q - 52) by omega)
    have hu : (2 : ℚ) ^ (exponent q - 52) ≠ 0 := by positivity
    have hsplit : (2 : ℚ) ^ j = 2 ^ n * 2 ^ (exponent q - 52) := by
      rw [← zpow_natCast, ← zpow_add₀ (by norm_num)]
      congr 1
      have : ((n : ℕ) : ℤ) = j - (exponent q - 52) := hn.symm
      omega
    have hdiv : q / 2 ^ (exponent q - 52) = ((k * 2 ^ n : ℤ) : ℚ) := by
      rw [div_eq_iff hu, Int.cast_mul, Int.cast_pow, Int.cast_ofNat, mul_assoc, ← hsplit]
      exact hq
    simp only [powTwo_eq]
    rw [hdiv, roundEven_intCast, ← hdiv, div_mul_cancel₀ _ hu]

/-- A double is a whole number of units of its last place. -/
theorem toDouble_grid {q : ℚ} (h : toDouble q = q) : ∃ k : ℤ, q = k * 2 ^ (exponent q - 52) := by
  by_cases h0 : q = 0
  · exact ⟨0, by simp [h0]⟩
  · refine ⟨roundEven (q / powTwo (exponent q - 52)), ?_⟩
    rw [toDouble, if_neg h0] at h
    rw [← powTwo_eq]
    exact h.symm

/-- What is negative stays negative. -/
theorem toDouble_neg {q : ℚ} (h : q < 0) : toDouble q < 0 := by
  have h0 : q ≠ 0 := h.ne
  have hu : (0 : ℚ) < 2 ^ (exponent q - 52) := by positivity
  rw [toDouble, if_neg h0]
  simp only [powTwo_eq]
  have hspec := (exponent_spec h0).1
  rw [abs_of_neg h] at hspec
  -- the number is at least `2 ^ 52` units below zero
  have hquot : q / 2 ^ (exponent q - 52) ≤ -2 := by
    rw [div_le_iff₀ hu]
    have hpow : (2 : ℚ) ^ exponent q = 2 ^ (52 : ℤ) * 2 ^ (exponent q - 52) := by
      rw [← zpow_add₀ (by norm_num)]; congr 1; omega
    have hbig : (2 : ℚ) * 2 ^ (exponent q - 52) ≤ 2 ^ (52 : ℤ) * 2 ^ (exponent q - 52) :=
      mul_le_mul_of_nonneg_right (by norm_num) hu.le
    linarith
  have hround : roundEven (q / 2 ^ (exponent q - 52)) < 0 := by
    have hfloor : ⌊q / 2 ^ (exponent q - 52)⌋ ≤ -2 := by
      have hcast : ((⌊q / 2 ^ (exponent q - 52)⌋ : ℤ) : ℚ) ≤ ((-2 : ℤ) : ℚ) :=
        (Int.floor_le _).trans (by simpa using hquot)
      exact_mod_cast hcast
    simp only [roundEven]
    split_ifs <;> omega
  exact mul_neg_of_neg_of_pos (by exact_mod_cast hround) hu

/-- **Whole seconds are taken from a reading without rounding**: the readings of a clock are
doubles of less than `2 ^ 53` seconds. -/
theorem toDouble_sub {x : ℚ} {n : ℕ} (hx : toDouble x = x) (hn : (n : ℚ) ≤ x)
    (hlt : x < 2 ^ (53 : ℤ)) : toDouble (x - n) = x - n := by
  obtain ⟨k, hk⟩ := toDouble_grid hx
  by_cases hzero : x = 0
  · have hn0 : (n : ℚ) = 0 := le_antisymm (by simpa [hzero] using hn) (Nat.cast_nonneg n)
    rw [hn0, sub_zero]
    exact hx
  have hpos : 0 < x := lt_of_le_of_ne (le_trans (Nat.cast_nonneg n) hn) (Ne.symm hzero)
  have hexp : exponent x ≤ 52 := exponent_le hzero (by rw [abs_of_pos hpos]; exact hlt)
  -- both terms are multiples of the unit of the larger one, which divides one second
  obtain ⟨m, hm⟩ := Int.eq_ofNat_of_zero_le (show 0 ≤ 52 - exponent x by omega)
  refine toDouble_of_grid (j := exponent x - 52) (k := k - n * 2 ^ m) ?_ fun hne => ?_
  · have hunit : (2 : ℚ) ^ m * 2 ^ (exponent x - 52) = 1 := by
      rw [← zpow_natCast, ← zpow_add₀ (by norm_num)]
      have hzeroExp : ((m : ℕ) : ℤ) + (exponent x - 52) = 0 := by
        have : ((m : ℕ) : ℤ) = 52 - exponent x := hm.symm
        omega
      rw [hzeroExp, zpow_zero]
    push_cast
    rw [sub_mul, ← hk, mul_assoc, hunit, mul_one]
  · have hle : |x - n| ≤ |x| := by
      rw [abs_of_nonneg (by linarith), abs_of_pos hpos]
      linarith [Nat.cast_nonneg (α := ℚ) n]
    have := exponent_le hne (lt_of_le_of_lt hle (exponent_spec hzero).2)
    omega

end ServerPilot
