import Iperf.Library.DoubleRounding
import Mathlib.Algebra.Order.Archimedean.Basic
import Mathlib.Tactic.GCongr

/-! The numbers of the format `double`, with bounded exponents, and the rounding of a rational
number to them.
-/

namespace Doubles

open DoubleRounding

/-- An integer of 53 bits times a power of two in range. -/
def Representable (q : ℚ) : Prop :=
  ∃ m k : ℤ, q = m * 2 ^ k ∧ |m| < 2 ^ 53 ∧ -1074 ≤ k ∧ k ≤ 971

/-- A value of the type `double`. The sign of zero is not kept. -/
inductive Double where
  | finite (value : {q : ℚ // Representable q})
  | infinite (negative : Bool)
  | nan
deriving DecidableEq

/-- The last bit of the representable numbers around a number. -/
def lastBit (q : ℚ) : ℚ := 2 ^ max (Int.log 2 |q| - 52) (-1074)

/-- The nearest multiple of the last bit, ties to even. -/
def rounded (q : ℚ) : ℚ := roundEven (q / lastBit q) * lastBit q

theorem lastBit_pos (q : ℚ) : 0 < lastBit q := by
  unfold lastBit
  positivity

/-- Rounding moves a number by half of the last bit at most. -/
theorem abs_rounded_sub_le (q : ℚ) : |rounded q - q| ≤ lastBit q / 2 := by
  have positive := lastBit_pos q
  have scaled : rounded q - q = (roundEven (q / lastBit q) - q / lastBit q) * lastBit q := by
    rw [rounded]
    field_simp
  rw [scaled, abs_mul, abs_of_pos positive]
  calc |(roundEven (q / lastBit q) : ℚ) - q / lastBit q| * lastBit q
      ≤ 1 / 2 * lastBit q := by gcongr; exact abs_roundEven_sub_le _
    _ = lastBit q / 2 := by ring

theorem abs_roundEven_le {x : ℚ} {n : ℤ} (bound : |x| ≤ n) : |roundEven x| ≤ n := by
  obtain ⟨below, above⟩ := abs_le.mp bound
  exact abs_le.mpr ⟨le_roundEven (by push_cast; exact below), roundEven_le above⟩

-----------------------------------------------------------------------------------------
-- Representable numbers
-----------------------------------------------------------------------------------------

theorem two_zpow_pos (k : ℤ) : (0 : ℚ) < 2 ^ k := by positivity

theorem lt_of_mul_zpow_lt {m n k : ℤ} (less : (m : ℚ) * 2 ^ k < n * 2 ^ k) : m < n := by
  have cast : (m : ℚ) < n := lt_of_mul_lt_mul_right less (two_zpow_pos k).le
  exact_mod_cast cast

/-- The exponent may be lowered. -/
theorem mul_zpow_lower (m : ℤ) {k j : ℤ} (lower : j ≤ k)
    : ∃ n : ℤ, (m : ℚ) * 2 ^ k = n * 2 ^ j := by
  obtain ⟨t, rise⟩ := Int.eq_ofNat_of_zero_le (sub_nonneg.mpr lower)
  refine ⟨m * 2 ^ t, ?_⟩
  have exponent : k = t + j := by omega
  rw [exponent, zpow_add₀ two_ne_zero, zpow_natCast]
  push_cast
  ring

theorem two_zpow_eq {k j : ℤ} {t : ℕ} (exponent : k = j + t)
    : (2 : ℚ) ^ k = ((2 ^ t : ℤ) : ℚ) * 2 ^ j := by
  rw [exponent, zpow_add₀ two_ne_zero, zpow_natCast]
  push_cast
  ring

/-- `2 ^ 53` itself is allowed when the number is in range. -/
theorem representable_of_le {m k : ℤ} (bits : |m| ≤ 2 ^ 53) (low : -1074 ≤ k)
    (range : |(m : ℚ) * 2 ^ k| < 2 ^ (1024 : ℤ))
    : Representable (m * 2 ^ k) := by
  by_cases zero : m = 0
  · exact ⟨0, 0, by simp [zero], by simp, by norm_num, by norm_num⟩
  have positive := two_zpow_pos k
  have size : |(m : ℚ) * 2 ^ k| = ((|m| : ℤ) : ℚ) * 2 ^ k := by
    rw [abs_mul, abs_of_pos positive, Int.cast_abs]
  have one : 1 ≤ |m| := Int.one_le_abs zero
  rcases le_or_gt k 970 with small | large
  · rcases lt_or_eq_of_le bits with less | full
    · exact ⟨m, k, rfl, less, low, by omega⟩
    · -- half of the integer and the next exponent
      have even : ∃ n : ℤ, m = 2 * n ∧ |n| < 2 ^ 53 := by
        rcases abs_choice m with same | same
        · exact ⟨2 ^ 52, by rw [← same, full]; norm_num, by norm_num⟩
        · refine ⟨-2 ^ 52, ?_, by norm_num⟩
          have negative : m = -|m| := by omega
          rw [negative, full]
          norm_num
      obtain ⟨n, double, less⟩ := even
      refine ⟨n, k + 1, ?_, less, by omega, by omega⟩
      rw [double, zpow_add_one₀ two_ne_zero]
      push_cast
      ring
  · -- the exponent comes down to the largest one
    obtain ⟨t, rise⟩ := Int.eq_ofNat_of_zero_le (show 0 ≤ k - 971 by omega)
    have power := two_zpow_eq (show k = 971 + t by omega)
    refine ⟨m * 2 ^ t, 971, by rw [power, Int.cast_mul, mul_assoc], ?_, by norm_num,
      le_rfl⟩
    have top := two_zpow_eq (show (1024 : ℤ) = 971 + (53 : ℕ) by norm_num)
    rw [size, power, top] at range
    have less : (((|m| * 2 ^ t : ℤ)) : ℚ) * 2 ^ (971 : ℤ) < ((2 ^ 53 : ℤ) : ℚ) * 2 ^ (971 : ℤ) := by
      calc ((|m| * 2 ^ t : ℤ) : ℚ) * 2 ^ (971 : ℤ)
          = ((|m| : ℤ) : ℚ) * (((2 ^ t : ℤ) : ℚ) * 2 ^ (971 : ℤ)) := by
            rw [Int.cast_mul, mul_assoc]
        _ < ((2 ^ 53 : ℤ) : ℚ) * 2 ^ (971 : ℤ) := range
    have bound := lt_of_mul_zpow_lt less
    rw [abs_mul, abs_of_pos (show (0 : ℤ) < 2 ^ t by positivity)]
    exact bound

/-- What is representable and greater than a power of two exceeds it by its last bit. -/
theorem Representable.above {d : ℚ} {j : ℤ} (known : Representable d) (more : 2 ^ j < |d|)
    : 2 ^ j + 2 ^ (j - 52) ≤ |d| := by
  obtain ⟨m, k, rfl, bits, -, -⟩ := known
  have positive := two_zpow_pos k
  have size : |(m : ℚ) * 2 ^ k| = ((|m| : ℤ) : ℚ) * 2 ^ k := by
    rw [abs_mul, abs_of_pos positive, Int.cast_abs]
  rw [size] at more ⊢
  rcases le_or_gt k j with low | high
  · obtain ⟨t, rise⟩ := Int.eq_ofNat_of_zero_le (sub_nonneg.mpr low)
    have power := two_zpow_eq (show j = k + t by omega)
    rw [power] at more
    have integers := lt_of_mul_zpow_lt more
    have short : t ≤ 52 := by
      by_contra long
      have large : (2 : ℤ) ^ 53 ≤ 2 ^ t := by gcongr <;> omega
      omega
    have bit : (2 : ℚ) ^ (j - 52) ≤ 2 ^ k := zpow_le_zpow_right₀ (by norm_num) (by omega)
    have next : ((2 ^ t : ℤ) : ℚ) + 1 ≤ ((|m| : ℤ) : ℚ) := by exact_mod_cast integers
    calc (2 : ℚ) ^ j + 2 ^ (j - 52)
        ≤ ((2 ^ t : ℤ) : ℚ) * 2 ^ k + 2 ^ k := by rw [power]; gcongr
      _ = (((2 ^ t : ℤ) : ℚ) + 1) * 2 ^ k := by ring
      _ ≤ ((|m| : ℤ) : ℚ) * 2 ^ k := by gcongr
  · have nonzero : m ≠ 0 := by
      rintro rfl
      simp only [abs_zero, Int.cast_zero, zero_mul] at more
      exact absurd more (not_lt.mpr (two_zpow_pos j).le)
    have one : (1 : ℚ) ≤ ((|m| : ℤ) : ℚ) := by exact_mod_cast Int.one_le_abs nonzero
    have bit : (2 : ℚ) ^ (j - 52) ≤ 2 ^ j := zpow_le_zpow_right₀ (by norm_num) (by omega)
    calc (2 : ℚ) ^ j + 2 ^ (j - 52)
        ≤ 2 ^ j + 2 ^ j := by gcongr
      _ = 2 ^ (j + 1) := by rw [zpow_add_one₀ two_ne_zero]; ring
      _ ≤ 2 ^ k := zpow_le_zpow_right₀ (by norm_num) (by omega)
      _ ≤ ((|m| : ℤ) : ℚ) * 2 ^ k := le_mul_of_one_le_left positive.le one

/-- What is representable and less than a power of two is so by a bit. -/
theorem Representable.below {d : ℚ} {j : ℤ} (known : Representable d) (less : |d| < 2 ^ j)
    : |d| + 2 ^ (j - 53) ≤ 2 ^ j := by
  obtain ⟨m, k, rfl, bits, -, -⟩ := known
  have positive := two_zpow_pos k
  have size : |(m : ℚ) * 2 ^ k| = ((|m| : ℤ) : ℚ) * 2 ^ k := by
    rw [abs_mul, abs_of_pos positive, Int.cast_abs]
  have bits' : ((|m| : ℤ) : ℚ) ≤ 2 ^ 53 - 1 := by
    have integers : |m| ≤ 2 ^ 53 - 1 := by omega
    exact_mod_cast integers
  rw [size] at less ⊢
  rcases le_or_gt (j - 53) k with high | low
  · rcases le_or_gt k j with near | far
    · obtain ⟨t, rise⟩ := Int.eq_ofNat_of_zero_le (sub_nonneg.mpr near)
      have power := two_zpow_eq (show j = k + t by omega)
      rw [power] at less
      have integers := lt_of_mul_zpow_lt less
      have next : ((|m| : ℤ) : ℚ) + 1 ≤ ((2 ^ t : ℤ) : ℚ) := by exact_mod_cast integers
      have bit : (2 : ℚ) ^ (j - 53) ≤ 2 ^ k := zpow_le_zpow_right₀ (by norm_num) high
      calc ((|m| : ℤ) : ℚ) * 2 ^ k + 2 ^ (j - 53)
          ≤ ((|m| : ℤ) : ℚ) * 2 ^ k + 2 ^ k := by gcongr
        _ = (((|m| : ℤ) : ℚ) + 1) * 2 ^ k := by ring
        _ ≤ ((2 ^ t : ℤ) : ℚ) * 2 ^ k := by gcongr
        _ = 2 ^ j := power.symm
    · -- only zero is left
      have zero : |m| = 0 := by
        by_contra nonzero
        have one : (1 : ℚ) ≤ ((|m| : ℤ) : ℚ) := by
          have integers : 1 ≤ |m| := by
            have := abs_nonneg m
            omega
          exact_mod_cast integers
        have large : (2 : ℚ) ^ j ≤ 2 ^ k := zpow_le_zpow_right₀ (by norm_num) far.le
        have more : (2 : ℚ) ^ k ≤ ((|m| : ℤ) : ℚ) * 2 ^ k := le_mul_of_one_le_left positive.le one
        linarith
      rw [zero, Int.cast_zero, zero_mul, zero_add]
      exact zpow_le_zpow_right₀ (by norm_num) (by omega)
  · have bit : (2 : ℚ) ^ k ≤ 2 ^ (j - 54) := zpow_le_zpow_right₀ (by norm_num) (by omega)
    have half := two_zpow_eq (show j - 53 = j - 54 + (1 : ℕ) by omega)
    have whole := two_zpow_eq (show j = j - 54 + (54 : ℕ) by omega)
    have top := two_zpow_pos (j - 54)
    rw [whole, half]
    push_cast
    calc |(m : ℚ)| * 2 ^ k + 2 ^ 1 * 2 ^ (j - 54)
        ≤ (2 ^ 53 - 1) * 2 ^ (j - 54) + 2 ^ 1 * 2 ^ (j - 54) := by
          rw [Int.cast_abs] at bits'
          gcongr
      _ ≤ 2 ^ 54 * 2 ^ (j - 54) := by linarith

/-- A representable number is a multiple of the last bit of every binade up to its own. -/
theorem Representable.multiple {d : ℚ} {j : ℤ} (known : Representable d) (reaches : 2 ^ j ≤ |d|)
    : ∃ n : ℤ, d = n * 2 ^ max (j - 52) (-1074) := by
  obtain ⟨m, k, rfl, bits, low, -⟩ := known
  have positive := two_zpow_pos k
  have exponent : j - 52 ≤ k := by
    by_contra less
    have bits' : ((|m| : ℤ) : ℚ) < 2 ^ 53 := by exact_mod_cast bits
    have top : (2 : ℚ) ^ (53 + k) = 2 ^ 53 * 2 ^ k := by
      rw [zpow_add₀ two_ne_zero]
      norm_cast
    have small : |(m : ℚ) * 2 ^ k| < 2 ^ (53 + k) := by
      rw [abs_mul, abs_of_pos positive, ← Int.cast_abs, top]
      gcongr
    have bound : (2 : ℚ) ^ (53 + k) ≤ 2 ^ j := zpow_le_zpow_right₀ (by norm_num) (by omega)
    linarith
  exact mul_zpow_lower m (max_le exponent low)

-----------------------------------------------------------------------------------------
-- Rounding
-----------------------------------------------------------------------------------------

theorem lead_bounds {q : ℚ} (nonzero : q ≠ 0)
    : (2 : ℚ) ^ Int.log 2 |q| ≤ |q| ∧ |q| < 2 ^ (Int.log 2 |q| + 1) := by
  refine ⟨lead_le (abs_pos.mpr nonzero), ?_⟩
  have high := Int.lt_zpow_succ_log_self (b := 2) (by norm_num) |q|
  exact_mod_cast high

/-- A number near a representable one is rounded to it. -/
theorem rounded_eq {q d : ℚ} (known : Representable d) (near : |q - d| < |d| / 2 ^ 54)
    : rounded q = d := by
  have less : |d| ≤ |q| + |q - d| := by
    calc |d| = |q - (q - d)| := by ring_nf
      _ ≤ |q| + |q - d| := abs_sub _ _
  have more : |q| ≤ |d| + |q - d| := by
    calc |q| = |d + (q - d)| := by ring_nf
      _ ≤ |d| + |q - d| := abs_add_le _ _
  have nonzero : q ≠ 0 := by
    rintro rfl
    rw [abs_zero, zero_add] at less
    have positive := abs_nonneg d
    linarith
  obtain ⟨low, high⟩ := lead_bounds nonzero
  set lead := Int.log 2 |q| with leadIs
  have top := two_zpow_eq (show lead + 1 = lead - 52 + (53 : ℕ) by omega)
  have middle := two_zpow_eq (show lead = lead - 52 + (52 : ℕ) by omega)
  have bitPositive := two_zpow_pos (lead - 52)
  push_cast at top middle
  -- the representable number lies in the binade of the other one, or just above it
  have reaches : (2 : ℚ) ^ lead ≤ |d| := by
    by_contra short
    have gap := known.below (not_le.mp short)
    have half := two_zpow_eq (show lead - 52 = lead - 53 + (1 : ℕ) by omega)
    push_cast at half
    linarith
  have fits : |d| ≤ 2 ^ (lead + 1) := by
    by_contra long
    have gap := known.above (not_le.mp long)
    have bit := two_zpow_eq (show lead + 1 - 52 = lead - 52 + (1 : ℕ) by omega)
    push_cast at bit
    linarith
  obtain ⟨n, multiple⟩ := known.multiple reaches
  have unit : lastBit q = 2 ^ max (lead - 52) (-1074) := rfl
  rw [← unit] at multiple
  have positive := lastBit_pos q
  have bit : (2 : ℚ) ^ (lead - 52) ≤ lastBit q :=
    zpow_le_zpow_right₀ (by norm_num) (le_max_left _ _)
  have close : |q / lastBit q - n| < 1 / 2 := by
    have scaled : q / lastBit q - n = (q - d) / lastBit q := by
      rw [multiple]
      field_simp
    rw [scaled, abs_div, abs_of_pos positive, div_lt_iff₀ positive]
    linarith
  rw [rounded, roundEven_eq close, multiple]

/-- A representable number is rounded to itself. -/
theorem rounded_self {d : ℚ} (known : Representable d) : rounded d = d := by
  by_cases zero : d = 0
  · rw [zero, rounded, zero_div]
    have none_ := roundEven_intCast 0
    rw [Int.cast_zero] at none_
    rw [none_, Int.cast_zero, zero_mul]
  · refine rounded_eq known ?_
    rw [sub_self, abs_zero]
    have positive := abs_pos.mpr zero
    positivity

/-- What is rounded is representable when it is in range. -/
theorem representable_rounded {q : ℚ} (range : |rounded q| < 2 ^ (1024 : ℤ))
    : Representable (rounded q) := by
  refine representable_of_le ?_ (le_max_right _ _) range
  have positive := lastBit_pos q
  apply abs_roundEven_le
  rw [abs_div, abs_of_pos positive, div_le_iff₀ positive]
  by_cases zero : q = 0
  · rw [zero, abs_zero]
    have := lastBit_pos 0
    positivity
  · obtain ⟨-, high⟩ := lead_bounds zero
    have top := two_zpow_eq (show Int.log 2 |q| + 1 = Int.log 2 |q| - 52 + (53 : ℕ) by omega)
    have bit : (2 : ℚ) ^ (Int.log 2 |q| - 52) ≤ lastBit q :=
      zpow_le_zpow_right₀ (by norm_num) (le_max_left _ _)
    calc |q| ≤ 2 ^ (Int.log 2 |q| + 1) := high.le
      _ = ((2 ^ 53 : ℤ) : ℚ) * 2 ^ (Int.log 2 |q| - 52) := top
      _ ≤ ((2 ^ 53 : ℤ) : ℚ) * lastBit q := by gcongr

namespace Double

/-- The conversion of an exact result: what is too large is infinite. -/
def ofRat (q : ℚ) : Double :=
  if range : |rounded q| < 2 ^ (1024 : ℤ) then .finite ⟨rounded q, representable_rounded range⟩
  else .infinite (q < 0)

end Double

/-- A number is moved by its last bit, or by the smallest one. -/
theorem abs_rounded_sub_le_add (q : ℚ)
    : |rounded q - q| ≤ |q| / 2 ^ 53 + 2 ^ (-1075 : ℤ) := by
  have half := abs_rounded_sub_le q
  have smallest : (2 : ℚ) ^ (-1074 : ℤ) / 2 = 2 ^ (-1075 : ℤ) := by
    rw [show (-1075 : ℤ) = -1074 - 1 from rfl, zpow_sub_one₀ two_ne_zero, div_eq_mul_inv]
  have tiny := (two_zpow_pos (-1075)).le
  by_cases zero : q = 0
  · rw [zero, rounded_self ⟨0, 0, by simp, by simp, by norm_num, by norm_num⟩]
    simp only [sub_self, abs_zero, zero_div, zero_add]
    exact tiny
  · have unit := unit_le (abs_pos.mpr zero)
    have size : 0 ≤ |q| / 2 ^ 53 := by positivity
    refine half.trans ?_
    unfold lastBit
    rcases max_choice (Int.log 2 |q| - 52) (-1074) with same | same
    · rw [same]
      refine le_trans ?_ (le_add_of_nonneg_right tiny)
      linarith
    · rw [same, smallest]
      exact le_add_of_nonneg_left size

theorem Representable.range {d : ℚ} (known : Representable d) : |d| < 2 ^ (1024 : ℤ) := by
  obtain ⟨m, k, rfl, bits, -, high⟩ := known
  have top := two_zpow_eq (show (1024 : ℤ) = 971 + (53 : ℕ) by norm_num)
  have bits' : ((|m| : ℤ) : ℚ) < ((2 ^ 53 : ℤ) : ℚ) := by exact_mod_cast bits
  have power : (2 : ℚ) ^ k ≤ 2 ^ (971 : ℤ) := zpow_le_zpow_right₀ (by norm_num) high
  have positive := two_zpow_pos (971 : ℤ)
  rw [abs_mul, abs_of_pos (two_zpow_pos k), ← Int.cast_abs, top]
  calc ((|m| : ℤ) : ℚ) * 2 ^ k ≤ ((|m| : ℤ) : ℚ) * 2 ^ (971 : ℤ) := by
        have size : (0 : ℚ) ≤ ((|m| : ℤ) : ℚ) := by exact_mod_cast abs_nonneg m
        gcongr
    _ < ((2 ^ 53 : ℤ) : ℚ) * 2 ^ (971 : ℤ) := by gcongr

theorem Double.ofRat_eq {q d : ℚ} (known : Representable d) (same : rounded q = d)
    : Double.ofRat q = .finite ⟨d, known⟩ := by
  subst same
  rw [Double.ofRat, dif_pos known.range]

/-- A value is converted to itself. -/
theorem Double.ofRat_self (value : {q : ℚ // Representable q})
    : Double.ofRat value = .finite value :=
  Double.ofRat_eq value.2 (rounded_self value.2)

/-- What is less than half of the smallest number is rounded to zero. -/
theorem rounded_tiny {q : ℚ} (tiny : |q| < 2 ^ (-1075 : ℤ)) : rounded q = 0 := by
  have smallest : (2 : ℚ) ^ (-1074 : ℤ) = 2 * 2 ^ (-1075 : ℤ) := by
    rw [← zpow_one_add₀ two_ne_zero]
    rfl
  have positive := two_zpow_pos (-1075)
  have unit := lastBit_pos q
  have least : (2 : ℚ) ^ (-1074 : ℤ) ≤ lastBit q := by
    unfold lastBit
    exact zpow_le_zpow_right₀ (by norm_num) (le_max_right _ _)
  have none_ : roundEven (q / lastBit q) = 0 := by
    refine roundEven_eq ?_
    rw [Int.cast_zero, sub_zero, abs_div, abs_of_pos unit, div_lt_iff₀ unit]
    linarith only [tiny, least, smallest]
  rw [rounded, none_, Int.cast_zero, zero_mul]

/-- The difference of two numbers that are near each other and near zero is exact. -/
theorem Representable.sub {a b : ℚ} (first : Representable a) (second : Representable b)
    (near : |a - b| < 2 ^ (-1022 : ℤ))
    : Representable (a - b) := by
  obtain ⟨m, k, rfl, -, low, -⟩ := first
  obtain ⟨m', k', rfl, -, low', -⟩ := second
  obtain ⟨n, same⟩ := mul_zpow_lower m low
  obtain ⟨n', same'⟩ := mul_zpow_lower m' low'
  have difference : (n : ℚ) * 2 ^ (-1074 : ℤ) - n' * 2 ^ (-1074 : ℤ)
      = ((n - n' : ℤ) : ℚ) * 2 ^ (-1074 : ℤ) := by
    rw [Int.cast_sub, sub_mul]
  rw [same, same', difference] at near ⊢
  have power := two_zpow_eq (show (-1022 : ℤ) = -1074 + (52 : ℕ) by norm_num)
  refine ⟨n - n', -1074, rfl, ?_, le_rfl, by norm_num⟩
  rw [abs_mul, abs_of_pos (two_zpow_pos _), ← Int.cast_abs, power] at near
  have less := lt_of_mul_zpow_lt near
  omega

/-- Integers up to `2 ^ 53` are representable. -/
theorem representable_intCast {n : ℤ} (small : |n| ≤ 2 ^ 53) : Representable n := by
  have whole : (n : ℚ) = n * 2 ^ (0 : ℤ) := by rw [zpow_zero, mul_one]
  rw [whole]
  refine representable_of_le small (by norm_num) ?_
  have top := two_zpow_eq (show (1024 : ℤ) = 0 + (1024 : ℕ) by norm_num)
  have bound : |n| < 2 ^ 1024 := by
    have large : (2 : ℤ) ^ 53 < 2 ^ 1024 := by gcongr <;> norm_num
    omega
  rw [top, abs_mul, abs_of_pos (two_zpow_pos 0), ← Int.cast_abs]
  have cast : ((|n| : ℤ) : ℚ) < ((2 ^ 1024 : ℤ) : ℚ) := by exact_mod_cast bound
  have positive := two_zpow_pos 0
  gcongr

-----------------------------------------------------------------------------------------
-- Arithmetic
-----------------------------------------------------------------------------------------

theorem Representable.abs {q : ℚ} (known : Representable q) : Representable |q| := by
  obtain ⟨m, k, rfl, bits, low, high⟩ := known
  refine ⟨|m|, k, ?_, by rwa [abs_abs], low, high⟩
  rw [abs_mul, abs_of_pos (two_zpow_pos k), Int.cast_abs]

namespace Double

/-- `fabs` -/
def abs : Double → Double
  | finite value => finite ⟨|value.1|, value.2.abs⟩
  | infinite _ => infinite false
  | nan => nan

def sub : Double → Double → Double
  | finite a, finite b => ofRat (a - b)
  | infinite negative, finite _ => infinite negative
  | finite _, infinite negative => infinite !negative
  | infinite negative, infinite negative' =>
      if negative = negative' then nan else infinite negative
  | _, _ => nan

def mul : Double → Double → Double
  | finite a, finite b => ofRat (a * b)
  | infinite negative, finite b => if b.1 = 0 then nan else infinite (negative ^^ (b.1 < 0))
  | finite a, infinite negative => if a.1 = 0 then nan else infinite (negative ^^ (a.1 < 0))
  | infinite negative, infinite negative' => infinite (negative ^^ negative')
  | _, _ => nan

/-- `a < b`; no comparison with what is no number holds. -/
def lt : Double → Double → Bool
  | finite a, finite b => a.1 < b.1
  | infinite negative, finite _ => negative
  | finite _, infinite negative => !negative
  | infinite negative, infinite negative' => negative && !negative'
  | _, _ => false

def le : Double → Double → Bool
  | finite a, finite b => a.1 ≤ b.1
  | infinite negative, finite _ => negative
  | finite _, infinite negative => !negative
  | infinite negative, infinite negative' => negative || !negative'
  | _, _ => false

end Double

end Doubles
