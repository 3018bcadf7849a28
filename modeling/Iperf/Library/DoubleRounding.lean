import Mathlib.Algebra.Order.Field.Power
import Mathlib.Data.Int.Log
import Mathlib.Data.Rat.Floor
import Mathlib.Tactic.FieldSimp
import Mathlib.Tactic.Linarith
import Mathlib.Tactic.Positivity
import Mathlib.Tactic.Ring

/-! Rounding a non-negative number to 53 significant bits, ties to even. Exponents are not
bounded.
-/

namespace DoubleRounding

/-- The nearest integer, ties to even. -/
def roundEven (x : ℚ) : Int :=
  let low := ⌊x⌋
  if 2 * (x - low) < 1 ∨ (2 * (x - low) = 1 ∧ low % 2 = 0) then low else low + 1

theorem roundEven_intCast (n : Int) : roundEven n = n := by simp [roundEven]

theorem abs_roundEven_sub_le (x : ℚ) : |(roundEven x : ℚ) - x| ≤ 1 / 2 := by
  have low := Int.floor_le x
  have high := Int.lt_floor_add_one x
  rw [abs_le]
  unfold roundEven
  dsimp only
  split_ifs with down
  · rcases down with less | ⟨tie, -⟩ <;> constructor <;> linarith
  · push Not at down
    push_cast
    constructor <;> linarith [down.1]

/-- An integer that is nearer than one half is the rounded one. -/
theorem roundEven_eq {x : ℚ} {n : ℤ} (near : |x - n| < 1 / 2) : roundEven x = n := by
  obtain ⟨below, above⟩ := abs_lt.mp near
  obtain ⟨low, high⟩ := abs_le.mp (abs_roundEven_sub_le x)
  have less : (roundEven x : ℚ) < n + 1 := by linarith
  have more : (n : ℚ) < roundEven x + 1 := by linarith
  have less' : roundEven x < n + 1 := by exact_mod_cast less
  have more' : n < roundEven x + 1 := by exact_mod_cast more
  omega

/-- Rounding does not cross an integer. -/
theorem le_roundEven {x : ℚ} {n : ℤ} (above : (n : ℚ) ≤ x) : n ≤ roundEven x := by
  obtain ⟨low, -⟩ := abs_le.mp (abs_roundEven_sub_le x)
  have more : (n : ℚ) < roundEven x + 1 := by linarith
  have more' : n < roundEven x + 1 := by exact_mod_cast more
  omega

theorem roundEven_le {x : ℚ} {n : ℤ} (below : x ≤ n) : roundEven x ≤ n := by
  obtain ⟨-, high⟩ := abs_le.mp (abs_roundEven_sub_le x)
  have less : (roundEven x : ℚ) < n + 1 := by linarith
  have less' : roundEven x < n + 1 := by exact_mod_cast less
  omega

/-- The nearest number with 53 significant bits. -/
def nearest (q : ℚ) : ℚ :=
  if q ≤ 0 then 0
  else
    let unit : ℚ := 2 ^ (Int.log 2 q - 52)
    roundEven (q / unit) * unit

theorem lead_le {q : ℚ} (positive : 0 < q) : (2 : ℚ) ^ Int.log 2 q ≤ q := by
  exact_mod_cast Int.zpow_log_le_self (b := 2) (by norm_num) positive

/-- The last bit of a number is small against the number. -/
theorem unit_le {q : ℚ} (positive : 0 < q) : (2 : ℚ) ^ (Int.log 2 q - 52) ≤ q / 2 ^ 52 := by
  rw [zpow_sub₀ (by norm_num)]
  have power : (2 : ℚ) ^ (52 : ℤ) = 2 ^ 52 := by norm_cast
  rw [power]
  gcongr
  exact lead_le positive

/-- Rounding moves a number by half of its last bit at most. -/
theorem abs_nearest_sub_le {q : ℚ} (positive : 0 < q) : |nearest q - q| ≤ q / 2 ^ 53 := by
  have unitPositive : (0 : ℚ) < 2 ^ (Int.log 2 q - 52) := by positivity
  have small := unit_le positive
  rw [nearest, if_neg (not_le.mpr positive)]
  dsimp only
  generalize (2 : ℚ) ^ (Int.log 2 q - 52) = unit at *
  have scaled : (roundEven (q / unit) : ℚ) * unit - q
      = (roundEven (q / unit) - q / unit) * unit := by
    field_simp
  rw [scaled, abs_mul, abs_of_pos unitPositive]
  calc |(roundEven (q / unit) : ℚ) - q / unit| * unit
      ≤ 1 / 2 * unit := by gcongr; exact abs_roundEven_sub_le _
    _ ≤ 1 / 2 * (q / 2 ^ 52) := by gcongr
    _ = q / 2 ^ 53 := by ring

/-- An integer of 53 bits times a power of two is kept. -/
theorem nearest_eq_self {q : ℚ} (n : ℕ) (k : ℤ) (value : q * 2 ^ k = n) (small : n < 2 ^ 53)
    : nearest q = q := by
  by_cases positive : 0 < q
  · have bits : Int.log 2 q + k < 53 := by
      have below : (2 : ℚ) ^ (Int.log 2 q + k) < 2 ^ (53 : ℤ) := by
        rw [zpow_add₀ (by norm_num)]
        calc (2 : ℚ) ^ Int.log 2 q * 2 ^ k
            ≤ q * 2 ^ k := by gcongr; exact lead_le positive
          _ = n := value
          _ < 2 ^ (53 : ℤ) := by exact_mod_cast small
      exact (zpow_lt_zpow_iff_right₀ (by norm_num)).mp below
    obtain ⟨places, same⟩ := Int.eq_ofNat_of_zero_le (show 0 ≤ 52 - (Int.log 2 q + k) by omega)
    have whole : q / 2 ^ (Int.log 2 q - 52) = ((n * 2 ^ places : Int) : ℚ) := by
      have exponent : k = -(Int.log 2 q - 52) - places := by omega
      push_cast
      rw [← value, exponent, zpow_sub₀ two_ne_zero (-(Int.log 2 q - 52)), zpow_neg, zpow_natCast]
      field_simp
    rw [nearest, if_neg (not_le.mpr positive)]
    dsimp only
    rw [whole, roundEven_intCast, ← whole]
    field_simp
  · have zero : q = 0 := by
      have powerPositive : (0 : ℚ) < 2 ^ k := by positivity
      by_contra nonzero
      have negative : q < 0 := lt_of_le_of_ne (not_lt.mp positive) nonzero
      have below : (n : ℚ) < 0 := value ▸ mul_neg_of_neg_of_pos negative powerPositive
      exact absurd below (not_lt.mpr n.cast_nonneg)
    rw [zero, nearest, if_pos le_rfl]

/-- The factors by which rounding may change a number. -/
theorem nearest_bounds {q : ℚ} (nonneg : 0 ≤ q)
    : q * (1 - 1 / 2 ^ 53) ≤ nearest q ∧ nearest q ≤ q * (1 + 1 / 2 ^ 53) := by
  rcases nonneg.eq_or_lt with rfl | positive
  · simp [nearest]
  · obtain ⟨below, above⟩ := abs_le.mp (abs_nearest_sub_le positive)
    constructor <;> linarith

theorem nearest_pos {q : ℚ} (positive : 0 < q) : 0 < nearest q := by
  obtain ⟨below, -⟩ := nearest_bounds positive.le
  linarith

theorem nearest_nonneg {q : ℚ} (nonneg : 0 ≤ q) : 0 ≤ nearest q := by
  obtain ⟨below, -⟩ := nearest_bounds nonneg
  linarith

/-- A quotient of which both numbers and the result are rounded. -/
theorem abs_nearest_div_sub_le {a b : ℚ} (nonneg : 0 ≤ a) (positive : 0 < b)
    : |nearest (nearest a / nearest b) - a / b| ≤ a / b / 2 ^ 51 := by
  obtain ⟨aLow, aHigh⟩ := nearest_bounds nonneg
  obtain ⟨bLow, bHigh⟩ := nearest_bounds positive.le
  have bPositive := nearest_pos positive
  have quotient : 0 ≤ nearest a / nearest b := div_nonneg (nearest_nonneg nonneg) bPositive.le
  obtain ⟨low, high⟩ := nearest_bounds quotient
  have exact_ : 0 ≤ a / b := div_nonneg nonneg positive.le
  have product : a = a / b * b := (div_mul_cancel₀ a positive.ne').symm
  generalize a / b = q at *
  have above : nearest a / nearest b ≤ q * (1 + 5 / 2 ^ 54) := by
    rw [div_le_iff₀ bPositive]
    calc nearest a ≤ q * b * (1 + 1 / 2 ^ 53) := by rw [← product]; exact aHigh
      _ ≤ q * (1 + 5 / 2 ^ 54) * (b * (1 - 1 / 2 ^ 53)) := by
        have scale : 0 ≤ q * b := mul_nonneg exact_ positive.le
        nlinarith
      _ ≤ q * (1 + 5 / 2 ^ 54) * nearest b := by gcongr
  have below : q * (1 - 2 / 2 ^ 53) ≤ nearest a / nearest b := by
    rw [le_div_iff₀ bPositive]
    calc q * (1 - 2 / 2 ^ 53) * nearest b
        ≤ q * (1 - 2 / 2 ^ 53) * (b * (1 + 1 / 2 ^ 53)) := by gcongr
      _ ≤ q * b * (1 - 1 / 2 ^ 53) := by
        have scale : 0 ≤ q * b := mul_nonneg exact_ positive.le
        nlinarith
      _ ≤ nearest a := by rw [← product]; exact aLow
  rw [abs_le]
  constructor
  · nlinarith
  · nlinarith

end DoubleRounding
