import Mathlib.Data.Rat.Defs
import Mathlib.Tactic.Linarith

/-! `iperf_time.c`: seconds and microseconds in two 32-bit words. -/

namespace Iperf

/-- `struct iperf_time`. -/
structure IperfTime where
  secs : UInt32
  usecs : UInt32
deriving DecidableEq, Repr

/-- The microseconds word is below one second, as every clock reading has it. -/
def IperfTime.Normalised (time : IperfTime) : Prop := time.usecs.toNat < 1000000

/-- Add microseconds; the sum is a `uint64_t`, its seconds are added to a 32-bit word. -/
def iperfTimeAddUsecs (time : IperfTime) (usecs : UInt64) : IperfTime :=
  let total := time.usecs.toUInt64 + usecs
  { secs := time.secs + (total / 1000000).toUInt32, usecs := (total % 1000000).toUInt32 }

/-- Whatever is added, the microseconds word ends below one second. -/
theorem iperfTimeAddUsecs_normalised (time : IperfTime) (usecs : UInt64)
    : (iperfTimeAddUsecs time usecs).Normalised := by
  have bound : ((time.usecs.toUInt64 + usecs) % 1000000).toNat < 1000000 := by
    rw [UInt64.toNat_mod]
    exact Nat.mod_lt _ (by decide)
  have word : ((time.usecs.toUInt64 + usecs) % 1000000).toUInt32.toNat
      = ((time.usecs.toUInt64 + usecs) % 1000000).toNat := by
    rw [UInt64.toNat_toUInt32]
    exact Nat.mod_eq_of_lt (bound.trans (by decide))
  exact word.trans_lt bound

/-- The product is computed in 64 bits, where `2 ^ 32 * 10 ^ 6` fits. -/
def iperfTimeInUsecs (time : IperfTime) : Nat :=
  time.secs.toNat * 1000000 + time.usecs.toNat

/-- Exact seconds, in place of the source's `double`. -/
def iperfTimeInSecs (time : IperfTime) : ℚ :=
  time.secs.toNat + time.usecs.toNat / 1000000

/-- `-1`, `0` or `1` as the first time is earlier, equal or later. -/
def iperfTimeCompare (time1 time2 : IperfTime) : Int :=
  if time1.secs < time2.secs then -1
  else if time1.secs > time2.secs then 1
  else if time1.usecs < time2.usecs then -1
  else if time1.usecs > time2.usecs then 1
  else 0

/-- The subtraction both branches of `iperf_time_diff` perform, with its borrow. -/
def iperfTimeBorrow (later earlier : IperfTime) : IperfTime :=
  if later.usecs < earlier.usecs then
    {
      secs := later.secs - earlier.secs - 1,
      usecs := later.usecs + 1000000 - earlier.usecs
    }
  else
    { secs := later.secs - earlier.secs, usecs := later.usecs - earlier.usecs }

/-- The difference, and whether `time1` was not later than `time2`. -/
def iperfTimeDiff (time1 time2 : IperfTime) : Bool × IperfTime :=
  if iperfTimeCompare time1 time2 = 0 then (true, { secs := 0, usecs := 0 })
  else if iperfTimeCompare time1 time2 = 1 then (false, iperfTimeBorrow time1 time2)
  else (true, iperfTimeBorrow time2 time1)

-----------------------------------------------------------------------------------------
-- The order of times
-----------------------------------------------------------------------------------------

/-- The two words as one number. -/
def IperfTime.rank (time : IperfTime) : Nat := time.secs.toNat * 2 ^ 32 + time.usecs.toNat

theorem IperfTime.rank_injective : Function.Injective IperfTime.rank := by
  rintro ⟨secs1, usecs1⟩ ⟨secs2, usecs2⟩ same
  have bound1 := usecs1.toNat_lt
  have bound2 := usecs2.toNat_lt
  simp only [rank] at same
  have secs : secs1 = secs2 := UInt32.toNat_inj.mp (by omega)
  have usecs : usecs1 = usecs2 := UInt32.toNat_inj.mp (by omega)
  rw [secs, usecs]

instance : LinearOrder IperfTime := LinearOrder.lift' IperfTime.rank IperfTime.rank_injective

theorem IperfTime.lt_iff_rank {time1 time2 : IperfTime}
    : time1 < time2 ↔ time1.rank < time2.rank := Iff.rfl

/-- The order is the one of `iperf_time_compare`. -/
theorem iperfTimeCompare_neg {time1 time2 : IperfTime}
    : iperfTimeCompare time1 time2 < 0 ↔ time1 < time2 := by
  have bound1 := time1.usecs.toNat_lt
  have bound2 := time2.usecs.toNat_lt
  rw [IperfTime.lt_iff_rank]
  simp only [iperfTimeCompare, IperfTime.rank, UInt32.lt_iff_toNat_lt, gt_iff_lt]
  split_ifs <;> omega

theorem iperfTimeCompare_pos {time1 time2 : IperfTime}
    : 0 < iperfTimeCompare time1 time2 ↔ time2 < time1 := by
  have bound1 := time1.usecs.toNat_lt
  have bound2 := time2.usecs.toNat_lt
  rw [IperfTime.lt_iff_rank]
  simp only [iperfTimeCompare, IperfTime.rank, UInt32.lt_iff_toNat_lt, gt_iff_lt]
  split_ifs <;> omega

-----------------------------------------------------------------------------------------
-- Whole seconds
-----------------------------------------------------------------------------------------

/-- A whole number of seconds later, with the wrap of the seconds word. -/
def IperfTime.plusSecs (time : IperfTime) (count : Nat) : IperfTime :=
  { time with secs := time.secs + UInt32.ofNat count }

theorem IperfTime.plusSecs_plusSecs (time : IperfTime) (count more : Nat)
    : (time.plusSecs count).plusSecs more = time.plusSecs (count + more) := by
  unfold plusSecs
  dsimp only
  rw [UInt32.ofNat_add, UInt32.add_assoc]

theorem IperfTime.plusSecs_secs {time : IperfTime} {count : Nat}
    (fits : time.secs.toNat + count < 2 ^ 32)
    : (time.plusSecs count).secs.toNat = time.secs.toNat + count := by
  have small : count < 2 ^ 32 := by omega
  have word : (UInt32.ofNat count).toNat = count := UInt32.toNat_ofNat_of_lt small
  unfold plusSecs
  rw [UInt32.toNat_add, word]
  exact Nat.mod_eq_of_lt fits

theorem IperfTime.plusSecs_lt {time : IperfTime} {count other : Nat}
    (fits : time.secs.toNat + count < 2 ^ 32) (fitsOther : time.secs.toNat + other < 2 ^ 32)
    : time.plusSecs count < time.plusSecs other ↔ count < other := by
  have usecs : (time.plusSecs count).usecs = (time.plusSecs other).usecs := rfl
  have bound := (time.plusSecs other).usecs.toNat_lt
  rw [IperfTime.lt_iff_rank]
  unfold IperfTime.rank
  rw [plusSecs_secs fits, plusSecs_secs fitsOther, usecs]
  omega

/-- The microseconds word stays when whole seconds are added. -/
theorem iperfTimeAddUsecs_plusSecs {time : IperfTime} (normal : time.Normalised) {usecs : UInt64}
    {count : Nat} (whole : usecs.toNat = count * 1000000) (fits : count < 2 ^ 32)
    : iperfTimeAddUsecs time usecs = time.plusSecs count := by
  have small : (time.usecs.toUInt64 + usecs).toNat
      = (time.usecs.toNat + count * 1000000) % 2 ^ 64 := by
    rw [UInt64.toNat_add, UInt32.toNat_toUInt64, whole]
  simp only [IperfTime.Normalised] at normal
  have total : (time.usecs.toUInt64 + usecs).toNat = time.usecs.toNat + count * 1000000 := by
    omega
  have secs : ((time.usecs.toUInt64 + usecs) / 1000000).toUInt32 = UInt32.ofNat count := by
    refine UInt32.toNat_inj.mp ?_
    rw [UInt64.toNat_toUInt32, UInt64.toNat_div, total, UInt32.toNat_ofNat']
    simp only [UInt64.reduceToNat]
    congr 1
    omega
  have word : ((time.usecs.toUInt64 + usecs) % 1000000).toUInt32 = time.usecs := by
    refine UInt32.toNat_inj.mp ?_
    rw [UInt64.toNat_toUInt32, UInt64.toNat_mod, total]
    simp only [UInt64.reduceToNat]
    omega
  unfold iperfTimeAddUsecs IperfTime.plusSecs
  dsimp only
  rw [secs, word]

-----------------------------------------------------------------------------------------
-- Exactness on normalised times
-----------------------------------------------------------------------------------------

variable {time1 time2 : IperfTime}

/-- On normalised times the comparison is that of the microsecond counts. -/
theorem iperfTimeCompare_eq (normal1 : time1.Normalised) (normal2 : time2.Normalised)
    : iperfTimeCompare time1 time2
      = if iperfTimeInUsecs time1 < iperfTimeInUsecs time2 then -1
        else if iperfTimeInUsecs time1 = iperfTimeInUsecs time2 then 0
        else 1 := by
  simp only [IperfTime.Normalised] at normal1 normal2
  simp only [iperfTimeCompare, iperfTimeInUsecs, UInt32.lt_iff_toNat_lt, gt_iff_lt]
  split_ifs <;> first | rfl | omega

/-- The product and the sum of `iperf_time_in_usecs`, in 64 bits. -/
theorem iperfTimeInUsecs_word (time : IperfTime)
    : (time.secs.toUInt64 * 1000000 + time.usecs.toUInt64).toNat = iperfTimeInUsecs time
      ∧ iperfTimeInUsecs time < 2 ^ 63 := by
  have secs := time.secs.toNat_lt
  have usecs := time.usecs.toNat_lt
  simp only [iperfTimeInUsecs]
  refine ⟨?_, by omega⟩
  rw [UInt64.toNat_add, UInt64.toNat_mul, UInt32.toNat_toUInt64, UInt32.toNat_toUInt64]
  simp only [UInt64.reduceToNat]
  omega

/-- No step of `iperf_time_add_usecs` leaves its word. -/
def IperfTimeAddUsecsFits (time : IperfTime) (usecs : UInt64) : Prop :=
  let total := time.usecs.toUInt64 + usecs
  total.toNat = time.usecs.toNat + usecs.toNat
    ∧ (total / 1000000).toUInt32.toNat = total.toNat / 1000000
    ∧ (time.secs + (total / 1000000).toUInt32).toNat = time.secs.toNat + total.toNat / 1000000
    ∧ (total % 1000000).toUInt32.toNat = total.toNat % 1000000

theorem iperfTimeAddUsecs_fits {time : IperfTime} {usecs : UInt64} (normal : time.Normalised)
    (fits : iperfTimeInUsecs time + usecs.toNat < 2 ^ 32 * 1000000)
    : IperfTimeAddUsecsFits time usecs := by
  simp only [IperfTime.Normalised, iperfTimeInUsecs] at normal fits
  have total : (time.usecs.toUInt64 + usecs).toNat = time.usecs.toNat + usecs.toNat := by
    rw [UInt64.toNat_add, UInt32.toNat_toUInt64]
    omega
  have carry : ((time.usecs.toUInt64 + usecs) / 1000000).toUInt32.toNat
      = (time.usecs.toUInt64 + usecs).toNat / 1000000 := by
    rw [UInt64.toNat_toUInt32, UInt64.toNat_div, total]
    simp only [UInt64.reduceToNat]
    omega
  refine ⟨total, carry, ?_, ?_⟩
  · rw [UInt32.toNat_add, carry, total]
    omega
  · rw [UInt64.toNat_toUInt32, UInt64.toNat_mod]
    simp only [UInt64.reduceToNat]
    omega

/-- The sum is exact while its seconds fit into their word. -/
theorem iperfTimeAddUsecs_inUsecs {time : IperfTime} {usecs : UInt64} (normal : time.Normalised)
    (fits : iperfTimeInUsecs time + usecs.toNat < 2 ^ 32 * 1000000)
    : iperfTimeInUsecs (iperfTimeAddUsecs time usecs) = iperfTimeInUsecs time + usecs.toNat := by
  obtain ⟨total, _, secs, word⟩ := iperfTimeAddUsecs_fits normal fits
  simp only [iperfTimeInUsecs, iperfTimeAddUsecs]
  rw [secs, word, total]
  omega

/-- On normalised times the order is that of the microsecond counts. -/
theorem IperfTime.le_iff_inUsecs (normal1 : time1.Normalised) (normal2 : time2.Normalised)
    : time1 ≤ time2 ↔ iperfTimeInUsecs time1 ≤ iperfTimeInUsecs time2 := by
  have rank : time1 ≤ time2 ↔ time1.rank ≤ time2.rank := Iff.rfl
  rw [rank]
  simp only [IperfTime.Normalised] at normal1 normal2
  simp only [IperfTime.rank, iperfTimeInUsecs]
  omega

theorem IperfTime.lt_iff_inUsecs (normal1 : time1.Normalised) (normal2 : time2.Normalised)
    : time1 < time2 ↔ iperfTimeInUsecs time1 < iperfTimeInUsecs time2 := by
  rw [lt_iff_not_ge, IperfTime.le_iff_inUsecs normal2 normal1, not_le]

/-- No step of the borrowing subtraction leaves its word. -/
def IperfTimeBorrowFits (later earlier : IperfTime) : Prop :=
  (later.secs - earlier.secs).toNat = (later.secs.toNat - earlier.secs.toNat : Int)
    ∧ (later.usecs < earlier.usecs
      → (later.secs - earlier.secs - 1).toNat = (later.secs.toNat - earlier.secs.toNat - 1 : Int)
        ∧ (later.usecs + 1000000).toNat = later.usecs.toNat + 1000000
        ∧ (later.usecs + 1000000 - earlier.usecs).toNat
          = (later.usecs.toNat + 1000000 - earlier.usecs.toNat : Int))
    ∧ (¬ later.usecs < earlier.usecs
      → (later.usecs - earlier.usecs).toNat = (later.usecs.toNat - earlier.usecs.toNat : Int))

theorem iperfTimeBorrow_fits {later earlier : IperfTime}
    (normalLater : later.Normalised) (normalEarlier : earlier.Normalised)
    (order : iperfTimeInUsecs earlier ≤ iperfTimeInUsecs later)
    : IperfTimeBorrowFits later earlier := by
  have bound1 := later.secs.toNat_lt
  have bound2 := earlier.secs.toNat_lt
  simp only [IperfTime.Normalised, iperfTimeInUsecs] at normalLater normalEarlier order
  have secs : (later.secs - earlier.secs).toNat = later.secs.toNat - earlier.secs.toNat := by
    rw [UInt32.toNat_sub]
    omega
  simp only [IperfTimeBorrowFits, UInt32.lt_iff_toNat_lt]
  refine ⟨by omega, fun less => ?_, fun notLess => ?_⟩
  · -- a borrow: the seconds differ by at least one
    have raised : (later.usecs + 1000000).toNat = later.usecs.toNat + 1000000 := by
      rw [UInt32.toNat_add]
      simp only [UInt32.toNat_ofNat]
      omega
    refine ⟨?_, raised, ?_⟩
    · rw [UInt32.toNat_sub, secs]
      simp only [UInt32.toNat_ofNat]
      omega
    · rw [UInt32.toNat_sub, raised]
      omega
  · rw [UInt32.toNat_sub]
    omega

/-- The borrowing subtraction is exact when the first time is not earlier. -/
theorem iperfTimeBorrow_inUsecs {later earlier : IperfTime}
    (normalLater : later.Normalised) (normalEarlier : earlier.Normalised)
    (order : iperfTimeInUsecs earlier ≤ iperfTimeInUsecs later)
    : (iperfTimeBorrow later earlier).Normalised
      ∧ iperfTimeInUsecs (iperfTimeBorrow later earlier)
        = iperfTimeInUsecs later - iperfTimeInUsecs earlier := by
  obtain ⟨secs, borrows, plain⟩ := iperfTimeBorrow_fits normalLater normalEarlier order
  simp only [IperfTime.Normalised, iperfTimeInUsecs] at *
  unfold iperfTimeBorrow
  split_ifs with less
  · obtain ⟨secs, _, usecs⟩ := borrows less
    rw [UInt32.lt_iff_toNat_lt] at less
    dsimp only
    omega
  · have usecs := plain less
    rw [UInt32.lt_iff_toNat_lt] at less
    dsimp only
    omega

/-- `iperf_time_diff` reports a strictly later first time together with the exact distance.
-/
theorem iperfTimeDiff_later (normal1 : time1.Normalised) (normal2 : time2.Normalised)
    : (iperfTimeDiff time1 time2).1 = false
      ↔ iperfTimeInUsecs time2 < iperfTimeInUsecs time1 := by
  unfold iperfTimeDiff
  rw [iperfTimeCompare_eq normal1 normal2]
  split_ifs <;> simp_all <;> omega

/-- The difference is normalised and is the distance of the two times. -/
theorem iperfTimeDiff_distance (normal1 : time1.Normalised) (normal2 : time2.Normalised)
    : (iperfTimeDiff time1 time2).2.Normalised
      ∧ (iperfTimeInUsecs (iperfTimeDiff time1 time2).2 : Int)
        = |(iperfTimeInUsecs time1 : Int) - iperfTimeInUsecs time2| := by
  rcases lt_trichotomy (iperfTimeInUsecs time1) (iperfTimeInUsecs time2) with
    earlier | same | later
  · have compared : iperfTimeCompare time1 time2 = -1 := by
      rw [iperfTimeCompare_eq normal1 normal2, if_pos earlier]
    obtain ⟨normal, exact⟩ := iperfTimeBorrow_inUsecs normal2 normal1 earlier.le
    rw [abs_of_neg (by omega)]
    simp only [iperfTimeDiff, compared, Int.reduceNeg, Int.reduceEq, if_false]
    exact ⟨normal, by omega⟩
  · have compared : iperfTimeCompare time1 time2 = 0 := by
      rw [iperfTimeCompare_eq normal1 normal2, if_neg (by omega), if_pos same]
    simp only [iperfTimeDiff, compared, if_true, same, sub_self, abs_zero]
    exact ⟨by simp [IperfTime.Normalised], by simp [iperfTimeInUsecs]⟩
  · have compared : iperfTimeCompare time1 time2 = 1 := by
      rw [iperfTimeCompare_eq normal1 normal2, if_neg (by omega), if_neg (by omega)]
    obtain ⟨normal, exact⟩ := iperfTimeBorrow_inUsecs normal1 normal2 later.le
    rw [abs_of_pos (by omega)]
    simp only [iperfTimeDiff, compared, one_ne_zero, if_false, if_true]
    exact ⟨normal, by omega⟩

theorem iperfTimeDiff_inUsecs (normal1 : time1.Normalised) (normal2 : time2.Normalised)
    (later : iperfTimeInUsecs time2 < iperfTimeInUsecs time1)
    : iperfTimeInUsecs (iperfTimeDiff time1 time2).2
      = iperfTimeInUsecs time1 - iperfTimeInUsecs time2 := by
  have distance := (iperfTimeDiff_distance normal1 normal2).2
  rw [abs_of_pos (by omega)] at distance
  omega

/-- The distance is the same when the first time is the earlier one. -/
theorem iperfTimeDiff_inUsecs_earlier (normal1 : time1.Normalised) (normal2 : time2.Normalised)
    (earlier : iperfTimeInUsecs time1 < iperfTimeInUsecs time2)
    : iperfTimeInUsecs (iperfTimeDiff time1 time2).2
      = iperfTimeInUsecs time2 - iperfTimeInUsecs time1 := by
  have distance := (iperfTimeDiff_distance normal1 normal2).2
  rw [abs_of_neg (by omega)] at distance
  omega

/-- Whichever time is later, no step of `iperf_time_diff` leaves its word. -/
def IperfTimeDiffFits (time1 time2 : IperfTime) : Prop :=
  (iperfTimeCompare time1 time2 = 1 → IperfTimeBorrowFits time1 time2)
    ∧ (iperfTimeCompare time1 time2 = -1 → IperfTimeBorrowFits time2 time1)

theorem iperfTimeDiff_fits (normal1 : time1.Normalised) (normal2 : time2.Normalised)
    : IperfTimeDiffFits time1 time2 := by
  have compared := iperfTimeCompare_eq normal1 normal2
  constructor
  · intro later
    refine iperfTimeBorrow_fits normal1 normal2 ?_
    by_contra earlier
    rw [if_pos (by omega), later] at compared
    exact absurd compared (by decide)
  · intro earlier
    refine iperfTimeBorrow_fits normal2 normal1 ?_
    by_contra later
    rw [if_neg (by omega), if_neg (by omega), earlier] at compared
    exact absurd compared (by decide)

/-- The arithmetic of times is exact: the comparison, the sum while its seconds fit, the
difference with its flag, and the difference that takes a sum back; and no word wraps on the way.
-/
theorem iperfTime_arithmetic_exact {usecs : UInt64}
    (normal1 : time1.Normalised) (normal2 : time2.Normalised)
    (fits : iperfTimeInUsecs time1 + usecs.toNat < 2 ^ 32 * 1000000)
    : (iperfTimeCompare time1 time2
        = if iperfTimeInUsecs time1 < iperfTimeInUsecs time2 then -1
          else if iperfTimeInUsecs time1 = iperfTimeInUsecs time2 then 0
          else 1)
      ∧ ((iperfTimeAddUsecs time1 usecs).Normalised
        ∧ iperfTimeInUsecs (iperfTimeAddUsecs time1 usecs)
          = iperfTimeInUsecs time1 + usecs.toNat)
      ∧ ((iperfTimeDiff time1 time2).2.Normalised
        ∧ (iperfTimeInUsecs (iperfTimeDiff time1 time2).2 : Int)
          = |(iperfTimeInUsecs time1 : Int) - iperfTimeInUsecs time2|
        ∧ ((iperfTimeDiff time1 time2).1 = true
          ↔ iperfTimeInUsecs time1 ≤ iperfTimeInUsecs time2))
      ∧ iperfTimeInUsecs (iperfTimeDiff (iperfTimeAddUsecs time1 usecs) time1).2 = usecs.toNat
      ∧ ((time1.secs.toUInt64 * 1000000 + time1.usecs.toUInt64).toNat = iperfTimeInUsecs time1
        ∧ IperfTimeAddUsecsFits time1 usecs
        ∧ IperfTimeDiffFits time1 time2
        ∧ IperfTimeDiffFits (iperfTimeAddUsecs time1 usecs) time1) := by
  have normalSum := iperfTimeAddUsecs_normalised time1 usecs
  have sum := iperfTimeAddUsecs_inUsecs normal1 fits
  obtain ⟨normalDiff, distance⟩ := iperfTimeDiff_distance normal1 normal2
  have flag : (iperfTimeDiff time1 time2).1 = true
      ↔ iperfTimeInUsecs time1 ≤ iperfTimeInUsecs time2 := by
    rw [← not_iff_not, Bool.not_eq_true, iperfTimeDiff_later normal1 normal2, not_le]
  have taken := (iperfTimeDiff_distance normalSum normal1).2
  rw [abs_of_nonneg (by omega)] at taken
  exact ⟨iperfTimeCompare_eq normal1 normal2, ⟨normalSum, sum⟩,
    ⟨normalDiff, distance, flag⟩, by omega,
    (iperfTimeInUsecs_word time1).1, iperfTimeAddUsecs_fits normal1 fits,
    iperfTimeDiff_fits normal1 normal2, iperfTimeDiff_fits normalSum normal1⟩

/-- A carry into the seconds, and a difference that borrows. -/
theorem iperfTime_arithmetic_sample
    : iperfTimeInUsecs (iperfTimeDiff
        (iperfTimeAddUsecs { secs := 4294967294, usecs := 999999 } 999999)
        { secs := 4294967294, usecs := 999999 }).2 = (999999 : UInt64).toNat := by
  have normal1 : IperfTime.Normalised { secs := 4294967294, usecs := 999999 } := by
    simp [IperfTime.Normalised]
  have normal2 : IperfTime.Normalised { secs := 7, usecs := 0 } := by
    simp [IperfTime.Normalised]
  have fits : iperfTimeInUsecs { secs := 4294967294, usecs := 999999 }
      + (999999 : UInt64).toNat < 2 ^ 32 * 1000000 := by
    simp [iperfTimeInUsecs]
  exact (iperfTime_arithmetic_exact normal1 normal2 fits).2.2.2.1

theorem iperfTimeInSecs_eq (time : IperfTime)
    : iperfTimeInSecs time = iperfTimeInUsecs time / 1000000 := by
  rw [iperfTimeInSecs, iperfTimeInUsecs]
  push_cast
  linarith

end Iperf
