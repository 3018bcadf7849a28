import Iperf.Library.SlidingWindow
import Iperf.Model.Api
import Iperf.Parameters.Sessions
import Mathlib.Algebra.Order.Floor.Ring
import Mathlib.Algebra.Order.BigOperators.Group.List
import Mathlib.Tactic.Linarith
import Mathlib.Tactic.NormNum

/-! The server's bitrate limit: the ring of interval counts, and the average it is for. -/

namespace Iperf

open DoubleRounding SlidingWindow

-----------------------------------------------------------------------------------------
-- The ring
-----------------------------------------------------------------------------------------

/-- The number of intervals the limit averages over. -/
def ringLength (test : Test) : Nat := test.settings.bitrateLimitStatsPerInterval.toInt.toNat

theorem unsignedOfInt_toNat {n : Int32} (positive : 0 ≤ n.toInt)
    : (unsignedOfInt n).toNat = n.toInt.toNat := by
  have wide : (0 : Int64) ≤ n.toInt64 := by
    rw [Int64.le_iff_toInt_le, Int32.toInt_toInt64]
    exact positive
  rw [unsignedOfInt, Int64.toNat_toUInt64_of_le wide]
  exact congrArg Int.toNat (Int32.toInt_toInt64 n)

theorem toNat_sum (values : List UInt64)
    : values.sum.toNat = (values.map UInt64.toNat).sum % 2 ^ 64 := by
  induction values with
  | nil => rfl
  | cons value values ih =>
      rw [List.sum_cons, UInt64.toNat_add, ih, List.map_cons, List.sum_cons, Nat.add_mod_mod]

/-- The limiter looks at this test. -/
structure Limited (test : Test) : Prop where
  running : test.done = false
  limit : test.settings.bitrateLimit ≠ 0

/-- The index of the cell the next check writes. -/
def nextIndex (test : Test) : UInt64 :=
  if test.bitrateLimitLastIntervalIndex + 1
      ≥ unsignedOfInt test.settings.bitrateLimitStatsPerInterval then 0
  else test.bitrateLimitLastIntervalIndex + 1

/-- The next index is the one behind the last, and zero behind the end of the ring. -/
theorem nextIndex_toNat {test : Test}
    (positive : 0 ≤ test.settings.bitrateLimitStatsPerInterval.toInt)
    (small : test.bitrateLimitLastIntervalIndex.toNat < 2 ^ 32)
    : (nextIndex test).toNat
      = if ringLength test ≤ test.bitrateLimitLastIntervalIndex.toNat + 1 then 0
        else test.bitrateLimitLastIntervalIndex.toNat + 1 := by
  have next : (test.bitrateLimitLastIntervalIndex + 1).toNat
      = test.bitrateLimitLastIntervalIndex.toNat + 1 := by
    rw [UInt64.toNat_add, UInt64.toNat_one]
    exact Nat.mod_eq_of_lt (by omega)
  have compared : test.bitrateLimitLastIntervalIndex + 1
        ≥ unsignedOfInt test.settings.bitrateLimitStatsPerInterval
      ↔ ringLength test ≤ test.bitrateLimitLastIntervalIndex.toNat + 1 := by
    rw [ge_iff_le, UInt64.le_iff_toNat_le, unsignedOfInt_toNat positive, next]
    rfl
  unfold nextIndex
  simp only [compared]
  split
  · rfl
  · exact next

theorem ringLength_lt (test : Test) : ringLength test < 2 ^ 31 := by
  have bound := test.settings.bitrateLimitStatsPerInterval.toInt_lt
  unfold ringLength
  omega

/-- What was counted long enough to be averaged, once `count` intervals are. -/
def averages (test : Test) (count : UInt64) : Prop :=
  unsignedOfInt test.settings.bitrateLimitStatsPerInterval ≤ count

/-- The rate of the intervals in the ring. -/
def ringRate (test : Test) (ring : List UInt64) : UInt64 :=
  sizeOfDouble (nearest (nearest ((ring.take (ringLength test)).sum * 8).toNat
    / nearest (test.statsInterval * test.settings.bitrateLimitStatsPerInterval.toInt)))

/-- One check of a limited test. -/
structure RateChecked (test : Test) (bytes : UInt64) (after : Test) : Prop where
  settings : after.settings = test.settings
  interval : after.statsInterval = test.statsInterval
  done : after.done = test.done
  index : after.bitrateLimitLastIntervalIndex = nextIndex test
  ring : after.bitrateLimitIntervalsTrafficBytes
    = test.bitrateLimitIntervalsTrafficBytes.set (nextIndex test).toNat bytes
  count : after.bitrateLimitStatsCount = test.bitrateLimitStatsCount + 1
  exceeded : after.bitrateLimitExceeded = true
    ↔ test.bitrateLimitExceeded = true
      ∨ averages test after.bitrateLimitStatsCount
        ∧ test.settings.bitrateLimit < ringRate test after.bitrateLimitIntervalsTrafficBytes

/-- The counters of a check, before the average is looked at. -/
def counted (test : Test) (bytes : UInt64) : Test :=
  {
    test with
    bitrateLimitLastIntervalIndex := nextIndex test
    bitrateLimitIntervalsTrafficBytes :=
      test.bitrateLimitIntervalsTrafficBytes.set (nextIndex test).toNat bytes
    bitrateLimitStatsCount := test.bitrateLimitStatsCount + 1
  }

theorem iperfCheckTotalRate_limited {test : Test} (limited : Limited test) (bytes : UInt64)
    : iperfCheckTotalRate test bytes
      = if (counted test bytes).bitrateLimitStatsCount
            < unsignedOfInt test.settings.bitrateLimitStatsPerInterval then
          counted test bytes
        else if test.settings.bitrateLimit
            < ringRate test (counted test bytes).bitrateLimitIntervalsTrafficBytes then
          { counted test bytes with bitrateLimitExceeded := true }
        else counted test bytes := by
  have looks : ¬ (test.done = true ∨ test.settings.bitrateLimit = 0) := by
    rintro (done | off)
    · exact absurd done (by simp [limited.running])
    · exact limited.limit off
  unfold iperfCheckTotalRate
  rw [if_neg looks]
  rfl

theorem iperfCheckTotalRate_checked {test : Test} (limited : Limited test) (bytes : UInt64)
    : RateChecked test bytes (iperfCheckTotalRate test bytes) := by
  have kept : (counted test bytes).bitrateLimitExceeded = test.bitrateLimitExceeded := rfl
  rw [iperfCheckTotalRate_limited limited]
  split
  · next early =>
      have short : ¬ averages test (counted test bytes).bitrateLimitStatsCount :=
        UInt64.not_le.mpr early
      exact ⟨rfl, rfl, rfl, rfl, rfl, rfl, by simp [short, kept]⟩
  · next late =>
      have average : averages test (counted test bytes).bitrateLimitStatsCount :=
        UInt64.not_lt.mp late
      split
      · next above => exact ⟨rfl, rfl, rfl, rfl, rfl, rfl, by simp [average, above]⟩
      · next below => exact ⟨rfl, rfl, rfl, rfl, rfl, rfl, by simp [below, kept]⟩

theorem Limited.checked {test after : Test} {bytes : UInt64} (limited : Limited test)
    (checked : RateChecked test bytes after)
    : Limited after :=
  ⟨checked.done.trans limited.running, checked.settings ▸ limited.limit⟩

-----------------------------------------------------------------------------------------
-- The average
-----------------------------------------------------------------------------------------

/-- The bytes of the last intervals of a history. -/
def windowBytes (length : Nat) (history : List UInt64) : Nat :=
  ((history.drop (history.length - length)).map UInt64.toNat).sum

/-- The average rate over them, in bits per second. -/
def windowAverage (length : Nat) (interval : ℚ) (history : List UInt64) : ℚ :=
  ((8 * windowBytes length history : Nat) : ℚ) / (length * interval)

/-- The average rate in `double`: the bits, the seconds and their quotient are rounded. -/
def doubleAverage (length : Nat) (interval : ℚ) (history : List UInt64) : ℚ :=
  nearest (nearest (8 * windowBytes length history : Nat) / nearest (length * interval))

/-- The roundings change the average rate by less than one in 2 * 10 ^ 15. -/
theorem abs_doubleAverage_sub_le {length : Nat} {interval : ℚ} (some_ : 0 < length)
    (positive : 0 < interval) (history : List UInt64)
    : |doubleAverage length interval history - windowAverage length interval history|
      ≤ windowAverage length interval history / 2 ^ 51 :=
  abs_nearest_div_sub_le (Nat.cast_nonneg _) (mul_pos (Nat.cast_pos.mpr some_) positive)

/-- The average over some window of the history, in `double` and as far as a 64-bit number can
tell, is above the limit. The number of intervals is counted in 64 bits, too.
-/
def Exceeds (test : Test) (history : List UInt64) : Prop :=
  ∃ j ≤ history.length,
    ringLength test ≤ j % 2 ^ 64
    ∧ test.settings.bitrateLimit.toNat
      < min (doubleAverage (ringLength test) test.statsInterval (history.take j)).floor.toNat
        (2 ^ 64 - 1)

/-- Eight times the bytes of every window fit in 64 bits. -/
def Fits (length : Nat) (history : List UInt64) : Prop :=
  ∀ j ≤ history.length, length ≤ j → 8 * windowBytes length (history.take j) < 2 ^ 64

/-- A configuration with a limit over at least one and at most sixty intervals. -/
structure Configured (test : Test) : Prop where
  limited : Limited test
  interval : 0 < test.statsInterval
  positive : 1 ≤ ringLength test
  fits : ringLength test ≤ 60

/-- The state of the limiter after a history. -/
structure Averaged (start : Test) (history : List UInt64) (test : Test) : Prop where
  settings : test.settings = start.settings
  interval : test.statsInterval = start.statsInterval
  limited : Limited test
  ring : ∃ cells, test.bitrateLimitIntervalsTrafficBytes
      = cells ++ List.replicate (60 - ringLength start) 0
    ∧ Holds 0 (ringLength start) cells history
  index : test.bitrateLimitLastIntervalIndex.toNat = history.length % ringLength start
  count : test.bitrateLimitStatsCount.toNat = history.length % 2 ^ 64
  exceeded : test.bitrateLimitExceeded = true ↔ Exceeds start history

theorem Averaged.ringLength {start test : Test} {history : List UInt64}
    (averaged : Averaged start history test)
    : Iperf.ringLength test = Iperf.ringLength start := by
  rw [Iperf.ringLength, averaged.settings, Iperf.ringLength]

/-- The number of intervals as the source compares it. -/
theorem Configured.intervals {test : Test} (configured : Configured test)
    : (unsignedOfInt test.settings.bitrateLimitStatsPerInterval).toNat = ringLength test := by
  have positive := configured.positive
  unfold ringLength at positive
  exact unsignedOfInt_toNat (by omega)

/-- The next cell in turn. -/
theorem Averaged.nextIndex {start test : Test} {history : List UInt64}
    (averaged : Averaged start history test) (configured : Configured start)
    : (Iperf.nextIndex test).toNat = (history.length + 1) % Iperf.ringLength start := by
  have positive := configured.positive
  have fits := configured.fits
  have inside := Nat.mod_lt history.length positive
  have index := averaged.index
  have known : 0 ≤ test.settings.bitrateLimitStatsPerInterval.toInt := by
    unfold Iperf.ringLength at positive
    rw [averaged.settings]
    omega
  rw [nextIndex_toNat known (by omega), averaged.ringLength, index, ← Nat.mod_add_mod]
  split
  · next last =>
      rw [show history.length % Iperf.ringLength start + 1 = Iperf.ringLength start by omega,
        Nat.mod_self]
  · next inner => exact (Nat.mod_eq_of_lt (by omega)).symm

theorem lt_sizeOfDouble {n : UInt64} {x : ℚ}
    : n < sizeOfDouble x ↔ n.toNat < min x.floor.toNat (2 ^ 64 - 1) := by
  rw [sizeOfDouble, UInt64.lt_iff_toNat_lt, UInt64.toNat_ofNat', Nat.mod_eq_of_lt (by omega)]

/-- The sum over a full ring, which the source takes in 64 bits, is that of the window. -/
theorem windowBits_eq {length : Nat} {cells history : List UInt64}
    (holds : Holds 0 length cells history) (long : length ≤ history.length)
    (fits : 8 * windowBytes length history < 2 ^ 64)
    : (cells.sum * 8).toNat = 8 * windowBytes length history := by
  have sameSum : (cells.map UInt64.toNat).sum = windowBytes length history := by
    rw [windowBytes, ← recent_of_le long]
    exact (holds.perm.map UInt64.toNat).sum_eq
  have eight : UInt64.toNat 8 = 8 := rfl
  rw [UInt64.toNat_mul, toNat_sum, sameSum, eight, Nat.mod_mul_mod, Nat.mod_eq_of_lt (by omega),
    Nat.mul_comm]

/-- A longer history has one more window. -/
theorem exceeds_concat {test : Test} {history : List UInt64} {bytes : UInt64}
    : Exceeds test (history ++ [bytes])
      ↔ Exceeds test history
        ∨ Iperf.ringLength test ≤ (history.length + 1) % 2 ^ 64
          ∧ test.settings.bitrateLimit.toNat
            < min (doubleAverage (Iperf.ringLength test) test.statsInterval
                (history ++ [bytes])).floor.toNat (2 ^ 64 - 1) := by
  have whole : (history ++ [bytes]).take (history.length + 1) = history ++ [bytes] :=
    List.take_of_length_le (by simp)
  constructor
  · rintro ⟨j, inside, counted, above⟩
    rw [List.length_append, List.length_singleton] at inside
    rcases Nat.lt_or_ge history.length j with last | earlier
    · obtain rfl : j = history.length + 1 := by omega
      exact .inr ⟨counted, whole ▸ above⟩
    · rw [List.take_append_of_le_length earlier] at above
      exact .inl ⟨j, earlier, counted, above⟩
  · rintro (⟨j, inside, counted, above⟩ | ⟨counted, above⟩)
    · refine ⟨j, by simp; omega, counted, ?_⟩
      rwa [List.take_append_of_le_length inside]
    · exact ⟨history.length + 1, by simp, counted, whole.symm ▸ above⟩

/-- One check slides the window. -/
theorem Averaged.step {start test after : Test} {history : List UInt64} {bytes : UInt64}
    (averaged : Averaged start history test) (configured : Configured start)
    (fits : Fits (Iperf.ringLength start) (history ++ [bytes]))
    (checked : RateChecked test bytes after)
    : Averaged start (history ++ [bytes]) after := by
  have positive := configured.positive
  have index := averaged.nextIndex configured
  obtain ⟨cells, ring, holds⟩ := averaged.ring
  have pushed : Holds 0 (Iperf.ringLength start)
      (cells.set ((history.length + 1) % Iperf.ringLength start) bytes) (history ++ [bytes]) :=
    holds.push positive
  have written : after.bitrateLimitIntervalsTrafficBytes
      = cells.set ((history.length + 1) % Iperf.ringLength start) bytes
        ++ List.replicate (60 - Iperf.ringLength start) 0 := by
    rw [checked.ring, index, ring, List.set_append_left _ _ (by
      rw [holds.length]
      exact Nat.mod_lt _ positive)]
  have count : after.bitrateLimitStatsCount.toNat = (history ++ [bytes]).length % 2 ^ 64 := by
    rw [checked.count, UInt64.toNat_add, averaged.count, UInt64.toNat_one, Nat.mod_add_mod,
      List.length_append, List.length_singleton]
  refine ⟨checked.settings.trans averaged.settings, checked.interval.trans averaged.interval,
    averaged.limited.checked checked, ⟨_, written, pushed⟩, ?_, count, ?_⟩
  · rw [checked.index, index, List.length_append, List.length_singleton]
  · have intervals : start.settings.bitrateLimitStatsPerInterval.toInt
        = (Iperf.ringLength start : Int) := by
      unfold Iperf.ringLength at positive ⊢
      omega
    have late : averages test after.bitrateLimitStatsCount
        ↔ Iperf.ringLength start ≤ (history.length + 1) % 2 ^ 64 := by
      rw [averages, UInt64.le_iff_toNat_le, averaged.settings, configured.intervals, count,
        List.length_append, List.length_singleton]
    rw [checked.exceeded, averaged.exceeded, exceeds_concat, late]
    refine or_congr_right (and_congr_right fun longEnough => ?_)
    have long : Iperf.ringLength start ≤ (history ++ [bytes]).length := by
      rw [List.length_append, List.length_singleton]
      exact longEnough.trans (Nat.mod_le _ _)
    have bits := windowBits_eq pushed long (by
      have last := fits _ (le_refl _) long
      rwa [List.take_length] at last)
    rw [ringRate, averaged.ringLength, averaged.interval, averaged.settings, written,
      List.take_left' pushed.length, bits, intervals, lt_sizeOfDouble, doubleAverage,
      mul_comm start.statsInterval]
    rfl

/-- A test with a reset limiter. -/
structure FreshLimit (test : Test) : Prop where
  count : test.bitrateLimitStatsCount = 0
  index : test.bitrateLimitLastIntervalIndex = 0
  exceeded : test.bitrateLimitExceeded = false
  ring : test.bitrateLimitIntervalsTrafficBytes = List.replicate 60 0
  running : test.done = false

/-- `iperf_reset_test` resets it. -/
theorem freshLimit_reset (test : Test) : FreshLimit (iperfResetTest test) := by
  simp only [iperfResetTest, setProtocol, checkSenderHasRetransmits_eq]
  exact ⟨rfl, rfl, rfl, rfl, rfl⟩

theorem FreshLimit.averaged {test : Test} (fresh : FreshLimit test)
    (configured : Configured test)
    : Averaged test [] test := by
  have fits := configured.fits
  refine ⟨rfl, rfl, configured.limited, ⟨List.replicate (ringLength test) 0, ?_, Holds.start⟩,
    by rw [fresh.index]; simp, by rw [fresh.count]; rfl, ?_⟩
  · rw [fresh.ring, ← List.replicate_add]
    congr 1
    omega
  · rw [fresh.exceeded]
    constructor
    · intro exceeded
      cases exceeded
    · rintro ⟨j, inside, counted, -⟩
      have positive := configured.positive
      obtain rfl : j = 0 := by simpa using inside
      omega

/-- The checks of a history keep the window. By induction on the history from its end. -/
theorem FreshLimit.averaged_after {test : Test} (fresh : FreshLimit test)
    (configured : Configured test) {history : List UInt64}
    (fits : Fits (ringLength test) history)
    : Averaged test history (history.foldl iperfCheckTotalRate test) := by
  induction history using List.reverseRecOn with
  | nil => exact fresh.averaged configured
  | append_singleton history bytes ih =>
      have fitsBefore : Fits (ringLength test) history := by
        intro j inside long
        have fit := fits j (by simp; omega) long
        rwa [List.take_append_of_le_length inside] at fit
      have before := ih fitsBefore
      rw [List.foldl_append, List.foldl_cons, List.foldl_nil]
      exact before.step configured fits (iperfCheckTotalRate_checked before.limited bytes)

/-- After any history of checks the ring holds the last intervals and zeros, and the limit is
exceeded exactly when the average over some window was above it. The average is computed in
`double`, which is close to the exact one, and cut to 64 bits; a window counts when the number of
intervals has not just wrapped.
-/
theorem bitrateLimit_averages {test : Test} {traffic : List UInt64} (fresh : FreshLimit test)
    (configured : Configured test) (fits : Fits (ringLength test) traffic)
    : ((traffic.foldl iperfCheckTotalRate test).bitrateLimitExceeded = true
        ↔ ∃ j ≤ traffic.length,
          ringLength test ≤ j % 2 ^ 64
          ∧ test.settings.bitrateLimit.toNat
            < min (doubleAverage (ringLength test) test.statsInterval (traffic.take j)).floor.toNat
              (2 ^ 64 - 1))
      ∧ (∀ j ≤ traffic.length,
        |doubleAverage (ringLength test) test.statsInterval (traffic.take j)
            - windowAverage (ringLength test) test.statsInterval (traffic.take j)|
          ≤ windowAverage (ringLength test) test.statsInterval (traffic.take j) / 2 ^ 51)
      ∧ (traffic.foldl iperfCheckTotalRate test).bitrateLimitIntervalsTrafficBytes.Perm
        (traffic.drop (traffic.length - ringLength test)
          ++ List.replicate (60 - min traffic.length (ringLength test)) 0) := by
  have averaged := fresh.averaged_after configured fits
  obtain ⟨cells, ring, holds⟩ := averaged.ring
  have small := configured.fits
  refine ⟨averaged.exceeded,
    fun j _ => abs_doubleAverage_sub_le configured.positive configured.interval _, ?_⟩
  rw [ring]
  rcases Nat.le_total (ringLength test) traffic.length with long | short
  · rw [Nat.min_eq_right long, ← @recent_of_le _ 0 _ _ long]
    exact holds.perm.append_right _
  · have zeros : 60 - traffic.length
        = (ringLength test - traffic.length) + (60 - ringLength test) := by omega
    rw [Nat.min_eq_left short, Nat.sub_eq_zero_of_le short, List.drop_zero, zeros,
      List.replicate_add, ← List.append_assoc]
    refine List.Perm.append_right _ (holds.perm.trans ?_)
    rw [recent_of_ge short]
    exact List.perm_append_comm

/-- A server that limits the rate over two intervals of a tenth of a second. -/
def twoTenthsLimit : Test :=
  iperfResetTest {
    statsInterval := 3602879701896397 / 2 ^ 55
    settings := { bitrateLimit := 399, bitrateLimitStatsPerInterval := 2 }
  }

/-- Witness: ten bytes in two tenths of a second, a window that is not the last one. -/
theorem bitrateLimit_averages_two_tenths
    : ([(5 : UInt64), 5, 0].foldl iperfCheckTotalRate twoTenthsLimit).bitrateLimitExceeded
      = true := by
  have configured : Configured twoTenthsLimit :=
    ⟨⟨rfl, by decide⟩, by decide +kernel, by decide, by decide⟩
  have fits : Fits (ringLength twoTenthsLimit) [5, 5, 0] := by
    unfold Fits
    decide
  exact (bitrateLimit_averages (freshLimit_reset _) configured fits).1.mpr
    ⟨2, by decide, by decide, by decide +kernel⟩

-----------------------------------------------------------------------------------------
-- Where the average and the number of intervals leave the numbers of the program
-----------------------------------------------------------------------------------------

/-- A server that limits the rate over one interval of a second. -/
def oneSecondLimit (bitrateLimit : UInt64) : Test :=
  { statsInterval := 1, settings := { bitrateLimit, bitrateLimitStatsPerInterval := 1 } }

/-- A server that limits the rate over one interval of a tenth of a second to the largest
number there is.
-/
def largestLimit : Test :=
  {
    statsInterval := 1 / 10
    settings := { bitrateLimit := 0xffffffffffffffff, bitrateLimitStatsPerInterval := 1 }
  }

/-- A server that limits the rate over two intervals of a second. -/
def twoSecondLimit : Test :=
  { statsInterval := 1, settings := { bitrateLimit := 1, bitrateLimitStatsPerInterval := 2 } }

theorem windowBytes_take_le (length j : Nat) (history : List UInt64)
    : windowBytes length (history.take j) ≤ (history.map UInt64.toNat).sum :=
  List.Sublist.sum_le_sum
    (((List.drop_sublist _ _).trans (List.take_sublist _ _)).map UInt64.toNat)
    (fun _ _ => Nat.zero_le _)

/-- A history of idle intervals with one of a kilobyte at its end. -/
def idleThenBusy (idle : Nat) : List UInt64 := List.replicate idle 0 ++ [1024]

theorem sum_idleThenBusy (idle : Nat) : ((idleThenBusy idle).map UInt64.toNat).sum = 1024 := by
  simp [idleThenBusy]

theorem doubleAverage_idle {length idle j : Nat} {interval : ℚ} (inside : j ≤ idle)
    : doubleAverage length interval ((idleThenBusy idle).take j) = 0 := by
  have zeros : (idleThenBusy idle).take j = List.replicate j 0 := by
    rw [idleThenBusy, List.take_append_of_le_length (by simpa using inside), List.take_replicate,
      Nat.min_eq_left inside]
  simp [zeros, doubleAverage, windowBytes, nearest]

theorem windowAverage_busy {idle : Nat} (positive : 0 < idle)
    : windowAverage 2 1 (idleThenBusy idle) = 4096 := by
  obtain ⟨idle, rfl⟩ := Nat.exists_eq_add_one.mpr positive
  have last : windowBytes 2 (idleThenBusy (idle + 1)) = 1024 := by
    have behind : (idleThenBusy (idle + 1)).length - 2 = idle := by simp [idleThenBusy]
    rw [windowBytes, behind, idleThenBusy, List.replicate_succ', List.append_assoc,
      List.drop_left' (List.length_replicate)]
    rfl
  rw [windowAverage, last]
  norm_num

/-- When the number of intervals wraps, the next window is not averaged. -/
theorem wrapped_window_missed {idle : Nat} (wrapped : idle % 2 ^ 64 = 0)
    : ((idleThenBusy idle).foldl iperfCheckTotalRate twoSecondLimit).bitrateLimitExceeded
      = false := by
  have fits : Fits (ringLength twoSecondLimit) (idleThenBusy idle) := by
    intro j inside long
    have bound := windowBytes_take_le (ringLength twoSecondLimit) j (idleThenBusy idle)
    rw [sum_idleThenBusy] at bound
    omega
  have fresh : FreshLimit twoSecondLimit := ⟨rfl, rfl, rfl, rfl, rfl⟩
  have configured : Configured twoSecondLimit :=
    ⟨⟨rfl, by decide⟩, by decide, by decide, by decide⟩
  have averaged := fresh.averaged_after configured fits
  rw [← Bool.not_eq_true, averaged.exceeded]
  rintro ⟨j, inside, counted, above⟩
  have two : ringLength twoSecondLimit = 2 := by decide
  rw [two] at counted
  rcases Nat.lt_or_ge idle j with last | earlier
  · simp only [idleThenBusy, List.length_append, List.length_replicate, List.length_singleton]
      at inside
    omega
  · have nothing : Rat.floor 0 = 0 := rfl
    rw [doubleAverage_idle earlier, nothing] at above
    simp at above

/-- One byte more than the limit allows is rounded away, a limit of the largest 64-bit number is
never exceeded, and neither is any limit by the window that ends with interval 2 ^ 64 + 1,
although the averages are above the limits.
-/
theorem bitrateLimit_misses_windows
    : (([1000000000000000001].foldl iperfCheckTotalRate
            (oneSecondLimit 8000000000000000000)).bitrateLimitExceeded = false
          ∧ 8000000000000000000 < (windowAverage 1 1 [1000000000000000001]).floor.toNat)
      ∧ (([0x1fffffffffffffff].foldl iperfCheckTotalRate largestLimit).bitrateLimitExceeded = false
        ∧ largestLimit.settings.bitrateLimit.toNat
          < (windowAverage 1 largestLimit.statsInterval [0x1fffffffffffffff]).floor.toNat)
      ∧ ((idleThenBusy (2 ^ 64)).foldl iperfCheckTotalRate twoSecondLimit).bitrateLimitExceeded
          = false
        ∧ twoSecondLimit.settings.bitrateLimit.toNat
          < (windowAverage 2 twoSecondLimit.statsInterval (idleThenBusy (2 ^ 64))).floor.toNat := by
  refine ⟨⟨by decide +kernel, by decide +kernel⟩, ⟨by decide +kernel, by decide +kernel⟩,
    wrapped_window_missed (by decide), ?_⟩
  have rate : windowAverage 2 twoSecondLimit.statsInterval (idleThenBusy (2 ^ 64)) = 4096 :=
    windowAverage_busy (by decide)
  rw [rate]
  decide

end Iperf
