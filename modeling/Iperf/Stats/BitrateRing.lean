import Iperf.Parameters.Arguments
import Iperf.Stats.BitrateLimit

/-! The two intervals a server is configured with decide whether the limiter stays inside its
ring of sixty cells, and whether it divides by zero.
-/

namespace Iperf

-----------------------------------------------------------------------------------------
-- What one check touches
-----------------------------------------------------------------------------------------

/-- The indices into the ring that the next check uses: the cell it writes, and those it sums
when it comes to the average.
-/
def ringAccesses (test : Test) : List Nat :=
  if test.done ∨ test.settings.bitrateLimit = 0 then []
  else
    (nextIndex test).toNat ::
      if test.bitrateLimitStatsCount + 1
          < unsignedOfInt test.settings.bitrateLimitStatsPerInterval then []
      else List.range (ringLength test)

/-- The seconds the next check divides by, when it comes to the average. -/
def averageSeconds (test : Test) : Option ℚ :=
  if test.done ∨ test.settings.bitrateLimit = 0 then none
  else if test.bitrateLimitStatsCount + 1
      < unsignedOfInt test.settings.bitrateLimitStatsPerInterval then none
  else some (test.statsInterval * test.settings.bitrateLimitStatsPerInterval.toInt)

/-- After any checks, the next one stays inside the ring and divides by a positive number. -/
def RingSafe (test : Test) : Prop :=
  ∀ traffic : List UInt64,
    (∀ index ∈ ringAccesses (traffic.foldl iperfCheckTotalRate test),
      index < (traffic.foldl iperfCheckTotalRate test).bitrateLimitIntervalsTrafficBytes.length)
    ∧ ∀ seconds, averageSeconds (traffic.foldl iperfCheckTotalRate test) = some seconds
      → 0 < seconds

-----------------------------------------------------------------------------------------
-- The number of cells
-----------------------------------------------------------------------------------------

/-- The two intervals as the option loop leaves them. -/
structure Intervals (stats limit : ℚ) : Prop where
  stats : badInterval stats = false
  limit : badInterval limit = false

theorem goodInterval_iff {seconds : ℚ}
    : badInterval seconds = false ↔ seconds = 0 ∨ 1 / 10 ≤ seconds ∧ seconds ≤ 60 := by
  simp only [badInterval, minInterval, maxInterval, decide_eq_false_iff_not, not_and_or, not_or,
    not_lt, not_not, gt_iff_lt, ne_eq]
  exact or_comm

/-- A ring for intervals in range has at least one cell, and at most sixty exactly when the
limit's interval is short enough.
-/
theorem limitStatsPerInterval_bounds {stats limit : ℚ} (intervals : Intervals stats limit)
    (some_ : limit ≠ 0)
    : 1 ≤ (limitStatsPerInterval limit stats).toInt
      ∧ ((limitStatsPerInterval limit stats).toInt ≤ 60 ↔ limit < 121 / 2 * stats) := by
  obtain ⟨positive, short⟩ := (goodInterval_iff.mp intervals.limit).resolve_left some_
  unfold limitStatsPerInterval
  split
  · next within =>
      have one : (1 : Int32).toInt = 1 := rfl
      rw [one]
      refine ⟨le_refl _, fun _ => by linarith, fun _ => by norm_num⟩
  · next longer =>
      split
      · next zero =>
          have most : Int32.maxValue.toInt = 2 ^ 31 - 1 := rfl
          rw [most, zero]
          refine ⟨by norm_num, fun few => absurd few (by norm_num), fun few => ?_⟩
          exact absurd few (by linarith)
      · next nonzero =>
          obtain ⟨least, most⟩ := (goodInterval_iff.mp intervals.stats).resolve_left nonzero
          have divisor : 0 < stats := by linarith
          have above : 1 < limit / stats := (one_lt_div divisor).mpr (not_le.mp longer)
          have below : limit / stats ≤ 600 := by
            rw [div_le_iff₀ divisor]
            linarith
          have floorLow : 1 ≤ ⌊limit / stats + 1 / 2⌋ := Int.le_floor.mpr (by
            push_cast
            linarith)
          have floorHigh : ⌊limit / stats + 1 / 2⌋ < 601 := Int.floor_lt.mpr (by
            push_cast
            linarith)
          have exact_ : (Int32.ofInt ⌊limit / stats + 1 / 2⌋).toInt = ⌊limit / stats + 1 / 2⌋ := by
            rw [Int32.toInt_ofInt_of_le (by omega) (by omega)]
          rw [exact_]
          refine ⟨floorLow, ?_⟩
          rw [← Int.lt_add_one_iff, Int.floor_lt, ← div_lt_iff₀ divisor]
          push_cast
          constructor
          · intro few
            linarith
          · intro few
            linarith

-----------------------------------------------------------------------------------------
-- Runs of checks
-----------------------------------------------------------------------------------------

/-- What checks leave alone. -/
structure Kept (start test : Test) : Prop where
  settings : test.settings = start.settings
  interval : test.statsInterval = start.statsInterval
  limited : Limited test
  cells : test.bitrateLimitIntervalsTrafficBytes.length
    = start.bitrateLimitIntervalsTrafficBytes.length

theorem Kept.step {start test after : Test} {bytes : UInt64} (kept : Kept start test)
    (checked : RateChecked test bytes after)
    : Kept start after :=
  ⟨checked.settings.trans kept.settings, checked.interval.trans kept.interval,
    kept.limited.checked checked, by rw [checked.ring, List.length_set, kept.cells]⟩

theorem Limited.ringAccesses {test : Test} (limited : Limited test)
    : Iperf.ringAccesses test
      = (nextIndex test).toNat ::
        if test.bitrateLimitStatsCount + 1
            < unsignedOfInt test.settings.bitrateLimitStatsPerInterval then []
        else List.range (ringLength test) := by
  rw [Iperf.ringAccesses, if_neg (by simp [limited.running, limited.limit])]

theorem Limited.averageSeconds {test : Test} (limited : Limited test)
    : Iperf.averageSeconds test
      = if test.bitrateLimitStatsCount + 1
            < unsignedOfInt test.settings.bitrateLimitStatsPerInterval then none
        else some (test.statsInterval * test.settings.bitrateLimitStatsPerInterval.toInt) := by
  rw [Iperf.averageSeconds, if_neg (by simp [limited.running, limited.limit])]

/-- A limiter with at least one cell never leaves them. By induction on the checks from the
last one.
-/
theorem indices_inside {start : Test} (limited : Limited start)
    (positive : 1 ≤ start.settings.bitrateLimitStatsPerInterval.toInt)
    (first : start.bitrateLimitLastIntervalIndex = 0) (traffic : List UInt64)
    : Kept start (traffic.foldl iperfCheckTotalRate start)
      ∧ (traffic.foldl iperfCheckTotalRate start).bitrateLimitLastIntervalIndex.toNat
        < ringLength start := by
  induction traffic using List.reverseRecOn with
  | nil =>
      refine ⟨⟨rfl, rfl, limited, rfl⟩, ?_⟩
      rw [List.foldl_nil, first]
      simp only [ringLength, UInt64.toNat_zero]
      omega
  | append_singleton traffic bytes ih =>
      obtain ⟨kept, inside⟩ := ih
      have checked := iperfCheckTotalRate_checked kept.limited bytes
      have bound := ringLength_lt start
      rw [List.foldl_append, List.foldl_cons, List.foldl_nil]
      refine ⟨kept.step checked, ?_⟩
      rw [checked.index, nextIndex_toNat (by rw [kept.settings]; omega) (by omega), ringLength,
        kept.settings]
      change (if ringLength start ≤ _ then 0 else _) < ringLength start
      split <;> omega

/-- A ring of at most sixty cells is safe when the interval is positive. -/
theorem ringSafe_of_fits {start : Test} (limited : Limited start)
    (positive : 1 ≤ start.settings.bitrateLimitStatsPerInterval.toInt)
    (fits : ringLength start ≤ start.bitrateLimitIntervalsTrafficBytes.length)
    (interval : 0 < start.statsInterval) (first : start.bitrateLimitLastIntervalIndex = 0)
    : RingSafe start := by
  intro traffic
  obtain ⟨kept, inside⟩ := indices_inside limited positive first traffic
  have bound := ringLength_lt start
  have sameLength : ringLength (traffic.foldl iperfCheckTotalRate start) = ringLength start := by
    rw [ringLength, kept.settings, ringLength]
  have next : (nextIndex (traffic.foldl iperfCheckTotalRate start)).toNat < ringLength start := by
    rw [nextIndex_toNat (by rw [kept.settings]; omega) (by omega), sameLength]
    split <;> omega
  rw [kept.cells, kept.limited.ringAccesses, kept.limited.averageSeconds, sameLength]
  constructor
  · intro index member
    rcases List.mem_cons.mp member with rfl | summed
    · omega
    · split at summed
      · exact (List.not_mem_nil summed).elim
      · have small := List.mem_range.mp summed
        omega
  · intro seconds divided
    split at divided
    · cases divided
    · obtain rfl := Option.some.inj divided
      rw [kept.interval, kept.settings]
      exact mul_pos interval (by exact_mod_cast positive)

/-- The first checks fill a long ring one cell after the other. By induction on the checks. -/
theorem index_of_long {start : Test} (limited : Limited start)
    (first : start.bitrateLimitLastIntervalIndex = 0) {count : Nat}
    (long : count < ringLength start)
    : Kept start ((List.replicate count 0).foldl iperfCheckTotalRate start)
      ∧ ((List.replicate count 0).foldl iperfCheckTotalRate
          start).bitrateLimitLastIntervalIndex.toNat = count := by
  induction count with
  | zero =>
      exact ⟨⟨rfl, rfl, limited, rfl⟩, by rw [List.replicate_zero, List.foldl_nil, first]; rfl⟩
  | succ count ih =>
      obtain ⟨kept, index⟩ := ih (by omega)
      have checked := iperfCheckTotalRate_checked kept.limited 0
      have bound := ringLength_lt start
      have positive : 0 ≤ start.settings.bitrateLimitStatsPerInterval.toInt := by
        unfold ringLength at long
        omega
      rw [List.replicate_succ', List.foldl_append, List.foldl_cons, List.foldl_nil]
      refine ⟨kept.step checked, ?_⟩
      rw [checked.index, nextIndex_toNat (by rw [kept.settings]; exact positive) (by omega), index,
        ringLength, kept.settings]
      exact if_neg (Nat.not_le.mpr long)

/-- A ring with more cells than were allocated is left. -/
theorem not_ringSafe_of_long {start : Test} (limited : Limited start)
    (first : start.bitrateLimitLastIntervalIndex = 0)
    (some_ : 0 < start.bitrateLimitIntervalsTrafficBytes.length)
    (long : start.bitrateLimitIntervalsTrafficBytes.length < ringLength start)
    : ¬ RingSafe start := by
  intro safe
  obtain ⟨before, kept, index⟩ : ∃ before : List UInt64,
      Kept start (before.foldl iperfCheckTotalRate start)
      ∧ (before.foldl iperfCheckTotalRate start).bitrateLimitLastIntervalIndex.toNat
        = start.bitrateLimitIntervalsTrafficBytes.length - 1 :=
    ⟨_, index_of_long limited first (by omega)⟩
  have bound := ringLength_lt start
  have positive : 0 ≤ start.settings.bitrateLimitStatsPerInterval.toInt := by
    unfold ringLength at long
    omega
  have sameLength : ringLength (before.foldl iperfCheckTotalRate start) = ringLength start := by
    rw [ringLength, kept.settings, ringLength]
  have next : (nextIndex (before.foldl iperfCheckTotalRate start)).toNat
      = start.bitrateLimitIntervalsTrafficBytes.length := by
    rw [nextIndex_toNat (by rw [kept.settings]; exact positive) (by omega), sameLength, index,
      if_neg (by omega)]
    omega
  have inside := (safe before).1 _ (kept.limited.ringAccesses ▸ List.mem_cons_self)
  rw [next, kept.cells] at inside
  exact absurd inside (lt_irrefl _)

/-- Without an interval the first check divides by zero. -/
theorem not_ringSafe_of_none {start : Test} (limited : Limited start)
    (none_ : start.settings.bitrateLimitStatsPerInterval = 0)
    : ¬ RingSafe start := by
  intro safe
  have reached : averageSeconds start = some 0 := by
    have zero : ¬ start.bitrateLimitStatsCount + 1 < unsignedOfInt 0 :=
      UInt64.not_lt.mpr (UInt64.le_iff_toNat_le.mpr (Nat.zero_le _))
    rw [limited.averageSeconds, none_, if_neg zero]
    simp
  exact absurd ((safe []).2 0 reached) (lt_irrefl _)

-----------------------------------------------------------------------------------------
-- Accepted command lines
-----------------------------------------------------------------------------------------

/-- What the option loop keeps of the limiter. -/
structure LimiterParsed (test : Test) : Prop where
  intervals : Intervals test.statsInterval test.settings.bitrateLimitInterval
  none : test.settings.bitrateLimitStatsPerInterval = 0
  fresh : FreshLimit test

theorem LimiterParsed.of_same {test next : Test} (parsed : LimiterParsed test)
    (stats : next.statsInterval = test.statsInterval)
    (limit : next.settings.bitrateLimitInterval = test.settings.bitrateLimitInterval)
    (none : next.settings.bitrateLimitStatsPerInterval
      = test.settings.bitrateLimitStatsPerInterval)
    (count : next.bitrateLimitStatsCount = test.bitrateLimitStatsCount)
    (index : next.bitrateLimitLastIntervalIndex = test.bitrateLimitLastIntervalIndex)
    (exceeded : next.bitrateLimitExceeded = test.bitrateLimitExceeded)
    (ring : next.bitrateLimitIntervalsTrafficBytes = test.bitrateLimitIntervalsTrafficBytes)
    (done : next.done = test.done)
    : LimiterParsed next :=
  ⟨by rw [stats, limit]; exact parsed.intervals, none.trans parsed.none,
    ⟨count.trans parsed.fresh.count, index.trans parsed.fresh.index,
      exceeded.trans parsed.fresh.exceeded, ring.trans parsed.fresh.ring,
      done.trans parsed.fresh.running⟩⟩

/-- One pass of the option loop; only two options touch the intervals. -/
theorem parseOption_limiter {s next : ParseState} {option : CliOption}
    (parsed : LimiterParsed s.test) (accepted : parseOption s option = .ok next)
    : LimiterParsed next.test := by
  cases option with
  | interval seconds =>
      obtain ⟨good, rfl⟩ := accept_eq_ok.mp accepted
      exact ⟨⟨good, parsed.intervals.limit⟩, parsed.none, parsed.fresh.1, parsed.fresh.2,
        parsed.fresh.3, parsed.fresh.4, parsed.fresh.5⟩
  | serverBitrateLimit interval limit =>
      obtain ⟨good, rfl⟩ := accept_eq_ok.mp accepted
      refine ⟨⟨parsed.intervals.stats, ?_⟩, parsed.none, parsed.fresh.1, parsed.fresh.2,
        parsed.fresh.3, parsed.fresh.4, parsed.fresh.5⟩
      cases interval with
      | none => exact parsed.intervals.limit
      | some seconds => exact good
  | server | client =>
      obtain ⟨-, rfl⟩ := accept_eq_ok.mp accepted
      rw [iperfSetTestRole, checkSenderHasRetransmits_eq]
      exact parsed.of_same rfl rfl rfl rfl rfl rfl rfl rfl
  | udp =>
      obtain rfl := Except.ok.inj accepted
      simp only [ParseState.clientSet, setProtocol, checkSenderHasRetransmits_eq]
      exact parsed.of_same rfl rfl rfl rfl rfl rfl rfl rfl
  | reverse =>
      obtain ⟨-, rfl⟩ := accept_eq_ok.mp accepted
      rw [ParseState.clientSet, iperfSetTestReverse, checkSenderHasRetransmits_eq]
      exact parsed.of_same rfl rfl rfl rfl rfl rfl rfl rfl
  | bidir =>
      obtain ⟨-, rfl⟩ := accept_eq_ok.mp accepted
      rw [ParseState.clientSet, iperfSetTestBidirectional, if_pos rfl]
      exact parsed.of_same rfl rfl rfl rfl rfl rfl rfl rfl
  | unsupported => simp [parseOption] at accepted
  | _ =>
      simp only [parseOption, accept_eq_ok, Except.ok.injEq] at accepted
      first
        | obtain rfl := accepted
        | obtain ⟨-, rfl⟩ := accepted
      exact parsed.of_same rfl rfl rfl rfl rfl rfl rfl rfl

/-- The whole option loop, by induction on the options. -/
theorem parseOptions_limiter {s final : ParseState} {options : List CliOption}
    (parsed : LimiterParsed s.test) (accepted : parseOptions s options = .ok final)
    : LimiterParsed final.test := by
  induction options generalizing s with
  | nil =>
      obtain rfl := Except.ok.inj accepted
      exact parsed
  | cons option rest ih =>
      rw [parseOptions] at accepted
      split at accepted
      · next step => exact ih (parseOption_limiter parsed step) accepted
      · cases accepted

/-- What an accepted command line leaves for the limiter. -/
structure LimiterAccepted (test : Test) : Prop where
  intervals : Intervals test.statsInterval test.settings.bitrateLimitInterval
  fresh : FreshLimit test
  perInterval : test.settings.bitrateLimitStatsPerInterval
    = if test.settings.bitrateLimitInterval ≠ 0 then
        limitStatsPerInterval test.settings.bitrateLimitInterval test.statsInterval
      else 0

theorem iperfParseArguments_limiter {options : List CliOption} {fileSize : Option UInt64}
    {test : Test}
    (accepted : iperfParseArguments (iperfDefaults iperfNewTest) options fileSize = .ok test)
    : LimiterAccepted test := by
  rw [iperfParseArguments] at accepted
  split at accepted
  · cases accepted
  · next s parsed =>
      have defaults : LimiterParsed (iperfDefaults iperfNewTest) :=
        ⟨⟨goodInterval_iff.mpr (.inr (by change (1 : ℚ) / 10 ≤ 1 ∧ (1 : ℚ) ≤ 60; norm_num)),
            goodInterval_iff.mpr (.inr (by change (1 : ℚ) / 10 ≤ 5 ∧ (5 : ℚ) ≤ 60; norm_num))⟩,
          rfl, ⟨rfl, rfl, rfl, rfl, rfl⟩⟩
      have limiter := parseOptions_limiter defaults parsed
      dsimp only at accepted
      split at accepted
      · cases accepted
      · obtain rfl := Except.ok.inj accepted
        exact ⟨limiter.intervals, ⟨limiter.fresh.1, limiter.fresh.2, limiter.fresh.3,
          limiter.fresh.4, limiter.fresh.5⟩, by dsimp only; rw [limiter.none]⟩

/-- The limiter of an accepted configuration stays inside its ring and divides by a positive
number exactly when there is no limit, or its interval is positive and short enough to fit
sixty intervals of the statistics.
-/
theorem bitrateLimit_ringSafe_iff {options : List CliOption} {fileSize : Option UInt64}
    {test : Test}
    (accepted : iperfParseArguments (iperfDefaults iperfNewTest) options fileSize = .ok test)
    : RingSafe test
      ↔ (test.settings.bitrateLimit ≠ 0
        → test.settings.bitrateLimitInterval ≠ 0
          ∧ test.settings.bitrateLimitInterval < 121 / 2 * test.statsInterval) := by
  have limiter := iperfParseArguments_limiter accepted
  have perInterval := limiter.perInterval
  have fresh := limiter.fresh
  have allocated : test.bitrateLimitIntervalsTrafficBytes.length = 60 := by
    rw [fresh.ring, List.length_replicate]
  by_cases limit : test.settings.bitrateLimit = 0
  · refine iff_of_true ?_ (fun contra => absurd limit contra)
    intro traffic
    have unchanged : traffic.foldl iperfCheckTotalRate test = test := by
      induction traffic with
      | nil => rfl
      | cons bytes traffic ih =>
          have none_ : iperfCheckTotalRate test bytes = test := by
            rw [iperfCheckTotalRate, if_pos (.inr limit)]
          rw [List.foldl_cons, none_, ih]
    rw [unchanged, ringAccesses, averageSeconds, if_pos (.inr limit), if_pos (.inr limit)]
    exact ⟨fun _ member => (List.not_mem_nil member).elim, fun _ divided => by cases divided⟩
  · have limited : Limited test := ⟨fresh.running, limit⟩
    by_cases none_ : test.settings.bitrateLimitInterval = 0
    · rw [if_neg (not_not.mpr none_)] at perInterval
      exact iff_of_false (not_ringSafe_of_none limited perInterval)
        (fun both => (both limit).1 none_)
    · rw [if_pos none_] at perInterval
      obtain ⟨positive, fits⟩ := limitStatsPerInterval_bounds limiter.intervals none_
      rw [← perInterval] at positive fits
      constructor
      · intro safe _
        refine ⟨none_, fits.mp ?_⟩
        by_contra long
        refine not_ringSafe_of_long limited fresh.index (by omega) ?_ safe
        unfold ringLength
        omega
      · intro both
        obtain ⟨-, short⟩ := both limit
        have cells := fits.mpr short
        have interval : 0 < test.statsInterval := by
          have least := ((goodInterval_iff.mp limiter.intervals.limit).resolve_left none_).1
          linarith
        refine ringSafe_of_fits limited positive ?_ interval fresh.index
        unfold ringLength
        omega

/-- A server that averages over a minute of tenths of a second. -/
def minuteOfTenths : List CliOption :=
  [.server, .interval (1 / 10), .serverBitrateLimit (some 60) 1000000]

/-- The configuration that an accepted command line gives. -/
def parsedTest (options : List CliOption) : Test :=
  match iperfParseArguments (iperfDefaults iperfNewTest) options none with
  | .ok test => test
  | .error _ => iperfNewTest

theorem parsedTest_accepted {options : List CliOption}
    (ok : (iperfParseArguments (iperfDefaults iperfNewTest) options none).isOk = true)
    : iperfParseArguments (iperfDefaults iperfNewTest) options none
      = .ok (parsedTest options) := by
  unfold parsedTest
  split
  · next accepted => exact accepted
  · next refused =>
      rw [refused] at ok
      cases ok

theorem bitrateLimit_ringSafe_iff_default
    : RingSafe (parsedTest [.server, .serverBitrateLimit none 1000000]) :=
  (bitrateLimit_ringSafe_iff (parsedTest_accepted (by decide +kernel))).mpr
    fun _ => ⟨by decide +kernel, by decide +kernel⟩

/-- The sixtieth interval is stored behind the sixty cells. -/
theorem ring_left
    : iperfParseArguments (iperfDefaults iperfNewTest) minuteOfTenths none
        = .ok (parsedTest minuteOfTenths)
      ∧ ((List.replicate 59 0).foldl iperfCheckTotalRate
          (parsedTest minuteOfTenths)).bitrateLimitIntervalsTrafficBytes.length = 60
      ∧ 60 ∈ ringAccesses
        ((List.replicate 59 0).foldl iperfCheckTotalRate (parsedTest minuteOfTenths))
      ∧ ¬ RingSafe (parsedTest minuteOfTenths) := by
  have cells : ((List.replicate 59 0).foldl iperfCheckTotalRate
      (parsedTest minuteOfTenths)).bitrateLimitIntervalsTrafficBytes.length = 60 := by
    decide +kernel
  have used : 60 ∈ ringAccesses
      ((List.replicate 59 0).foldl iperfCheckTotalRate (parsedTest minuteOfTenths)) := by
    decide +kernel
  refine ⟨parsedTest_accepted (by decide +kernel), cells, used, fun safe => ?_⟩
  have inside := (safe (List.replicate 59 0)).1 60 used
  rw [cells] at inside
  exact absurd inside (lt_irrefl _)

end Iperf
