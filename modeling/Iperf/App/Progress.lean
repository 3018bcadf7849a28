import Iperf.App.Countdown

/-! The progress that the app shows: the distance between the deadlines of the test timer and the
statistics timer, read whenever the main queue comes to a report.
-/

namespace Iperf

open TimerList

namespace ClientRun

variable {r next : ClientRun} {c : Countdown} {t : Timing} {elapsed : Nat}
  {list front rest : List (Entry IperfTime TimerRecord)}
  {timer statsTimer : Entry IperfTime TimerRecord}

-----------------------------------------------------------------------------------------
-- Progress
-----------------------------------------------------------------------------------------

/-- The progress that `handleStatsCallback:` computes, or `none` where it would follow a pointer
to no timer.
-/
def progress (r : ClientRun) : Option ℚ :=
  match r.field .timer with
  | none => some 1
  | some id => do
      let timer ← r.timers.find id
      let statsTimer ← (r.field .statsTimer).bind r.timers.find
      let testDuration : ℚ := timer.record.usecs.toInt64.toInt / 1000000
      -- "The timer bumps the duration before calling back, and is always 1 second too late"
      let testElapsed := testDuration - (timer.time.secs - statsTimer.time.secs).toNat - 1
      return testElapsed / testDuration

/-- How far the test is: the deadline of the statistics timer in seconds, or over. -/
inductive Stage where
  | counting (elapsed : Nat)
  | finished

/-- What is shown at a stage. -/
def Countdown.shown (c : Countdown) : Stage → ℚ
  | .counting elapsed => (elapsed - 1) / c.duration
  | .finished => 1

/-- The stage of a run. Inside `tmr_run` the next timer is not behind the test timer. -/
def At (c : Countdown) (r : ClientRun) : Stage → Prop
  | .counting elapsed =>
      ∃ front timer rest statsTimer, Ahead c r.timing elapsed front timer rest statsTimer
        ∧ ∀ now id, r.point = .timers now (some id) → id ∈ (front ++ [timer]).map Entry.id
  | .finished => r.field .timer = none

theorem Ahead.progress (ahead : Ahead c r.timing elapsed front timer rest statsTimer)
    : r.progress = some (c.shown (.counting elapsed)) := by
  have fits := c.fits
  have within := ahead.parts.le
  have isTimer : r.field .timer = some timer.id := ahead.isTimer
  have isStats : r.field .statsTimer = some statsTimer.id := ahead.isStats
  have foundTimer : r.timers.find timer.id = some timer :=
    ahead.owned.wellFormed.find ahead.timer_mem
  have foundStats : r.timers.find statsTimer.id = some statsTimer :=
    ahead.owned.wellFormed.find ahead.parts.stats_mem
  have usecs : timer.record.usecs.toInt64.toInt = c.duration * 1000000 := by
    have bits : timer.record.usecs.toInt64.toInt = timer.record.usecs.toBitVec.toInt := rfl
    have small : timer.record.usecs.toBitVec.toNat = c.duration * 1000000 := ahead.usecs
    rw [bits, BitVec.toInt_eq_toNat_of_lt (by omega), small]
    push_cast
    rfl
  have distance : (timer.time.secs - statsTimer.time.secs).toNat = c.duration - elapsed := by
    have late := IperfTime.plusSecs_secs fits
    have early := @IperfTime.plusSecs_secs c.base elapsed (by omega)
    rw [← ahead.parts.deadline] at late
    rw [← ahead.parts.statsDeadline] at early
    rw [UInt32.toNat_sub, late, early]
    omega
  unfold ClientRun.progress
  rw [isTimer, isStats]
  simp only [Option.bind_some, foundTimer, foundStats, Option.bind_eq_bind, Option.pure_def, usecs,
    distance, Countdown.shown]
  push_cast [Nat.cast_sub within]
  congr 2 <;> ring

theorem At.progress {stage : Stage} (at_ : At c r stage) : r.progress = some (c.shown stage) := by
  cases stage with
  | counting elapsed =>
      obtain ⟨front, timer, rest, statsTimer, ahead, -⟩ := at_
      exact ahead.progress
  | finished =>
      have expired : r.field .timer = none := at_
      unfold ClientRun.progress
      rw [expired]
      rfl

theorem Countdown.shown_mono (c : Countdown) {elapsed later : Nat} (less : elapsed ≤ later)
    : c.shown (.counting elapsed) ≤ c.shown (.counting later) := by
  have ordered : (elapsed : ℚ) ≤ later := Nat.cast_le.mpr less
  have positive : (0 : ℚ) ≤ c.duration := Nat.cast_nonneg _
  unfold Countdown.shown
  exact div_le_div_of_nonneg_right (by linarith) positive

theorem Ahead.shown_range (ahead : Ahead c t elapsed front timer rest statsTimer)
    : 0 ≤ c.shown (.counting elapsed) ∧ c.shown (.counting elapsed) ≤ 1 := by
  have first : (1 : ℚ) ≤ elapsed := Nat.one_le_cast.mpr ahead.positive
  have last : (elapsed : ℚ) ≤ c.duration := Nat.cast_le.mpr ahead.parts.le
  have positive : (0 : ℚ) < c.duration := by linarith
  unfold Countdown.shown
  constructor
  · exact div_nonneg (by linarith) positive.le
  · rw [div_le_one positive]
    linarith

theorem At.shown_range {stage : Stage} (at_ : At c r stage)
    : 0 ≤ c.shown stage ∧ c.shown stage ≤ 1 := by
  cases stage with
  | counting elapsed =>
      obtain ⟨front, timer, rest, statsTimer, ahead, -⟩ := at_
      exact ahead.shown_range
  | finished => exact ⟨zero_le_one, le_rfl⟩

/-- One step: the stage does not go back. -/
theorem Step.stage {event : Event} {stage : Stage} (step : Step r event next)
    (other : ¬ r.handlesTestStart event) (unfinished : next.point.isFinished = false)
    (at_ : At c r stage)
    : ∃ later, At c next later ∧ c.shown stage ≤ c.shown later := by
  obtain ⟨-, ⟨same, enters⟩ | ⟨now, id, entry, here, found, fires, point⟩⟩ :=
    step.timing other unfinished
  · refine ⟨stage, ?_, le_rfl⟩
    cases stage with
    | counting elapsed =>
        obtain ⟨front, timer, rest, statsTimer, ahead, passed⟩ := at_
        refine ⟨front, timer, rest, statsTimer, same ▸ ahead, fun now id isNext => ?_⟩
        rcases enters now id isNext with stays | isHead
        · exact passed now id (stays.trans isNext)
        · have active : r.timers.active = front ++ timer :: rest := ahead.parts.parts
          rw [active] at isHead
          obtain ⟨other, first, rfl⟩ := Option.map_eq_some_iff.mp isHead
          refine List.mem_map_of_mem (List.mem_append.mpr ?_)
          cases front with
          | nil =>
              cases first
              exact .inr (List.mem_singleton.mpr rfl)
          | cons head tail =>
              cases first
              exact .inl List.mem_cons_self
    | finished =>
        have expired : r.timing.field .timer = none := at_
        exact (congrArg (fun t => Timing.field t .timer) same).trans expired
  · obtain ⟨isActive, rfl⟩ := Timers.find_some found
    cases stage with
    | counting elapsed =>
        obtain ⟨front, timer, rest, statsTimer, ahead, passed⟩ := at_
        obtain ⟨one, isOne, sameId⟩ := List.mem_map.mp (passed now entry.id here)
        have oneActive : one ∈ r.timers.active := by
          have active : r.timers.active = front ++ timer :: rest := ahead.parts.parts
          rw [active]
          rcases List.mem_append.mp isOne with isFront | isLast
          · exact List.mem_append_left _ isFront
          · rw [List.mem_singleton.mp isLast]
            exact List.mem_append_right _ List.mem_cons_self
        obtain rfl := ahead.owned.wellFormed.eq_of_id oneActive isActive sameId
        rcases List.mem_append.mp isOne with isFront | isLast
        · obtain ⟨elapsed', front', rest', statsTimer', ahead', less, following⟩ :=
            ahead.fire isFront now
          refine ⟨.counting elapsed', ⟨front', timer, rest', statsTimer', fires ▸ ahead', ?_⟩,
            c.shown_mono less⟩
          intro now' id isNext
          rw [point] at isNext
          exact following id (Point.timers.inj isNext).2
        · obtain rfl := List.mem_singleton.mp isLast
          refine ⟨.finished, ?_, ahead.shown_range.2⟩
          exact (congrArg (fun t => Timing.field t .timer) fires).trans (ahead.expire now)
    | finished =>
        have expired : r.timing.field .timer = none := at_
        refine ⟨.finished, ?_, le_rfl⟩
        exact (congrArg (fun t => Timing.field t .timer) fires).trans
            (fire_expired expired now entry)

-----------------------------------------------------------------------------------------
-- `TEST_START`
-----------------------------------------------------------------------------------------

/-- The message with which the timers of a test are created; nothing fails. -/
structure StartsTest (c : Countdown) (r : ClientRun) (io : ListenIo) : Prop where
  here : r.point = .loop
  handles : r.handlesTestStart (.listen io)
  created : (r.listen io).point ≠ .failing
  statsInterval : r.test.statsInterval = 1
  noOmit : r.test.omitPeriod = 0
  duration : r.test.duration.toInt = c.duration
  clock : ∀ value answers, io.message = .byte value answers → answers.timers.clock = some c.base

theorem StartsTest.stage {io : ListenIo} (waiting : Waiting r) (starts : StartsTest c r io)
    : At c (r.listen io) (.counting 1) := by
  obtain ⟨value, answers, message, receives⟩ := receive_testStart starts.handles
  have ready : Waiting ((r.noteProgress io.now).storeState value) := waiting.of_timing rfl
  have owned := startTimers_owned ready.owned ready.unset answers
  have created := starts.created
  unfold listen at created ⊢
  rw [receives] at created ⊢
  unfold startTimers at owned created ⊢
  cases clock : answers.initClock with
  | none =>
      rw [clock] at created
      exact absurd rfl created
  | some now =>
      rw [clock] at owned created
      dsimp only at owned created ⊢
      have initial : Waiting (((r.noteProgress io.now).storeState value).initTest now) :=
        waiting.of_timing rfl
      cases made : (((r.noteProgress io.now).storeState value).initTest now).createClientTimers
          answers.timers with
      | error failed =>
          rw [made] at created
          exact absurd rfl created
      | ok next =>
          rw [made] at owned
          obtain ⟨sorted, noOmit, front, timer, rest, statsTimer, parts, isTimer, isStats, usecs,
            statsUsecs⟩ := createClientTimers_parts initial (starts.clock value answers message)
              starts.statsInterval starts.noOmit starts.duration made
          rw [Checked.ok_bind] at owned ⊢
          unfold createClientOmitTimer at owned ⊢
          rw [if_pos noOmit] at owned ⊢
          refine ⟨front, timer, rest, statsTimer, ⟨owned, sorted, ?_, ?_, ?_, usecs, statsUsecs,
            le_rfl, parts⟩, fun now id isNext => ?_⟩
          · exact Function.update_self TimerField.omitTimer none next.field
          · have other : TimerField.timer ≠ .omitTimer := by decide
            exact (Function.update_of_ne other none next.field).trans isTimer
          · have other : TimerField.statsTimer ≠ .omitTimer := by decide
            exact (Function.update_of_ne other none next.field).trans isStats
          · dsimp only at isNext
            split at isNext <;> cases isNext

-----------------------------------------------------------------------------------------
-- Reports
-----------------------------------------------------------------------------------------

/-- The calls of `reporter_callback`, each of which dispatches a report to the main queue. -/
def dispatched (calls : List Call) : Nat :=
  calls.countP fun call =>
    match call with
    | .reporterCallback _ => true
    | _ => false

/-- A run from the creation of the timers on, with the progress of the reports that the main queue
has handled; it comes to a report at any time after its dispatch and before the test is freed.
-/
inductive Reports (started : ClientRun) : ClientRun → List ℚ → Prop where
  | start : Reports started started []
  | step {r next : ClientRun} {values : List ℚ} {event : Event}
      (before : Reports started r values) (other : ¬ r.handlesTestStart event)
      (step : Step r event next)
      : Reports started next values
  | handle {r : ClientRun} {values : List ℚ} {value : ℚ} (before : Reports started r values)
      (going : r.point.isFinished = false) (waits : values.length < dispatched r.calls)
      (streams : r.test.streams ≠ []) (shows : r.progress = some value)
      : Reports started r (values ++ [value])

/-- The values so far, none of which is beyond the present one. -/
structure Climbing (c : Countdown) (r : ClientRun) (values : List ℚ) : Prop where
  range : ∀ value ∈ values, 0 ≤ value ∧ value ≤ 1
  ordered : values.Pairwise (· ≤ ·)
  present : r.point.isFinished = false →
    ∃ stage, At c r stage ∧ ∀ value ∈ values, value ≤ c.shown stage

/-- By induction on the run. -/
theorem Reports.climbing {started : ClientRun} {values : List ℚ}
    (reports : Reports started r values)
    (stage : At c started (.counting 1))
    : Climbing c r values := by
  induction reports with
  | start =>
      exact ⟨fun _ absurd => (List.not_mem_nil absurd).elim, .nil, fun _ =>
        ⟨_, stage, fun _ absurd => (List.not_mem_nil absurd).elim⟩⟩
  | @step r next values event before other step ih =>
      refine ⟨ih.range, ih.ordered, fun unfinished => ?_⟩
      obtain ⟨stage, at_, bounded⟩ := ih.present (step.timing other unfinished).1
      obtain ⟨later, atLater, less⟩ := step.stage other unfinished at_
      exact ⟨later, atLater, fun value isOne => (bounded value isOne).trans less⟩
  | @handle r values value before going waits streams shows ih =>
      obtain ⟨stage, at_, bounded⟩ := ih.present going
      obtain rfl : value = c.shown stage := Option.some.inj (shows.symm.trans at_.progress)
      refine ⟨fun other isOne => ?_, ?_, fun _ => ⟨stage, at_, fun other isOne => ?_⟩⟩
      · rcases List.mem_append.mp isOne with earlier | isLast
        · exact ih.range other earlier
        · rw [List.mem_singleton.mp isLast]
          exact at_.shown_range
      · refine List.pairwise_append.mpr ⟨ih.ordered, List.pairwise_singleton .., ?_⟩
        intro earlier isEarlier last isLast
        rw [List.mem_singleton.mp isLast]
        exact bounded earlier isEarlier
      · rcases List.mem_append.mp isOne with earlier | isLast
        · exact bounded other earlier
        · rw [List.mem_singleton.mp isLast]

/-- From the creation of the timers to the end of the run, whatever the main queue handles when:
the progress is there, it lies between 0 and 1, and it never decreases.
-/
theorem progress_climbs {start before : ClientRun} {io : ListenIo} {values : List ℚ}
    (waiting : Waiting start)
    (prelude : Run (fun r event => ¬ r.handlesTestStart event) start before)
    (starts : StartsTest c before io) (reports : Reports (before.listen io) r values)
    : (r.point.isFinished = false → r.progress.isSome)
      ∧ (∀ value ∈ values, 0 ≤ value ∧ value ≤ 1) ∧ values.Pairwise (· ≤ ·) := by
  have unfinished : before.point.isFinished = false := by
    rw [starts.here]
    rfl
  have stage := starts.stage (Run.waiting prelude unfinished waiting)
  have climbing := reports.climbing stage
  refine ⟨fun going => ?_, climbing.range, climbing.ordered⟩
  obtain ⟨stage, at_, -⟩ := climbing.present going
  rw [at_.progress]
  rfl

/-- The event is not a `TEST_START`. -/
def quiet : Event → Bool
  | .listen io =>
      match io.message with
      | .byte value _ => TestState.ofByte value ≠ .testStart
      | _ => true
  | _ => true

theorem not_handles_of_quiet {event : Event} (isQuiet : quiet event = true)
    : ¬ r.handlesTestStart event := by
  cases event with
  | listen io =>
      rintro ⟨readSet, value, answers, -, -, message, start⟩
      unfold quiet at isQuiet
      dsimp only at isQuiet
      rw [message] at isQuiet
      exact of_decide_eq_true isQuiet start
  | _ => exact id

theorem quiet_run {last : ClientRun} {events : List Event}
    (follows : r.follow (fun _ => quiet) events = some last)
    : Run (fun r event => ¬ r.handlesTestStart event) r last :=
  follow_run follows fun _ _ _ isQuiet => not_handles_of_quiet isQuiet

theorem Reports.run {started : ClientRun} {values : List ℚ} (reports : Reports started r values)
    (run : Run (fun r event => ¬ r.handlesTestStart event) r next)
    : Reports started next values := by
  induction run with
  | refl => exact reports
  | tail _ last ih =>
      obtain ⟨event, other, step⟩ := last
      exact ih.step other step

def second (secs : UInt32) : IperfTime := { secs, usecs := 0 }

/-- The timers of the download are created at the first second. -/
def startsAtFirst : ListenIo :=
  {
    now := midnight
    select := .ready [3]
    later := midnight
    message := .byte 1 { initClock := some (second 1), timers := { clock := some (second 1) } }
  }

/-- Ten seconds from the first one on. -/
def tenFromFirst : Countdown where
  base := second 1
  duration := 10
  normal := (by decide : (0 : UInt32).toNat < 1000000)
  positive := by decide
  fits := by decide

/-- The first pass comes two seconds late; each report waits until its timers have fired. -/
theorem progress_climbs_late
    : ∃ before r : ClientRun, Reports (before.listen startsAtFirst) r [1 / 10, 2 / 10]
      ∧ (r.point.isFinished = false → r.progress.isSome)
      ∧ (∀ value ∈ [(1 : ℚ) / 10, 2 / 10], 0 ≤ value ∧ value ≤ 1)
      ∧ [(1 : ℚ) / 10, 2 / 10].Pairwise (· ≤ ·) := by
  let shows (count : Nat) (value : ℚ) (r : ClientRun) : Bool :=
    !r.point.isFinished && count < dispatched r.calls && !r.test.streams.isEmpty
      && r.progress = some value
  let starts (before : ClientRun) : Bool :=
    before.point = .loop && fdIsset before.test.ctrlSck [3]
      && (before.listen startsAtFirst).point ≠ .failing
      && before.test.statsInterval = 1 && before.test.omitPeriod = 0
      && before.test.duration.toInt = 10
  have run : (download.follow (fun _ => quiet)
      [answered, arrives 9 {}, arrives 10 { connections := [{ connected := .ok 4 }] }]).any
      (fun before => starts before
        && ((before.listen startsAtFirst).follow (fun _ => quiet)
          [arrives 2 {}, .threads { created := 1, now := second 3 }, .timer (second 3),
            .timer (second 4)]).any
          (fun first => shows 0 (1 / 10) first
            && (first.follow (fun _ => quiet) [.timer (second 5), .timer (second 6)]).any
              (shows 1 (2 / 10)))) = true := by
    decide +kernel
  obtain ⟨before, prelude, rest⟩ := (Option.any_eq_true _ _).mp run
  obtain ⟨isStart, rest⟩ := Bool.and_eq_true_iff.mp rest
  obtain ⟨first, follows, rest⟩ := (Option.any_eq_true _ _).mp rest
  obtain ⟨showsFirst, rest⟩ := Bool.and_eq_true_iff.mp rest
  obtain ⟨last, followsToo, showsLast⟩ := (Option.any_eq_true _ _).mp rest
  simp only [shows, starts, Bool.and_eq_true, decide_eq_true_eq, Bool.not_eq_true',
    List.isEmpty_eq_false_iff] at isStart showsFirst showsLast
  obtain ⟨⟨⟨⟨⟨here, isReady⟩, created⟩, statsInterval⟩, noOmit⟩, duration⟩ := isStart
  obtain ⟨⟨⟨going, waits⟩, streams⟩, value⟩ := showsFirst
  obtain ⟨⟨⟨goingLast, waitsLast⟩, streamsLast⟩, valueLast⟩ := showsLast
  have handles : before.handlesTestStart (.listen startsAtFirst) :=
    ⟨[3], 1, _, rfl, isReady, rfl, by decide⟩
  have idle : Idle 0 { active := [] } := ⟨.nil, .nil, fun _ absurd => by cases absurd⟩
  have reports : Reports (before.listen startsAtFirst) last [1 / 10, 2 / 10] :=
    ((Reports.start.run (quiet_run follows)).handle going waits streams value).run
      (quiet_run followsToo) |>.handle goingLast waitsLast streamsLast valueLast
  refine ⟨before, last, reports, ?_⟩
  refine @progress_climbs last tenFromFirst _ _ _ _ (appStart_waiting _ idle) (quiet_run prelude)
    ⟨here, handles, created, statsInterval, noOmit, duration, ?_⟩ reports
  intro value answers message
  cases message
  rfl

end ClientRun

end Iperf
