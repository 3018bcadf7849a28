import Iperf.App.ClientRun

/-! The timers of a client and the four fields of its test that point to them, over whole runs
and up to the end of the test.
-/

namespace Iperf

open TimerList

namespace ClientRun

-----------------------------------------------------------------------------------------
-- The steps that leave the timers alone
-----------------------------------------------------------------------------------------

/-- The state that a function of the source leaves, whatever it returns. -/
def left : Except ClientRun ClientRun → ClientRun
  | .error r => r
  | .ok r => r

variable {r : ClientRun}

/-- A sequence of functions that leave a part of the client alone. -/
theorem left_bind {α : Type} (part : ClientRun → α) {x : Except ClientRun ClientRun}
    {f : ClientRun → Except ClientRun ClientRun} (first : part (left x) = part r)
    (second : ∀ next : ClientRun, part (left (f next)) = part next)
    : part (left (x >>= f)) = part r := by
  cases x with
  | error next => exact first
  | ok next => exact (second next).trans first

theorem clientEnd_timing (r : ClientRun) (sent : Bool) : (r.clientEnd sent).timing = r.timing := by
  unfold clientEnd
  dsimp only
  split_ifs <;> rfl

theorem exchangeResults_timing (r : ClientRun) (io : RunMessageIo)
    : (left (r.exchangeResults io)).timing = r.timing := by
  unfold exchangeResults
  split
  · rfl
  · split
    · rfl
    · split <;> rfl

/-- Only `TEST_START` touches the timers. -/
theorem handleState_timing (r : ClientRun) (io : RunMessageIo) (other : r.test.state ≠ .testStart)
    : (left (r.handleState io)).timing = r.timing := by
  unfold handleState
  split
  · split <;> rfl
  · split <;> rfl
  · exact absurd ‹_› other
  · rfl
  · exact exchangeResults_timing r io
  · exact clientEnd_timing r io.doneSent
  · rfl
  · rfl
  · rfl
  · rfl
  · rfl

theorem handleState_testStart (start : r.test.state = .testStart) (io : RunMessageIo)
    : r.handleState io = r.startTimers io := by
  unfold handleState
  rw [start]

theorem connect_timing (r : ClientRun) (io : DialIo) (now : IperfTime)
    : (r.connect io now).timing = r.timing := by
  unfold connect
  split <;> rfl

theorem startThreads_timing (r : ClientRun) (io : ThreadsIo)
    : (r.startThreads io).timing = r.timing := by
  unfold startThreads
  dsimp only
  split_ifs <;> rfl

theorem stopWorkers_timing (r : ClientRun) (sender : Bool)
    (failure : Nat → Option ThreadFailure)
    : (left (r.stopWorkers sender failure)).timing = r.timing := by
  unfold stopWorkers
  dsimp only
  split <;> rfl

theorem sendTestEnd_timing (r : ClientRun) (io : CheckIo)
    : (r.sendTestEnd io).timing = r.timing := by
  unfold sendTestEnd
  dsimp only
  split_ifs <;> rfl

theorem check_timing (r : ClientRun) (io : CheckIo) : (r.check io).timing = r.timing := by
  have stopped := stopWorkers_timing r true io.failure
  unfold check
  split
  · cases result : r.stopWorkers true io.failure with
    | error next =>
        rw [result] at stopped
        exact stopped
    | ok next =>
        rw [result] at stopped
        exact (sendTestEnd_timing next io).trans stopped
  · rfl

/-- Joining stops the receiving workers and goes on somewhere else. -/
theorem join_eq (r : ClientRun) (failure : Nat → Option ThreadFailure)
    : ∃ point, r.join failure = { left (r.stopWorkers false failure) with point } := by
  unfold join
  cases r.stopWorkers false failure <;> exact ⟨_, rfl⟩

theorem join_timing (r : ClientRun) (failure : Nat → Option ThreadFailure)
    : (r.join failure).timing = r.timing := by
  obtain ⟨_, shape⟩ := join_eq r failure
  rw [shape]
  exact stopWorkers_timing r false failure

theorem work_timing (r : ClientRun) (position : Nat) (event : WorkerEvent)
    : (r.work position event).timing = r.timing := by
  obtain ⟨_, _, -, goesOn | ⟨_, -, ends⟩⟩ := work_cases r position event
  · rw [goesOn]
    rfl
  · rw [ends]
    rfl

-----------------------------------------------------------------------------------------
-- The steps of an unfinished run
-----------------------------------------------------------------------------------------

theorem connect_unfinished (r : ClientRun) (io : DialIo) (now : IperfTime)
    : (r.connect io now).point.isFinished = false := by
  unfold connect
  split <;> rfl

theorem listen_unfinished (r : ClientRun) (io : ListenIo)
    : (r.listen io).point.isFinished = false := by
  unfold listen
  split
  · rfl
  · dsimp only
    split <;> rfl

theorem startThreads_unfinished (r : ClientRun) (io : ThreadsIo)
    : (r.startThreads io).point.isFinished = false := by
  unfold startThreads
  dsimp only
  split_ifs <;> rfl

theorem runTimer_unfinished (r : ClientRun) (now : IperfTime) (next : Option Nat)
    (reading : IperfTime)
    : (r.runTimer now next reading).point.isFinished = false := by
  unfold runTimer
  split
  · rfl
  · split <;> rfl

theorem check_unfinished (r : ClientRun) (io : CheckIo)
    : (r.check io).point.isFinished = false := by
  unfold check
  split
  · split
    · rfl
    · unfold sendTestEnd
      dsimp only
      split_ifs <;> rfl
  · rfl

theorem join_unfinished (r : ClientRun) (failure : Nat → Option ThreadFailure)
    : (r.join failure).point.isFinished = false := by
  unfold join
  split <;> rfl

theorem work_point (r : ClientRun) (position : Nat) (event : WorkerEvent)
    : (r.work position event).point = r.point := by
  obtain ⟨_, _, -, goesOn | ⟨_, -, ends⟩⟩ := work_cases r position event
  · rw [goesOn]
  · rw [ends]
    rfl

-----------------------------------------------------------------------------------------
-- `TEST_START`
-----------------------------------------------------------------------------------------

theorem setTiming_timing {t : Timing} (address : t.address = r.address)
    : (r.setTiming t).timing = t := by
  obtain ⟨_, _, _⟩ := t
  obtain rfl := address
  rfl

theorem arm_timing {x : Except Timing Timing} (address : (Timing.left x).address = r.address)
    : (left (r.arm x)).timing = Timing.left x := by
  cases x with
  | error t => exact setTiming_timing address
  | ok t => exact setTiming_timing address

theorem createTimerIf_arming {field : TimerField} {pending : List TimerField}
    (arming : r.timing.Arming (field :: pending)) (others : field ∉ pending) (wanted : Bool)
    (now : IperfTime) (usecs : UInt64) {periodic : Bool} (allocated : Bool)
    (kind : periodic = true ↔ field = .statsTimer ∨ field = .reporterTimer)
    : (left (createTimerIf wanted r now field usecs periodic allocated)).timing.Arming
        pending := by
  unfold createTimerIf
  rw [arm_timing (Timing.createTimerIf_address ..)]
  exact arming.createTimerIf others wanted now usecs allocated kind

/-- A sequence stops where its first part fails. -/
theorem bind_arming {x : Except ClientRun ClientRun} {f : ClientRun → Except ClientRun ClientRun}
    {pending fewer : List TimerField} (arming : (left x).timing.Arming pending)
    (subset : fewer ⊆ pending)
    (continues : ∀ r : ClientRun, r.timing.Arming pending → (left (f r)).timing.Arming fewer)
    : (left (x >>= f)).timing.Arming fewer := by
  cases x with
  | error r => exact arming.mono subset
  | ok r => exact continues r arming

theorem createReportTimers_arming
    (arming : r.timing.Arming [.statsTimer, .reporterTimer, .omitTimer]) (now : IperfTime)
    (io : TimersIo)
    : (left (r.createReportTimers now io)).timing.Arming [.omitTimer] := by
  have kindStats : true = true
      ↔ TimerField.statsTimer = .statsTimer ∨ TimerField.statsTimer = .reporterTimer := by decide
  have kindReporter : true = true
      ↔ TimerField.reporterTimer = .statsTimer ∨ TimerField.reporterTimer = .reporterTimer := by
    decide
  unfold createReportTimers
  refine bind_arming (createTimerIf_arming arming (by decide) _ now _ _ kindStats) (by simp) ?_
  intro r arming
  exact createTimerIf_arming arming (by decide) _ now _ _ kindReporter

theorem createClientTimers_arming
    (arming : r.timing.Arming [.timer, .statsTimer, .reporterTimer, .omitTimer]) (io : TimersIo)
    : (left (r.createClientTimers io)).timing.Arming [.omitTimer] := by
  have timer := arming.unset .timer (by simp)
  have statsTimer := arming.unset .statsTimer (by simp)
  have reporterTimer := arming.unset .reporterTimer (by simp)
  have kindTimer : false = true
      ↔ TimerField.timer = .statsTimer ∨ TimerField.timer = .reporterTimer :=
    by decide
  unfold createClientTimers
  split
  · exact arming.mono (by simp)
  · next now clock =>
      have same : r.clearTimers.timing = r.timing := by
        have cleared : r.clearTimers.timing
            = ((r.timing.setField .timer none).setField .statsTimer none).setField .reporterTimer
              none := rfl
        rw [cleared, Timing.setField_of_unset timer, Timing.setField_of_unset statsTimer,
          Timing.setField_of_unset reporterTimer]
      have ready : r.clearTimers.timing.Arming [.timer, .statsTimer, .reporterTimer,
        .omitTimer] := by
        rw [same]
        exact arming
      refine bind_arming (createTimerIf_arming ready (by decide) _ now _ _ kindTimer) (by simp) ?_
      intro r arming
      exact createReportTimers_arming arming now io

theorem createClientOmitTimer_arming (arming : r.timing.Arming [.omitTimer]) (io : TimersIo)
    : (left (r.createClientOmitTimer io)).timing.Arming [] := by
  unfold createClientOmitTimer
  split
  · have unset := Timing.setField_of_unset (arming.unset .omitTimer (by simp))
    refine (?_ : (r.timing.setField .omitTimer none).Arming [])
    rw [unset]
    exact arming.mono (List.nil_subset _)
  · split
    · exact arming.mono (List.nil_subset _)
    · rw [arm_timing (Timing.createTimer_address ..)]
      exact arming.createTimer (by decide) _ _ _ (by decide)

theorem startTimers_owned (owned : r.timing.Owned none) (unset : ∀ field, r.field field = none)
    (io : RunMessageIo)
    : (left (r.startTimers io)).timing.Owned none := by
  unfold startTimers
  split
  · exact owned
  · next now clock =>
      have ready : (r.initTest now).timing.Arming
          [.timer, .statsTimer, .reporterTimer, .omitTimer] := ⟨owned, fun field _ => unset field⟩
      refine (bind_arming (createClientTimers_arming ready io.timers) (List.nil_subset _) ?_).owned
      intro r arming
      exact createClientOmitTimer_arming arming io.timers

-----------------------------------------------------------------------------------------
-- Expired timers
-----------------------------------------------------------------------------------------

theorem timerProc_timing (r : ClientRun) (now reading : IperfTime) (field : TimerField)
    : (r.timerProc now reading field).timing = r.timing.runProc now field := by
  unfold timerProc
  cases field with
  | timer => rfl
  | statsTimer =>
      dsimp only
      split <;> rfl
  | reporterTimer =>
      dsimp only
      split <;> rfl
  | omitTimer =>
      refine setTiming_timing ?_
      rw [Timing.resetTimer_address, Timing.resetTimer_address]
      rfl

theorem fireTimer_timing (r : ClientRun) (now reading : IperfTime)
    (entry : Entry IperfTime TimerRecord)
    : (r.fireTimer now reading entry).timing = r.timing.fire now entry := by
  unfold fireTimer Timing.fire
  dsimp only
  by_cases own : entry.record.clientData = r.address
  · have ownTiming : entry.record.clientData = r.timing.address := own
    rw [if_pos own, if_pos ownTiming, ← timerProc_timing r now reading]
    rfl
  · have foreign : ¬ entry.record.clientData = r.timing.address := own
    rw [if_neg own, if_neg foreign]
    rfl

theorem runTimer_owned (owned : r.timing.Owned none) (now : IperfTime) (next : Option Nat)
    (reading : IperfTime)
    : (r.runTimer now next reading).timing.Owned none := by
  unfold runTimer
  split
  · exact owned
  · next entry found =>
      split
      · exact owned
      · obtain ⟨id, -, isFound⟩ := Option.bind_eq_some_iff.mp found
        rw [fireTimer_timing]
        exact owned.fire (Timers.find_some isFound).1 now

-----------------------------------------------------------------------------------------
-- Runs
-----------------------------------------------------------------------------------------

/-- The client reads a `TEST_START` and handles it. -/
def handlesTestStart (r : ClientRun) : Event → Prop
  | .listen io =>
      ∃ readSet value answers, io.select = .ready readSet ∧ fdIsset r.test.ctrlSck readSet
        ∧ io.message = .byte value answers ∧ TestState.ofByte value = .testStart
  | _ => False

/-- `TEST_START` is handled only while all four timer fields are `NULL`. -/
def StartsUnarmed (r : ClientRun) (event : Event) : Prop :=
  r.handlesTestStart event → ∀ field, r.field field = none

/-- A `TEST_START` is handed to its handler, which starts with the timers. -/
theorem receive_testStart {io : ListenIo} (handles : r.handlesTestStart (.listen io))
    : ∃ value answers, io.message = .byte value answers
      ∧ r.receive io = ((r.noteProgress io.now).storeState value).startTimers answers := by
  obtain ⟨readSet, value, answers, select, isReady, message, start⟩ := handles
  refine ⟨value, answers, message, ?_⟩
  have handed : r.receive io = (r.noteProgress io.now).handleMessage io.message := by
    unfold receive
    rw [select]
    dsimp only
    exact if_pos isReady
  rw [handed, message]
  exact handleState_testStart start answers

theorem listen_left (r : ClientRun) (io : ListenIo)
    : (r.listen io).timing = (left (r.receive io)).timing := by
  unfold listen
  cases r.receive io <;> rfl

/-- A message other than `TEST_START` leaves the timers alone. -/
theorem listen_timing {io : ListenIo} (other : ¬ r.handlesTestStart (.listen io))
    : (r.listen io).timing = r.timing := by
  rw [listen_left]
  rcases receive_cases r io with
      ⟨error, -, failed⟩ | ⟨now, quiet⟩ | ⟨now, readSet, select, isReady, handed⟩
  · rw [failed]
    rfl
  · rw [quiet]
    rfl
  · rw [handed]
    cases message : io.message with
    | failed => rfl
    | closed => rfl
    | byte value answers =>
        refine handleState_timing ((r.noteProgress now).storeState value) answers ?_
        exact fun start => other ⟨readSet, value, answers, select, isReady, message, start⟩

theorem listen_owned (owned : r.timing.Owned none) {io : ListenIo}
    (starts : r.StartsUnarmed (.listen io))
    : (r.listen io).timing.Owned none := by
  by_cases handles : r.handlesTestStart (.listen io)
  · obtain ⟨value, answers, -, arms⟩ := receive_testStart handles
    rw [listen_left, arms]
    exact @startTimers_owned ((r.noteProgress io.now).storeState value) owned (starts handles)
      answers
  · rw [listen_timing handles]
    exact owned

/-- The timers that no field points to are left. -/
theorem mem_freeTimers {entry : Entry IperfTime TimerRecord}
    (isLeft : entry ∈ r.freeTimers.active)
    : entry ∈ r.timers.active ∧ ∀ field, r.field field ≠ some entry.id := by
  have cancelled (fields : List TimerField) (timers : Timers IperfTime TimerRecord)
      (isLeft : entry ∈ (fields.foldl
        (fun timers field => (r.field field).elim timers timers.cancel) timers).active)
      : entry ∈ timers.active ∧ ∀ field ∈ fields, r.field field ≠ some entry.id := by
    induction fields generalizing timers with
    | nil => exact ⟨isLeft, nofun⟩
    | cons field rest ih =>
        obtain ⟨isActive, others⟩ := ih _ isLeft
        dsimp only at isActive
        cases points : r.field field with
        | none =>
            rw [points] at isActive
            refine ⟨isActive, fun other isOne => ?_⟩
            rcases List.mem_cons.mp isOne with rfl | later
            · rw [points]
              nofun
            · exact others other later
        | some id =>
            rw [points] at isActive
            obtain ⟨isActive, different⟩ := Timers.mem_cancel.mp isActive
            refine ⟨isActive, fun other isOne => ?_⟩
            rcases List.mem_cons.mp isOne with rfl | later
            · rw [points]
              exact fun same => different (Option.some.inj same).symm
            · exact others other later
  obtain ⟨isActive, all⟩ := cancelled _ _ isLeft
  exact ⟨isActive, fun field => all field (by cases field <;> decide)⟩

/-- Ownership while the test exists, and no timer of it afterwards. -/
structure TimersKept (r : ClientRun) : Prop where
  owned : r.point.isFinished = false → r.timing.Owned none
  gone : r.point.isFinished = true → ∀ entry ∈ r.timers.active, ¬ r.timing.Own entry

theorem timersKept_of_owned (unfinished : r.point.isFinished = false)
    (owned : r.timing.Owned none)
    : r.TimersKept :=
  ⟨fun _ => owned, fun finished => absurd finished (by simp [unfinished])⟩

theorem finish_timersKept (owned : r.timing.Owned none) (result : Int)
    : (r.finish result).TimersKept := by
  refine ⟨nofun, fun _ entry isLeft own => ?_⟩
  obtain ⟨isActive, others⟩ := mem_freeTimers isLeft
  exact others _ (owned.owner entry isActive own nofun)

/-- One step, by cases on what happens. -/
theorem Step.timersKept {event : Event} {next : ClientRun} (step : Step r event next)
    (kept : r.TimersKept) (starts : r.StartsUnarmed event)
    : next.TimersKept := by
  cases step with
  | stop running => exact timersKept_of_owned running (kept.owned running)
  | connect here =>
      refine timersKept_of_owned (connect_unfinished ..) ?_
      rw [connect_timing]
      exact kept.owned (by rw [here]; rfl)
  | listen here going =>
      exact timersKept_of_owned (listen_unfinished ..)
        (listen_owned (kept.owned (by rw [here]; rfl)) starts)
  | leave here done => exact timersKept_of_owned rfl (kept.owned (by rw [here]; rfl))
  | threads here =>
      refine timersKept_of_owned (startThreads_unfinished ..) ?_
      rw [startThreads_timing]
      exact kept.owned (by rw [here]; rfl)
  | timer here =>
      exact timersKept_of_owned (runTimer_unfinished ..)
        (runTimer_owned (kept.owned (by rw [here]; rfl)) _ _ _)
  | check here =>
      refine timersKept_of_owned (check_unfinished ..) ?_
      rw [check_timing]
      exact kept.owned (by rw [here]; rfl)
  | join here =>
      refine timersKept_of_owned (join_unfinished ..) ?_
      rw [join_timing]
      exact kept.owned (by rw [here]; rfl)
  | save here => exact timersKept_of_owned rfl (kept.owned (by rw [here]; rfl))
  | stopAll here => exact timersKept_of_owned rfl (kept.owned (by rw [here]; rfl))
  | @endFailed sent saved here =>
      refine timersKept_of_owned rfl ?_
      have same : (r.endFailed saved sent).timing = r.timing :=
        clientEnd_timing { r with iErrno := saved } sent
      rw [same]
      exact kept.owned (by rw [here]; rfl)
  | finish here => exact finish_timersKept (kept.owned (by rw [here]; rfl)) _
  | @worker position event lives direction =>
      have point := work_point r position event
      have same := work_timing r position event
      refine ⟨fun unfinished => ?_, fun finished entry isActive own => ?_⟩
      · rw [same]
        exact kept.owned (point ▸ unfinished)
      · have timers : (r.work position event).timers = r.timers := congrArg Timing.timers same
        exact kept.gone (point ▸ finished) entry (timers ▸ isActive) (same ▸ own)

/-- A test as `iperf_run_client` receives it: no timer of it exists. -/
structure Unarmed (r : ClientRun) : Prop where
  connecting : r.point = .connecting
  unset : ∀ field, r.field field = none
  wellFormed : r.timers.WellFormed
  foreign : ∀ entry ∈ r.timers.active, entry.record.clientData ≠ r.address

theorem Unarmed.timersKept (unarmed : r.Unarmed) : r.TimersKept := by
  refine timersKept_of_owned (by rw [unarmed.connecting]; rfl) ⟨unarmed.wellFormed, ?_, ?_, ?_⟩
  · intro field id points
    have unset : r.timing.field field = none := unarmed.unset field
    rw [unset] at points
    cases points
  · intro entry isActive own
    exact absurd own (unarmed.foreign entry isActive)
  · intro entry isActive own
    exact absurd own (unarmed.foreign entry isActive)

/-- By induction on the run. -/
theorem Run.timersKept {start : ClientRun} (run : Run StartsUnarmed start r)
    (unarmed : start.Unarmed)
    : r.TimersKept := by
  induction run with
  | refl => exact unarmed.timersKept
  | tail _ last ih =>
      obtain ⟨event, starts, step⟩ := last
      exact step.timersKept ih starts

/-- As long as the test exists, each of its active timers is the target of exactly one field and
no field points to the free list; when it has been freed, none of its timers is active.
-/
theorem no_timer_outlives_its_test {start : ClientRun} (unarmed : start.Unarmed)
    (run : Run StartsUnarmed start r)
    : (r.point.isFinished = false →
        (∀ entry ∈ r.timers.active, entry.record.clientData = r.address →
          ∃! field, r.field field = some entry.id)
        ∧ ∀ field id, r.field field = some id → id ∉ r.timers.free)
      ∧ (r.point.isFinished = true →
        ∀ entry ∈ r.timers.active, entry.record.clientData ≠ r.address) := by
  have kept := Run.timersKept run unarmed
  refine ⟨fun unfinished => ⟨?_, ?_⟩, kept.gone⟩
  · intro entry isActive own
    have owned := kept.owned unfinished
    refine ⟨entry.record.proc, owned.owner entry isActive own nofun, ?_⟩
    intro field points
    obtain ⟨-, other, isOther, same, proc, -⟩ := owned.target field entry.id points
    rw [← proc, owned.wellFormed.eq_of_id isOther isActive same]
  · intro field id points
    have owned := kept.owned unfinished
    obtain ⟨-, entry, isActive, rfl, -⟩ := owned.target field id points
    exact owned.wellFormed.not_free isActive

-----------------------------------------------------------------------------------------
-- A second `TEST_START`
-----------------------------------------------------------------------------------------

/-- An upload of ten seconds before it connects, with no timer in the process. -/
def tenSeconds : ClientRun :=
  appStart { duration := 10, streams := 1, type := .upload } 0 { active := [] }

theorem tenSeconds_unarmed : tenSeconds.Unarmed :=
  ⟨rfl, fun _ => rfl, List.nodup_nil, nofun⟩

/-- The control connection is descriptor 3. -/
def tenSecondsConnected : ClientRun :=
  tenSeconds.connect { cookie := [], dialed := 3 } { secs := 0, usecs := 0 }

/-- `select(2)` finds the byte of `TEST_START` on the control connection. -/
def testStartArrives : ListenIo :=
  {
    now := { secs := 0, usecs := 0 }
    select := .ready [3]
    later := { secs := 0, usecs := 0 }
    message := .byte 1 {}
  }

def tenSecondsStarted : ClientRun := tenSecondsConnected.listen testStartArrives

theorem tenSecondsStarted_run {allowed : ClientRun → Event → Prop}
    (first : ∀ io now, allowed tenSeconds (.connect io now))
    (second : allowed tenSecondsConnected (.listen testStartArrives))
    : Run allowed tenSeconds tenSecondsStarted := by
  have connects : Step tenSeconds (.connect { cookie := [], dialed := 3 } { secs := 0, usecs := 0 })
      tenSecondsConnected := .connect rfl
  have starts : Step tenSecondsConnected (.listen testStartArrives) tenSecondsStarted :=
    .listen rfl (by decide +kernel)
  exact (Relation.ReflTransGen.single ⟨_, first _ _, connects⟩).tail ⟨_, second, starts⟩

/-- The theorem at a run that has armed the timers. -/
theorem no_timer_outlives_started_test
    : (∀ entry ∈ tenSecondsStarted.timers.active,
        entry.record.clientData = tenSecondsStarted.address →
        ∃! field, tenSecondsStarted.field field = some entry.id)
      ∧ tenSecondsStarted.timers.active.length = 3 := by
  have run : Run StartsUnarmed tenSeconds tenSecondsStarted :=
    tenSecondsStarted_run (fun _ _ => nofun) (fun _ _ => rfl)
  refine ⟨((no_timer_outlives_its_test tenSeconds_unarmed run).1 ?_).1, ?_⟩
  · decide +kernel
  · decide +kernel

/-- After a second `TEST_START` the first three timers are active and no field points to them.
-/
theorem second_testStart_leaks_timers
    : ∃ r, Run (fun _ _ => True) tenSeconds r ∧ r.point.isFinished = false
      ∧ ∃ entry ∈ r.timers.active, entry.record.clientData = r.address
        ∧ ∀ field, r.field field ≠ some entry.id := by
  have again : Step tenSecondsStarted (.listen testStartArrives)
      (tenSecondsStarted.listen testStartArrives) :=
    .listen (by decide +kernel) (by decide +kernel)
  have run : Run (fun _ _ => True) tenSeconds (tenSecondsStarted.listen testStartArrives) :=
    (tenSecondsStarted_run (fun _ _ => trivial) trivial).tail ⟨_, trivial, again⟩
  refine ⟨_, run, by decide +kernel, ?_⟩
  have leaked : ((tenSecondsStarted.listen testStartArrives).timers.active.any (fun entry =>
      entry.record.clientData = 0
      && [TimerField.timer, .statsTimer, .reporterTimer, .omitTimer].all (fun field =>
        (tenSecondsStarted.listen testStartArrives).field field ≠ some entry.id))) = true := by
    decide +kernel
  obtain ⟨entry, isActive, isLeaked⟩ := List.any_eq_true.mp leaked
  simp only [Bool.and_eq_true, decide_eq_true_eq, List.all_cons, List.all_nil] at isLeaked
  obtain ⟨own, timer, stats, reporter, omit_, -⟩ := isLeaked
  refine ⟨entry, isActive, own.trans (by decide +kernel), fun field => ?_⟩
  cases field with
  | timer => exact timer
  | statsTimer => exact stats
  | reporterTimer => exact reporter
  | omitTimer => exact omit_

end ClientRun

end Iperf
