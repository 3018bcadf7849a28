import Iperf.App.ReportTimers

/-! The app's report handler over whole runs: when every call of `reporter_callback` finds an
interval in every stream, and a positive duration in the first.
-/

namespace Iperf

open TimerList

namespace ClientRun

-----------------------------------------------------------------------------------------
-- The invariant
-----------------------------------------------------------------------------------------

/-- The clock has advanced since the last reading. -/
def ticks (calls : List Call) (now : IperfTime) : Bool :=
  lastReading calls < now && now.usecs.toNat < 1000000

/-- Every reading of the clock is later than the last one, and no message or failure leads to a
report while a stream has been created since the last statistics.
-/
def timely (r : ClientRun) : Event → Bool
  | .listen io =>
      match io.message with
      | .byte value answers =>
          match TestState.ofByte value with
          | .displayResults | .serverTerminate => measured r.calls
          | .testStart => answers.initClock.all (ticks r.calls)
          | _ => true
      | _ => true
  | .timer reading => ticks r.calls reading
  | .check io => ticks r.calls io.reading
  | .endFailed _ => measured r.calls
  | _ => true

/-- A statistics timer that fires now leaves every stream with an interval, or leaves a test that
is done, for which the reporter timer does nothing.
-/
def Ready (r : ClientRun) : Prop := r.test.done = true ∨ measured r.calls = true

structure Reporting (r : ClientRun) : Prop where
  intervals : r.test.statsInterval = r.reporterInterval
  noOmit : r.test.omitPeriod = 0
  recorded : Recorded r.test.records r.calls
  paired : r.point.isFinished = false → PairedAt r.address r.timers r.Ready r.point

variable {r next : ClientRun}

theorem pairedAt_mono {address : Nat} {timers : Timers IperfTime TimerRecord}
    {ready ready' : Prop} (implies : ready → ready') {point : Point}
    (paired : PairedAt address timers ready point)
    : PairedAt address timers ready' point := by
  cases point with
  | timers now next =>
      rcases paired with aligned | ⟨entry, isNext, flight, isReady⟩
      · exact .inl aligned
      · exact .inr ⟨entry, isNext, flight, implies isReady⟩
  | _ => exact paired

/-- Outside of `tmr_run` the timers are aligned. -/
theorem pairedAt_of_aligned {address : Nat} {timers : Timers IperfTime TimerRecord} {ready : Prop}
    {point : Point} (outside : ∀ now next, point ≠ .timers now next)
    (aligned : Aligned address timers)
    : PairedAt address timers ready point := by
  cases point with
  | timers now next => exact absurd rfl (outside now next)
  | _ => exact aligned

/-- A function that leaves the ledger and the timers alone. -/
theorem Reporting.inert (reporting : r.Reporting) (ledger : next.ledger = r.ledger)
    (paired : next.point.isFinished = false
      → PairedAt next.address next.timers next.Ready next.point)
    : next.Reporting where
  intervals := by
    have stats : next.test.statsInterval = r.test.statsInterval :=
      congrArg Ledger.statsInterval ledger
    have reporter : next.reporterInterval = r.reporterInterval :=
      congrArg Ledger.reporterInterval ledger
    rw [stats, reporter]
    exact reporting.intervals
  noOmit := (congrArg Ledger.omitPeriod ledger : next.test.omitPeriod = _).trans reporting.noOmit
  recorded := by
    have records : next.test.records = r.test.records := congrArg Ledger.records ledger
    have calls : next.calls = r.calls := congrArg Ledger.calls ledger
    rw [records, calls]
    exact reporting.recorded
  paired := paired

theorem aligned_of_timing (timing : next.timing = r.timing) (aligned : Aligned r.address r.timers)
    : Aligned next.address next.timers := by
  have address : next.address = r.address := congrArg Timing.address timing
  have timers : next.timers = r.timers := congrArg Timing.timers timing
  rw [address, timers]
  exact aligned

-----------------------------------------------------------------------------------------
-- Messages
-----------------------------------------------------------------------------------------

/-- What a handler keeps of the invariant; the point is set by its caller. -/
structure Handles (r next : ClientRun) : Prop where
  address : next.address = r.address
  intervals : next.test.statsInterval = r.test.statsInterval
  reporterInterval : next.reporterInterval = r.reporterInterval
  omitPeriod : next.test.omitPeriod = r.test.omitPeriod
  recorded : Recorded next.test.records next.calls
  aligned : Aligned r.address next.timers

theorem Handles.inert (recorded : Recorded r.test.records r.calls)
    (aligned : Aligned r.address r.timers) (ledger : next.ledger = r.ledger)
    (timing : next.timing = r.timing)
    : Handles r next where
  address := congrArg Ledger.address ledger
  intervals := congrArg Ledger.statsInterval ledger
  reporterInterval := congrArg Ledger.reporterInterval ledger
  omitPeriod := congrArg Ledger.omitPeriod ledger
  recorded := by
    have records : next.test.records = r.test.records := congrArg Ledger.records ledger
    have calls : next.calls = r.calls := congrArg Ledger.calls ledger
    rw [records, calls]
    exact recorded
  aligned := by
    have timers : next.timers = r.timers := congrArg Timing.timers timing
    rw [timers]
    exact aligned

/-- New streams stand behind the others. -/
def Extends (test next : Test) : Prop :=
  ∃ added, (∀ sp ∈ added, sp.result = {}) ∧ next = { test with streams := test.streams ++ added }

theorem Extends.refl (test : Test) : Extends test test :=
  ⟨[], fun _ absurd => (List.not_mem_nil absurd).elim, by rw [List.append_nil]⟩

theorem Extends.trans {test middle last : Test} (first : Extends test middle)
    (second : Extends middle last)
    : Extends test last := by
  obtain ⟨added, isNew, rfl⟩ := first
  obtain ⟨added', isNew', rfl⟩ := second
  refine ⟨added ++ added', fun sp isOne => ?_, by rw [List.append_assoc]⟩
  rcases List.mem_append.mp isOne with before | later
  · exact isNew sp before
  · exact isNew' sp later

/-- The test that the creation of streams leaves, whatever it returns. -/
def createdTest {α : Type} (test : α → Test) : Except (Test × IError) α → Test
  | .error (next, _) => next
  | .ok made => test made

/-- By induction on the number of streams to go. -/
theorem createStreamsUntil_extends {sender : Bool} (count : Nat) (test : Test)
    (connections : List ConnectIo)
    : Extends test (createdTest Prod.fst (createStreamsUntil sender count test connections)) := by
  induction count generalizing test connections with
  | zero => exact .refl test
  | succ count ih =>
      cases connections with
      | nil => exact .refl test
      | cons io rest =>
          unfold createStreamsUntil
          split
          · exact .refl test
          · split
            · exact .refl test
            · next s _ _ made created =>
                have one : Extends test made := by
                  unfold iperfNewStream at created
                  split at created
                  · cases created
                  · obtain rfl := Except.ok.inj created
                    refine ⟨[_], fun sp isOne => ?_, rfl⟩
                    rw [List.mem_singleton.mp isOne]
                exact one.trans (ih made rest)

theorem createStreams_extends (test : Test) (connections : List ConnectIo)
    : Extends test (createdTest id (createStreams test connections)) := by
  have mapped (x : Except (Test × IError) (Test × List ConnectIo))
      : createdTest id (x.map Prod.fst) = createdTest Prod.fst x := by
    cases x <;> rfl
  unfold createStreams
  dsimp only
  split
  · have first := @createStreamsUntil_extends true test.numStreams.toInt.toNat test
      connections
    cases made : createStreamsUntil true test.numStreams.toInt.toNat test connections with
    | error failed =>
        rw [made] at first
        exact first
    | ok one =>
        rw [made] at first
        have second := @createStreamsUntil_extends false test.numStreams.toInt.toNat
          one.1 one.2
        simp only [bind, Except.bind]
        cases made' : createStreamsUntil false test.numStreams.toInt.toNat one.1 one.2 with
        | error failed =>
            rw [made'] at second
            exact first.trans second
        | ok two =>
            rw [made'] at second
            exact first.trans second
  · rw [mapped]
    exact createStreamsUntil_extends _ test connections
  · rw [mapped]
    exact createStreamsUntil_extends _ test connections

theorem addStreams_handles (recorded : Recorded r.test.records r.calls)
    (aligned : Aligned r.address r.timers) {test : Test} (extends_ : Extends r.test test)
    : Handles r (r.addStreams test) := by
  obtain ⟨added, isNew, rfl⟩ := extends_
  refine ⟨rfl, rfl, rfl, rfl, ?_, aligned⟩
  refine recorded.addStreams rfl isNew ?_
  rw [List.length_append]
  omega

/-- A report that finds an interval everywhere. -/
theorem clientEnd_handles (recorded : Recorded r.test.records r.calls)
    (aligned : Aligned r.address r.timers) (covered : measured r.calls = true) (sent : Bool)
    : Handles r (r.clientEnd sent) := by
  have reported := recorded.report (recorded.presentable covered)
  unfold clientEnd
  dsimp only
  split_ifs <;> exact ⟨rfl, rfl, rfl, rfl, reported, aligned⟩

theorem startTimers_handles (recorded : Recorded r.test.records r.calls)
    (aligned : Aligned r.address r.timers) (intervals : r.test.statsInterval = r.reporterInterval)
    (noOmit : r.test.omitPeriod = 0) {io : RunMessageIo}
    (tick : io.initClock.all (ticks r.calls) = true)
    : Handles r (left (r.startTimers io)) := by
  have armed := startTimers_aligned aligned intervals noOmit io
  have same : ∀ now, io.initClock = some now →
      (left (r.startTimers io)).ledger = (r.initTest now).ledger := by
    intro now clock
    unfold startTimers
    rw [clock]
    refine left_bind ledger (createClientTimers_ledger ..) fun next => ?_
    unfold createClientOmitTimer
    split
    · rfl
    · split
      · rfl
      · exact arm_ledger { next with test := { next.test with omitting := true } } _
  cases clock : io.initClock with
  | none =>
      have failed : r.startTimers io = .error (r.errno .ieinittest) := by
        unfold startTimers
        rw [clock]
      rw [failed]
      exact .inert recorded aligned rfl rfl
  | some now =>
      have ledger := same now clock
      rw [clock, Option.all_some, ticks, Bool.and_eq_true, decide_eq_true_eq, decide_eq_true_eq]
        at tick
      refine ⟨congrArg Ledger.address ledger, congrArg Ledger.statsInterval ledger,
        congrArg Ledger.reporterInterval ledger, congrArg Ledger.omitPeriod ledger, ?_, armed⟩
      have records : (left (r.startTimers io)).test.records = (iperfInitTest r.test now).records :=
        congrArg Ledger.records ledger
      have calls : (left (r.startTimers io)).calls = r.calls ++ [.startTime now] :=
        congrArg Ledger.calls ledger
      rw [records, calls]
      exact recorded.initTest tick.1 tick.2

/-- A message, by cases on the state that was read. -/
theorem handleState_handles (recorded : Recorded r.test.records r.calls)
    (aligned : Aligned r.address r.timers) (intervals : r.test.statsInterval = r.reporterInterval)
    (noOmit : r.test.omitPeriod = 0) {io : RunMessageIo}
    (reports : r.test.state = .displayResults ∨ r.test.state = .serverTerminate →
      measured r.calls = true)
    (tick : r.test.state = .testStart → io.initClock.all (ticks r.calls) = true)
    : Handles r (left (r.handleState io)) := by
  unfold handleState
  split
  · split <;> exact .inert recorded aligned rfl rfl
  · have created := createStreams_extends r.test io.connections
    split
    · next result =>
        rw [result] at created
        obtain ⟨address, stats, reporter, omits, recorded', aligned'⟩ :=
          addStreams_handles recorded aligned created
        exact ⟨address, stats, reporter, omits, recorded', aligned'⟩
    · next result =>
        rw [result] at created
        exact addStreams_handles recorded aligned created
  · next state => exact startTimers_handles recorded aligned intervals noOmit (tick state)
  · exact .inert recorded aligned rfl rfl
  · exact .inert recorded aligned (exchangeResults_ledger r io) (exchangeResults_timing r io)
  · next state => exact clientEnd_handles recorded aligned (reports (.inl state)) _
  · exact .inert recorded aligned rfl rfl
  · next state =>
      have presentable := recorded.presentable (reports (.inr state))
      refine ⟨rfl, rfl, rfl, rfl, recorded.report ?_, aligned⟩
      exact ⟨presentable.nonempty, presentable.positive⟩
  · exact .inert recorded aligned rfl rfl
  · exact .inert recorded aligned rfl rfl
  · exact .inert recorded aligned rfl rfl

theorem receive_handles (reporting : r.Reporting) (aligned : Aligned r.address r.timers)
    {io : ListenIo} (timely : r.timely (.listen io) = true)
    : Handles r (left (r.receive io)) := by
  have recorded := reporting.recorded
  rcases receive_cases r io with ⟨error, -, failed⟩ | ⟨now, quiet⟩ | ⟨now, -, -, -, handed⟩
  · rw [failed]
    exact .inert recorded aligned rfl rfl
  · rw [quiet]
    exact .inert recorded aligned rfl rfl
  · rw [handed]
    unfold ClientRun.timely at timely
    dsimp only at timely
    cases message : io.message with
    | failed => exact .inert recorded aligned rfl rfl
    | closed => exact .inert recorded aligned rfl rfl
    | byte value answers =>
        rw [message] at timely
        dsimp only at timely
        have handles : Handles ((r.noteProgress now).storeState value)
            (left (((r.noteProgress now).storeState value).handleState answers)) := by
          refine @handleState_handles ((r.noteProgress now).storeState value) recorded aligned
            reporting.intervals reporting.noOmit answers (fun isOne => ?_) (fun isStart => ?_)
          · have state : TestState.ofByte value = .displayResults
              ∨ TestState.ofByte value = .serverTerminate := isOne
            rcases state with state | state
            · rw [state] at timely
              exact timely
            · rw [state] at timely
              exact timely
          · have state : TestState.ofByte value = .testStart := isStart
            rw [state] at timely
            exact timely
        exact ⟨handles.address, handles.intervals, handles.reporterInterval, handles.omitPeriod,
          handles.recorded, handles.aligned⟩

theorem Handles.reporting (reporting : r.Reporting) (handles : Handles r next) (point : Point)
    (outside : ∀ now head, point ≠ .timers now head)
    : Reporting { next with point } where
  intervals := by
    have same : next.test.statsInterval = next.reporterInterval := by
      rw [handles.intervals, handles.reporterInterval]
      exact reporting.intervals
    exact same
  noOmit := handles.omitPeriod.trans reporting.noOmit
  recorded := handles.recorded
  paired := fun _ => pairedAt_of_aligned outside (handles.address ▸ handles.aligned)

theorem listen_reporting (reporting : r.Reporting) (here : r.point = .loop) {io : ListenIo}
    (timely : r.timely (.listen io) = true)
    : (r.listen io).Reporting := by
  have aligned : Aligned r.address r.timers := by
    have paired := reporting.paired (by rw [here]; rfl)
    rw [here] at paired
    exact paired
  have handles := receive_handles reporting aligned timely
  unfold listen
  cases result : r.receive io with
  | error next =>
      rw [result] at handles
      exact handles.reporting reporting .failing (fun _ _ => nofun)
  | ok next =>
      rw [result] at handles
      refine handles.reporting reporting _ (fun _ _ => ?_)
      split <;> nofun

-----------------------------------------------------------------------------------------
-- Timers
-----------------------------------------------------------------------------------------

variable {entry : Entry IperfTime TimerRecord} {now reading : IperfTime}

theorem fireTimer_own_eq (own : entry.record.clientData = r.address) (now reading : IperfTime)
    : r.fireTimer now reading entry = {
        (r.timerProc now reading entry.record.proc) with
        timers := settle (r.timerProc now reading entry.record.proc).timers entry
        point := .timers now (r.timers.successor entry.id)
      } := by
  unfold fireTimer
  rw [if_pos own]

theorem fireTimer_foreign_eq (foreign : entry.record.clientData ≠ r.address)
    (now reading : IperfTime)
    : r.fireTimer now reading entry = {
        r with
        timers := settle r.timers entry
        point := .timers now (r.timers.successor entry.id)
      } := by
  unfold fireTimer
  rw [if_neg foreign]

/-- A statistics timer fires. -/
theorem fireTimer_stats (reporting : r.Reporting) (aligned : Aligned r.address r.timers)
    (isActive : entry ∈ r.timers.active) (isStats : IsStats r.address entry)
    (due : ¬ now < entry.time) (tick : ticks r.calls reading = true)
    : (r.fireTimer now reading entry).Reporting := by
  rw [fireTimer_own_eq isStats.1, isStats.2]
  unfold timerProc
  dsimp only
  by_cases done : r.test.done = true
  · rw [if_pos done]
    exact ⟨reporting.intervals, reporting.noOmit, reporting.recorded, fun _ =>
      aligned.settleStats isActive isStats due (.inl done)⟩
  · rw [if_neg done]
    rw [ticks, Bool.and_eq_true, decide_eq_true_eq, decide_eq_true_eq] at tick
    have covered : measured (r.calls ++ [.statsCallback reading]) = true := by simp [measured]
    have recorded := reporting.recorded.measure tick.1 tick.2
    obtain ⟨_, _, _, _, shape⟩ := iperfStatsCallback_shape r.test reading
    refine ⟨?_, ?_, recorded, fun _ => aligned.settleStats isActive isStats due (.inr covered)⟩
    · have stats : (iperfStatsCallback r.test reading).statsInterval = r.test.statsInterval := by
        rw [shape]
      exact stats.trans reporting.intervals
    · have omits : (iperfStatsCallback r.test reading).omitPeriod = r.test.omitPeriod := by
        rw [shape]
      exact omits.trans reporting.noOmit

/-- A reporter timer fires right behind its statistics timer. -/
theorem fireTimer_reporter (reporting : r.Reporting)
    (flight : InFlight r.address r.timers now entry) (ready : r.Ready)
    : (r.fireTimer now reading entry).Reporting := by
  obtain ⟨aligned, single⟩ := flight.settleReporter
  rw [fireTimer_own_eq flight.isReporter.1, flight.isReporter.2]
  unfold timerProc
  dsimp only
  by_cases done : r.test.done = true
  · rw [if_pos done]
    exact ⟨reporting.intervals, reporting.noOmit, reporting.recorded,
      fun _ => .inl ⟨aligned, single⟩⟩
  · rw [if_neg done]
    have covered : measured r.calls = true := ready.resolve_left done
    have recorded := reporting.recorded.report (reporting.recorded.presentable covered)
    exact ⟨reporting.intervals, reporting.noOmit, recorded, fun _ => .inl ⟨aligned, single⟩⟩

/-- The test timer or a timer of another test fires. -/
theorem fireTimer_single (reporting : r.Reporting) (aligned : Aligned r.address r.timers)
    (isActive : entry ∈ r.timers.active) (noStats : ¬ IsStats r.address entry)
    (noReporter : ¬ IsReporter r.address entry)
    : (r.fireTimer now reading entry).Reporting := by
  have settled := aligned.settleSingle isActive noStats noReporter
  by_cases own : entry.record.clientData = r.address
  · have isTimer : entry.record.proc = .timer := by
      rcases aligned.kinds entry isActive own with ⟨isTimer, -⟩ | ⟨isStats | isReporter, -⟩
      · exact isTimer
      · exact absurd ⟨own, isStats⟩ noStats
      · exact absurd ⟨own, isReporter⟩ noReporter
    rw [fireTimer_own_eq own, isTimer]
    exact ⟨reporting.intervals, reporting.noOmit, reporting.recorded, fun _ => .inl settled⟩
  · rw [fireTimer_foreign_eq own]
    exact ⟨reporting.intervals, reporting.noOmit, reporting.recorded, fun _ => .inl settled⟩

/-- One turn of `tmr_run`. -/
theorem runTimer_reporting (reporting : r.Reporting) {head : Option Nat}
    (here : r.point = .timers now head) (tick : ticks r.calls reading = true)
    : (r.runTimer now head reading).Reporting := by
  have paired := reporting.paired (by rw [here]; rfl)
  rw [here] at paired
  unfold runTimer
  cases found : head.bind r.timers.find with
  | none =>
      refine reporting.inert rfl fun _ => ?_
      rcases paired with ⟨aligned, -⟩ | ⟨entry, rfl, flight, -⟩
      · exact aligned
      · have isFound := flight.wellFormed.find flight.isActive
        rw [Option.bind_some, isFound] at found
        cases found
  | some entry =>
      obtain ⟨id, rfl, isFound⟩ := Option.bind_eq_some_iff.mp found
      obtain ⟨isActive, rfl⟩ := Timers.find_some isFound
      dsimp only
      rcases paired with ⟨aligned, single⟩ | ⟨other, same, flight, ready⟩
      · have noReporter := single entry isActive rfl
        split
        · exact reporting.inert rfl fun _ => aligned
        · next due =>
            by_cases isStats : IsStats r.address entry
            · exact fireTimer_stats reporting aligned isActive isStats due tick
            · exact fireTimer_single reporting aligned isActive isStats noReporter
      · obtain rfl := flight.wellFormed.eq_of_id isActive flight.isActive (Option.some.inj same)
        rw [if_neg (not_lt.mpr flight.due)]
        exact fireTimer_reporter reporting flight ready

-----------------------------------------------------------------------------------------
-- Steps
-----------------------------------------------------------------------------------------

theorem sendTestEnd_reporting (handles : Handles r next) (reporting : r.Reporting) {io : CheckIo}
    (tick : ticks next.calls io.reading = true)
    : (next.sendTestEnd io).Reporting := by
  rw [ticks, Bool.and_eq_true, decide_eq_true_eq, decide_eq_true_eq] at tick
  have recorded := @Recorded.measure { next.test with done := true, cpuUtil := io.cpuUtil }
    next.calls handles.recorded io.reading tick.1 tick.2
  obtain ⟨_, _, _, _, shape⟩ :=
    iperfStatsCallback_shape { next.test with done := true, cpuUtil := io.cpuUtil } io.reading
  let closing := { next with test := { next.test with done := true, cpuUtil := io.cpuUtil } }
  have measured_ : Handles r (closing.measure io.reading) := by
    refine ⟨handles.address, ?_, handles.reporterInterval, ?_, recorded, handles.aligned⟩
    · have stats : (closing.measure io.reading).test.statsInterval = next.test.statsInterval := by
        unfold measure
        rw [shape]
      exact stats.trans handles.intervals
    · have omits : (closing.measure io.reading).test.omitPeriod = next.test.omitPeriod := by
        unfold measure
        rw [shape]
      exact omits.trans handles.omitPeriod
  unfold sendTestEnd
  dsimp only
  let ended := closing.measure io.reading
  have inState (state : TestState) (iErrno : Int32)
      : Handles r { ended with test := { ended.test with state := state }, iErrno := iErrno } :=
    ⟨measured_.address, measured_.intervals, measured_.reporterInterval, measured_.omitPeriod,
      measured_.recorded, measured_.aligned⟩
  split_ifs
  · exact (inState .testEnd ended.iErrno).reporting reporting .loop (fun _ _ => nofun)
  · exact (inState .testEnd IError.iesendmessage.code).reporting reporting .failing
      (fun _ _ => nofun)
  · exact measured_.reporting reporting .loop (fun _ _ => nofun)

theorem check_reporting (reporting : r.Reporting) (here : r.point = .check) {io : CheckIo}
    (tick : ticks r.calls io.reading = true)
    : (r.check io).Reporting := by
  have aligned : Aligned r.address r.timers := by
    have paired := reporting.paired (by rw [here]; rfl)
    rw [here] at paired
    exact paired
  have ledger := stopWorkers_ledger r true io.failure
  have timing := stopWorkers_timing r true io.failure
  unfold check
  split
  · cases result : r.stopWorkers true io.failure with
    | error next =>
        rw [result] at ledger timing
        exact (Handles.inert reporting.recorded aligned ledger timing).reporting reporting .failing
          (fun _ _ => nofun)
    | ok next =>
        rw [result] at ledger timing
        have calls : next.calls = r.calls := congrArg Ledger.calls ledger
        exact sendTestEnd_reporting (Handles.inert reporting.recorded aligned ledger timing)
          reporting (calls ▸ tick)
  · exact reporting.inert rfl fun _ => aligned

theorem work_done (r : ClientRun) (position : Nat) (event : WorkerEvent)
    : (r.work position event).test.done = r.test.done := by
  obtain ⟨_, _, ⟨_, _, _, _, rfl⟩, goesOn | ⟨_, -, ends⟩⟩ := work_cases r position event
  · rw [goesOn]
  · rw [ends]
    rfl

theorem work_reporting (reporting : r.Reporting) (position : Nat) (event : WorkerEvent)
    : (r.work position event).Reporting := by
  have ledger := work_ledger r position event
  have timing := work_timing r position event
  have point := work_point r position event
  have calls : (r.work position event).calls = r.calls := congrArg Ledger.calls ledger
  have address : (r.work position event).address = r.address := congrArg Timing.address timing
  have timers : (r.work position event).timers = r.timers := congrArg Timing.timers timing
  refine reporting.inert ledger fun unfinished => ?_
  unfold Ready
  rw [point] at unfinished
  rw [point, calls, address, timers, work_done r position event]
  exact reporting.paired unfinished

/-- The thread looks at the first timer, which cannot be a reporter timer. -/
theorem startThreads_reporting (reporting : r.Reporting) (here : r.point = .threads)
    (io : ThreadsIo)
    : (r.startThreads io).Reporting := by
  have aligned : Aligned r.address r.timers := by
    have paired := reporting.paired (by rw [here]; rfl)
    rw [here] at paired
    exact paired
  have first : ∀ entry ∈ r.timers.active,
      r.timers.active.head?.map Entry.id = some entry.id → ¬ IsReporter r.address entry := by
    refine next_unmoved aligned.wellFormed (fun other isOne => isOne) fun head isHead => ?_
    have chained := aligned.chained
    cases active : r.timers.active with
    | nil =>
        rw [active] at isHead
        cases isHead
    | cons entry rest =>
        rw [active] at isHead chained
        cases isHead
        intro isReporter
        obtain ⟨leader, ⟨⟩, -⟩ := chained.1 isReporter
  have ledger := startThreads_ledger r io
  refine reporting.inert ledger fun _ => ?_
  unfold startThreads
  dsimp only
  split_ifs
  · exact aligned
  · exact aligned
  · exact aligned
  · exact .inl ⟨aligned, first⟩
  · exact .inl ⟨aligned, first⟩

/-- One step, by cases on what happens. -/
theorem Step.reporting {event : Event} (step : Step r event next) (reporting : r.Reporting)
    (timely : r.timely event = true)
    : next.Reporting := by
  have alignedAt {point : Point} (here : r.point = point) (unfinished : point.isFinished = false)
      (outside : ∀ now head, point ≠ .timers now head) : Aligned r.address r.timers := by
    have paired := reporting.paired (by rw [here]; exact unfinished)
    rw [here] at paired
    cases point with
    | timers now head => exact absurd rfl (outside now head)
    | finished _ _ => cases unfinished
    | _ => exact paired
  cases step with
  | stop running =>
      refine reporting.inert rfl fun _ => ?_
      exact pairedAt_mono (fun _ => .inl rfl) (reporting.paired running)
  | @connect io now here =>
      have aligned := alignedAt here rfl (fun _ _ => nofun)
      refine reporting.inert (connect_ledger r io now) fun _ => pairedAt_of_aligned ?_
        (aligned_of_timing (connect_timing r io now) aligned)
      unfold ClientRun.connect
      split <;> exact fun _ _ => nofun
  | listen here going => exact listen_reporting reporting here timely
  | leave here done =>
      exact reporting.inert rfl fun _ => alignedAt here rfl (fun _ _ => nofun)
  | threads here => exact startThreads_reporting reporting here _
  | timer here => exact runTimer_reporting reporting here timely
  | check here => exact check_reporting reporting here timely
  | @join failure here =>
      have aligned := alignedAt here rfl (fun _ _ => nofun)
      refine reporting.inert (join_ledger r failure) fun _ => pairedAt_of_aligned ?_
        (aligned_of_timing (join_timing r failure) aligned)
      unfold ClientRun.join
      split <;> exact fun _ _ => nofun
  | save here => exact reporting.inert rfl fun _ => alignedAt here rfl (fun _ _ => nofun)
  | @stopAll failure saved here =>
      exact reporting.inert (stopAll_ledger r failure saved) fun _ =>
        alignedAt here rfl (fun _ _ => nofun)
  | @endFailed sent saved here =>
      have aligned := alignedAt here rfl (fun _ _ => nofun)
      have handles :=
        @clientEnd_handles { r with iErrno := saved } reporting.recorded aligned timely
        sent
      exact Handles.reporting reporting ⟨handles.address, handles.intervals,
        handles.reporterInterval, handles.omitPeriod, handles.recorded, handles.aligned⟩
        (.returned (-1)) (fun _ _ => nofun)
  | finish here => exact reporting.inert rfl nofun
  | worker lives direction => exact work_reporting reporting _ _

/-- The process has no timer of the new test, and its list is in order. -/
structure Idle (address : Nat) (timers : Timers IperfTime TimerRecord) : Prop where
  wellFormed : timers.WellFormed
  sorted : Sorted timers.active
  foreign : ∀ entry ∈ timers.active, entry.record.clientData ≠ address

theorem appStart_reporting {configuration : Configuration} {address : Nat}
    {timers : Timers IperfTime TimerRecord} (idle : Idle address timers)
    : (appStart configuration address timers).Reporting := by
  have streams : (startTest configuration).streams = [] := by
    unfold startTest
    cases configuration.type <;> rfl
  have stats : (startTest configuration).statsInterval = 1 := by
    unfold startTest
    cases configuration.type <;> rfl
  have omits : (startTest configuration).omitPeriod = 0 := by
    unfold startTest
    cases configuration.type <;> rfl
  have records : (startTest configuration).records = [] := by
    unfold Test.records
    rw [streams]
    rfl
  refine ⟨stats, omits, ?_, fun _ => ?_⟩
  · refine (congrArg (Recorded · []) records).mpr
        ⟨fun _ absurd => ?_, fun _ _ absurd => ?_, fun _ absurd => ?_⟩
    · cases absurd
    · cases absurd
    · cases absurd
  · refine ⟨⟨idle.wellFormed, idle.sorted, fun entry isActive own => ?_⟩, ?_⟩
    · exact absurd own (idle.foreign entry isActive)
    · have noFollower {list : List (Entry IperfTime TimerRecord)}
          {previous : Option (Entry IperfTime TimerRecord)}
          (foreign : ∀ entry ∈ list, entry.record.clientData ≠ address)
          : Chained (Leads address) (IsReporter address) previous list := by
        induction list generalizing previous with
        | nil => trivial
        | cons head rest ih =>
            refine ⟨fun isReporter => absurd isReporter.1 (foreign head List.mem_cons_self), ?_⟩
            exact ih fun entry isOne => foreign entry (List.mem_cons_of_mem _ isOne)
      exact noFollower idle.foreign

/-- Whenever `reporter_callback` is called, every stream has an interval, and the last one of the
first stream took some time.
-/
theorem reports_are_presentable (configuration : Configuration) {address : Nat}
    {timers : Timers IperfTime TimerRecord} (idle : Idle address timers)
    (run : Run (fun r event => r.timely event = true) (appStart configuration address timers) r)
    : ∀ test, .reporterCallback test ∈ r.calls → Presentable test := by
  have reporting : r.Reporting := by
    induction run with
    | refl => exact appStart_reporting idle
    | tail _ last ih =>
        obtain ⟨event, timely, step⟩ := last
        exact step.reporting ih timely
  exact reporting.recorded.reported

/-- The stream is created at midnight and measured two seconds later. -/
def measuredRun : List Event :=
  let second (secs : UInt32) : IperfTime := { secs, usecs := 0 }
  [
    answered, arrives 9 {}, arrives 10 { connections := [{ connected := .ok 4 }] },
    arrives 1 { initClock := some (second 1), timers := { clock := some (second 1) } },
    arrives 2 {}, .threads { created := 1, now := second 3 }, .timer (second 3), .timer (second 4)
  ]

/-- The theorem at a run in which the two timers fire once. -/
theorem reports_of_measured_run
    : ∃ r, download.follow timely measuredRun = some r
      ∧ ∃ test, .reporterCallback test ∈ r.calls ∧ test.streams ≠ [] ∧ Presentable test := by
  have reports : (download.follow timely measuredRun).any (fun r => r.calls.any fun call =>
      match call with
      | .reporterCallback test => !test.streams.isEmpty
      | _ => false) = true := by
    decide +kernel
  obtain ⟨r, follows, one⟩ := (Option.any_eq_true _ _).mp reports
  obtain ⟨call, isCall, one⟩ := List.any_eq_true.mp one
  cases call with
  | reporterCallback test =>
      refine ⟨r, follows, test, isCall, by simpa using one, ?_⟩
      have idle : Idle 0 { active := [] } :=
        ⟨.nil, .nil, fun _ absurd => by cases absurd⟩
      have run : Run (fun r event => r.timely event = true) download r :=
        follow_run follows fun _ _ _ passes => passes
      exact reports_are_presentable _ idle run test isCall
  | _ => cases one

/-- The second connection of an upload over two streams fails. -/
def halfCreated : List Event :=
  [
    answered, arrives 9 {},
    arrives 10
        { connections := [{ connected := .ok 4 }, { connected := .error .iestreamconnect }] },
    .save, .stopAll (fun _ => none), .endFailed true
  ]

/-- The report of the failed run finds a stream without an interval. -/
theorem report_can_miss_interval
    : ∃ r, Run (fun _ _ => True)
        (appStart { duration := 10, streams := 2, type := .upload } 0 { active := [] }) r
      ∧ ∃ test, .reporterCallback test ∈ r.calls ∧ ¬ Presentable test := by
  have reports : ((appStart { duration := 10, streams := 2, type := .upload } 0
      { active := [] }).follow
      (fun _ _ => true) halfCreated).any (fun r => r.calls.any fun call =>
      match call with
      | .reporterCallback test => test.streams.any fun sp => sp.result.intervalResults.isEmpty
      | _ => false) = true := by
    decide +kernel
  obtain ⟨r, follows, one⟩ := (Option.any_eq_true _ _).mp reports
  obtain ⟨call, isCall, one⟩ := List.any_eq_true.mp one
  cases call with
  | reporterCallback test =>
      obtain ⟨sp, isOne, isEmpty⟩ := List.any_eq_true.mp one
      refine ⟨r, follow_run follows fun _ _ _ _ => trivial, test, isCall, fun presentable => ?_⟩
      exact presentable.nonempty sp isOne (List.isEmpty_iff.mp isEmpty)
  | _ => cases one

end ClientRun

end Iperf
