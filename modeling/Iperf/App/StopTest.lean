import Iperf.App.Reports

/-! `stopTest`: the app asks a running test to end by setting `test->done`, and
`create_client_timers` takes the request back.
-/

namespace Iperf

open Checked

namespace ClientRun

variable {r next : ClientRun}

-----------------------------------------------------------------------------------------
-- The functions of the main thread
-----------------------------------------------------------------------------------------

/-- What a request to stop is about: `test->done` and the connection for `TEST_END`. -/
structure Request where
  done : Bool
  ctrlSck : Int

def request (r : ClientRun) : Request := { done := r.test.done, ctrlSck := r.test.ctrlSck }

/-- The client handles `TEST_START` for a test that has a duration. -/
def SetsTimer (r : ClientRun) (event : Event) : Prop :=
  r.handlesTestStart event ∧ r.test.duration ≠ 0

theorem request_extends {test : Test} (extended : Extends r.test test)
    : (r.addStreams test).request = r.request := by
  obtain ⟨added, -, rfl⟩ := extended
  rfl

theorem exchangeResults_request (r : ClientRun) (io : RunMessageIo)
    : (left (r.exchangeResults io)).request = r.request := by
  unfold exchangeResults
  split
  · rfl
  · split
    · rfl
    · next json _ =>
        obtain ⟨_, _, _, _, _, -, shape⟩ := getResults_shape r.test json
        split
        · next taken =>
            rw [taken] at shape
            obtain rfl := shape
            rfl
        · next taken =>
            rw [taken] at shape
            obtain rfl := shape
            rfl

theorem clientEnd_request (r : ClientRun) (sent : Bool)
    : (r.clientEnd sent).request = r.request := by
  unfold clientEnd
  dsimp only
  split_ifs <;> rfl

/-- Only `TEST_START` takes a request back. -/
theorem handleState_request (r : ClientRun) (io : RunMessageIo)
    (other : r.test.state ≠ .testStart)
    : (left (r.handleState io)).request = r.request := by
  unfold handleState
  split
  · split <;> rfl
  · have created := createStreams_extends r.test io.connections
    split
    · next result =>
        rw [result] at created
        exact request_extends created
    · next result =>
        rw [result] at created
        exact request_extends created
  · exact absurd ‹_› other
  · rfl
  · exact exchangeResults_request r io
  · exact clientEnd_request r io.doneSent
  · rfl
  · rfl
  · rfl
  · rfl
  · rfl

theorem arm_request (r : ClientRun) (x : Except Timing Timing)
    : (left (r.arm x)).request = r.request := by
  cases x <;> rfl

/-- Creating the timers keeps the connection, and without a duration the request too. -/
theorem createClientTimers_request (r : ClientRun) (io : TimersIo)
    : (left (r.createClientTimers io)).request = r.request
      ∨ (left (r.createClientTimers io)).request = r.clearTimers.request := by
  unfold createClientTimers
  split
  · exact .inl rfl
  · refine .inr (left_bind request (arm_request ..) fun next => ?_)
    unfold createReportTimers
    exact left_bind request (arm_request ..) fun last => arm_request ..

theorem createClientOmitTimer_request (r : ClientRun) (io : TimersIo)
    : (left (r.createClientOmitTimer io)).request = r.request := by
  unfold createClientOmitTimer
  split
  · rfl
  · split
    · rfl
    · exact arm_request { r with test := { r.test with omitting := true } } _

theorem startTimers_request (r : ClientRun) (io : RunMessageIo)
    : (left (r.startTimers io)).request = r.request
      ∨ (left (r.startTimers io)).request = r.clearTimers.request := by
  unfold startTimers
  split
  · exact .inl rfl
  · next now _ =>
      have omits (next : ClientRun) := createClientOmitTimer_request next io.timers
      rcases createClientTimers_request (r.initTest now) io.timers with same | cleared
      · exact .inl ((left_bind request same omits).trans rfl)
      · exact .inr ((left_bind request cleared omits).trans rfl)

theorem listen_request_left (r : ClientRun) (io : ListenIo)
    : (r.listen io).request = (left (r.receive io)).request := by
  unfold listen
  cases r.receive io <;> rfl

/-- A message keeps the request, or it sets the timers. -/
theorem listen_request (r : ClientRun) (io : ListenIo)
    : (r.listen io).request = r.request
      ∨ r.handlesTestStart (.listen io) ∧ (r.listen io).request = r.clearTimers.request := by
  rw [listen_request_left]
  by_cases handles : r.handlesTestStart (.listen io)
  · obtain ⟨value, answers, -, starts⟩ := receive_testStart handles
    rw [starts]
    rcases startTimers_request ((r.noteProgress io.now).storeState value) answers with
      same | cleared
    · exact .inl (same.trans rfl)
    · exact .inr ⟨handles, cleared.trans rfl⟩
  · refine .inl ?_
    rcases receive_cases r io with
      ⟨error, -, failed⟩ | ⟨now, quiet⟩ | ⟨now, readSet, select, isReady, handed⟩
    · rw [failed]
      rfl
    · rw [quiet]
      rfl
    · rw [handed]
      cases message : io.message with
      | failed => rfl
      | closed => rfl
      | byte value answers =>
          refine handleState_request ((r.noteProgress now).storeState value) answers ?_
          exact fun start => handles ⟨readSet, value, answers, select, isReady, message, start⟩

theorem clearTimers_request (r : ClientRun)
    : r.clearTimers.request
      = { r.request with done := if r.test.duration ≠ 0 then false else r.test.done } :=
  rfl

theorem startThreads_request (r : ClientRun) (io : ThreadsIo)
    : (r.startThreads io).request = r.request := by
  unfold startThreads
  dsimp only
  split_ifs <;> rfl

theorem stopWorkers_request (r : ClientRun) (sender : Bool)
    (failure : Nat → Option ThreadFailure)
    : (left (r.stopWorkers sender failure)).request = r.request := by
  unfold stopWorkers
  dsimp only
  split <;> rfl

theorem join_request (r : ClientRun) (failure : Nat → Option ThreadFailure)
    : (r.join failure).request = r.request := by
  have stopped := stopWorkers_request r false failure
  unfold join
  cases result : r.stopWorkers false failure with
  | error next =>
      rw [result] at stopped
      exact stopped
  | ok next =>
      rw [result] at stopped
      exact stopped

theorem endFailed_request (r : ClientRun) (saved : Int32) (sent : Bool)
    : (r.endFailed saved sent).request = r.request :=
  clientEnd_request { r with iErrno := saved } sent

theorem work_request (r : ClientRun) (position : Nat) (event : WorkerEvent)
    : (r.work position event).request = r.request := by
  obtain ⟨_, _, ⟨_, _, _, _, rfl⟩, goesOn | ⟨_, -, ends⟩⟩ := work_cases r position event
  · rw [goesOn]
    rfl
  · rw [ends]
    rfl

-----------------------------------------------------------------------------------------
-- Timers and the end of a test
-----------------------------------------------------------------------------------------

/-- The connection stays, and so does a request to stop. -/
structure Heeds (r next : ClientRun) : Prop where
  ctrlSck : next.test.ctrlSck = r.test.ctrlSck
  done : r.test.done = true → next.test.done = true

theorem Heeds.of_request (same : next.request = r.request) : Heeds r next where
  ctrlSck := congrArg Request.ctrlSck same
  done := fun stopped => (congrArg Request.done same).trans stopped

theorem Heeds.trans {last : ClientRun} (first : Heeds r next) (second : Heeds next last)
    : Heeds r last where
  ctrlSck := second.ctrlSck.trans first.ctrlSck
  done := second.done ∘ first.done

theorem measure_heeds (r : ClientRun) (reading : IperfTime) : Heeds r (r.measure reading) := by
  obtain ⟨_, _, _, _, shape⟩ := iperfStatsCallback_shape r.test reading
  refine .of_request ?_
  unfold measure request
  rw [shape]

theorem timerProc_heeds (r : ClientRun) (now reading : IperfTime) (field : TimerField)
    : Heeds r (r.timerProc now reading field) := by
  cases field with
  | timer => exact ⟨rfl, fun _ => rfl⟩
  | statsTimer =>
      unfold timerProc
      dsimp only
      split
      · exact .of_request rfl
      · exact measure_heeds r reading
  | reporterTimer =>
      unfold timerProc
      dsimp only
      split <;> exact .of_request rfl
  | omitTimer =>
      exact .of_request rfl

theorem runTimer_heeds (r : ClientRun) (now : IperfTime) (head : Option Nat)
    (reading : IperfTime)
    : Heeds r (r.runTimer now head reading) := by
  unfold runTimer
  split
  · exact .of_request rfl
  · next entry _ =>
      split
      · exact .of_request rfl
      · unfold fireTimer
        dsimp only
        split
        · exact (timerProc_heeds r now reading entry.record.proc).trans (.of_request rfl)
        · exact .of_request rfl

theorem sendTestEnd_heeds (r : ClientRun) (io : CheckIo) : Heeds r (r.sendTestEnd io) := by
  obtain ⟨ctrlSck, done⟩ :=
    measure_heeds { r with test := { r.test with done := true, cpuUtil := io.cpuUtil } } io.reading
  unfold sendTestEnd
  dsimp only
  split_ifs <;> exact ⟨ctrlSck, fun _ => done rfl⟩

theorem check_heeds (r : ClientRun) (io : CheckIo) : Heeds r (r.check io) := by
  have stopped := stopWorkers_request r true io.failure
  unfold check
  split
  · cases result : r.stopWorkers true io.failure with
    | error next =>
        rw [result] at stopped
        exact (Heeds.of_request stopped).trans (.of_request rfl)
    | ok next =>
        rw [result] at stopped
        exact (Heeds.of_request stopped).trans (sendTestEnd_heeds next io)
  · exact .of_request rfl

-----------------------------------------------------------------------------------------
-- Steps
-----------------------------------------------------------------------------------------

/-- `iperf_connect` returns with a connection and does not know of the request. -/
theorem iperfConnect_request {test connected : Test} {io : DialIo}
    (dialed : iperfConnect test io = .ok connected)
    : 0 ≤ connected.ctrlSck ∧ connected.done = test.done := by
  unfold iperfConnect at dialed
  dsimp only at dialed
  obtain ⟨socket, dialed⟩ := guard_eq_ok.mp dialed
  obtain ⟨-, dialed⟩ := guard_eq_ok.mp dialed
  obtain ⟨-, dialed⟩ := guard_eq_ok.mp dialed
  obtain rfl := Except.ok.inj dialed
  unfold iperfConnectSettings
  dsimp only
  split <;> exact ⟨not_lt.mp socket, rfl⟩

theorem connect_done (r : ClientRun) (io : DialIo) (now : IperfTime)
    : (r.connect io now).test.done = r.test.done := by
  unfold connect
  split
  · rfl
  · next dialed => exact (iperfConnect_request dialed).2

/-- One step keeps a request to stop unless it sets the timers, by cases on what happens. -/
theorem Step.keepsStop {event : Event} (step : Step r event next)
    (others : ¬ r.SetsTimer event) (stopped : r.test.done = true)
    : next.test.done = true := by
  cases step with
  | stop running => rfl
  | connect here => exact (connect_done r _ _).trans stopped
  | listen here going =>
      rcases listen_request r _ with same | ⟨handles, cleared⟩
      · exact (Heeds.of_request same).done stopped
      · have untimed : r.test.duration = 0 := by
          by_contra timed
          exact others ⟨handles, timed⟩
        have done := congrArg Request.done (cleared.trans (clearTimers_request r))
        refine done.trans ?_
        dsimp only
        rw [if_neg (fun timed => timed untimed), stopped]
  | leave here done => exact stopped
  | threads here => exact (Heeds.of_request (startThreads_request r _)).done stopped
  | timer here => exact (runTimer_heeds r _ _ _).done stopped
  | check here => exact (check_heeds r _).done stopped
  | join here => exact (Heeds.of_request (join_request r _)).done stopped
  | save here => exact stopped
  | stopAll here => exact stopped
  | endFailed here => exact (Heeds.of_request (endFailed_request r _ _)).done stopped
  | finish here => exact stopped
  | worker lives direction => exact (Heeds.of_request (work_request r _ _)).done stopped

/-- In the loop the client has its control connection. -/
def LinkedAt (ctrlSck : Int) : Point → Prop
  | .loop | .threads | .timers _ _ | .check | .joining => 0 ≤ ctrlSck
  | .connecting | .failing | .stopping _ | .ending _ | .returned _ | .finished _ _ => True

def Linked (r : ClientRun) : Prop := LinkedAt r.test.ctrlSck r.point

theorem linked_of_nonneg (connected : 0 ≤ r.test.ctrlSck) : r.Linked := by
  unfold Linked LinkedAt
  split
  all_goals first | exact connected | trivial

theorem connect_linked (r : ClientRun) (io : DialIo) (now : IperfTime)
    : (r.connect io now).Linked := by
  unfold connect
  split
  · trivial
  · next dialed => exact (iperfConnect_request dialed).1

/-- One step, by cases on what happens. -/
theorem Step.linked {event : Event} (step : Step r event next) (linked : r.Linked)
    : next.Linked := by
  have kept (here : LinkedAt r.test.ctrlSck r.point = (0 ≤ r.test.ctrlSck))
      (same : next.test.ctrlSck = r.test.ctrlSck)
      : next.Linked := by
    unfold Linked at linked
    rw [here] at linked
    exact linked_of_nonneg (same ▸ linked)
  cases step with
  | stop running => exact linked
  | connect here => exact connect_linked r _ _
  | listen here going =>
      refine kept (by rw [here]; rfl) ?_
      rcases listen_request r _ with same | ⟨-, cleared⟩
      · exact (Heeds.of_request same).ctrlSck
      · exact congrArg Request.ctrlSck (cleared.trans (clearTimers_request r))
  | leave here done => exact kept (by rw [here]; rfl) rfl
  | threads here =>
      exact kept (by rw [here]; rfl) (Heeds.of_request (startThreads_request r _)).ctrlSck
  | timer here => exact kept (by rw [here]; rfl) (runTimer_heeds r _ _ _).ctrlSck
  | check here => exact kept (by rw [here]; rfl) (check_heeds r _).ctrlSck
  | join here => exact kept (by rw [here]; rfl) (Heeds.of_request (join_request r _)).ctrlSck
  | save here => trivial
  | stopAll here => trivial
  | endFailed here => trivial
  | finish here => trivial
  | @worker position event lives direction =>
      unfold Linked at linked ⊢
      rw [work_point, (Heeds.of_request (work_request r position event)).ctrlSck]
      exact linked

-----------------------------------------------------------------------------------------
-- Whole runs
-----------------------------------------------------------------------------------------

/-- By induction on the run. -/
theorem Run.stopped {start : ClientRun} (run : Run (fun r event => ¬ r.SetsTimer event) start r)
    (stopped : start.test.done = true)
    : r.test.done = true := by
  induction run with
  | refl => exact stopped
  | tail _ last ih =>
      obtain ⟨event, others, step⟩ := last
      exact step.keepsStop others ih

/-- By induction on the run. -/
theorem Run.linked {allowed : ClientRun → Event → Prop} {start : ClientRun}
    (run : Run allowed start r) (linked : start.Linked)
    : r.Linked := by
  induction run with
  | refl => exact linked
  | tail _ last ih =>
      obtain ⟨event, -, step⟩ := last
      exact step.linked ih

/-- The end check sends `TEST_END`, unless a sending thread cannot be stopped before. -/
def SendsTestEnd (r : ClientRun) (io : CheckIo) : Prop :=
  match r.stopWorkers true io.failure with
  | .error _ => (r.check io).point = .failing
  | .ok _ => (r.check io).test.state = .testEnd
      ∧ (r.check io).point = if io.testEndSent then .loop else .failing

theorem sendTestEnd_sends (io : CheckIo) (connected : 0 ≤ r.test.ctrlSck)
    : (r.sendTestEnd io).test.state = .testEnd
      ∧ (r.sendTestEnd io).point = if io.testEndSent then .loop else .failing := by
  obtain ⟨ctrlSck, -⟩ :=
    measure_heeds { r with test := { r.test with done := true, cpuUtil := io.cpuUtil } } io.reading
  unfold sendTestEnd
  dsimp only
  rw [if_pos (connected.trans_eq ctrlSck.symm)]
  split <;> exact ⟨rfl, rfl⟩

theorem check_sendsTestEnd (io : CheckIo) (connected : 0 ≤ r.test.ctrlSck)
    (done : r.test.done = true) (measuring : r.test.omitting = false)
    : r.SendsTestEnd io := by
  have fulfilled : r.test.fulfilled = true := by simp [Test.fulfilled, done]
  have stopped := stopWorkers_request r true io.failure
  unfold SendsTestEnd check
  rw [if_pos ⟨measuring, fulfilled⟩]
  cases result : r.stopWorkers true io.failure with
  | error next => rfl
  | ok next =>
      rw [result] at stopped
      exact sendTestEnd_sends io (connected.trans_eq (Heeds.of_request stopped).ctrlSck.symm)

/-- In every run of the app in which no test timer is set after `stopTest`, the request stands
until the end, and the next pass in `TEST_RUNNING` outside the omit period sends `TEST_END`.
-/
theorem stopTest_kept (configuration : Configuration) (address : Nat)
    (timers : TimerList.Timers IperfTime TimerRecord) {before stopped after : ClientRun}
    (run : Run (fun _ _ => True) (appStart configuration address timers) before)
    (stop : Step before .stop stopped)
    (later : Run (fun r event => ¬ r.SetsTimer event) stopped after)
    : after.test.done = true
      ∧ ∀ io, after.point = .check → after.test.omitting = false → after.SendsTestEnd io := by
  have done : after.test.done = true := by
    refine Run.stopped later ?_
    cases stop
    rfl
  refine ⟨done, fun io here measuring => ?_⟩
  have linked := Run.linked later (stop.linked (Run.linked run trivial))
  unfold Linked at linked
  rw [here] at linked
  exact check_sendsTestEnd io linked done measuring

-----------------------------------------------------------------------------------------
-- Stops in different phases
-----------------------------------------------------------------------------------------

/-- An upload over one stream. -/
def uploads (duration : Nat) : ClientRun :=
  appStart { duration, streams := 1, type := .upload } 0 { active := [] }

/-- From the connection to the first end check of a test without streams. -/
def reachesCheck : List Event :=
  [
    answered, arrives 1 {}, arrives 2 {}, .threads { created := 0, now := midnight },
    .timer midnight
  ]

/-- Witness: `stopTest` while a test without a duration connects. -/
theorem stopTest_kept_connecting
    : ∃ stopped after, Step (uploads 0) .stop stopped
      ∧ stopped.follow (fun r _ => r.test.duration = 0) reachesCheck = some after
      ∧ after.point = .check ∧ after.SendsTestEnd { reading := midnight } := by
  have stop := Step.stop (r := uploads 0) rfl
  have ends : ({ uploads 0 with test := { (uploads 0).test with done := true } }.follow
      (fun r _ => r.test.duration = 0) reachesCheck).any (fun after : ClientRun =>
        after.point = Point.check ∧ after.test.omitting = false) = true := by
    decide +kernel
  obtain ⟨after, follows, atCheck⟩ := (Option.any_eq_true _ _).mp ends
  obtain ⟨here, measuring⟩ := of_decide_eq_true atCheck
  have later : Run (fun r event => ¬ r.SetsTimer event) _ after := follow_run follows
    fun event _ r untimed sets => sets.2 (of_decide_eq_true untimed)
  have kept := stopTest_kept { duration := 0, streams := 1, type := .upload } 0 { active := [] }
    .refl stop later
  exact ⟨_, after, stop, follows, here, kept.2 { reading := midnight } here measuring⟩

/-- A stop before `TEST_START` of a test with a duration is forgotten. -/
theorem stopTest_lost
    : ¬ ∀ (configuration : Configuration) (address : Nat)
        (timers : TimerList.Timers IperfTime TimerRecord) (before stopped after : ClientRun),
      Run (fun _ _ => True) (appStart configuration address timers) before
      → Step before .stop stopped → Run (fun _ _ => True) stopped after
      → after.test.done = true := by
  intro claim
  have stop := Step.stop (r := uploads 10) rfl
  have ends : ({ uploads 10 with test := { (uploads 10).test with done := true } }.follow
      (fun _ _ => true) (reachesCheck.take 2)).map (fun after : ClientRun => after.test.done)
      = some false := by
    decide +kernel
  obtain ⟨after, follows, forgotten⟩ := Option.map_eq_some_iff.mp ends
  have later : Run (fun _ _ => True) _ after := follow_run follows fun _ _ _ _ => trivial
  have done := claim { duration := 10, streams := 1, type := .upload } 0 { active := [] } _ _ after
    .refl stop later
  rw [forgotten] at done
  cases done

end ClientRun

end Iperf
