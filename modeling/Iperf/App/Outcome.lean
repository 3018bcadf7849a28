import Iperf.App.ClientRun
import Iperf.Session.Failures

/-! What the app shows when `iperf_run_client` has returned: the error state is computed from
the global `i_errno`, which the main thread, the workers and the server write.
-/

namespace Iperf

namespace ClientRun

-----------------------------------------------------------------------------------------
-- Error states
-----------------------------------------------------------------------------------------

/-- `IPFTestRunnerErrorStateNoError` is shown for two numbers. -/
theorem errorStateFromIPerfError_eq_zero {error : Int32}
    : errorStateFromIPerfError error = 0 ↔ error = 0 ∨ error = -4 := by
  unfold errorStateFromIPerfError IError.code
  constructor
  · intro shown
    split_ifs at shown with none connect denied
    · exact .inl none
    · cases shown
    · cases shown
    · right
      grind
  · rintro (rfl | rfl) <;> decide

/-- Every error of the program is shown as one. -/
theorem errorState_code_ne_zero (error : IError) (isError : error ≠ .ienone)
    : errorStateFromIPerfError error.code ≠ 0 := by
  cases error with
  | ienone => exact absurd rfl isError
  | _ => decide

theorem setupError_isError (error : SetupError) : error.toIError ≠ .ienone := by
  cases error <;> nofun

theorem ThreadFailure.isError (failure : ThreadFailure) : failure.toIError ≠ .ienone := by
  cases failure <;> nofun

-----------------------------------------------------------------------------------------
-- The functions of the main thread
-----------------------------------------------------------------------------------------

variable {r : ClientRun}

/-- A function that fails has set `i_errno` to something that is shown as an error; one that
succeeds has not touched it.
-/
def Honest (errno : Int32) : Except ClientRun ClientRun → Prop
  | .error next => errorStateFromIPerfError next.iErrno ≠ 0
  | .ok next => next.iErrno = errno

theorem honest_error {errno : Int32} {next : ClientRun} (error : IError)
    (isError : error ≠ .ienone) (sets : next.iErrno = error.code)
    : Honest errno (.error next) := by
  have shown := errorState_code_ne_zero error isError
  rw [← sets] at shown
  exact shown

theorem Honest.andThen {errno : Int32} {x : Except ClientRun ClientRun}
    {f : ClientRun → Except ClientRun ClientRun} (first : Honest errno x)
    (second : ∀ next : ClientRun, next.iErrno = errno → Honest errno (f next))
    : Honest errno (x >>= f) := by
  cases x with
  | error next => exact first
  | ok next => exact second next first

theorem arm_honest (r : ClientRun) (x : Except Timing Timing) : Honest r.iErrno (r.arm x) := by
  cases x with
  | error t => exact honest_error .ieinittest nofun rfl
  | ok t => rfl

theorem createReportTimers_honest (r : ClientRun) (now : IperfTime) (io : TimersIo)
    : Honest r.iErrno (r.createReportTimers now io) := by
  unfold createReportTimers
  refine Honest.andThen (arm_honest ..) ?_
  intro next same
  have reporter := arm_honest next
  rw [same] at reporter
  exact reporter _

theorem createClientTimers_honest (r : ClientRun) (io : TimersIo)
    : Honest r.iErrno (r.createClientTimers io) := by
  unfold createClientTimers
  split
  · exact honest_error .ieinittest nofun rfl
  · refine Honest.andThen (arm_honest ..) ?_
    intro next same
    have reports := createReportTimers_honest next
    rw [same] at reports
    exact reports ..

theorem createClientOmitTimer_honest (r : ClientRun) (io : TimersIo)
    : Honest r.iErrno (r.createClientOmitTimer io) := by
  unfold createClientOmitTimer
  split
  · rfl
  · split
    · exact honest_error .ieinittest nofun rfl
    · exact arm_honest { r with test := { r.test with omitting := true } } _

theorem startTimers_honest (r : ClientRun) (io : RunMessageIo)
    : Honest r.iErrno (r.startTimers io) := by
  unfold startTimers
  split
  · exact honest_error .ieinittest nofun rfl
  · refine Honest.andThen (createClientTimers_honest ..) ?_
    intro next same
    have omits := createClientOmitTimer_honest next io.timers
    rwa [same] at omits

/-- By induction on the number of streams to go. -/
theorem createStreamsUntil_error {sender : Bool} {count : Nat} {test left : Test}
    {connections : List ConnectIo} {error : IError}
    (failed : createStreamsUntil sender count test connections = .error (left, error))
    : error ≠ .ienone := by
  induction count generalizing test connections with
  | zero => cases failed
  | succ count ih =>
      cases connections with
      | nil =>
          obtain ⟨-, rfl⟩ := Prod.mk.inj (Except.error.inj failed)
          nofun
      | cons io rest =>
          unfold createStreamsUntil at failed
          split at failed
          · obtain ⟨-, rfl⟩ := Prod.mk.inj (Except.error.inj failed)
            exact setupError_isError _
          · split at failed
            · next error' new =>
                obtain ⟨-, rfl⟩ := Prod.mk.inj (Except.error.inj failed)
                unfold iperfNewStream at new
                split at new
                · rw [← Except.error.inj new]
                  exact setupError_isError _
                · cases new
            · exact ih failed

theorem createStreams_error {test left : Test} {connections : List ConnectIo} {error : IError}
    (failed : createStreams test connections = .error (left, error))
    : error ≠ .ienone := by
  have mapped {x : Except (Test × IError) (Test × List ConnectIo)}
      (failed : x.map Prod.fst = .error (left, error))
      : x = .error (left, error) := by
    cases x with
    | error _ => exact congrArg _ (Except.error.inj failed)
    | ok _ => cases failed
  unfold createStreams at failed
  dsimp only at failed
  split at failed
  · cases first : createStreamsUntil true test.numStreams.toInt.toNat test connections with
    | error at_ =>
        rw [first] at failed
        exact createStreamsUntil_error (first.trans (congrArg _ (Except.error.inj failed)))
    | ok made =>
        rw [first] at failed
        cases second : createStreamsUntil false test.numStreams.toInt.toNat made.1 made.2 with
        | error at_ =>
            simp only [bind, Except.bind] at failed
            rw [second] at failed
            exact createStreamsUntil_error (second.trans (congrArg _ (Except.error.inj failed)))
        | ok all =>
            simp only [bind, Except.bind] at failed
            rw [second] at failed
            cases failed
  · exact createStreamsUntil_error (mapped failed)
  · exact createStreamsUntil_error (mapped failed)

theorem exchangeResults_honest (r : ClientRun) (io : RunMessageIo)
    : Honest r.iErrno (r.exchangeResults io) := by
  unfold exchangeResults
  split
  · exact honest_error .iesendresults nofun rfl
  · split
    · exact honest_error .ierecvresults nofun rfl
    · next json _ =>
        split
        · next error test failed =>
            refine honest_error error ?_ rfl
            rcases getResults_error (congrArg Prod.fst failed) with rfl | rfl <;> nofun
        · rfl

theorem clientEnd_iErrno (r : ClientRun) : (r.clientEnd true).iErrno = r.iErrno := by
  unfold clientEnd
  dsimp only
  split
  · rfl
  · rfl

/-- A failure is shown as an error. -/
def ShowsError : Except ClientRun ClientRun → Prop
  | .error next => errorStateFromIPerfError next.iErrno ≠ 0
  | .ok _ => True

/-- A success has not touched `i_errno`. -/
def KeepsErrno (errno : Int32) : Except ClientRun ClientRun → Prop
  | .error _ => True
  | .ok next => next.iErrno = errno

theorem Honest.showsError {errno : Int32} {x : Except ClientRun ClientRun}
    (honest : Honest errno x)
    : ShowsError x := by
  cases x with
  | error next => exact honest
  | ok next => trivial

theorem Honest.keepsErrno {errno : Int32} {x : Except ClientRun ClientRun}
    (honest : Honest errno x)
    : KeepsErrno errno x := by
  cases x with
  | error next => trivial
  | ok next => exact honest

/-- What stands in `err` behind `SERVER_ERROR`, sent or left over, is not a number that is shown
as no error.
-/
def CodeShown (state : TestState) (io : RunMessageIo) : Prop :=
  state = .serverError → io.serverErrno.complete →
    io.serverErrno.sent ≠ some 0 ∧ io.serverErrno.sent ≠ some (-4)

/-- A message is handled honestly but for the two that the server and the connection decide. -/
theorem handleState_honest {io : RunMessageIo} (display : r.test.state ≠ .displayResults)
    (server : r.test.state ≠ .serverError)
    : Honest r.iErrno (r.handleState io) := by
  unfold handleState
  split
  · split
    · rfl
    · exact honest_error .iesendparams nofun rfl
  · split
    · next failed => exact honest_error _ (createStreams_error failed) rfl
    · rfl
  · exact startTimers_honest r io
  · rfl
  · exact exchangeResults_honest r io
  · exact absurd ‹_› display
  · rfl
  · exact honest_error .ieserverterm nofun rfl
  · exact honest_error .ieaccessdenied nofun rfl
  · exact absurd ‹_› server
  · exact honest_error .iemessage nofun rfl

theorem handleState_showsError {io : RunMessageIo} (code : CodeShown r.test.state io)
    : ShowsError (r.handleState io) := by
  by_cases display : r.test.state = .displayResults
  · unfold handleState
    rw [display]
    trivial
  · by_cases server : r.test.state = .serverError
    · unfold handleState
      rw [server]
      unfold ShowsError ErrnoIo.iErrno
      dsimp only
      split
      · exact errorState_code_ne_zero .iectrlread nofun
      · next number sent =>
          by_cases complete : io.serverErrno.complete = true
          · obtain ⟨first, second⟩ := code server complete
            rw [sent] at first second
            rw [if_pos complete]
            intro shown
            rcases errorStateFromIPerfError_eq_zero.mp shown with none | four
            · exact first (congrArg some none)
            · exact second (congrArg some four)
          · rw [if_neg complete]
            exact errorState_code_ne_zero .iectrlread nofun
    · exact (handleState_honest display server).showsError

theorem handleState_keepsErrno {io : RunMessageIo}
    (written : r.test.state = .displayResults → io.doneSent = true)
    : KeepsErrno r.iErrno (r.handleState io) := by
  by_cases display : r.test.state = .displayResults
  · unfold handleState
    rw [display, written display]
    exact clientEnd_iErrno r
  · by_cases server : r.test.state = .serverError
    · unfold handleState
      rw [server]
      trivial
    · exact (handleState_honest display server).keepsErrno

theorem stopWorkers_honest (r : ClientRun) (sender : Bool)
    (failure : Nat → Option ThreadFailure)
    : Honest r.iErrno (r.stopWorkers sender failure) := by
  unfold stopWorkers
  dsimp only
  split
  · next failed _ => exact honest_error _ failed.isError rfl
  · rfl

-----------------------------------------------------------------------------------------
-- Steps
-----------------------------------------------------------------------------------------

/-- The worker does not fail. -/
def WorksSafely (r : ClientRun) (position : Nat) : WorkerEvent → Prop
  | .sigmaskFailed => False
  | .receive arrivalTime results =>
      ∀ n test, iperfRecvMt r.test position arrivalTime results = some (n, test) → 0 ≤ n
  | .send before io =>
      ∀ n test, iperfSendMt r.test position before io = some (n, test) →
        0 ≤ n ∨ n = netSofterror

/-- No worker fails, and `IPERF_DONE` can be written when the results are displayed. -/
def Undisturbed (r : ClientRun) : Event → Prop
  | .listen io =>
      ∀ value answers, io.message = .byte value answers →
        TestState.ofByte value = .displayResults → answers.doneSent = true
  | .worker position event => r.WorksSafely position event
  | _ => True

/-- Neither `0` nor `-4` stands in `err` when the server reports an error. -/
def ErrorsShown (_ : ClientRun) : Event → Prop
  | .listen io =>
      ∀ value answers, io.message = .byte value answers → CodeShown (.ofByte value) answers
  | _ => True

/-- What `i_errno` holds on the way to a return of `0`. -/
def CleanAt (errno : Int32) : Point → Prop
  | .connecting | .loop | .threads | .timers _ _ | .check | .joining => errno = 0
  | .failing | .stopping _ | .ending _ => True
  | .returned result => result = 0 → errno = 0
  | .finished result errorState => result = 0 → errorState = 0

/-- What `i_errno` holds on the way to a return of `-1`. -/
def ShownAt (errno : Int32) : Point → Prop
  | .connecting | .loop | .threads | .timers _ _ | .check | .joining => True
  | .failing => errorStateFromIPerfError errno ≠ 0
  | .stopping saved | .ending saved => errorStateFromIPerfError saved ≠ 0
  | .returned result => result = -1 → errorStateFromIPerfError errno ≠ 0
  | .finished result errorState => result = -1 → errorState ≠ 0

def Clean (r : ClientRun) : Prop := CleanAt r.iErrno r.point

def Shown (r : ClientRun) : Prop := ShownAt r.iErrno r.point

theorem work_iErrno {position : Nat} {event : WorkerEvent} (safe : r.WorksSafely position event)
    : (r.work position event).iErrno = r.iErrno ∧ (r.work position event).point = r.point := by
  cases event with
  | sigmaskFailed => exact absurd safe id
  | receive arrivalTime results =>
      unfold work
      dsimp only
      split
      · exact ⟨rfl, rfl⟩
      · next n test received =>
          rw [if_neg (not_lt.mpr (safe n test received))]
          exact ⟨rfl, rfl⟩
  | send before io =>
      unfold work
      dsimp only
      split
      · exact ⟨rfl, rfl⟩
      · next n test sent =>
          have soft : ¬ (n < 0 ∧ n ≠ netSofterror) := by
            rintro ⟨negative, hard⟩
            rcases safe n test sent with nonnegative | isSoft
            · exact absurd negative (not_lt.mpr nonnegative)
            · exact hard isSoft
          rw [if_neg soft]
          exact ⟨rfl, rfl⟩

theorem connect_clean (clean : r.iErrno = 0) (io : DialIo) (now : IperfTime)
    : (r.connect io now).Clean := by
  unfold connect
  split
  · trivial
  · exact clean

theorem connect_shown (r : ClientRun) (io : DialIo) (now : IperfTime)
    : (r.connect io now).Shown := by
  unfold connect
  split
  · next error failed =>
      refine errorState_code_ne_zero error ?_
      rintro rfl
      unfold iperfConnect at failed
      dsimp only at failed
      split_ifs at failed <;> cases failed
  · trivial

theorem listen_clean (clean : r.iErrno = 0) {io : ListenIo}
    (undisturbed : r.Undisturbed (.listen io))
    : (r.listen io).Clean := by
  have keeps : KeepsErrno r.iErrno (r.receive io) := by
    rcases receive_cases r io with ⟨error, -, failed⟩ | ⟨now, quiet⟩ | ⟨now, -, -, -, handed⟩
    · rw [failed]
      trivial
    · rw [quiet]
      rfl
    · rw [handed]
      cases message : io.message with
      | failed => trivial
      | closed => trivial
      | byte value answers => exact handleState_keepsErrno (undisturbed value answers message)
  unfold listen
  cases result : r.receive io with
  | error next => trivial
  | ok next =>
      rw [result, clean] at keeps
      unfold Clean
      dsimp only
      split <;> exact keeps

theorem listen_shown {io : ListenIo} (shown : r.ErrorsShown (.listen io))
    : (r.listen io).Shown := by
  have shows : ShowsError (r.receive io) := by
    rcases receive_cases r io with ⟨error, isOne, failed⟩ | ⟨now, quiet⟩ | ⟨now, -, -, -, handed⟩
    · rw [failed]
      refine errorState_code_ne_zero error ?_
      rcases isOne with rfl | rfl <;> nofun
    · rw [quiet]
      trivial
    · rw [handed]
      cases message : io.message with
      | failed => exact errorState_code_ne_zero .ierecvmessage nofun
      | closed => exact errorState_code_ne_zero .iectrlclose nofun
      | byte value answers => exact handleState_showsError (shown value answers message)
  unfold listen
  cases result : r.receive io with
  | error next =>
      rw [result] at shows
      exact shows
  | ok next =>
      unfold Shown
      dsimp only
      split <;> trivial

theorem startThreads_clean (clean : r.iErrno = 0) (io : ThreadsIo)
    : (r.startThreads io).Clean := by
  unfold startThreads
  dsimp only
  split_ifs
  · trivial
  · trivial
  · trivial
  · exact clean
  · exact clean

theorem startThreads_shown (r : ClientRun) (io : ThreadsIo) : (r.startThreads io).Shown := by
  unfold startThreads
  dsimp only
  split_ifs
  · exact errorState_code_ne_zero .iepthreadattrinit nofun
  · exact errorState_code_ne_zero .iepthreadcreate nofun
  · exact errorState_code_ne_zero .iepthreadattrdestroy nofun
  · trivial
  · trivial

theorem timerProc_iErrno (r : ClientRun) (now reading : IperfTime) (field : TimerField)
    : (r.timerProc now reading field).iErrno = r.iErrno := by
  cases field with
  | timer => rfl
  | statsTimer =>
      unfold timerProc
      dsimp only
      split <;> rfl
  | reporterTimer =>
      unfold timerProc
      dsimp only
      split <;> rfl
  | omitTimer => rfl

theorem runTimer_clean (clean : r.iErrno = 0) (now : IperfTime) (next : Option Nat)
    (reading : IperfTime)
    : (r.runTimer now next reading).Clean := by
  unfold runTimer
  split
  · exact clean
  · split
    · exact clean
    · unfold fireTimer
      dsimp only
      split
      · exact (timerProc_iErrno r now reading _).trans clean
      · exact clean

theorem runTimer_shown (r : ClientRun) (now : IperfTime) (next : Option Nat)
    (reading : IperfTime)
    : (r.runTimer now next reading).Shown := by
  unfold runTimer
  split
  · trivial
  · split <;> trivial

theorem check_clean (clean : r.iErrno = 0) (io : CheckIo) : (r.check io).Clean := by
  have honest := stopWorkers_honest r true io.failure
  unfold check
  split
  · cases result : r.stopWorkers true io.failure with
    | error next => trivial
    | ok next =>
        rw [result, clean] at honest
        unfold sendTestEnd
        dsimp only
        split_ifs
        · exact honest
        · trivial
        · exact honest
  · exact clean

theorem check_shown (r : ClientRun) (io : CheckIo) : (r.check io).Shown := by
  have honest := stopWorkers_honest r true io.failure
  unfold check
  split
  · cases result : r.stopWorkers true io.failure with
    | error next =>
        rw [result] at honest
        exact honest
    | ok next =>
        unfold sendTestEnd
        dsimp only
        split_ifs
        · trivial
        · exact errorState_code_ne_zero .iesendmessage nofun
        · trivial
  · trivial

theorem join_clean (clean : r.iErrno = 0) (failure : Nat → Option ThreadFailure)
    : (r.join failure).Clean := by
  have honest := stopWorkers_honest r false failure
  unfold join
  cases result : r.stopWorkers false failure with
  | error next => trivial
  | ok next =>
      rw [result, clean] at honest
      exact fun _ => honest

theorem join_shown (r : ClientRun) (failure : Nat → Option ThreadFailure)
    : (r.join failure).Shown := by
  have honest := stopWorkers_honest r false failure
  unfold join
  cases result : r.stopWorkers false failure with
  | error next =>
      rw [result] at honest
      exact honest
  | ok next =>
      intro absurd
      cases absurd

theorem endFailed_shown {saved : Int32} (shown : errorStateFromIPerfError saved ≠ 0)
    (sent : Bool)
    : (r.endFailed saved sent).Shown := by
  intro _
  unfold endFailed clientEnd
  dsimp only
  split
  · split
    · exact shown
    · exact errorState_code_ne_zero .iesendmessage nofun
  · exact shown

/-- A worker leaves `i_errno` alone or sets it to an error of its own. -/
theorem work_shown (shown : r.Shown) (position : Nat) (event : WorkerEvent)
    : (r.work position event).Shown := by
  have ends (r : ClientRun) (error : IError) (isError : error ≠ .ienone) (shown : r.Shown)
      : (r.endWorker position error).Shown := by
    have code := errorState_code_ne_zero error isError
    unfold Shown at shown ⊢
    cases point : r.point with
    | failing => exact (congrArg (ShownAt error.code) point).mpr code
    | returned result => exact (congrArg (ShownAt error.code) point).mpr fun _ => code
    | stopping saved =>
        rw [point] at shown
        exact (congrArg (ShownAt error.code) point).mpr shown
    | ending saved =>
        rw [point] at shown
        exact (congrArg (ShownAt error.code) point).mpr shown
    | finished result errorState =>
        rw [point] at shown
        exact (congrArg (ShownAt error.code) point).mpr shown
    | _ => exact (congrArg (ShownAt error.code) point).mpr trivial
  obtain ⟨_, test, -, goesOn | ⟨error, known, ended⟩⟩ := work_cases r position event
  · rw [goesOn]
    exact shown
  · rw [ended]
    refine ends { r with test } error ?_ shown
    rcases known with rfl | rfl | rfl <;> nofun

-----------------------------------------------------------------------------------------
-- Runs
-----------------------------------------------------------------------------------------

/-- One step towards a return of `0`, by cases on what happens. -/
theorem Step.clean {event : Event} {next : ClientRun} (step : Step r event next)
    (clean : r.Clean) (undisturbed : r.Undisturbed event)
    : next.Clean := by
  unfold Clean at clean
  cases step with
  | stop running => exact clean
  | connect here =>
      rw [here] at clean
      exact connect_clean clean _ _
  | listen here going =>
      rw [here] at clean
      exact listen_clean clean undisturbed
  | leave here done =>
      rw [here] at clean
      exact clean
  | threads here =>
      rw [here] at clean
      exact startThreads_clean clean _
  | timer here =>
      rw [here] at clean
      exact runTimer_clean clean _ _ _
  | check here =>
      rw [here] at clean
      exact check_clean clean _
  | join here =>
      rw [here] at clean
      exact join_clean clean _
  | save here => trivial
  | stopAll here => trivial
  | endFailed here => exact fun absurd => by cases absurd
  | finish here =>
      rw [here] at clean
      exact fun zero => errorStateFromIPerfError_eq_zero.mpr (.inl (clean zero))
  | worker lives direction =>
      obtain ⟨errno, point⟩ := work_iErrno undisturbed
      unfold Clean
      rw [errno, point]
      exact clean

/-- One step towards a return of `-1`, by cases on what happens. -/
theorem Step.shown {event : Event} {next : ClientRun} (step : Step r event next)
    (shown : r.Shown) (errors : r.ErrorsShown event)
    : next.Shown := by
  cases step with
  | stop running => exact shown
  | connect here => exact connect_shown r _ _
  | listen here going => exact listen_shown errors
  | leave here done => trivial
  | threads here => exact startThreads_shown r _
  | timer here => exact runTimer_shown r _ _ _
  | check here => exact check_shown r _
  | join here => exact join_shown r _
  | save here =>
      unfold Shown at shown
      rw [here] at shown
      exact shown
  | stopAll here =>
      unfold Shown at shown
      rw [here] at shown
      exact shown
  | endFailed here =>
      unfold Shown at shown
      rw [here] at shown
      exact endFailed_shown shown _
  | finish here =>
      unfold Shown at shown
      rw [here] at shown
      exact shown
  | worker lives direction => exact work_shown shown _ _

variable {configuration : Configuration} {address : Nat}
  {timers : TimerList.Timers IperfTime TimerRecord}

theorem Run.clean (run : Run Undisturbed (appStart configuration address timers) r) : r.Clean := by
  induction run with
  | refl => rfl
  | tail _ last ih =>
      obtain ⟨event, undisturbed, step⟩ := last
      exact step.clean ih undisturbed

theorem Run.shown (run : Run ErrorsShown (appStart configuration address timers) r) : r.Shown := by
  induction run with
  | refl => trivial
  | tail _ last ih =>
      obtain ⟨event, errors, step⟩ := last
      exact step.shown ih errors

/-- A run that returns `0` is shown without an error if nothing but the main thread's failures
set `i_errno`, and one that returns `-1` is shown with an error if the server's numbers are.
-/
theorem outcome_is_truthful (configuration : Configuration) (address : Nat)
    (timers : TimerList.Timers IperfTime TimerRecord) (r : ClientRun) (errorState : Int32)
    : (Run Undisturbed (appStart configuration address timers) r →
        r.point = .finished 0 errorState → errorState = 0)
      ∧ (Run ErrorsShown (appStart configuration address timers) r →
        r.point = .finished (-1) errorState → errorState ≠ 0) := by
  constructor
  · intro run finished
    have clean := Run.clean run
    unfold Clean at clean
    rw [finished] at clean
    exact clean rfl
  · intro run finished
    have shown := Run.shown run
    unfold Shown at shown
    rw [finished] at shown
    exact shown rfl

-----------------------------------------------------------------------------------------
-- Runs that are shown wrongly
-----------------------------------------------------------------------------------------

/-- The server displays the results at once, and nothing goes wrong. -/
def shortRun : List Event := [answered, arrives 14 {}, .leave, .join (fun _ => none), .finish]

/-- The server cannot be reached. -/
def refusedRun : List Event :=
  [
    .connect { cookie := [], dialed := -1 } midnight, .save, .stopAll (fun _ => none),
    .endFailed true, .finish
  ]

/-- The theorem at a run that returns `0` and at one that returns `-1`. -/
theorem outcome_of_short_and_refused_run
    : (∃ r, download.follow (fun _ _ => true) shortRun = some r
      ∧ ∃ state, r.point = .finished 0 state ∧ state = 0)
      ∧ ∃ r, download.follow (fun _ _ => true) refusedRun = some r
        ∧ ∃ state, r.point = .finished (-1) state ∧ state ≠ 0 := by
  constructor
  · have ends : (download.follow (fun _ _ => true) shortRun).map ClientRun.point
        = some (.finished 0 0) := by
      decide +kernel
    obtain ⟨r, follows, finished⟩ := Option.map_eq_some_iff.mp ends
    refine ⟨r, follows, 0, finished, ?_⟩
    refine (outcome_is_truthful _ 0 { active := [] } r 0).1 (follow_run follows ?_) finished
    intro event isOne r _
    simp only [shortRun, List.mem_cons, List.not_mem_nil, or_false] at isOne
    rcases isOne with rfl | rfl | rfl | rfl | rfl
    · trivial
    · rintro value answers ⟨⟩ -
      rfl
    · trivial
    · trivial
    · trivial
  · have ends : (download.follow (fun _ _ => true) refusedRun).map ClientRun.point
        = some (.finished (-1) 3) := by
      decide +kernel
    obtain ⟨r, follows, finished⟩ := Option.map_eq_some_iff.mp ends
    refine ⟨r, follows, 3, finished, ?_⟩
    refine (outcome_is_truthful _ 0 { active := [] } r 3).2 (follow_run follows ?_) finished
    intro event isOne r _
    simp only [refusedRun, List.mem_cons, List.not_mem_nil, or_false] at isOne
    rcases isOne with rfl | rfl | rfl | rfl | rfl <;> trivial

/-- The stream is created, its worker runs, the results are displayed, which closes the stream's
socket; the worker's read fails before the worker is joined.
-/
def closedUnderWorker : List Event :=
  [
    answered, arrives 9 {}, arrives 10 { connections := [{ connected := .ok 4 }] }, arrives 1 {},
    arrives 2 {}, .threads { created := 1, now := midnight }, .timer midnight,
    .check { reading := midnight }, arrives 14 {}, .worker 0 (.receive midnight [.failed .other]),
      .leave,
    .join (fun _ => none), .finish
  ]

/-- The server reports an error, and the run fails. -/
def serverReports (serverErrno : ErrnoIo) : List Event :=
  [
    answered, arrives 254 { serverErrno }, .save, .stopAll (fun _ => none), .endFailed true, .finish
  ]

/-- The error number `0`, complete. -/
def sendsZero : ErrnoIo :=
  { err := [1, 2, 3, 4], number := [.ready (.got [0, 0, 0, 0] 4)] }

/-- The connection is closed behind the byte, and zeros stood on the stack. -/
def sendsNothing : ErrnoIo := { err := [0, 0, 0, 0], number := [.ready (.got [] 0)] }

/-- A finished download is shown as an error, and a failed one as none. -/
theorem outcome_can_be_shown_wrongly
    : (∃ r, Run (fun _ _ => True) download r ∧ r.point = .finished 0 210)
      ∧ ∀ number ∈ [sendsZero, sendsNothing],
        ∃ r, download.follow (fun _ _ => true) (serverReports number) = some r
          ∧ Run (fun _ _ => True) download r ∧ r.point = .finished (-1) 0 := by
  constructor
  · have ends : (download.follow (fun _ _ => true) closedUnderWorker).map ClientRun.point
        = some (.finished 0 210) := by
      decide +kernel
    obtain ⟨r, follows, finished⟩ := Option.map_eq_some_iff.mp ends
    exact ⟨r, follow_run follows fun _ _ _ _ => trivial, finished⟩
  · intro number isOne
    have ends : (download.follow (fun _ _ => true) (serverReports number)).map ClientRun.point
        = some (.finished (-1) 0) := by
      simp only [List.mem_cons, List.not_mem_nil, or_false] at isOne
      rcases isOne with rfl | rfl <;> decide +kernel
    obtain ⟨r, follows, finished⟩ := Option.map_eq_some_iff.mp ends
    exact ⟨r, follows, follow_run follows fun _ _ _ _ => trivial, finished⟩

end ClientRun

end Iperf
