import Iperf.App.TestRunner
import Iperf.Model.TestTimers

/-! `iperf_run_client` from the call to the app's final callback, with what it leaves behind when
it fails: the process-wide timers, the worker threads, the global `i_errno` and the calls of
`reporter_callback`. Worker threads and `stopTest` act between its steps.
-/

namespace Iperf

open TimerList

-----------------------------------------------------------------------------------------
-- The state
-----------------------------------------------------------------------------------------

/-- Where the main thread stands. Inside `tmr_run` it holds the clock of the call and the timer
that is looked at next; `cleanup_and_fail` holds the saved `i_errno`.
-/
inductive Point where
  | connecting
  | loop
  | threads
  | timers (now : IperfTime) (next : Option Nat)
  | check
  | joining
  | failing
  | stopping (saved : Int32)
  | ending (saved : Int32)
  | returned (result : Int)
  | finished (result : Int) (errorState : Int32)
deriving DecidableEq

/-- The app has seen the end of the run and has freed the test. -/
def Point.isFinished : Point → Bool
  | .finished _ _ => true
  | _ => false

/-- The calls of the main thread that bear on the interval records of the streams: a new stream,
the start time of the streams, `stats_callback` with its clock, and `reporter_callback` with the
test as it is then.
-/
inductive Call where
  | newStream
  | startTime (now : IperfTime)
  | statsCallback (reading : IperfTime)
  | reporterCallback (test : Test)
deriving DecidableEq

/-- The test and its address, the local variables of `iperf_run_client`, the global variables,
the positions of the streams whose worker lives, and the calls made so far.
-/
structure ClientRun where
  test : Test
  reporterInterval : ℚ
  address : Nat
  startup : Bool := true
  lastReceiveTime : IperfTime := { secs := 0, usecs := 0 }
  lastReceiveBlocks : UInt64 := 0
  rcvTimeoutUs : Nat := 0
  timers : Timers IperfTime TimerRecord
  field : TimerField → Option Nat := fun _ => none
  threads : List Nat := []
  iErrno : Int32 := 0
  calls : List Call := []
  point : Point := .connecting

namespace ClientRun

/-- The client of the loop. -/
def view (r : ClientRun) : Client :=
  {
    test := r.test
    startup := r.startup
    lastReceiveTime := r.lastReceiveTime
    lastReceiveBlocks := r.lastReceiveBlocks
    rcvTimeoutUs := r.rcvTimeoutUs
    timer := (r.field .timer).isSome
    statsTimer := (r.field .statsTimer).isSome
    omitTimer := (r.field .omitTimer).isSome
  }

/-- Set `i_errno`. -/
def errno (r : ClientRun) (error : IError) : ClientRun := { r with iErrno := error.code }

/-- Call `reporter_callback`. -/
def report (r : ClientRun) : ClientRun :=
  { r with calls := r.calls ++ [.reporterCallback r.test] }

/-- Call `stats_callback`. -/
def measure (r : ClientRun) (reading : IperfTime) : ClientRun :=
  { r with
    test := iperfStatsCallback r.test reading
    calls := r.calls ++ [.statsCallback reading] }

/-- The streams up to the first failure are there. -/
def addStreams (r : ClientRun) (test : Test) : ClientRun :=
  { r with
    test
    calls := r.calls
      ++ List.replicate (test.streams.length - r.test.streams.length) .newStream }

def timing (r : ClientRun) : Timing :=
  { address := r.address, timers := r.timers, field := r.field }

def setTiming (r : ClientRun) (t : Timing) : ClientRun :=
  { r with timers := t.timers, field := t.field }

def setField (r : ClientRun) (field : TimerField) (target : Option Nat) : ClientRun :=
  r.setTiming (r.timing.setField field target)

-----------------------------------------------------------------------------------------
-- `iperf_connect`
-----------------------------------------------------------------------------------------

/-- The main thread after `iperf_connect`; `now` initialises the time of the last receive. -/
def connect (r : ClientRun) (io : DialIo) (now : IperfTime) : ClientRun :=
  match iperfConnect r.test io with
  | .error error =>
      let ctrlSck := if r.test.ctrlSck < 0 then io.dialed else r.test.ctrlSck
      {
        r.errno error with
        test := { r.test with cookie := io.cookie, ctrlSck }
        point := .failing
      }
  | .ok test =>
      let c := clientStart test now
      {
        r with
        test
        lastReceiveTime := c.lastReceiveTime
        lastReceiveBlocks := c.lastReceiveBlocks
        rcvTimeoutUs := c.rcvTimeoutUs
        startup := c.startup
        point := .loop
      }

-----------------------------------------------------------------------------------------
-- Messages. A handler that returns `-1` returns the state it leaves as its error.
-----------------------------------------------------------------------------------------

/-- `iperf_create_streams` with `count` streams to go; a failure keeps the streams before it. -/
def createStreamsUntil (sender : Bool)
    : Nat → Test → List ConnectIo → Except (Test × IError) (Test × List ConnectIo)
  | 0, test, rest => .ok (test, rest)
  | _ + 1, test, [] => .error (test, .iestreamconnect)
  | count + 1, test, io :: rest =>
      match io.connected with
      | .error error => .error (test, error.toIError)
      | .ok s =>
          match iperfNewStream test s sender io.newStream with
          | .error error => .error (test, error)
          | .ok test => createStreamsUntil sender count test rest

/-- The `CREATE_STREAMS` message. -/
def createStreams (test : Test) (connections : List ConnectIo) : Except (Test × IError) Test :=
  let count := test.numStreams.toInt.toNat
  match test.mode with
  | .bidirectional => do
      let (test, rest) ← createStreamsUntil true count test connections
      let (test, _) ← createStreamsUntil false count test rest
      return test
  | .sender => (createStreamsUntil true count test connections).map Prod.fst
  | .receiver => (createStreamsUntil false count test connections).map Prod.fst

/-- The timers after a creation, which sets `i_errno` when it fails. -/
def arm (r : ClientRun) : Except Timing Timing → Except ClientRun ClientRun
  | .error t => .error ((r.setTiming t).errno .ieinittest)
  | .ok t => .ok (r.setTiming t)

/-- `tmr_create` for one of the fields, if the timer is wanted. -/
def createTimerIf (wanted : Bool) (r : ClientRun) (now : IperfTime) (field : TimerField)
    (usecs : UInt64) (periodic allocated : Bool)
    : Except ClientRun ClientRun :=
  r.arm (Timing.createTimerIf wanted r.timing now field usecs periodic allocated)

/-- The second half of `create_client_timers`: the statistics and the reporter timer. -/
def createReportTimers (r : ClientRun) (now : IperfTime) (io : TimersIo)
    : Except ClientRun ClientRun := do
  let r ← createTimerIf (r.test.statsInterval ≠ 0) r now .statsTimer
    (usecsOfInterval r.test.statsInterval) true (io.allocated .statsTimer)
  createTimerIf (r.reporterInterval ≠ 0) r now .reporterTimer
    (usecsOfInterval r.reporterInterval) true (io.allocated .reporterTimer)

/-- The fields are `NULL` first; a test with a duration is not done. -/
def clearTimers (r : ClientRun) : ClientRun :=
  let r := ((r.setField .timer none).setField .statsTimer none).setField .reporterTimer none
  let done := if r.test.duration ≠ 0 then false else r.test.done
  { r with test := { r.test with done } }

/-- `create_client_timers`. -/
def createClientTimers (r : ClientRun) (io : TimersIo) : Except ClientRun ClientRun :=
  match io.clock with
  | none => .error (r.errno .ieinittest)
  | some now => do
      let r := r.clearTimers
      let r ← createTimerIf (r.test.duration ≠ 0) r now .timer
        ((r.test.duration + r.test.omitPeriod).toInt64.toUInt64 * 1000000) false
        (io.allocated .timer)
      r.createReportTimers now io

/-- `create_client_omit_timer`. -/
def createClientOmitTimer (r : ClientRun) (io : TimersIo) : Except ClientRun ClientRun :=
  if r.test.omitPeriod = 0 then
    .ok { (r.setField .omitTimer none) with test := { r.test with omitting := false } }
  else
    match io.omitClock with
    | none => .error (r.errno .ieinittest)
    | some now =>
        arm { r with test := { r.test with omitting := true } }
          (r.timing.createTimer now .omitTimer
            (r.test.omitPeriod.toInt64.toUInt64 * 1000000) false (io.allocated .omitTimer))

/-- `iperf_client_end`; `sent` tells whether `IPERF_DONE` can be written. -/
def clientEnd (r : ClientRun) (sent : Bool) : ClientRun :=
  let r := r.report
  if r.test.state.code > 0 ∧ r.test.ctrlSck ≥ 0 then
    let r := { r with test := { r.test with state := .iperfDone } }
    if sent then r else r.errno .iesendmessage
  else r

/-- The answers to the calls a message leads to. -/
structure RunMessageIo where
  parametersSent : Bool := true
  connections : List ConnectIo := []
  /-- The clock of `iperf_init_test`. -/
  initClock : Option IperfTime := some { secs := 0, usecs := 0 }
  timers : TimersIo := {}
  resultsSent : Bool := true
  results : Option CJson := none
  serverErrno : ErrnoIo := {}
  doneSent : Bool := true
  cpuUtil : ℚ × ℚ × ℚ := (0, 0, 0)

/-- What the read of a message gives. -/
inductive RunMessage where
  | failed
  | closed
  | byte (value : UInt8) (io : RunMessageIo)

/-- `iperf_init_test`. -/
def initTest (r : ClientRun) (now : IperfTime) : ClientRun :=
  { r with test := iperfInitTest r.test now, calls := r.calls ++ [.startTime now] }

/-- The `TEST_START` message. -/
def startTimers (r : ClientRun) (io : RunMessageIo) : Except ClientRun ClientRun :=
  match io.initClock with
  | none => .error (r.errno .ieinittest)
  | some now => do
      let r ← (r.initTest now).createClientTimers io.timers
      r.createClientOmitTimer io.timers

/-- The `EXCHANGE_RESULTS` message. -/
def exchangeResults (r : ClientRun) (io : RunMessageIo) : Except ClientRun ClientRun :=
  if !io.resultsSent then .error (r.errno .iesendresults)
  else
    match io.results with
    | none => .error (r.errno .ierecvresults)
    | some json =>
        match getResults r.test json with
        | (some error, test) => .error { (r.errno error) with test }
        | (none, test) => .ok { r with test }

/-- The switch of `iperf_handle_message_client` on the state that was read. -/
def handleState (r : ClientRun) (io : RunMessageIo) : Except ClientRun ClientRun :=
  match r.test.state with
  | .paramExchange => if io.parametersSent then .ok r else .error (r.errno .iesendparams)
  | .createStreams =>
      match createStreams r.test io.connections with
      | .error (test, error) => .error ((r.addStreams test).errno error)
      | .ok test => .ok (r.addStreams test)
  | .testStart => r.startTimers io
  | .testRunning => .ok r
  | .exchangeResults => r.exchangeResults io
  | .displayResults => .ok (r.clientEnd io.doneSent)
  | .iperfDone => .ok r
  | .serverTerminate =>
      -- "Temporarily be in DISPLAY_RESULTS phase so we can get ending summary statistics."
      let test := { r.test with cpuUtil := io.cpuUtil }
      let r := { r with test := { test with state := .displayResults } }.report
      .error { (r.errno .ieserverterm) with test }
  | .accessDenied => .error (r.errno .ieaccessdenied)
  | .serverError => .error { r with iErrno := io.serverErrno.iErrno }
  | _ => .error (r.errno .iemessage)

/-- The byte is read into `test->state`. -/
def storeState (r : ClientRun) (value : UInt8) : ClientRun :=
  { r with test := { r.test with state := .ofByte value } }

/-- `iperf_handle_message_client`. -/
def handleMessage (r : ClientRun) : RunMessage → Except ClientRun ClientRun
  | .failed => .error (r.errno .ierecvmessage)
  | .closed => .error (r.errno .iectrlclose)
  | .byte value io => (r.storeState value).handleState io

-----------------------------------------------------------------------------------------
-- The first part of a pass
-----------------------------------------------------------------------------------------

/-- The answers to the calls of the first part of a pass. -/
structure ListenIo where
  now : IperfTime
  select : SelectResult
  later : IperfTime
  message : RunMessage := .failed

/-- "See if the test is making progress." -/
def noteProgress (r : ClientRun) (now : IperfTime) : ClientRun :=
  let c := r.view.noteProgress now
  { r with lastReceiveBlocks := c.lastReceiveBlocks, lastReceiveTime := c.lastReceiveTime }

/-- `select(2)`, the watchdog and the message. -/
def receive (r : ClientRun) (io : ListenIo) : Except ClientRun ClientRun :=
  let handle (r : ClientRun) : Except ClientRun ClientRun :=
    match io.select with
    | .ready readSet =>
        if fdIsset r.test.ctrlSck readSet then r.handleMessage io.message else .ok r
    | _ => .ok r
  match io.select with
  | .failed errno =>
      if errno ≠ .eintr then .error (r.errno .ieselect) else handle (r.noteProgress io.now)
  | .timedOut =>
      if r.view.watches then
        if r.view.timedOut io.later then .error (r.errno .ienomsg)
        else handle (r.noteProgress io.later)
      else handle (r.noteProgress io.now)
  | .ready _ => handle (r.noteProgress io.now)

/-- The first part fails by itself, notes progress only, or hands the message over. -/
theorem receive_cases (r : ClientRun) (io : ListenIo)
    : (∃ error, (error = .ieselect ∨ error = .ienomsg) ∧ r.receive io = .error (r.errno error))
      ∨ (∃ now, r.receive io = .ok (r.noteProgress now))
      ∨ (∃ now readSet, io.select = .ready readSet ∧ fdIsset r.test.ctrlSck readSet
        ∧ r.receive io = (r.noteProgress now).handleMessage io.message) := by
  unfold receive
  cases select : io.select with
  | failed errno =>
      dsimp only
      split
      · exact .inl ⟨_, .inl rfl, rfl⟩
      · exact .inr (.inl ⟨_, rfl⟩)
  | timedOut =>
      dsimp only
      split
      · split
        · exact .inl ⟨_, .inr rfl, rfl⟩
        · exact .inr (.inl ⟨_, rfl⟩)
      · exact .inr (.inl ⟨_, rfl⟩)
  | ready readSet =>
      dsimp only
      split
      · next isReady => exact .inr (.inr ⟨_, readSet, rfl, isReady, rfl⟩)
      · exact .inr (.inl ⟨_, rfl⟩)

def listen (r : ClientRun) (io : ListenIo) : ClientRun :=
  match r.receive io with
  | .error r => { r with point := .failing }
  | .ok r => { r with point := if r.test.state = .testRunning then .threads else .loop }

-----------------------------------------------------------------------------------------
-- Threads
-----------------------------------------------------------------------------------------

/-- The answers to `pthread_attr_init`, to the calls of `pthread_create` (how many succeed) and to
`pthread_attr_destroy`, and the clock for `tmr_run`.
-/
structure ThreadsIo where
  attrInit : Bool := true
  created : Nat
  attrDestroyed : Bool := true
  now : IperfTime

/-- The first streams have a thread now. -/
def createThreads (r : ClientRun) (count : Nat) : ClientRun :=
  {
    r with
    threads := r.threads ++ List.range (min count r.test.streams.length)
    test := {
      r.test with
      streams :=
        (r.test.streams.take count).map (fun sp => { sp with threadCreated := true })
          ++ r.test.streams.drop count
    }
  }

/-- The threads of the first pass in `TEST_RUNNING`, then the call of `tmr_run`. -/
def startThreads (r : ClientRun) (io : ThreadsIo) : ClientRun :=
  let timers (r : ClientRun) : ClientRun :=
    { r with point := .timers io.now (r.timers.active.head?.map Entry.id) }
  if r.startup then
    let r := { r with startup := false }
    if !io.attrInit then { (r.errno .iepthreadattrinit) with point := .failing }
    else if io.created < r.test.streams.length then
      { ((r.createThreads io.created).errno .iepthreadcreate) with point := .failing }
    else if !io.attrDestroyed then
      { ((r.createThreads io.created).errno .iepthreadattrdestroy) with point := .failing }
    else timers (r.createThreads io.created)
  else timers r

/-- `pthread_cancel` or `pthread_join` fails for another reason than `ESRCH`. -/
inductive ThreadFailure where
  | cancel
  | join
deriving DecidableEq

def ThreadFailure.toIError : ThreadFailure → IError
  | .cancel => .iepthreadcancel
  | .join => .iepthreadjoin

/-- Cancel and join the threads of the selected streams from the given position on, up to the
first failure: the streams, the positions whose thread is gone, and the failure.
-/
def stopThreads (selected : Stream → Bool) (failure : Nat → Option ThreadFailure)
    : Nat → List Stream → List Stream × List Nat × Option ThreadFailure
  | _, [] => ([], [], none)
  | position, sp :: rest =>
      let (rest', gone, failed) := stopThreads selected failure (position + 1) rest
      if !selected sp then (sp :: rest', gone, failed)
      else if !sp.threadCreated then ({ sp with done := true } :: rest', gone, failed)
      else
        match failure position with
        | some failed => ({ sp with done := true } :: rest, [], some failed)
        | none =>
            ({ sp with done := true, threadCreated := false } :: rest', position :: gone, failed)

/-- The loop over the streams of one direction that ends a test. -/
def stopWorkers (r : ClientRun) (sender : Bool) (failure : Nat → Option ThreadFailure)
    : Except ClientRun ClientRun :=
  let (streams, gone, failed) :=
    stopThreads (fun sp => sp.sender = sender) failure 0 r.test.streams
  let r := {
    r with
    test := { r.test with streams }
    threads := r.threads.filter (fun position => !gone.contains position)
  }
  match failed with
  | some failed => .error (r.errno failed.toIError)
  | none => .ok r

-----------------------------------------------------------------------------------------
-- Timers
-----------------------------------------------------------------------------------------

/-- The four timer procedures; `reading` is the clock that the statistics read. -/
def timerProc (r : ClientRun) (now reading : IperfTime) : TimerField → ClientRun
  | .timer => { (r.setField .timer none) with test := { r.test with done := true } }
  | .statsTimer => if r.test.done then r else r.measure reading
  | .reporterTimer => if r.test.done then r else r.report
  | .omitTimer =>
      let r := {
        (r.setField .omitTimer none) with
        test := iperfResetStats { r.test with omitting := false } reading
        calls := r.calls ++ [Call.startTime reading]
      }
      r.setTiming ((r.timing.resetTimer now .statsTimer).resetTimer now .reporterTimer)

/-- One timer of `tmr_run`. The next one is looked up before the procedure is called. A timer
of another test does nothing here.
-/
def fireTimer (r : ClientRun) (now reading : IperfTime) (entry : Entry IperfTime TimerRecord)
    : ClientRun :=
  let next := r.timers.successor entry.id
  let r :=
    if entry.record.clientData = r.address then r.timerProc now reading entry.record.proc else r
  { r with timers := settle r.timers entry, point := .timers now next }

/-- One turn of the loop in `tmr_run`. -/
def runTimer (r : ClientRun) (now : IperfTime) (next : Option Nat) (reading : IperfTime)
    : ClientRun :=
  match next.bind r.timers.find with
  | none => { r with point := .check }
  | some entry =>
      if now < entry.time then { r with point := .check } else r.fireTimer now reading entry

-----------------------------------------------------------------------------------------
-- The end of a pass and of the run
-----------------------------------------------------------------------------------------

/-- The answers to the calls when the test is over. -/
structure CheckIo where
  failure : Nat → Option ThreadFailure := fun _ => none
  cpuUtil : ℚ × ℚ × ℚ := (0, 0, 0)
  reading : IperfTime
  testEndSent : Bool := true

/-- "Yes, done! Send TEST_END." -/
def sendTestEnd (r : ClientRun) (io : CheckIo) : ClientRun :=
  let r := { r with test := { r.test with done := true, cpuUtil := io.cpuUtil } }.measure io.reading
  if r.test.ctrlSck ≥ 0 then
    let r := { r with test := { r.test with state := .testEnd } }
    if io.testEndSent then { r with point := .loop }
    else { (r.errno .iesendmessage) with point := .failing }
  else { r with point := .loop }

/-- "Is the test done yet?" -/
def check (r : ClientRun) (io : CheckIo) : ClientRun :=
  if r.test.omitting = false ∧ r.test.fulfilled then
    match r.stopWorkers true io.failure with
    | .error r => { r with point := .failing }
    | .ok r => r.sendTestEnd io
  else { r with point := .loop }

/-- "Cancel outstanding receiver threads", then return. -/
def join (r : ClientRun) (failure : Nat → Option ThreadFailure) : ClientRun :=
  match r.stopWorkers false failure with
  | .error r => { r with point := .failing }
  | .ok r => { r with point := .returned 0 }

/-- "Cancel all outstanding threads" of `cleanup_and_fail`: streams that are done are skipped, and
a failure is only printed. A thread that could not be joined lives on.
-/
def stopAll (r : ClientRun) (failure : Nat → Option ThreadFailure) (saved : Int32) : ClientRun :=
  let outstanding position :=
    (r.test.streams[position]?).any (fun sp => !sp.done && sp.threadCreated)
      && (failure position).isNone
  {
    r with
    test := {
      r.test with
      streams := r.test.streams.map (fun sp =>
        if sp.done then sp else { sp with done := true, threadCreated := false })
    }
    threads := r.threads.filter (fun position => !outstanding position)
    point := .ending saved
  }

/-- The last lines of `cleanup_and_fail`. -/
def endFailed (r : ClientRun) (saved : Int32) (sent : Bool) : ClientRun :=
  { ({ r with iErrno := saved }.clientEnd sent) with point := .returned (-1) }

/-- `IPFTestRunnerErrorStateFromIPerfError`. -/
def errorStateFromIPerfError (error : Int32) : Int32 :=
  if error = IError.ienone.code then 0
  else if error = IError.ieconnect.code then 3
  else if error = IError.ieaccessdenied.code then 2
  else 4 + error

/-- The timers that `iperf_free_test` leaves. -/
def freeTimers (r : ClientRun) : Timers IperfTime TimerRecord :=
  [TimerField.omitTimer, .timer, .statsTimer, .reporterTimer].foldl
    (fun timers field => (r.field field).elim timers timers.cancel) r.timers

/-- The block that runs on the main queue when `iperf_run_client` has returned. -/
def finish (r : ClientRun) (result : Int) : ClientRun :=
  {
    r with
    timers := r.freeTimers
    point := .finished result (errorStateFromIPerfError r.iErrno)
  }

-----------------------------------------------------------------------------------------
-- Workers
-----------------------------------------------------------------------------------------

/-- What a worker thread does: it cannot set its signal mask, it receives or it sends. -/
inductive WorkerEvent where
  | sigmaskFailed
  | receive (arrivalTime : IperfTime) (results : List RecvResult)
  | send (before : IperfTime) (io : SendIo)

/-- A worker sets `i_errno` and ends. -/
def endWorker (r : ClientRun) (position : Nat) (error : IError) : ClientRun :=
  { (r.errno error) with threads := r.threads.filter (fun other => other ≠ position) }

/-- One turn of `iperf_client_worker_run`. A call that blocks changes nothing. -/
def work (r : ClientRun) (position : Nat) : WorkerEvent → ClientRun
  | .sigmaskFailed => r.endWorker position .iepthreadsigmask
  | .receive arrivalTime results =>
      match iperfRecvMt r.test position arrivalTime results with
      | none => r
      | some (n, test) =>
          let r := { r with test }
          if n < 0 then r.endWorker position .iestreamread else r
  | .send before io =>
      match iperfSendMt r.test position before io with
      | none => r
      | some (n, test) =>
          let r := { r with test }
          if n < 0 ∧ n ≠ netSofterror then r.endWorker position .iestreamwrite else r

/-- A worker leaves in the test what its call counts, and may end with an error of its own. -/
theorem work_cases (r : ClientRun) (position : Nat) (event : WorkerEvent)
    : ∃ n test, r.test.Serves n test
      ∧ (r.work position event = { r with test }
        ∨ ∃ error, (error = .iepthreadsigmask ∨ error = .iestreamread ∨ error = .iestreamwrite)
          ∧ r.work position event = { r with test }.endWorker position error) := by
  cases event with
  | sigmaskFailed => exact ⟨0, r.test, .idle _, .inr ⟨_, .inl rfl, rfl⟩⟩
  | receive arrivalTime results =>
      unfold work
      dsimp only
      split
      · exact ⟨0, r.test, .idle _, .inl rfl⟩
      · next n test received =>
          refine ⟨_, test, iperfRecvMt_serves received, ?_⟩
          split
          · exact .inr ⟨_, .inr (.inl rfl), rfl⟩
          · exact .inl rfl
  | send before io =>
      unfold work
      dsimp only
      split
      · exact ⟨0, r.test, .idle _, .inl rfl⟩
      · next n test sent =>
          refine ⟨_, test, iperfSendMt_serves sent, ?_⟩
          split
          · exact .inr ⟨_, .inr (.inr rfl), rfl⟩
          · exact .inl rfl

/-- The worker of a position serves the direction of its stream. -/
def serves (r : ClientRun) (position : Nat) : WorkerEvent → Bool
  | .sigmaskFailed => true
  | .receive _ _ => (r.test.streams[position]?).any (fun sp => !sp.sender)
  | .send _ _ => (r.test.streams[position]?).any Stream.sender

-----------------------------------------------------------------------------------------
-- Steps
-----------------------------------------------------------------------------------------

/-- What can happen next. -/
inductive Event where
  | stop
  | connect (io : DialIo) (now : IperfTime)
  | listen (io : ListenIo)
  | leave
  | threads (io : ThreadsIo)
  | timer (reading : IperfTime)
  | check (io : CheckIo)
  | join (failure : Nat → Option ThreadFailure)
  | save
  | stopAll (failure : Nat → Option ThreadFailure)
  | endFailed (sent : Bool)
  | finish
  | worker (position : Nat) (event : WorkerEvent)

/-- One step of the main thread, of the app (`stopTest`, the final callback) or of a worker. -/
inductive Step : ClientRun → Event → ClientRun → Prop
  | stop {r : ClientRun} (running : r.point.isFinished = false)
      : Step r .stop { r with test := { r.test with done := true } }
  | connect {r : ClientRun} {io : DialIo} {now : IperfTime} (here : r.point = .connecting)
      : Step r (.connect io now) (r.connect io now)
  | listen {r : ClientRun} {io : ListenIo} (here : r.point = .loop)
      (going : r.test.state ≠ .iperfDone)
      : Step r (.listen io) (r.listen io)
  | leave {r : ClientRun} (here : r.point = .loop) (done : r.test.state = .iperfDone)
      : Step r .leave { r with point := .joining }
  | threads {r : ClientRun} {io : ThreadsIo} (here : r.point = .threads)
      : Step r (.threads io) (r.startThreads io)
  | timer {r : ClientRun} {now reading : IperfTime} {next : Option Nat}
      (here : r.point = .timers now next)
      : Step r (.timer reading) (r.runTimer now next reading)
  | check {r : ClientRun} {io : CheckIo} (here : r.point = .check)
      : Step r (.check io) (r.check io)
  | join {r : ClientRun} {failure : Nat → Option ThreadFailure} (here : r.point = .joining)
      : Step r (.join failure) (r.join failure)
  | save {r : ClientRun} (here : r.point = .failing)
      : Step r .save { r with point := .stopping r.iErrno }
  | stopAll {r : ClientRun} {failure : Nat → Option ThreadFailure} {saved : Int32}
      (here : r.point = .stopping saved)
      : Step r (.stopAll failure) (r.stopAll failure saved)
  | endFailed {r : ClientRun} {sent : Bool} {saved : Int32} (here : r.point = .ending saved)
      : Step r (.endFailed sent) (r.endFailed saved sent)
  | finish {r : ClientRun} {result : Int} (here : r.point = .returned result)
      : Step r .finish (r.finish result)
  | worker {r : ClientRun} {position : Nat} {event : WorkerEvent} (lives : position ∈ r.threads)
      (direction : r.serves position event)
      : Step r (.worker position event) (r.work position event)

/-- What `startTest:` hands to the queue on which `iperf_run_client` is called. -/
def appStart (configuration : Configuration) (address : Nat)
    (timers : Timers IperfTime TimerRecord)
    : ClientRun :=
  { test := startTest configuration, reporterInterval := 1, address, timers }

/-- Steps that all meet a condition, one after the other. -/
def Run (allowed : ClientRun → Event → Prop) : ClientRun → ClientRun → Prop :=
  Relation.ReflTransGen (fun r next => ∃ event, allowed r event ∧ Step r event next)

/-- The step that an event makes, if it can happen. -/
def step (r : ClientRun) (event : Event) : Option ClientRun :=
  match event, r.point with
  | .stop, .finished _ _ => none
  | .stop, _ => some { r with test := { r.test with done := true } }
  | .connect io now, .connecting => some (r.connect io now)
  | .listen io, .loop => if r.test.state ≠ .iperfDone then some (r.listen io) else none
  | .leave, .loop => if r.test.state = .iperfDone then some { r with point := .joining } else none
  | .threads io, .threads => some (r.startThreads io)
  | .timer reading, .timers now next => some (r.runTimer now next reading)
  | .check io, .check => some (r.check io)
  | .join failure, .joining => some (r.join failure)
  | .save, .failing => some { r with point := .stopping r.iErrno }
  | .stopAll failure, .stopping saved => some (r.stopAll failure saved)
  | .endFailed sent, .ending saved => some (r.endFailed saved sent)
  | .finish, .returned result => some (r.finish result)
  | .worker position event, _ =>
      if position ∈ r.threads ∧ r.serves position event then some (r.work position event) else none
  | _, _ => none

theorem step_sound {r next : ClientRun} {event : Event} (steps : r.step event = some next)
    : Step r event next := by
  unfold step at steps
  split at steps
  · cases steps
  · next point other =>
      cases steps
      refine .stop ?_
      cases here : r.point with
      | finished result errorState => exact absurd here (other result errorState)
      | _ => rfl
  · next here =>
      cases steps
      exact .connect here
  · next here =>
      split at steps
      · next going =>
          cases steps
          exact .listen here going
      · cases steps
  · next here =>
      split at steps
      · next done =>
          cases steps
          exact .leave here done
      · cases steps
  · next here =>
      cases steps
      exact .threads here
  · next here =>
      cases steps
      exact .timer here
  · next here =>
      cases steps
      exact .check here
  · next here =>
      cases steps
      exact .join here
  · next here =>
      cases steps
      exact .save here
  · next here =>
      cases steps
      exact .stopAll here
  · next here =>
      cases steps
      exact .endFailed here
  · next here =>
      cases steps
      exact .finish here
  · split at steps
    · next able =>
        cases steps
        exact .worker able.1 able.2
    · cases steps
  · cases steps

/-- Events one after the other, each of which passes a check. -/
def follow (r : ClientRun) (passes : ClientRun → Event → Bool) (events : List Event)
    : Option ClientRun :=
  events.foldlM (fun r event => if passes r event then r.step event else none) r

theorem follow_run {passes : ClientRun → Event → Bool} {allowed : ClientRun → Event → Prop}
    {r last : ClientRun} {events : List Event} (follows : r.follow passes events = some last)
    (meets : ∀ event ∈ events, ∀ r, passes r event = true → allowed r event)
    : Run allowed r last := by
  refine Checked.run_of_foldlM follows ?_
  intro event isOne r next steps
  split at steps
  · next passed => exact ⟨event, meets event isOne r passed, step_sound steps⟩
  · cases steps

/-- A download over one stream. -/
def download : ClientRun :=
  appStart { duration := 10, streams := 1, type := .download } 0 { active := [] }

def midnight : IperfTime := { secs := 0, usecs := 0 }

/-- The server answers on descriptor 3. -/
def answered : Event := .connect { cookie := [], dialed := 3 } midnight

/-- A message of the server. -/
def arrives (value : UInt8) (io : RunMessageIo) : Event :=
  .listen { now := midnight, select := .ready [3], later := midnight, message := .byte value io }

end ClientRun

end Iperf
