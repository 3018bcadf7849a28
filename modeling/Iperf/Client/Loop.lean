import Iperf.Library.BigEndian
import Iperf.Server.Loop

/-! `iperf_run_client`: the messages of the server, one pass of the loop, and the workers. What
fails leaves the value of `i_errno`, which a server may choose.
-/

namespace Iperf

/-- The test and the local variables of `iperf_run_client`. -/
structure Client where
  test : Test
  startup : Bool := true
  lastReceiveTime : IperfTime
  lastReceiveBlocks : UInt64 := 0
  rcvTimeoutUs : Nat
  /-- The test timer, the statistics timer and the omit timer, when they are armed. -/
  timer : Bool := false
  statsTimer : Bool := false
  omitTimer : Bool := false

/-- One call of the protocol's `connect` and the new stream behind it. -/
structure ConnectIo where
  connected : Except SetupError Int
  newStream : NewStreamIo := {}

/-- The loop of `iperf_create_streams` with `count` streams to go; the connections that are not
used stay behind.
-/
def createStreamsLoop (sender : Bool)
    : Nat → Test → List ConnectIo → Except IError (Test × List ConnectIo)
  | 0, test, rest => .ok (test, rest)
  | _ + 1, _, [] => .error .iestreamconnect
  | count + 1, test, io :: rest => do
      let s ← io.connected.mapError SetupError.toIError
      let test ← iperfNewStream test s sender io.newStream
      createStreamsLoop sender count test rest

def iperfCreateStreams (test : Test) (sender : Bool) (connections : List ConnectIo)
    : Except IError (Test × List ConnectIo) :=
  createStreamsLoop sender test.numStreams.toInt.toNat test connections

/-- The `CREATE_STREAMS` message: in both directions the sending streams come first. -/
def clientCreateStreams (test : Test) (connections : List ConnectIo) : Except IError Test :=
  match test.mode with
  | .bidirectional => do
      let (test, rest) ← iperfCreateStreams test true connections
      let (test, _) ← iperfCreateStreams test false rest
      return test
  | .sender => (iperfCreateStreams test true connections).map Prod.fst
  | .receiver => (iperfCreateStreams test false connections).map Prod.fst

/-- The reads of the two numbers behind `SERVER_ERROR`. -/
structure ErrnoIo where
  /-- What stands in `err`, which is not initialised. -/
  err : List UInt8 := []
  number : List ReadRound := [.selectFailed]
  osNumber : List ReadRound := []

/-- `ntohl(err)` once the error number was read, or `none` when `Nread` fails. What a read that is
cut short leaves out stands there from before.
-/
def ErrnoIo.sent (io : ErrnoIo) : Option Int32 :=
  let received := nread io.err 4 io.number
  if received.ret < 0 then none
  else some (UInt32.ofNat (BigEndian.decode received.buffer)).toInt32

/-- The second number, for `errno`, can be read. -/
def ErrnoIo.complete (io : ErrnoIo) : Bool :=
  0 ≤ (nread (nread io.err 4 io.number).buffer 4 io.osNumber).ret

/-- What the `SERVER_ERROR` message leaves in `i_errno`. -/
def ErrnoIo.iErrno (io : ErrnoIo) : Int32 :=
  match io.sent with
  | none => IError.iectrlread.code
  | some code => if io.complete then code else IError.iectrlread.code

/-- The answers to the calls a message leads to. -/
structure ClientMessageIo where
  parametersSent : Bool := true
  connections : List ConnectIo := []
  now : IperfTime := { secs := 0, usecs := 0 }
  resultsSent : Bool := true
  results : Option CJson := none
  serverErrno : ErrnoIo := {}

/-- What the read of a message gives. -/
inductive ClientMessage where
  | failed
  | closed
  | byte (value : UInt8) (io : ClientMessageIo)

/-- `create_client_timers` and `create_client_omit_timer`. -/
def Client.createTimers (c : Client) : Client :=
  {
    c with
    test := {
      c.test with
      done := if c.test.duration ≠ 0 then false else c.test.done
      omitting := c.test.omitPeriod ≠ 0
    }
    timer := c.test.duration ≠ 0
    statsTimer := c.test.statsInterval ≠ 0
    omitTimer := c.test.omitPeriod ≠ 0
  }

/-- `iperf_exchange_results` on the client: it sends first, then reads. -/
def clientExchangeResults (test : Test) (io : ClientMessageIo) : Except IError Test :=
  if !io.resultsSent then .error .iesendresults
  else
    match io.results with
    | none => .error .ierecvresults
    | some json =>
        match getResults test json with
        | (some error, _) => .error error
        | (none, test) => .ok test

/-- `iperf_client_end`. The state is set before `IPERF_DONE` is written, and the caller does
not look at the result.
-/
def iperfClientEnd (test : Test) : Test :=
  if test.state.code > 0 ∧ test.ctrlSck ≥ 0 then { test with state := .iperfDone } else test

/-- `iperf_handle_message_client`. -/
def Client.handleMessage (c : Client) : ClientMessage → Except Int32 Client
  | .failed => .error IError.ierecvmessage.code
  | .closed => .error IError.iectrlclose.code
  | .byte value io =>
      let test := { c.test with state := .ofByte value }
      match test.state with
      | .paramExchange =>
          if io.parametersSent then .ok { c with test } else .error IError.iesendparams.code
      | .createStreams =>
          ((clientCreateStreams test io.connections).mapError IError.code).map
            fun test => { c with test }
      | .testStart => .ok (Client.createTimers { c with test := iperfInitTest test io.now })
      | .testRunning => .ok { c with test }
      | .exchangeResults =>
          ((clientExchangeResults test io).mapError IError.code).map fun test => { c with test }
      | .displayResults => .ok { c with test := iperfClientEnd test }
      | .iperfDone => .ok { c with test }
      | .serverTerminate => .error IError.ieserverterm.code
      | .accessDenied => .error IError.ieaccessdenied.code
      | .serverError => .error io.serverErrno.iErrno
      | _ => .error IError.iemessage.code

/-- The answers to the calls of one pass. -/
structure ClientPassIo where
  /-- The clock before `select(2)`. -/
  now : IperfTime
  select : SelectResult
  /-- The clock after a `select(2)` that timed out. -/
  later : IperfTime
  message : ClientMessage := .failed
  threadsCreated : Bool := true
  /-- The timers that `tmr_run` finds expired, and its clock. -/
  expired : List Timer := []
  timerNow : IperfTime
  cpuUtil : ℚ × ℚ × ℚ := (0, 0, 0)
  testEndSent : Bool := true

/-- Run one timer that has expired; `safety` is the one that ends the test. -/
def Client.runTimer (now : IperfTime) (c : Client) : Timer → Client
  | .safety =>
      if c.timer then { c with timer := false, test := { c.test with done := true } } else c
  | .stats =>
      if c.statsTimer ∧ c.test.done = false then
        { c with test := iperfStatsCallback c.test now }
      else c
  | .omitPeriod =>
      if c.omitTimer then
        {
          c with
          omitTimer := false
          test := iperfResetStats { c.test with omitting := false } now
        }
      else c

/-- One of the conditions under which a test is over, once it is not omitting any more. -/
def Test.fulfilled (test : Test) : Bool :=
  test.done
    || (test.settings.bytes ≠ 0
      && (test.bytesSent ≥ test.settings.bytes || test.bytesReceived ≥ test.settings.bytes))
    || (test.settings.blocks ≠ 0
      && (test.blocksSent ≥ test.settings.blocks
        || test.blocksReceived ≥ test.settings.blocks))

/-- The sending workers are cancelled and joined. -/
def stopSenders (test : Test) : Test :=
  {
    test with
    streams := test.streams.map (fun sp =>
      if sp.sender then { sp with done := true, threadCreated := false } else sp)
  }

/-- The threads of the first pass in `TEST_RUNNING`. -/
def Client.startThreads (c : Client) (io : ClientPassIo) : Except Int32 Client :=
  if c.startup then
    if io.threadsCreated then
      .ok {
        c with
        startup := false
        test := {
          c.test with
          streams := c.test.streams.map (fun sp => { sp with threadCreated := true })
        }
      }
    else .error IError.iepthreadcreate.code
  else .ok c

/-- "Yes, done! Send TEST_END." -/
def Client.finish (c : Client) (io : ClientPassIo) : Except Int32 Client :=
  if c.test.omitting = false ∧ c.test.fulfilled then
    let test := { stopSenders c.test with done := true, cpuUtil := io.cpuUtil }
    let sent := iperfSetSendState (iperfStatsCallback test io.timerNow) .testEnd io.testEndSent
    (sent.mapError IError.code).map fun test => { c with test }
  else .ok c

/-- The part of a pass for a running test. -/
def Client.running (c : Client) (io : ClientPassIo) : Except Int32 Client :=
  if c.test.state = .testRunning then do
    let c ← c.startThreads io
    (io.expired.foldl (Client.runTimer io.timerNow) c).finish io
  else .ok c

/-- "See if the test is making progress." -/
def Client.noteProgress (c : Client) (now : IperfTime) : Client :=
  if c.test.blocksReceived > c.lastReceiveBlocks then
    { c with lastReceiveBlocks := c.test.blocksReceived, lastReceiveTime := now }
  else c

/-- The watchdog looks at a timeout of `select(2)` only in a running test that receives. -/
def Client.watches (c : Client) : Prop := c.test.state = .testRunning ∧ 0 < c.rcvTimeoutUs

instance (c : Client) : Decidable c.watches := inferInstanceAs (Decidable (_ ∧ _))

/-- Nothing has been received for longer than the timeout. -/
def Client.timedOut (c : Client) (later : IperfTime) : Bool :=
  let (notLater, diffTime) := iperfTimeDiff later c.lastReceiveTime
  !notLater && iperfTimeInUsecs diffTime > c.rcvTimeoutUs
    && c.test.blocksReceived = c.lastReceiveBlocks

/-- What a pass does after the progress was noted. -/
def Client.proceed (c : Client) (io : ClientPassIo) : Except Int32 Client :=
  match io.select with
  | .ready readSet =>
      if fdIsset c.test.ctrlSck readSet then do
        let c ← c.handleMessage io.message
        c.running io
      else c.running io
  | _ => c.running io

/-- One pass of the loop. The clock is read again only if the watchdog looks. -/
def Client.pass (c : Client) (io : ClientPassIo) : Except Int32 Client :=
  match io.select with
  | .failed errno =>
      if errno ≠ .eintr then .error IError.ieselect.code else (c.noteProgress io.now).proceed io
  | .timedOut =>
      if c.watches then
        if c.timedOut io.later then .error IError.ienomsg.code
        else (c.noteProgress io.later).proceed io
      else (c.noteProgress io.now).proceed io
  | .ready _ => (c.noteProgress io.now).proceed io

/-- What happens to a client: a pass of its loop, or a worker that receives or sends. -/
inductive ClientEvent where
  | pass (io : ClientPassIo)
  | receive (position : Nat) (arrivalTime : IperfTime) (results : List RecvResult)
  | send (position : Nat) (before : IperfTime) (io : SendIo)

/-- One event: the client, and the bytes a worker received. -/
def Client.step (c : Client) : ClientEvent → Except Int32 (Client × Nat)
  | .pass io => (c.pass io).map fun c => (c, 0)
  | .receive position arrivalTime results =>
      if c.test.working position false then
        match iperfRecvMt c.test position arrivalTime results with
        | none => .ok (c, 0)
        | some (r, test) => .ok ({ c with test }, r.toNat)
      else
        .ok (c, 0)
  | .send position before io =>
      if c.test.working position true then
        match iperfSendMt c.test position before io with
        | none => .ok (c, 0)
        | some (_, test) => .ok ({ c with test }, 0)
      else
        .ok (c, 0)

/-- The client when `iperf_connect` has returned. -/
def clientStart (test : Test) (now : IperfTime) : Client :=
  {
    test
    lastReceiveTime := now
    rcvTimeoutUs :=
      if test.mode ≠ .sender then iperfTimeInUsecs test.settings.rcvTimeout else 0
  }

end Iperf
