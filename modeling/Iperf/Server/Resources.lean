import Iperf.Library.Checked
import Iperf.Library.HandleTable
import Iperf.Model.TestTimers
import Iperf.Server.Loop

/-! `iperf_run_server` from the call to its return, with what it holds meanwhile: the descriptors
it has opened, the worker threads and the timers. Unlike in the model of a pass, a failure keeps
the state it leaves, which `cleanup_server` then takes down.
-/

namespace Iperf

open TimerList

-----------------------------------------------------------------------------------------
-- The state
-----------------------------------------------------------------------------------------

namespace ServerRun

/-- Where the main thread stands. `passed` is the end of a pass, where timers run if `select(2)`
timed out; `failing` calls `cleanup_server` and returns.
-/
inductive Point where
  | start
  | loop
  | listener (readSet : List Int)
  | control (readSet : List Int)
  | streams (readSet : List Int)
  | complete
  | threads
  | passed (timedOut : Bool)
  | timers (now : IperfTime) (next : Option Nat)
  | failing (result : Int)
  | returned (result : Int)
deriving DecidableEq

/-- The calls that bear on the workers: `pthread_create` and `iperf_free_stream`, the latter with
the stream and whether its worker is running then, and `cleanup_server`.
-/
inductive Call where
  | createThread (position : Nat)
  | freeStream (sp : Stream) (running : Bool)
  | cleanupServer
deriving DecidableEq

end ServerRun

/-- The test and the local variables of `iperf_run_server`, its descriptors, its timers, the
positions of the streams whose worker is running, and the calls made so far. `misissued` is set
when the kernel hands out a descriptor that is open or none at all.
-/
structure ServerRun where
  test : Test
  reporterInterval : ℚ := 0
  sendStreamsAccepted : Int32 := 0
  recStreamsAccepted : Int32 := 0
  streamsToSend : Int32 := 0
  streamsToRec : Int32 := 0
  flag : Int32
  lastReceiveTime : IperfTime := { secs := 0, usecs := 0 }
  lastReceiveBlocks : UInt64 := 0
  rcvTimeoutUs : Nat := 0
  timing : Timing
  threads : List Nat := []
  calls : List ServerRun.Call := []
  table : HandleTable.Table Int := {}
  misissued : Bool := false
  point : ServerRun.Point := .start

namespace ServerRun

/-- The server of the loop. -/
def view (r : ServerRun) : Server :=
  {
    test := r.test
    sendStreamsAccepted := r.sendStreamsAccepted
    recStreamsAccepted := r.recStreamsAccepted
    streamsToSend := r.streamsToSend
    streamsToRec := r.streamsToRec
    flag := r.flag
    lastReceiveTime := r.lastReceiveTime
    lastReceiveBlocks := r.lastReceiveBlocks
    rcvTimeoutUs := r.rcvTimeoutUs
    timer := (r.timing.field .timer).isSome
    statsTimer := (r.timing.field .statsTimer).isSome
    omitTimer := (r.timing.field .omitTimer).isSome
  }

/-- What a function of the source returns: the state, also when it fails. -/
abbrev Result := Except (ServerRun × IError) ServerRun

def log (r : ServerRun) (call : Call) : ServerRun := { r with calls := r.calls ++ [call] }

def setState (r : ServerRun) (state : TestState) : ServerRun :=
  { r with test := { r.test with state } }

-----------------------------------------------------------------------------------------
-- Descriptors
-----------------------------------------------------------------------------------------

/-- The kernel hands out a descriptor. -/
def opens (r : ServerRun) (fd : Int) : ServerRun :=
  {
    r with
    table := r.table.add fd
    misissued := r.misissued || decide (fd < 0) || r.table.opened.contains fd
  }

/-- `close(2)`; nothing happens for a negative number. -/
def close (r : ServerRun) (fd : Int) : ServerRun :=
  if fd < 0 then r else { r with table := r.table.close fd }

/-- Close the sockets of all streams, which keep their numbers. -/
def closeSockets (r : ServerRun) : ServerRun :=
  r.test.streams.foldl (fun r sp => r.close sp.socket) r

/-- `iperf_set_send_state`. -/
def sendState (r : ServerRun) (state : TestState) (sent : Bool) : Result :=
  match iperfSetSendState r.test state sent with
  | .error error => .error (r.setState state, error)
  | .ok test => .ok { r with test }

-----------------------------------------------------------------------------------------
-- `cleanup_server`
-----------------------------------------------------------------------------------------

/-- "Cancel outstanding threads"; a failure is only printed. -/
def joinWorkers (r : ServerRun) (joined : Nat → Bool) : ServerRun :=
  let outstanding position :=
    (r.test.streams[position]?).any Stream.threadCreated && joined position
  {
    r with
    test := {
      r.test with
      streams := r.test.streams.map (fun sp => { sp with done := true, threadCreated := false })
    }
    threads := r.threads.filter (fun position => !outstanding position)
  }

/-- "Close open streams" and "Close open test sockets": each number is set to `-1`. -/
def closeAll (r : ServerRun) : ServerRun :=
  let r := r.closeSockets
  let streams := r.test.streams.map (fun sp => { sp with socket := -1 })
  let r := { r with test := { r.test with streams } }
  let r := r.close r.test.ctrlSck
  let r := { r with test := { r.test with ctrlSck := -1 } }
  let r := r.close r.test.listener
  let r := { r with test := { r.test with listener := -1 } }
  let r := r.close r.test.protListener
  { r with test := { r.test with protListener := -1 } }

/-- "Cancel any remaining timers." -/
def cancelTimers (r : ServerRun) : ServerRun :=
  {
    r with
    timing := (((r.timing.cancelTimer .statsTimer).cancelTimer .reporterTimer).cancelTimer
      .omitTimer).cancelTimer .timer
  }

/-- `cleanup_server`; `joined` tells which workers `pthread_join` ends. -/
def cleanupServer (r : ServerRun) (joined : Nat → Bool) : ServerRun :=
  let r := (((r.log .cleanupServer).joinWorkers joined).closeAll).cancelTimers
  { r with test := { r.test with congestionUsed := none } }

-----------------------------------------------------------------------------------------
-- The control connection
-----------------------------------------------------------------------------------------

/-- `iperf_server_listen`. -/
def serverListen (r : ServerRun) (announced : Option Int) (now : IperfTime) : ServerRun :=
  match announced with
  | none => { r with test := { r.test with listener := -1 }, point := .failing (-2) }
  | some s =>
      {
        r.opens s with
        test := { r.test with listener := s, state := .iperfStart }
        lastReceiveTime := now
        rcvTimeoutUs := iperfTimeInUsecs r.test.settings.rcvTimeout
        point := .loop
      }

/-- The answers to the calls of a protocol's `listen`: the new socket, the first error on it, and
the error when its buffer sizes are read back.
-/
structure ListenIo where
  socket : Option Int := none
  setup : Option SetupError := none
  bufferCheck : Option SetupError := none

/-- The TCP listener is thrown away and opened again. -/
def reopenListener (r : ServerRun) (io : ListenIo) : Except (ServerRun × SetupError) ServerRun :=
  let r := r.close r.test.listener
  match io.socket with
  | none => .error (r, .iestreamlisten)
  | some s =>
      let r := r.opens s
      match io.setup with
      | some error => .error (r.close s, error)
      | none => .ok { r with test := { r.test with listener := s } }

/-- `iperf_tcp_listen`. -/
def tcpListen (r : ServerRun) (io : ListenIo)
    : Except (ServerRun × SetupError) (ServerRun × Int) := do
  let r ← if r.test.ownListener then r.reopenListener io else .ok r
  match io.bufferCheck with
  | some error => .error (r.close r.test.listener, error)
  | none => .ok (r, r.test.listener)

/-- `iperf_udp_listen`. -/
def udpListen (r : ServerRun) (io : ListenIo)
    : Except (ServerRun × SetupError) (ServerRun × Int) :=
  match io.socket with
  | none => .error (r, .iestreamlisten)
  | some s => .ok (r.opens s, s)

/-- `test->protocol->listen`. -/
def protocolListen (r : ServerRun) (io : ListenIo)
    : Except (ServerRun × SetupError) (ServerRun × Int) :=
  match r.test.protocol with
  | .tcp => r.tcpListen io
  | .udp | .sctp => r.udpListen io

/-- The answers to the calls of `iperf_accept` and of the functions it calls. -/
structure AcceptIo where
  accepted : Option Int := none
  nodelaySet : Bool := true
  cookie : List ReadRound := []
  paramExchangeSent : Bool := true
  parameters : Option CJson := none
  listen : ListenIo := {}
  serverErrorSent : Bool := true
  errnosSent : Bool := true
  createStreamsSent : Bool := true

/-- The client is told that `listen` has failed. -/
def reportServerError (r : ServerRun) (error : SetupError) (io : AcceptIo) : Result := do
  let r ← r.sendState .serverError io.serverErrorSent
  .error (r, if io.errnosSent then error.toIError else .iectrlwrite)

/-- `iperf_exchange_parameters`. -/
def exchangeParameters (r : ServerRun) (io : AcceptIo) : Result :=
  match io.parameters with
  | none => .error (r, .ierecvparams)
  | some json =>
      match { r with test := getParameters r.test json }.protocolListen io.listen with
      | .error (r, error) => r.reportServerError error io
      | .ok (r, s) =>
          { r with test := { r.test with protListener := s } }.sendState .createStreams
            io.createStreamsSent

/-- The branch of `iperf_accept` for a new client, up to the label `error_handling`. -/
def acceptClient (r : ServerRun) (s : Int) (io : AcceptIo) : Result :=
  let r := { r with test := { r.test with ctrlSck := s } }
  if !io.nodelaySet then .error (r, .iesetnodelay)
  else
    let cookie := nread r.test.cookie cookieSize io.cookie
    let r := { r with test := { r.test with cookie := cookie.buffer } }
    if cookie.ret ≠ cookieSize then .error (r, .ierecvcookie)
    else do
      let r ← r.sendState .paramExchange io.paramExchangeSent
      let r ← r.exchangeParameters io
      if r.test.serverAffinity ≠ -1 then .error (r, .ieaffinity) else .ok r

/-- `iperf_accept`. A stranger is denied and closed. -/
def accept (r : ServerRun) (io : AcceptIo) : Result :=
  match io.accepted with
  | none => .error (r, .ieaccept)
  | some s =>
      let r := r.opens s
      if r.test.ctrlSck = -1 then
        match r.acceptClient s io with
        | .error (r, error) => .error (r.close s, error)
        | .ok r => .ok r
      else .ok (r.close s)

/-- "Set streams number". -/
def setStreamsNumber (r : ServerRun) : ServerRun :=
  let s := r.view.setStreamsNumber
  { r with streamsToSend := s.streamsToSend, streamsToRec := s.streamsToRec }

/-- The connections on the listener. -/
def handleListener (r : ServerRun) (readSet : List Int) (io : AcceptIo) : ServerRun :=
  if fdIsset r.test.listener readSet ∧ r.test.state ≠ .createStreams then
    match r.accept io with
    | .error (r, _) => { r with point := .failing (-1) }
    | .ok r => { r.setStreamsNumber with point := .control (fdClr r.test.listener readSet) }
  else { r with point := .control readSet }

-----------------------------------------------------------------------------------------
-- Messages
-----------------------------------------------------------------------------------------

/-- `iperf_exchange_results`. -/
def exchangeResults (r : ServerRun) (io : EndIo) : Result :=
  match io.results with
  | none => .error (r, .ierecvresults)
  | some json =>
      match getResults r.test json with
      | (some error, test) => .error ({ r with test }, error)
      | (none, test) =>
          if io.resultsSent then .ok { r with test } else .error ({ r with test }, .iesendresults)

/-- The `TEST_END` message. -/
def testEnd (r : ServerRun) (io : EndIo) : Result := do
  let test := iperfStatsCallback { r.test with done := true, cpuUtil := io.cpuUtil } io.now
  let r := { r with test }.closeSockets
  let r ← r.sendState .exchangeResults io.exchangeResultsSent
  let r ← r.exchangeResults io
  r.sendState .displayResults io.displayResultsSent

/-- The `CLIENT_TERMINATE` message. -/
def clientTerminate (r : ServerRun) (io : EndIo) : ServerRun :=
  { r with test := { r.test with cpuUtil := io.cpuUtil } }.closeSockets.setState .iperfDone

/-- `iperf_handle_message_server`. -/
def handleMessage (r : ServerRun) : ControlMessage → Result
  | .failed => .error (r, .ierecvmessage)
  | .closed => .ok (r.setState .iperfDone)
  | .byte value io =>
      let r := r.setState (.ofByte value)
      match r.test.state with
      | .testStart => .ok r
      | .testEnd => r.testEnd io
      | .iperfDone => .ok r
      | .clientTerminate => .ok (r.clientTerminate io)
      | _ => .error (r, .iemessage)

/-- The message on the control connection. -/
def handleControl (r : ServerRun) (readSet : List Int) (message : ControlMessage) : ServerRun :=
  if fdIsset r.test.ctrlSck readSet then
    match r.handleMessage message with
    | .error (r, _) => { r with point := .failing (-1) }
    | .ok r => { r with point := .streams (fdClr r.test.ctrlSck readSet) }
  else { r with point := .streams readSet }

-----------------------------------------------------------------------------------------
-- Streams
-----------------------------------------------------------------------------------------

/-- The answers to the calls made for one new stream. `reused` tells that another part of the
process has got the number of a connection that was denied and closed.
-/
structure StreamIo where
  accepted : Option Int := none
  cookie : List ReadRound := []
  /-- `recvfrom`, `connect` or the check of the buffer sizes fails. -/
  udpSetup : Option SetupError := none
  bufferTooSmall : Bool := false
  nextListener : Option Int := none
  replySent : Bool := true
  inet6 : Bool := false
  tosSet : Bool := true
  reused : Bool := false
  newStream : NewStreamIo := {}

/-- `iperf_tcp_accept`: the descriptor it returns, and whether it has closed it. -/
def tcpAccept (r : ServerRun) (io : StreamIo)
    : Except (ServerRun × IError) (ServerRun × Int × Bool) :=
  match io.accepted with
  | none => .error (r, .iestreamconnect)
  | some s =>
      let r := r.opens s
      let cookie := readCookie io.cookie
      if cookie.ret < 0 then .error (r.close s, .ierecvcookie)
      else if strncmpEqual cookieSize r.test.cookie cookie.buffer then .ok (r, s, false)
      else .ok (r.close s, s, true)

/-- "If the socket buffer was too small, but it was the default size". -/
def growBuffer (r : ServerRun) (io : StreamIo) : ServerRun :=
  if io.bufferTooSmall ∧ r.test.settings.socketBufsize = 0 then
    let bufsize := r.test.settings.blksize + udpBufferExtra
    { r with test := { r.test with settings := { r.test.settings with socketBufsize := bufsize } } }
  else r

/-- `iperf_udp_accept`: the stream takes the old listener over. -/
def udpAccept (r : ServerRun) (io : StreamIo)
    : Except (ServerRun × IError) (ServerRun × Int × Bool) :=
  let s := r.test.protListener
  let r := r.growBuffer io
  match io.udpSetup with
  | some error => .error (r, error.toIError)
  | none =>
      match io.nextListener with
      | none => .error ({ r with test := { r.test with protListener := -1 } }, .iestreamlisten)
      | some next =>
          let r := { r.opens next with test := { r.test with protListener := next } }
          if io.replySent then .ok (r, s, false) else .error (r, .iestreamwrite)

/-- `test->protocol->accept`. -/
def protocolAccept (r : ServerRun) (io : StreamIo)
    : Except (ServerRun × IError) (ServerRun × Int × Bool) :=
  match r.test.protocol with
  | .tcp => r.tcpAccept io
  | .udp | .sctp => r.udpAccept io

/-- `iperf_common_sockopts`. -/
def commonSockopts (r : ServerRun) (isClosed : Bool) (io : StreamIo) : Option IError :=
  if r.test.settings.tos = 0 then none
  else if isClosed then some .iesettos
  else if io.tosSet then none
  else some (if io.inet6 then .iesetcos else .iesettos)

/-- The choice of a direction. -/
def countStream (r : ServerRun) : ServerRun :=
  let s := r.view.countStream
  { r with
    flag := s.flag
    recStreamsAccepted := s.recStreamsAccepted
    sendStreamsAccepted := s.sendStreamsAccepted }

/-- The new stream of a connection. -/
def addStream (r : ServerRun) (fd : Int) (io : StreamIo) : Result :=
  let r := r.countStream
  if r.flag ≠ -1 then
    match iperfNewStream r.test fd (r.flag ≠ 0) io.newStream with
    | .error error => .error (r, error)
    | .ok test => .ok { r with test, flag := -1 }
  else .ok r

/-- One connection to the stream listener. -/
def acceptStream (r : ServerRun) (io : StreamIo) : Result :=
  match r.protocolAccept io with
  | .error failed => .error failed
  | .ok (r, fd, closed) =>
      let isClosed := closed && !io.reused
      match r.commonSockopts isClosed io with
      | some error => .error (r, error)
      | none => if isClosed then .ok r else r.addStream fd io

/-- All streams of the test have been accepted. -/
def allAccepted (r : ServerRun) : Bool := r.view.AllAccepted

/-- The first part of the `CREATE_STREAMS` block. -/
def handleStreams (r : ServerRun) (readSet : List Int) (io : StreamIo) : ServerRun :=
  if r.test.state = .createStreams then
    match if fdIsset r.test.protListener readSet then r.acceptStream io else .ok r with
    | .error (r, _) => { r with point := .failing (-1) }
    | .ok r => { r with point := if r.allAccepted then .complete else .passed false }
  else { r with point := .passed false }

-----------------------------------------------------------------------------------------
-- The start of the test
-----------------------------------------------------------------------------------------

/-- The answers to the calls made when the last stream has been accepted. -/
structure StartIo where
  netannounce : Option Int := none
  testStartSent : Bool := true
  /-- The clock of `iperf_init_test`. -/
  initClock : Option IperfTime := some { secs := 0, usecs := 0 }
  timers : TimersIo := {}
  testRunningSent : Bool := true

/-- The stream listener is closed, or the listener goes back to default options. -/
def relisten (r : ServerRun) (io : StartIo) : Result :=
  match r.test.protocol with
  | .tcp =>
      if r.test.ownListener then
        let r := r.close r.test.listener
        match io.netannounce with
        | none => .error ({ r with test := { r.test with listener := -1 } }, .ielisten)
        | some s => .ok { r.opens s with test := { r.test with listener := s, protListener := -1 } }
      else .ok { r with test := { r.test with protListener := -1 } }
  | .udp | .sctp =>
      let r := r.close r.test.protListener
      .ok { r with test := { r.test with protListener := -1 } }

/-- "Ensure that total requested data rate is not above limit". -/
def checkRate (r : ServerRun) : Result :=
  match checkRequestedRate r.test with
  | .error error => .error (r, error)
  | .ok () => .ok r

/-- `iperf_init_test`. -/
def initTest (r : ServerRun) (io : StartIo) : Result :=
  match io.initClock with
  | none => .error (r, .ieinittest)
  | some now => .ok { r with test := iperfInitTest r.test now }

/-- The timers are created one after the other; a failure keeps those before it. -/
def withTiming (r : ServerRun) : Except Timing Timing → Result
  | .error timing => .error ({ r with timing }, .ieinittest)
  | .ok timing => .ok { r with timing }

/-- The longest round trip in seconds times the number of state transitions. -/
def gracePeriod : Int32 := 40

/-- The interval of the safety timer in `create_server_timers`: an `int` sum and a 64-bit product.
-/
def safetyInterval (test : Test) : Int64 :=
  (test.duration + test.omitPeriod + gracePeriod).toInt64 * 1000000

/-- The three timers of `create_server_timers`. -/
def serverTimers (r : ServerRun) (now : IperfTime) (io : TimersIo) : Except Timing Timing := do
  let t := ((r.timing.setField .timer none).setField .statsTimer none).setField .reporterTimer none
  let t ← Timing.createTimerIf (r.test.duration ≠ 0) t now .timer
    (safetyInterval r.test).toUInt64 false (io.allocated .timer)
  let t ← Timing.createTimerIf (r.test.statsInterval ≠ 0) t now .statsTimer
    (usecsOfInterval r.test.statsInterval) true (io.allocated .statsTimer)
  Timing.createTimerIf (r.reporterInterval ≠ 0) t now .reporterTimer
    (usecsOfInterval r.reporterInterval) true (io.allocated .reporterTimer)

/-- `create_server_timers`. -/
def createServerTimers (r : ServerRun) (io : TimersIo) : Result :=
  match io.clock with
  | none => .error (r, .ieinittest)
  | some now =>
      let done := if r.test.duration ≠ 0 then false else r.test.done
      { r with test := { r.test with done } }.withTiming (r.serverTimers now io)

/-- `create_server_omit_timer`. -/
def createServerOmitTimer (r : ServerRun) (io : TimersIo) : Result :=
  if r.test.omitPeriod = 0 then
    .ok {
      r with
      timing := r.timing.setField .omitTimer none
      test := { r.test with omitting := false }
    }
  else
    match io.omitClock with
    | none => .error (r, .ieinittest)
    | some now =>
        { r with test := { r.test with omitting := true } }.withTiming
          (r.timing.createTimer now .omitTimer (r.test.omitPeriod.toInt64.toUInt64 * 1000000) false
            (io.allocated .omitTimer))

/-- From the last accepted stream to `TEST_RUNNING`. -/
def startTest (r : ServerRun) (io : StartIo) : Result := do
  let r ← r.relisten io
  let r ← r.checkRate
  let r ← r.sendState .testStart io.testStartSent
  let r ← r.initTest io
  let r ← r.createServerTimers io.timers
  let r ← r.createServerOmitTimer io.timers
  r.sendState .testRunning io.testRunningSent

def completeStreams (r : ServerRun) (io : StartIo) : ServerRun :=
  match r.startTest io with
  | .error (r, _) => { r with point := .failing (-1) }
  | .ok r => { r with point := .threads }

/-- The answers to `pthread_attr_init`, to the calls of `pthread_create` (how many succeed) and to
`pthread_attr_destroy`, and to the calls of `cleanup_server` if that is called.
-/
structure ThreadsIo where
  attrInit : Bool := true
  created : Nat
  attrDestroyed : Bool := true
  joined : Nat → Bool := fun _ => true

/-- The first streams have a thread now. -/
def createThreads (r : ServerRun) (count : Nat) : ServerRun :=
  let positions := List.range (min count r.test.streams.length)
  {
    r with
    threads := r.threads ++ positions
    calls := r.calls ++ positions.map Call.createThread
    test := {
      r.test with
      streams :=
        (r.test.streams.take count).map (fun sp => { sp with threadCreated := true })
          ++ r.test.streams.drop count
    }
  }

/-- "Create and spin up threads". A failure of the attributes cleans up and goes on. -/
def startThreads (r : ServerRun) (io : ThreadsIo) : ServerRun :=
  let r := if io.attrInit then r else r.cleanupServer io.joined
  let count := r.test.streams.length
  let r := r.createThreads io.created
  if io.created < count then { r with point := .failing (-1) }
  else if io.attrDestroyed then { r with point := .passed false }
  else { r.cleanupServer io.joined with point := .passed false }

-----------------------------------------------------------------------------------------
-- Timers
-----------------------------------------------------------------------------------------

/-- `iperf_free_stream` for all streams, after their sockets have been closed. -/
def freeStreams (r : ServerRun) : ServerRun :=
  let r := r.closeSockets
  {
    r with
    calls := r.calls ++ r.test.streams.mapIdx (fun position sp =>
      Call.freeStream sp (r.threads.contains position))
    test := { r.test with streams := [] }
  }

/-- `server_timer_proc`, but for its field. -/
def safetyProc (r : ServerRun) : ServerRun :=
  if r.test.done then r
  else
    let r := { r with test := { r.test with done := true } }.freeStreams
    let r := r.close r.test.ctrlSck
    { r with test := { r.test with ctrlSck := -1 } }

/-- What the four timer procedures do, but for the timers themselves. -/
def timerProc (r : ServerRun) (reading : IperfTime) : TimerField → ServerRun
  | .timer => r.safetyProc
  | .statsTimer =>
      if r.test.done then r else { r with test := iperfStatsCallback r.test reading }
  | .reporterTimer => r
  | .omitTimer => { r with test := iperfResetStats { r.test with omitting := false } reading }

/-- One timer of `tmr_run`. The next one is looked up before the procedure is called. -/
def fireTimer (r : ServerRun) (now reading : IperfTime) (entry : Entry IperfTime TimerRecord)
    : ServerRun :=
  let next := r.timing.timers.successor entry.id
  let fired :=
    if entry.record.clientData = r.timing.address then r.timerProc reading entry.record.proc else r
  { fired with timing := r.timing.fire now entry, point := .timers now next }

/-- One turn of the loop in `tmr_run`. -/
def runTimer (r : ServerRun) (now : IperfTime) (next : Option Nat) (reading : IperfTime)
    : ServerRun :=
  match next.bind r.timing.timers.find with
  | none => { r with point := .loop }
  | some entry =>
      if now < entry.time then { r with point := .loop } else r.fireTimer now reading entry

-----------------------------------------------------------------------------------------
-- The head and the end of the loop
-----------------------------------------------------------------------------------------

/-- The clocks around `select(2)` and its result. -/
structure SelectIo where
  now : IperfTime
  select : SelectResult
  later : IperfTime

/-- "See if the test is making progress." -/
def noteProgress (r : ServerRun) (now : IperfTime) : ServerRun :=
  let s := r.view.noteProgress now
  { r with lastReceiveBlocks := s.lastReceiveBlocks, lastReceiveTime := s.lastReceiveTime }

/-- From the head of the loop to the descriptors that are ready. A one-off server that is idle for
too long ends the process where others return `2`.
-/
def select (r : ServerRun) (io : SelectIo) : ServerRun :=
  if r.test.bitrateLimitExceeded then { r with point := .failing (-1) }
  else
    match io.select with
    | .failed errno =>
        if errno ≠ .eintr then { r with point := .failing (-1) }
        else { r.noteProgress io.now with point := .passed false }
    | .timedOut =>
        match r.view.checkTimeout io.later with
        | some .idleRestart => { r with point := .failing 2 }
        | some (.failed _) => { r with point := .failing (-1) }
        | none => { r.noteProgress io.later with point := .passed true }
    | .ready readSet => { r.noteProgress io.now with point := .listener readSet }

/-- `cleanup_server` and the return of an early exit. -/
def leave (r : ServerRun) (joined : Nat → Bool) (result : Int) : ServerRun :=
  { r.cleanupServer joined with point := .returned result }

/-- The lines behind the loop; `jsonFinished` is the answer of `iperf_json_finish`, and CPU
affinity is not supported by this build.
-/
def finish (r : ServerRun) (jsonFinished : Bool) (joined : Nat → Bool) : ServerRun :=
  if jsonFinished then r.leave joined (if r.test.serverAffinity ≠ -1 then -1 else 0)
  else { r with point := .returned (-1) }

-----------------------------------------------------------------------------------------
-- Workers
-----------------------------------------------------------------------------------------

/-- What a worker thread does: it receives, it sends, or it ends for one of its reasons. -/
inductive WorkerEvent where
  | receive (arrivalTime : IperfTime) (results : List RecvResult)
  | send (before : IperfTime) (io : SendIo)
  | ends

/-- A worker is over. -/
def endWorker (r : ServerRun) (position : Nat) : ServerRun :=
  { r with threads := r.threads.filter (fun other => other ≠ position) }

/-- One turn of `iperf_server_worker_run`. A call that blocks changes nothing. -/
def work (r : ServerRun) (position : Nat) : WorkerEvent → ServerRun
  | .receive arrivalTime results =>
      match iperfRecvMt r.test position arrivalTime results with
      | none => r
      | some (n, test) => if n < 0 then { r with test }.endWorker position else { r with test }
  | .send before io =>
      match iperfSendMt r.test position before io with
      | none => r
      | some (n, test) => if n < 0 then { r with test }.endWorker position else { r with test }
  | .ends => r.endWorker position

-----------------------------------------------------------------------------------------
-- Steps
-----------------------------------------------------------------------------------------

/-- What can happen next. -/
inductive Event where
  | listen (announced : Option Int) (now : IperfTime)
  | select (io : SelectIo)
  | accept (io : AcceptIo)
  | message (message : ControlMessage)
  | stream (io : StreamIo)
  | complete (io : StartIo)
  | threads (io : ThreadsIo)
  | runTimers (now : IperfTime)
  | skipTimers
  | timer (reading : IperfTime)
  | cleanup (joined : Nat → Bool)
  | finish (jsonFinished : Bool) (joined : Nat → Bool)
  | worker (position : Nat) (event : WorkerEvent)

/-- One step of the main thread or of a worker. -/
inductive Step : ServerRun → Event → ServerRun → Prop
  | listen {r : ServerRun} {announced : Option Int} {now : IperfTime} (here : r.point = .start)
      : Step r (.listen announced now) (r.serverListen announced now)
  | select {r : ServerRun} {io : SelectIo} (here : r.point = .loop)
      (going : r.test.state ≠ .iperfDone)
      : Step r (.select io) (r.select io)
  | accept {r : ServerRun} {io : AcceptIo} {readSet : List Int} (here : r.point = .listener readSet)
      : Step r (.accept io) (r.handleListener readSet io)
  | message {r : ServerRun} {message : ControlMessage} {readSet : List Int}
      (here : r.point = .control readSet)
      : Step r (.message message) (r.handleControl readSet message)
  | stream {r : ServerRun} {io : StreamIo} {readSet : List Int} (here : r.point = .streams readSet)
      : Step r (.stream io) (r.handleStreams readSet io)
  | complete {r : ServerRun} {io : StartIo} (here : r.point = .complete)
      : Step r (.complete io) (r.completeStreams io)
  | threads {r : ServerRun} {io : ThreadsIo} (here : r.point = .threads)
      : Step r (.threads io) (r.startThreads io)
  | runTimers {r : ServerRun} {now : IperfTime} {timedOut : Bool}
      (here : r.point = .passed timedOut)
      : Step r (.runTimers now)
          { r with point := .timers now (r.timing.timers.active.head?.map Entry.id) }
  | skipTimers {r : ServerRun} (here : r.point = .passed false)
      : Step r .skipTimers { r with point := .loop }
  | timer {r : ServerRun} {now reading : IperfTime} {next : Option Nat}
      (here : r.point = .timers now next)
      : Step r (.timer reading) (r.runTimer now next reading)
  | cleanup {r : ServerRun} {joined : Nat → Bool} {result : Int} (here : r.point = .failing result)
      : Step r (.cleanup joined) (r.leave joined result)
  | finish {r : ServerRun} {jsonFinished : Bool} {joined : Nat → Bool} (here : r.point = .loop)
      (done : r.test.state = .iperfDone)
      : Step r (.finish jsonFinished joined) (r.finish jsonFinished joined)
  | worker {r : ServerRun} {position : Nat} {event : WorkerEvent} (lives : position ∈ r.threads)
      : Step r (.worker position event) (r.work position event)

/-- Steps that all meet a condition, one after the other, on a kernel that never hands out a
descriptor that is open.
-/
def Run (allowed : ServerRun → Event → Prop) : ServerRun → ServerRun → Prop :=
  Relation.ReflTransGen fun r next =>
    ∃ event, allowed r event ∧ Step r event next ∧ next.misissued = false

/-- The step of an event, if it can happen now. -/
def step (r : ServerRun) (event : Event) : Option ServerRun :=
  match event, r.point with
  | .listen announced now, .start => some (r.serverListen announced now)
  | .select io, .loop => if r.test.state ≠ .iperfDone then some (r.select io) else none
  | .accept io, .listener readSet => some (r.handleListener readSet io)
  | .message message, .control readSet => some (r.handleControl readSet message)
  | .stream io, .streams readSet => some (r.handleStreams readSet io)
  | .complete io, .complete => some (r.completeStreams io)
  | .threads io, .threads => some (r.startThreads io)
  | .runTimers now, .passed _ =>
      some { r with point := .timers now (r.timing.timers.active.head?.map Entry.id) }
  | .skipTimers, .passed false => some { r with point := .loop }
  | .timer reading, .timers now next => some (r.runTimer now next reading)
  | .cleanup joined, .failing result => some (r.leave joined result)
  | .finish jsonFinished joined, .loop =>
      if r.test.state = .iperfDone then some (r.finish jsonFinished joined) else none
  | .worker position event, _ =>
      if position ∈ r.threads then some (r.work position event) else none
  | _, _ => none

theorem step_sound {r next : ServerRun} {event : Event} (steps : r.step event = some next)
    : Step r event next := by
  unfold step at steps
  split at steps
  · next here =>
      cases steps
      exact .listen here
  · next here =>
      split at steps
      · next going =>
          cases steps
          exact .select here going
      · cases steps
  · next here =>
      cases steps
      exact .accept here
  · next here =>
      cases steps
      exact .message here
  · next here =>
      cases steps
      exact .stream here
  · next here =>
      cases steps
      exact .complete here
  · next here =>
      cases steps
      exact .threads here
  · next here =>
      cases steps
      exact .runTimers here
  · next here =>
      cases steps
      exact .skipTimers here
  · next here =>
      cases steps
      exact .timer here
  · next here =>
      cases steps
      exact .cleanup here
  · next here =>
      split at steps
      · next done =>
          cases steps
          exact .finish here done
      · cases steps
  · split at steps
    · next lives =>
        cases steps
        exact .worker lives
    · cases steps
  · cases steps

/-- Events one after the other, each of which passes a check. -/
def follow (r : ServerRun) (passes : ServerRun → Event → Bool) (events : List Event)
    : Option ServerRun :=
  events.foldlM (fun r event =>
    if passes r event then (r.step event).filter (fun next => !next.misissued) else none) r

theorem follow_run {passes : ServerRun → Event → Bool} {allowed : ServerRun → Event → Prop}
    {r last : ServerRun} {events : List Event} (follows : r.follow passes events = some last)
    (meets : ∀ r event, passes r event = true → allowed r event)
    : Run allowed r last := by
  refine Checked.run_of_foldlM follows ?_
  intro event _ r next steps
  split at steps
  · next passed =>
      obtain ⟨steps, issued⟩ := Option.filter_eq_some_iff.mp steps
      rw [Bool.not_eq_true'] at issued
      exact ⟨event, meets r event passed, step_sound steps, issued⟩
  · cases steps

/-- What `iperf_run_server` is called with: `iperf_new_test` and `iperf_reset_test` leave a test
without a state, descriptors, streams and timers.
-/
def runServer (test : Test) (reporterInterval : ℚ) (flag : Int32) (address : Nat)
    (timers : Timers IperfTime TimerRecord)
    : ServerRun :=
  {
    test := {
      test with
      state := .zero
      listener := -1
      ctrlSck := -1
      protListener := -1
      streams := []
    }
    reporterInterval
    flag
    timing := { address, timers, field := fun _ => none }
  }

/-- A new process with a server that has not been told anything. -/
def firstRun : ServerRun :=
  runServer (iperfSetTestRole (iperfDefaults iperfNewTest) .server) 0 0 0 { active := [] }

/-- One pass over the descriptors that are ready. -/
def turn (ready : List Int) (accept : AcceptIo) (message : ControlMessage) (stream : StreamIo)
    : List Event :=
  [
    .select {
      now := { secs := 0, usecs := 0 }
      select := .ready ready
      later := { secs := 0, usecs := 0 }
    },
    .accept accept,
    .message message,
    .stream stream
  ]

/-- Listen on descriptor `3`, accept a client with one stream over TCP and then the stream. -/
def oneStream : List Event :=
  let cookie := [ReadRound.ready (.got (List.replicate 36 97 ++ [0]) 37)]
  let parameters := CJson.object [(.tcp, .bool true)]
  [.listen (some 3) { secs := 0, usecs := 0 }]
    ++ turn [3] { accepted := some 4, cookie, parameters } .failed {}
    ++ [.skipTimers]
    ++ turn [3] {} .failed { accepted := some 5, cookie }
    ++ [.complete {}, .threads { created := 1 }, .skipTimers]

/-- The client closes the control connection during the test. -/
def closedRun : List Event :=
  oneStream ++ turn [4] {} .closed {} ++ [.skipTimers, .finish true fun _ => true]

end ServerRun

end Iperf
