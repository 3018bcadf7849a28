import Iperf.Results.Exchange
import Iperf.Server.Accept

/-! `iperf_run_server`: one pass of its loop, the workers beside it, and the runs they make up.
-/

namespace Iperf

/-- The answers to the calls made at the end of a test. -/
structure EndIo where
  now : IperfTime := { secs := 0, usecs := 0 }
  cpuUtil : ℚ × ℚ × ℚ := (0, 0, 0)
  exchangeResultsSent : Bool := true
  /-- The client's document, as `JSON_read` returns it. -/
  results : Option CJson := none
  resultsSent : Bool := true
  displayResultsSent : Bool := true

/-- What the read of a message gives: an error, end of file, or the byte. -/
inductive ControlMessage where
  | failed
  | closed
  | byte (value : UInt8) (io : EndIo)

/-- `iperf_exchange_results` on the server: it reads first, then sends. -/
def serverExchangeResults (test : Test) (io : EndIo) : Except IError Test :=
  match io.results with
  | none => .error .ierecvresults
  | some json =>
      match getResults test json with
      | (some error, _) => .error error
      | (none, test) => if io.resultsSent then .ok test else .error .iesendresults

/-- The `TEST_END` branch of `iperf_handle_message_server`. The stream sockets are closed, but
the streams keep their numbers.
-/
def serverTestEnd (test : Test) (io : EndIo) : Except IError Test := do
  let test := iperfStatsCallback { test with done := true, cpuUtil := io.cpuUtil } io.now
  let test ← iperfSetSendState test .exchangeResults io.exchangeResultsSent
  let test ← serverExchangeResults test io
  iperfSetSendState test .displayResults io.displayResultsSent

/-- `iperf_handle_message_server`: the test, and the states that it goes through, in their
order. The byte is stored as the state before it is looked at.
-/
def iperfHandleMessageServer (test : Test)
    : ControlMessage → Except IError (Test × List TestState)
  | .failed => .error .ierecvmessage
  | .closed => .ok ({ test with state := .iperfDone }, [.iperfDone])
  | .byte value io =>
      let test := { test with state := .ofByte value }
      match test.state with
      | .testStart => .ok (test, [.testStart])
      | .testEnd =>
          (serverTestEnd test io).map fun test =>
            (test, [.testEnd, .exchangeResults, .displayResults])
      | .iperfDone => .ok (test, [.iperfDone])
      | .clientTerminate =>
          -- "Temporarily be in DISPLAY_RESULTS phase" for the report, and back
          .ok ({ test with state := .iperfDone, cpuUtil := io.cpuUtil },
            [.clientTerminate, .displayResults, .clientTerminate, .iperfDone])
      | _ => .error .iemessage

/-- The timers of the server; the reporter's only prints. -/
inductive Timer where
  | safety
  | stats
  | omitPeriod
deriving DecidableEq, Repr

/-- Run one timer that has expired. One that is not armed does not expire. -/
def Server.runTimer (now : IperfTime) (s : Server) : Timer → Server
  | .safety =>
      if s.timer then
        let s := { s with timer := false }
        if s.test.done then
          s
        else
          {
            s with
            test := { s.test with done := true, streams := [], ctrlSck := -1 }
            staleReadSet := s.staleReadSet || 0 ≤ s.test.ctrlSck
          }
      else
        s
  | .stats =>
      if s.statsTimer then
        if s.test.done then s else { s with test := iperfStatsCallback s.test now }
      else s
  | .omitPeriod =>
      if s.omitTimer then
        {
          s with
          omitTimer := false
          test := iperfResetStats { s.test with omitting := false } now
        }
      else s

/-- What `select(2)` returns. -/
inductive SelectResult where
  | failed (errno : Errno)
  | timedOut
  | ready (readSet : List Int)

/-- `FD_ISSET`; the value `-1` of a closed descriptor is in no set. -/
def fdIsset (fd : Int) (readSet : List Int) : Bool := 0 ≤ fd && readSet.contains fd

def fdClr (fd : Int) (readSet : List Int) : List Int := readSet.filter (· ≠ fd)

/-- How a run ends before `IPERF_DONE`. -/
inductive Stop where
  | failed (error : IError)
  | idleRestart
deriving DecidableEq, Repr

/-- The answers to the calls of one pass. -/
structure PassIo where
  /-- The clock before `select(2)`. -/
  now : IperfTime
  select : SelectResult
  /-- The clock after a `select(2)` that timed out. -/
  later : IperfTime
  accept : AcceptIo
  message : ControlMessage
  stream : StreamIo
  start : StartIo
  /-- The timers that `tmr_run` finds expired, and its clock. -/
  expired : List Timer := []
  timerNow : IperfTime := { secs := 0, usecs := 0 }

/-- The number of streams in each direction, set after every call of `iperf_accept`. -/
def Server.setStreamsNumber (s : Server) : Server :=
  match s.test.mode with
  | .bidirectional =>
      { s with streamsToSend := s.test.numStreams, streamsToRec := s.test.numStreams }
  | .receiver => { s with streamsToSend := 0, streamsToRec := s.test.numStreams }
  | .sender => { s with streamsToSend := s.test.numStreams, streamsToRec := 0 }

/-- The connections on the listener while no streams are created. -/
def Server.handleListener (s : Server) (readSet : List Int) (io : PassIo)
    : Except IError (Server × List Int) :=
  if fdIsset s.test.listener readSet ∧ s.test.state ≠ .createStreams then
    (iperfAccept s.test io.accept).map fun test =>
      (Server.setStreamsNumber { s with test }, fdClr test.listener readSet)
  else
    .ok (s, readSet)

/-- The message on the control connection. -/
def Server.handleControl (s : Server) (readSet : List Int) (io : PassIo)
    : Except IError (Server × List Int × List TestState) :=
  if fdIsset s.test.ctrlSck readSet then
    (iperfHandleMessageServer s.test io.message).map fun (test, visited) =>
      ({ s with test }, fdClr test.ctrlSck readSet, visited)
  else
    .ok (s, readSet, [])

/-- A connection to the stream listener, if there is one. -/
def Server.acceptReady (s : Server) (readSet : List Int) (io : PassIo) : Except IError Server :=
  if fdIsset s.test.protListener readSet then s.acceptStream io.stream else .ok s

/-- The creation of streams, and the start once they are complete. -/
def Server.createStreams (s : Server) (readSet : List Int) (io : PassIo)
    : Except IError Server :=
  if s.test.state = .createStreams then do
    let s ← s.acceptReady readSet io
    if s.AllAccepted then s.startTest io.start else .ok s
  else
    .ok s

/-- What a pass does with the descriptors that are ready. -/
def Server.handleReady (s : Server) (readSet : List Int) (io : PassIo)
    : Except IError (Server × List TestState) := do
  let (s, readSet) ← s.handleListener readSet io
  let (s, readSet, visited) ← s.handleControl readSet io
  let s ← s.createStreams readSet io
  return (s, visited ++ [s.test.state])

/-- "See if the test is making progress." -/
def Server.noteProgress (s : Server) (now : IperfTime) : Server :=
  if s.test.blocksReceived > s.lastReceiveBlocks then
    { s with lastReceiveBlocks := s.test.blocksReceived, lastReceiveTime := now }
  else
    s

/-- The checks of a pass whose `select(2)` timed out. -/
def Server.checkTimeout (s : Server) (later : IperfTime) : Option Stop :=
  let (notLater, diffTime) := iperfTimeDiff later s.lastReceiveTime
  if notLater then
    none
  else
    let tUsecs := iperfTimeInUsecs diffTime
    if s.test.state = .iperfStart then
      let idleTimeout := s.test.settings.idleTimeout.toInt
      if idleTimeout > 0 ∧ tUsecs ≥ idleTimeout * 1000000 then some .idleRestart else none
    else if s.test.mode ≠ .sender ∧ tUsecs > s.rcvTimeoutUs
        ∧ s.test.blocksReceived = s.lastReceiveBlocks then
      some (.failed .ienomsg)
    else
      none

def Server.runTimers (s : Server) (io : PassIo) : Server :=
  io.expired.foldl (Server.runTimer io.timerNow) s

/-- One pass of the loop: the server it leaves, with the states a message took it through and
the one it is left in. With a closed descriptor in its sets `select(2)` fails with `EBADF`.
-/
def Server.pass (s : Server) (io : PassIo) : Except Stop (Server × List TestState) :=
  if s.test.bitrateLimitExceeded then
    .error (.failed .ietotalrate)
  else if s.staleReadSet then
    .error (.failed .ieselect)
  else
    match io.select with
    | .failed errno =>
        if errno ≠ .eintr then .error (.failed .ieselect)
        else .ok ((s.noteProgress io.now).runTimers io, [s.test.state])
    | .timedOut =>
        match s.checkTimeout io.later with
        | some stop => .error stop
        | none => .ok ((s.noteProgress io.later).runTimers io, [s.test.state])
    | .ready readSet =>
        match (s.noteProgress io.now).handleReady readSet io with
        | .error error => .error (.failed error)
        | .ok (s, visited) => .ok (s.runTimers io, visited)

/-- What happens to a server: a pass of its loop, or a worker that receives or sends. -/
inductive Event where
  | pass (io : PassIo)
  | receive (position : Nat) (arrivalTime : IperfTime) (results : List RecvResult)
  | send (position : Nat) (before : IperfTime) (io : SendIo)

/-- The stream has a worker for the direction. A call that began before `done` was set may
still end after it.
-/
def Test.working (test : Test) (position : Nat) (sender : Bool) : Bool :=
  match test.streams[position]? with
  | none => false
  | some sp => sp.threadCreated && sp.sender = sender

/-- One event: the server, the states as for a pass, and the bytes a worker received. A worker
that cannot run, or that blocks, changes nothing.
-/
def Server.step (s : Server) : Event → Except Stop (Server × List TestState × Nat)
  | .pass io => (s.pass io).map fun (s, visited) => (s, visited, 0)
  | .receive position arrivalTime results =>
      if s.test.working position false then
        match iperfRecvMt s.test position arrivalTime results with
        | none => .ok (s, [], 0)
        | some (r, test) => .ok ({ s with test }, [], r.toNat)
      else
        .ok (s, [], 0)
  | .send position before io =>
      if s.test.working position true then
        match iperfSendMt s.test position before io with
        | none => .ok (s, [], 0)
        | some (_, test) => .ok ({ s with test }, [], 0)
      else
        .ok (s, [], 0)

/-- The server when it begins to listen. -/
def serverStart (test : Test) (listener : Int) (flag : Int32) (now : IperfTime) : Server :=
  {
    test := { test with listener, state := .iperfStart }
    flag
    lastReceiveTime := now
    rcvTimeoutUs := iperfTimeInUsecs test.settings.rcvTimeout
  }

end Iperf
