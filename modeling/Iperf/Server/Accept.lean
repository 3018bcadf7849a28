import Iperf.Model.Api
import Iperf.Parameters.Sessions

/-! The server's setup of a test: `iperf_accept` for the control connection, the protocols'
`accept` for the streams, and the start of the test once all streams are there. What the kernel
and the peer answer are arguments.
-/

namespace Iperf

/-- The test and the local variables of `iperf_run_server`. -/
structure Server where
  test : Test
  sendStreamsAccepted : Int32 := 0
  recStreamsAccepted : Int32 := 0
  streamsToSend : Int32 := 0
  streamsToRec : Int32 := 0
  /-- Not initialised by the source. -/
  flag : Int32
  lastReceiveTime : IperfTime
  lastReceiveBlocks : UInt64 := 0
  rcvTimeoutUs : Nat
  /-- The safety timer, the statistics timer and the omit timer, when they are armed. -/
  timer : Bool := false
  statsTimer : Bool := false
  omitTimer : Bool := false
  /-- `test->read_set` still has the control connection that the safety timer has closed. -/
  staleReadSet : Bool := false

/-- All streams of the test have been accepted. -/
def Server.AllAccepted (s : Server) : Prop :=
  s.recStreamsAccepted = s.streamsToRec ∧ s.sendStreamsAccepted = s.streamsToSend

instance (s : Server) : Decidable s.AllAccepted := inferInstanceAs (Decidable (_ ∧ _))

/-- `strncmp(...) == 0`: equal up to the first NUL or the given length. -/
def strncmpEqual : Nat → List UInt8 → List UInt8 → Bool
  | 0, _, _ => true
  | n + 1, a :: left, b :: right => a = b && (a = 0 || strncmpEqual n left right)
  | _ + 1, [], [] => true
  | _ + 1, _, _ => false

/-- The read of a cookie into a buffer that is zeroed before. -/
def readCookie (rounds : List ReadRound) : Received :=
  nread (List.replicate cookieSize 0) cookieSize rounds

/-- The answers to the calls of `iperf_accept` and of the functions it calls. -/
structure AcceptIo where
  /-- The new descriptor, or `none` when `accept(2)` fails. -/
  accepted : Option Int
  nodelaySet : Bool := true
  cookie : List ReadRound := []
  paramExchangeSent : Bool := true
  /-- The document that `JSON_read` returns. -/
  parameters : Option CJson := none
  /-- A descriptor that the protocol's `listen` opens, or its error. -/
  listen : Except SetupError Int := .error .iestreamlisten
  createStreamsSent : Bool := true
  /-- Whether the client could be told about a failed `listen`. -/
  serverErrorSent : Bool := true
  errnosSent : Bool := true

/-- The options for which the TCP listener is thrown away and opened again. -/
def Test.ownListener (test : Test) : Bool :=
  test.noDelay || test.settings.mss ≠ 0 || test.settings.socketBufsize ≠ 0

/-- `test->protocol->listen`: the test and the descriptor of the stream listener. -/
def protocolListen (test : Test) (io : AcceptIo) : Except SetupError (Test × Int) :=
  io.listen.map fun s =>
    match test.protocol with
    | .tcp => if test.ownListener then ({ test with listener := s }, s) else (test, test.listener)
    | .udp | .sctp => (test, s)

/-- The error left when `listen` failed with `error` and the client is told so. -/
def reportServerError (error : SetupError) (io : AcceptIo) : IError :=
  if io.serverErrorSent then (if io.errnosSent then error.toIError else .iectrlwrite)
  else .iesendmessage

/-- `iperf_exchange_parameters` on the server. -/
def serverExchangeParameters (test : Test) (io : AcceptIo) : Except IError Test :=
  match io.parameters with
  | none => .error .ierecvparams
  | some json =>
      match protocolListen (getParameters test json) io with
      | .error error => .error (reportServerError error io)
      | .ok (test, s) =>
          iperfSetSendState { test with protListener := s } .createStreams io.createStreamsSent

/-- The branch of `iperf_accept` for a new client. CPU affinity is not supported by this build.
-/
def acceptClient (test : Test) (s : Int) (io : AcceptIo) : Except IError Test :=
  let cookie := nread test.cookie cookieSize io.cookie
  if !io.nodelaySet then .error .iesetnodelay
  else if cookie.ret ≠ cookieSize then .error .ierecvcookie
  else do
    let test := { test with ctrlSck := s, cookie := cookie.buffer }
    let test ← iperfSetSendState test .paramExchange io.paramExchangeSent
    let test ← serverExchangeParameters test io
    if test.serverAffinity ≠ -1 then .error .ieaffinity else .ok test

/-- `iperf_accept`. A stranger is sent `ACCESS_DENIED`, whether or not that works, and closed.
-/
def iperfAccept (test : Test) (io : AcceptIo) : Except IError Test :=
  match io.accepted with
  | none => .error .ieaccept
  | some s => if test.ctrlSck = -1 then acceptClient test s io else .ok test

/-- The answers to the calls made for one new stream. -/
structure StreamIo where
  /-- The new descriptor, or `none` when `accept(2)` fails. -/
  accepted : Option Int
  cookie : List ReadRound := []
  /-- The listener that `iperf_udp_accept` opens in place of the one it uses, or its error. -/
  nextListener : Except SetupError Int := .error .iestreamaccept
  /-- `iperf_udp_buffercheck` finds the default buffer too small. -/
  bufferTooSmall : Bool := false
  inet6 : Bool := false
  tosSet : Bool := true
  newStream : NewStreamIo := {}

/-- `iperf_tcp_accept`: the descriptor it returns, and whether it has closed it already. -/
def iperfTcpAccept (test : Test) (io : StreamIo) : Except IError (Int × Bool) :=
  match io.accepted with
  | none => .error .iestreamconnect
  | some s =>
      let cookie := readCookie io.cookie
      if cookie.ret < 0 then .error .ierecvcookie
      else .ok (s, !strncmpEqual cookieSize test.cookie cookie.buffer)

def udpBufferExtra : Int32 := 1024

/-- `iperf_udp_accept`: the stream takes the old listener over. -/
def iperfUdpAccept (test : Test) (io : StreamIo) : Except SetupError (Test × Int) :=
  io.nextListener.map fun next =>
    let bufsize :=
      if io.bufferTooSmall ∧ test.settings.socketBufsize = 0 then
        test.settings.blksize + udpBufferExtra
      else test.settings.socketBufsize
    let settings := { test.settings with socketBufsize := bufsize }
    ({ test with protListener := next, settings }, test.protListener)

/-- `test->protocol->accept`: the test, the descriptor, and whether it is closed. -/
def protocolAccept (test : Test) (io : StreamIo) : Except IError (Test × Int × Bool) :=
  match test.protocol with
  | .tcp => (iperfTcpAccept test io).map fun (s, isClosed) => (test, s, isClosed)
  | .udp | .sctp =>
      ((iperfUdpAccept test io).mapError SetupError.toIError).map fun (test, s) =>
        (test, s, false)

/-- `iperf_common_sockopts`. On a closed descriptor `getsockdomain` finds no address family
and the option cannot be set.
-/
def iperfCommonSockopts (test : Test) (isClosed : Bool) (io : StreamIo) : Except IError Unit :=
  if test.settings.tos = 0 then .ok ()
  else if isClosed then .error .iesettos
  else if io.tosSet then .ok ()
  else .error (if io.inet6 then .iesetcos else .iesettos)

/-- The choice of a direction for a new stream: receivers first, then senders. When no stream
is missing, the flag keeps its last value.
-/
def Server.countStream (s : Server) : Server :=
  if s.recStreamsAccepted ≠ s.streamsToRec then
    { s with flag := 0, recStreamsAccepted := s.recStreamsAccepted + 1 }
  else if s.sendStreamsAccepted ≠ s.streamsToSend then
    { s with flag := 1, sendStreamsAccepted := s.sendStreamsAccepted + 1 }
  else
    s

/-- The new stream of a connection that was not denied. -/
def Server.addStream (s : Server) (fd : Int) (io : StreamIo) : Except IError Server :=
  let s := s.countStream
  if s.flag ≠ -1 then
    (iperfNewStream s.test fd (s.flag ≠ 0) io.newStream).map fun test =>
      { s with test, flag := -1 }
  else
    .ok s

/-- One connection to the stream listener while streams are created. -/
def Server.acceptStream (s : Server) (io : StreamIo) : Except IError Server := do
  let (test, fd, isClosed) ← protocolAccept s.test io
  iperfCommonSockopts test isClosed io
  -- a denied descriptor is still closed when `is_closed` looks at it
  if isClosed then
    return { s with test }
  else
    Server.addStream { s with test } fd io

/-- The answers to the calls made when the last stream has been accepted. -/
structure StartIo where
  /-- The control listener opened again. -/
  netannounce : Option Int := none
  testStartSent : Bool := true
  /-- The clock that `iperf_init_test` and the timers are set with. -/
  now : IperfTime := { secs := 0, usecs := 0 }
  testRunningSent : Bool := true
  threadsCreated : Bool := true

/-- The product is computed in 64 bits. -/
def totalRequestedRate (test : Test) : UInt64 :=
  unsignedOfInt test.numStreams * test.settings.rate
    * (if test.mode = .bidirectional then 2 else 1)

/-- The rate a client asks for against the limit of the server. -/
def checkRequestedRate (test : Test) : Except IError Unit :=
  if test.settings.bitrateLimit > 0 ∧ totalRequestedRate test > test.settings.bitrateLimit then
    .error .ietotalrate
  else
    .ok ()

/-- The listener goes back to default socket options. -/
def relisten (test : Test) (io : StartIo) : Except IError Test :=
  if test.protocol = .tcp ∧ test.ownListener then
    match io.netannounce with
    | none => .error .ielisten
    | some s => .ok { test with listener := s, protListener := -1 }
  else
    .ok { test with protListener := -1 }

/-- `create_server_timers` and `create_server_omit_timer`. -/
def Server.createTimers (s : Server) : Server :=
  {
    s with
    test := {
      s.test with
      done := if s.test.duration ≠ 0 then false else s.test.done
      omitting := s.test.omitPeriod ≠ 0
    }
    timer := s.test.duration ≠ 0
    statsTimer := s.test.statsInterval ≠ 0
    omitTimer := s.test.omitPeriod ≠ 0
  }

/-- From the last accepted stream to the running test. -/
def Server.startTest (s : Server) (io : StartIo) : Except IError Server := do
  let test ← relisten s.test io
  checkRequestedRate test
  let test ← iperfSetSendState test .testStart io.testStartSent
  let s := Server.createTimers { s with test := iperfInitTest test io.now }
  let test ← iperfSetSendState s.test .testRunning io.testRunningSent
  if !io.threadsCreated then
    .error .iepthreadcreate
  else
    .ok {
      s with
      test := {
        test with
        streams := test.streams.map (fun sp => { sp with threadCreated := true })
      }
    }

end Iperf
