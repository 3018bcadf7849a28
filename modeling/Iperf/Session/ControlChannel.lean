import Iperf.Library.Dialogue
import Iperf.Session.Framing
import Iperf.Session.StreamCreation

/-! The control connection: `iperf_run_client` and `iperf_run_server` as two programs that stop
at every read and write on it. Unlike in the models of a pass, either end may act while the other
one is in the middle of a handler.
-/

namespace Iperf

open Dialogue

-----------------------------------------------------------------------------------------
-- What both ends start with
-----------------------------------------------------------------------------------------

/-- What stands on the control connection: the cookie, a state, the length and the text of a
document, or an error number behind `SERVER_ERROR`.
-/
inductive ControlItem where
  | cookie
  | state
  | length
  | document
  | errno
deriving DecidableEq

/-- A client and a server before a test, the texts that cJSON prints for their results, and what
`get_results` makes of a text. The server is idle; the client has a configuration that the
command line accepts. Each end takes the documents of the other.
-/
structure ControlSetup where
  client : Test
  server : Test
  text : JsonText
  cookie : List UInt8
  clientSck : Nat
  serverSck : Nat
  listener : Int
  flag : Int32
  now : IperfTime
  /-- The descriptors of the streams of either end, in their order. -/
  streamSck : Role → Nat → Int
  clientResults : List UInt8
  serverResults : List UInt8
  refusal : Role → List UInt8 → Option IError
  clientRole : client.role = .client
  directed : Directed client
  numStreams : 0 < client.numStreams.toInt
  clientState : client.state = .zero
  serverRole : server.role = .server
  serverMode : server.mode = .receiver
  serverSck_free : server.ctrlSck = -1
  serverStreams : server.streams = []
  cookieLength : cookie.length = cookieSize
  parsed : text.parse (text.print (sendParameters client)) = some (sendParameters client)
  /-- A document that is cut off is none. -/
  truncated : ∀ n < (text.print (sendParameters client)).length,
    text.parse ((text.print (sendParameters client)).take n) = none
  clientTakes : refusal .client serverResults = none
  serverTakes : refusal .server clientResults = none
  refusal_cases : ∀ role str error, refusal role str = some error →
    error = .ierecvresults ∨ error = .iestreamid
  printed : ∀ str ∈ [text.print (sendParameters client), clientResults, serverResults],
    str ≠ [] ∧ 0 ∉ str

namespace ControlSetup

/-- The text of the parameter document. -/
def parameters (setup : ControlSetup) : List UInt8 :=
  setup.text.print (sendParameters setup.client)

end ControlSetup

/-- The part of a text that `JSON_write` writes. -/
def writtenText (str : List UInt8) : List UInt8 := str.take (hsize str)

/-- The length that `JSON_write` announces. -/
def writtenLength (str : List UInt8) : List UInt8 := BigEndian.encode 4 (hsize str)

/-- `iperf_set_send_state`. -/
def setSendState {σ : Type} (test : Test) (state : TestState) (next : Test → σ)
    : Act ControlItem σ :=
  if test.ctrlSck ≥ 0 then .say .state [state.toByte] (next { test with state })
  else .internal (· = next test)

-----------------------------------------------------------------------------------------
-- The client
-----------------------------------------------------------------------------------------

/-- Where `iperf_run_client` stands. `running` is the part of a pass for a running test, and
`check` its end, when the timers have run.
-/
inductive ClientPoint where
  | connect
  | cookie
  | select
  | running
  | check
  | parametersLength
  | parametersText
  | streams (left : List Bool)
  | resultsLength
  | resultsText
  | peerLength
  | peerText (hsize : Nat)
  | finish
  | serverError
  | serverErrno (code : Nat)
  | serverFailed (code : Nat)
  | failed (error : IError)
  | returned

structure ClientEnd where
  point : ClientPoint
  test : Test

namespace ClientEnd

/-- `iperf_handle_message_client` up to its next read or write. -/
def handleMessage (setup : ControlSetup) (test : Test) (bytes : List UInt8) : ClientEnd :=
  let test := { test with state := .ofByte (bytes.headD 0) }
  match test.state with
  | .paramExchange => { point := .parametersLength, test }
  | .createStreams => { point := .streams (clientPlan test), test }
  | .testStart =>
      {
        point := .running
        test := {
          iperfInitTest test setup.now with
          done := if test.duration ≠ 0 then false else test.done
          omitting := test.omitPeriod ≠ 0
        }
      }
  | .testRunning => { point := .running, test }
  | .exchangeResults => { point := .resultsLength, test }
  | .displayResults => { point := .finish, test }
  | .iperfDone => { point := .running, test }
  | .serverTerminate => { point := .failed .ieserverterm, test }
  | .accessDenied => { point := .failed .ieaccessdenied, test }
  | .serverError => { point := .serverError, test }
  | _ => { point := .failed .iemessage, test }

/-- `JSON_read` of the results: the length, and then the text. -/
def readLength (test : Test) (nsize : List UInt8) : ClientEnd :=
  match jsonSize 0 { ret := 4, buffer := nsize } with
  | none => { point := .failed .ierecvresults, test }
  | some hsize => { point := .peerText hsize, test }

def takeResults (setup : ControlSetup) (test : Test) : Option (List UInt8) → ClientEnd
  | none => { point := .failed .ierecvresults, test }
  | some str =>
      match setup.refusal .client str with
      | some error => { point := .failed error, test }
      | none => { point := .running, test }

def readText (setup : ControlSetup) (test : Test) (hsize : Nat) (bytes : List UInt8)
    : ClientEnd :=
  takeResults setup test (jsonPayload hsize { ret := toInt hsize, buffer := bytes ++ [0] })

/-- The stream of a connection in `iperf_create_streams`, with `left` more to come. -/
def newStream (setup : ControlSetup) (test : Test) (sender : Bool) (left : List Bool)
    : ClientEnd :=
  match iperfNewStream test (setup.streamSck .client test.streams.length) sender {} with
  | .error error => { point := .failed error, test }
  | .ok test => { point := .streams left, test }

/-- What timers and workers may make of a running test: an omit period ends and none begins. -/
structure Ran (test next : Test) : Prop where
  state : next.state = test.state
  ctrlSck : next.ctrlSck = test.ctrlSck
  mode : next.mode = test.mode
  numStreams : next.numStreams = test.numStreams
  omitting : next.omitting = true → test.omitting = true

/-- `iperf_run_client` from where it stands. -/
def act (setup : ControlSetup) (c : ClientEnd) : Act ControlItem ClientEnd :=
  match c.point with
  | .connect =>
      .call {
        point := .cookie
        test := { c.test with ctrlSck := setup.clientSck, cookie := setup.cookie }
      }
  | .cookie => .say .cookie setup.cookie { c with point := .select }
  | .select =>
      if c.test.state = .iperfDone then .internal (· = { c with point := .returned })
      else
        .hear .state 1 (handleMessage setup c.test) { c with point := .failed .iectrlclose }
          (some { c with point := .running })
  | .running =>
      if c.test.state = .testRunning then
        .internal fun next => next.point = .check ∧ Ran c.test next.test
      else .internal (· = { c with point := .select })
  | .check =>
      if c.test.omitting = false ∧ c.test.fulfilled then
        setSendState { c.test with done := true } .testEnd fun test => { point := .select, test }
      else .internal (· = { c with point := .select })
  | .parametersLength =>
      .say .length (writtenLength setup.parameters) { c with point := .parametersText }
  | .parametersText =>
      .say .document (writtenText setup.parameters) {
        c with
        point := if toInt (hsize setup.parameters) < 0 then .failed .iesendparams else .running
      }
  | .streams [] => .internal (· = { c with point := .running })
  | .streams (sender :: left) => .call (newStream setup c.test sender left)
  | .resultsLength =>
      .say .length (writtenLength setup.clientResults) { c with point := .resultsText }
  | .resultsText =>
      .say .document (writtenText setup.clientResults) {
        c with
        point :=
          if toInt (hsize setup.clientResults) < 0 then .failed .iesendresults else .peerLength
      }
  | .peerLength =>
      .hear .length 4 (readLength c.test) { c with point := .failed .ierecvresults } none
  | .peerText hsize =>
      .hear .document hsize (readText setup c.test hsize) { c with point := .failed .ierecvresults }
        none
  | .finish =>
      -- iperf_client_end
      if c.test.state.code > 0 then
        setSendState c.test .iperfDone fun test => { point := .running, test }
      else .internal (· = { c with point := .running })
  | .serverError =>
      .hear .errno 4 (fun err => { c with point := .serverErrno (BigEndian.decode err) })
        { c with point := .failed .iectrlread } none
  | .serverErrno code =>
      .hear .errno 4 (fun _ => { c with point := .serverFailed code })
        { c with point := .failed .iectrlread } none
  | .serverFailed _ | .failed _ | .returned => .stop

end ClientEnd

-----------------------------------------------------------------------------------------
-- The server
-----------------------------------------------------------------------------------------

/-- Where `iperf_run_server` stands: `listener`, `control` and `streams` are the parts of a pass,
`cookie` to `createStreams` lie in `iperf_accept`, and `exchangeResults` to `displayResults` in
the handler of `TEST_END`.
-/
inductive ServerPoint where
  | select
  | listener
  | control
  | streams
  | cookie
  | paramExchange
  | parametersLength
  | parametersText (hsize : Nat)
  | createStreams
  | complete
  | testStart
  | testRunning
  | exchangeResults
  | peerLength
  | peerText (hsize : Nat)
  | resultsLength
  | resultsText
  | displayResults
  | failed (error : IError)
  | returned

structure ServerEnd where
  point : ServerPoint
  server : Server

namespace ServerEnd

def test (s : ServerEnd) : Test := s.server.test

def withTest (s : ServerEnd) (point : ServerPoint) (test : Test) : ServerEnd :=
  { point, server := { s.server with test } }

/-- `iperf_handle_message_server` up to its next read or write. -/
def handleMessage (s : ServerEnd) (bytes : List UInt8) : ServerEnd :=
  let test := { s.test with state := .ofByte (bytes.headD 0) }
  match test.state with
  | .testStart => s.withTest .streams test
  | .testEnd => s.withTest .exchangeResults { test with done := true }
  | .iperfDone => s.withTest .streams test
  | .clientTerminate => s.withTest .streams { test with state := .iperfDone }
  | _ => s.withTest (.failed .iemessage) test

/-- `JSON_read` of the parameters: the length, and then the text. -/
def readParametersLength (s : ServerEnd) (nsize : List UInt8) : ServerEnd :=
  match jsonSize maxParamsJsonString { ret := 4, buffer := nsize } with
  | none => { s with point := .failed .ierecvparams }
  | some hsize => { s with point := .parametersText hsize }

def takeParameters (s : ServerEnd) : Option CJson → ServerEnd
  | none => { s with point := .failed .ierecvparams }
  | some json => s.withTest .createStreams (getParameters s.test json)

def readParametersText (setup : ControlSetup) (s : ServerEnd) (hsize : Nat) (bytes : List UInt8)
    : ServerEnd :=
  s.takeParameters
    ((jsonPayload hsize { ret := toInt hsize, buffer := bytes ++ [0] }).bind setup.text.parse)

/-- `JSON_read` of the results. -/
def readResultsLength (s : ServerEnd) (nsize : List UInt8) : ServerEnd :=
  match jsonSize 0 { ret := 4, buffer := nsize } with
  | none => { s with point := .failed .ierecvresults }
  | some hsize => { s with point := .peerText hsize }

def takeResults (setup : ControlSetup) (s : ServerEnd) : Option (List UInt8) → ServerEnd
  | none => { s with point := .failed .ierecvresults }
  | some str =>
      match setup.refusal .server str with
      | some error => { s with point := .failed error }
      | none => { s with point := .resultsLength }

def readResultsText (setup : ControlSetup) (s : ServerEnd) (hsize : Nat) (bytes : List UInt8)
    : ServerEnd :=
  s.takeResults setup (jsonPayload hsize { ret := toInt hsize, buffer := bytes ++ [0] })

/-- The end of the `CREATE_STREAMS` block. -/
def afterStreams (s : Server) : ServerEnd :=
  { point := if s.AllAccepted then .complete else .select, server := s }

/-- A connection of the client to the stream listener. -/
def acceptStream (setup : ControlSetup) (s : Server) : ServerEnd :=
  let fd := setup.streamSck .server s.test.streams.length
  match s.addStream fd { accepted := some fd } with
  | .error error => { point := .failed error, server := s }
  | .ok s => afterStreams s

/-- `iperf_run_server` from where it stands. -/
def act (setup : ControlSetup) (s : ServerEnd) : Act ControlItem ServerEnd :=
  match s.point with
  | .select =>
      if s.test.state = .iperfDone then .internal (· = { s with point := .returned })
      else
        -- statistics may have found that the limit is exceeded
        .internal fun next => next = { s with point := .listener }
          ∨ s.test.settings.bitrateLimit ≠ 0 ∧ next = { s with point := .failed .ietotalrate }
  | .listener =>
      if s.test.state = .createStreams then .internal (· = { s with point := .control })
      else if s.test.ctrlSck = -1 then
        .answer (s.withTest .cookie { s.test with ctrlSck := setup.serverSck })
          { s with point := .control }
      else
        -- a stranger is denied
        .answer { point := .control, server := s.server.setStreamsNumber }
          { s with point := .control }
  | .cookie =>
      .hear .cookie cookieSize
        (fun cookie => s.withTest .paramExchange { s.test with cookie })
        { s with point := .failed .ierecvcookie } none
  | .paramExchange => setSendState s.test .paramExchange (s.withTest .parametersLength)
  | .parametersLength =>
      .hear .length 4 s.readParametersLength { s with point := .failed .ierecvparams } none
  | .parametersText hsize =>
      .hear .document hsize (s.readParametersText setup hsize)
        { s with point := .failed .ierecvparams } none
  | .createStreams =>
      setSendState s.test .createStreams fun test =>
        { point := .control, server := Server.setStreamsNumber { s.server with test } }
  | .control =>
      if s.test.ctrlSck ≥ 0 then
        .hear .state 1 s.handleMessage (s.withTest .streams { s.test with state := .iperfDone })
          (some { s with point := .streams })
      else .internal (· = { s with point := .streams })
  | .streams =>
      if s.test.state = .createStreams then
        .answer (acceptStream setup s.server) (afterStreams s.server)
      else .internal (· = { s with point := .select })
  | .complete =>
      match checkRequestedRate s.test with
      | .error error => .internal (· = { s with point := .failed error })
      | .ok () => .internal (· = { s with point := .testStart })
  | .testStart =>
      setSendState s.test .testStart fun test =>
        {
          point := .testRunning
          server := Server.createTimers {
            s.server with
            test := iperfInitTest { test with protListener := -1 } setup.now
          }
        }
  | .testRunning => setSendState s.test .testRunning (s.withTest .select)
  | .exchangeResults => setSendState s.test .exchangeResults (s.withTest .peerLength)
  | .peerLength =>
      .hear .length 4 s.readResultsLength { s with point := .failed .ierecvresults } none
  | .peerText hsize =>
      .hear .document hsize (s.readResultsText setup hsize)
        { s with point := .failed .ierecvresults } none
  | .resultsLength =>
      .say .length (writtenLength setup.serverResults) { s with point := .resultsText }
  | .resultsText =>
      .say .document (writtenText setup.serverResults) {
        s with
        point :=
          if toInt (hsize setup.serverResults) < 0 then .failed .iesendresults else .displayResults
      }
  | .displayResults => setSendState s.test .displayResults (s.withTest .streams)
  | .failed _ | .returned => .stop

end ServerEnd

-----------------------------------------------------------------------------------------
-- Both
-----------------------------------------------------------------------------------------

/-- Both ends of the control connection. -/
abbrev ControlChannel := System ControlItem ClientEnd ServerEnd

/-- The client is about to connect, and the server listens. -/
def ControlSetup.start (setup : ControlSetup) : ControlChannel :=
  {
    left := { point := .connect, test := setup.client }
    right := {
      point := .select
      server := serverStart setup.server setup.listener setup.flag setup.now
    }
  }

/-- One step of either end. -/
abbrev ControlStep (setup : ControlSetup) : ControlChannel → ControlChannel → Prop :=
  Step (ClientEnd.act setup) (ServerEnd.act setup)

/-- The interleavings of both ends. -/
abbrev ControlRun (setup : ControlSetup) : ControlChannel → ControlChannel → Prop :=
  Steps (ClientEnd.act setup) (ServerEnd.act setup)

-----------------------------------------------------------------------------------------
-- The messages of a pass
-----------------------------------------------------------------------------------------

variable {setup : ControlSetup}

/-- Without a connection no stream is created. -/
theorem clientCreateStreams_none (test : Test)
    : clientCreateStreams test [] = .ok test
      ∨ clientCreateStreams test [] = .error .iestreamconnect := by
  have loop (sender : Bool) : iperfCreateStreams test sender [] = .ok (test, [])
      ∨ iperfCreateStreams test sender [] = .error .iestreamconnect := by
    unfold iperfCreateStreams
    cases test.numStreams.toInt.toNat with
    | zero => exact .inl rfl
    | succ count => exact .inr rfl
  unfold clientCreateStreams
  cases test.mode with
  | sender => rcases loop true with created | created <;> simp [created, Except.map]
  | receiver => rcases loop false with created | created <;> simp [created, Except.map]
  | bidirectional =>
      rcases loop true with sending | sending
      · rcases loop false with receiving | receiving
        · exact .inl (by simp [sending, receiving, bind, Except.bind, pure, Except.pure])
        · exact .inr (by simp [sending, receiving, bind, Except.bind])
      · exact .inr (by simp [sending, bind, Except.bind])

/-- The client's end knows the messages that the handler of a pass knows. -/
theorem ClientEnd.unknown_iff (c : Client) (value : UInt8)
    : (ClientEnd.handleMessage setup c.test [value]).point = .failed .iemessage
      ↔ ∀ io, c.handleMessage (.byte value io) = .error IError.iemessage.code := by
  refine ⟨?_, ?_⟩
  · intro unknown io
    simp only [ClientEnd.handleMessage, List.headD_cons] at unknown
    simp only [Client.handleMessage]
    revert unknown
    cases TestState.ofByte value <;> intro unknown <;> first | rfl | cases unknown
  · intro always
    have refused := always {}
    simp only [Client.handleMessage] at refused
    simp only [ClientEnd.handleMessage, List.headD_cons]
    revert refused
    cases state : TestState.ofByte value with
    | createStreams =>
        intro refused
        have creates := clientCreateStreams_none { c.test with state := .createStreams }
        rcases creates with created | created
        · simp [created, Except.map, Except.mapError, IError.code] at refused
        · simp [created, Except.map, Except.mapError, IError.code] at refused
    | _ => intro refused; first | rfl | cases refused

/-- Without a document of the client the results are not exchanged. -/
theorem serverTestEnd_unread (test : Test) : serverTestEnd test {} = .error .ierecvresults := by
  have sent (test : Test) : ∃ next, iperfSetSendState test .exchangeResults true = .ok next := by
    unfold iperfSetSendState
    split
    · exact ⟨_, rfl⟩
    · exact ⟨_, rfl⟩
  obtain ⟨next, said⟩ := sent (iperfStatsCallback { test with done := true, cpuUtil := (0, 0, 0) }
    { secs := 0, usecs := 0 })
  unfold serverTestEnd
  simp only [said, bind, Except.bind, serverExchangeResults]

/-- The server's end knows the messages that the handler of a pass knows. -/
theorem ServerEnd.unknown_iff (s : ServerEnd) (value : UInt8)
    : (s.handleMessage [value]).point = .failed .iemessage
      ↔ ∀ io, iperfHandleMessageServer s.test (.byte value io) = .error .iemessage := by
  refine ⟨?_, ?_⟩
  · intro unknown io
    simp only [ServerEnd.handleMessage, List.headD_cons] at unknown
    simp only [iperfHandleMessageServer]
    revert unknown
    cases TestState.ofByte value <;> intro unknown <;> first | rfl | cases unknown
  · intro always
    have refused := always { }
    simp only [iperfHandleMessageServer] at refused
    simp only [ServerEnd.handleMessage, List.headD_cons]
    revert refused
    cases TestState.ofByte value with
    | testEnd =>
        intro refused
        rw [serverTestEnd_unread] at refused
        cases refused
    | _ => intro refused; first | rfl | cases refused

end Iperf
