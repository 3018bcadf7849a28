import Iperf.Library.Checked
import Iperf.Server.Loop

/-! What each part of a pass can do: one inversion lemma for every function the loop calls, and
what timers and workers leave alone.
-/

namespace Iperf

open Checked

-----------------------------------------------------------------------------------------
-- A new client
-----------------------------------------------------------------------------------------

/-- The test that `iperf_accept` leaves for a new client on descriptor `fd`. -/
structure NewClient (test : Test) (io : AcceptIo) (fd : Int) (next : Test) : Prop where
  settings : ∃ json state, io.parameters = some json
    ∧ SameSettings next (getParameters {
        test with
        ctrlSck := fd
        cookie := (nread test.cookie cookieSize io.cookie).buffer
        state
      } json)
  cookie : next.cookie = (nread test.cookie cookieSize io.cookie).buffer
  streams : next.streams = test.streams
  ctrlSck : next.ctrlSck = fd
  state : 0 ≤ fd → next.state = .createStreams
  listener : next.listener = test.listener ∨ io.listen = .ok next.listener
  protListener : next.protocol = .tcp → next.protListener = next.listener
  blocksReceived : next.blocksReceived = test.blocksReceived

theorem protocolListen_ok {test next : Test} {io : AcceptIo} {s : Int}
    (opened : protocolListen test io = .ok (next, s))
    : ∃ listener, next = { test with listener }
      ∧ (listener = test.listener ∨ io.listen = .ok listener)
      ∧ (test.protocol = .tcp → s = listener) := by
  obtain ⟨fd, listening, shape⟩ := map_eq_ok.mp opened
  split at shape
  · split at shape
    · obtain ⟨rfl, rfl⟩ := Prod.mk.inj shape
      exact ⟨fd, rfl, .inr listening, fun _ => rfl⟩
    · obtain ⟨rfl, rfl⟩ := Prod.mk.inj shape
      exact ⟨_, rfl, .inl rfl, fun _ => rfl⟩
  · next udp =>
      obtain ⟨rfl, rfl⟩ := Prod.mk.inj shape
      exact ⟨_, rfl, .inl rfl, fun tcp => by rw [udp] at tcp; cases tcp⟩
  · next sctp =>
      obtain ⟨rfl, rfl⟩ := Prod.mk.inj shape
      exact ⟨_, rfl, .inl rfl, fun tcp => by rw [sctp] at tcp; cases tcp⟩

theorem serverExchangeParameters_ok {test next : Test} {io : AcceptIo}
    (exchanged : serverExchangeParameters test io = .ok next)
    : ∃ json listener protListener state, io.parameters = some json
      ∧ next = { getParameters test json with listener, protListener, state }
      ∧ (listener = test.listener ∨ io.listen = .ok listener)
      ∧ ((getParameters test json).protocol = .tcp → protListener = listener)
      ∧ (0 ≤ test.ctrlSck → state = .createStreams) := by
  unfold serverExchangeParameters at exchanged
  split at exchanged
  · cases exchanged
  · next json received =>
      split at exchanged
      · cases exchanged
      · next listening s opened =>
          obtain ⟨-, -, -, -, session⟩ := getParameters_exchanged test json
          obtain ⟨listener, rfl, origin, tcp⟩ := protocolListen_ok opened
          rw [session.listener] at origin
          rcases iperfSetSendState_ok exchanged with ⟨rfl, _⟩ | ⟨rfl, negative⟩
          · exact ⟨json, listener, s, _, received, rfl, origin, tcp, fun _ => rfl⟩
          · refine ⟨json, listener, s, _, received, rfl, origin, tcp, fun connected => ?_⟩
            -- without a control connection nothing is sent, but there is one
            have same : test.ctrlSck < 0 := session.ctrlSck ▸ negative
            omega

/-- `iperf_accept` either turns a stranger away or starts with a new client. -/
theorem iperfAccept_ok {test next : Test} {io : AcceptIo}
    (accepted : iperfAccept test io = .ok next)
    : ∃ fd, io.accepted = some fd
      ∧ (test.ctrlSck ≠ -1 ∧ next = test
        ∨ test.ctrlSck = -1 ∧ NewClient test io fd next) := by
  unfold iperfAccept at accepted
  split at accepted
  · cases accepted
  · next fd descriptor =>
      refine ⟨fd, descriptor, ?_⟩
      split at accepted
      · next free =>
          refine .inr ⟨free, ?_⟩
          unfold acceptClient at accepted
          dsimp only at accepted
          simp only [guard_eq_ok, bind_eq_ok] at accepted
          obtain ⟨-, -, sent, told, exchanged, parameters, -, finished⟩ := accepted
          obtain rfl := Except.ok.inj finished
          obtain ⟨json, listener, protListener, state, received, rfl, origin, tcp, creating⟩ :=
            serverExchangeParameters_ok parameters
          obtain ⟨-, -, -, -, session⟩ := getParameters_exchanged sent json
          rcases iperfSetSendState_ok told with ⟨rfl, _⟩ | ⟨rfl, _⟩
          · exact ⟨⟨json, _, received, ⟨rfl, rfl, rfl, rfl⟩⟩, session.cookie, session.streams,
              session.ctrlSck, creating, origin, tcp, session.blocksReceived⟩
          · exact ⟨⟨json, _, received, ⟨rfl, rfl, rfl, rfl⟩⟩, session.cookie, session.streams,
              session.ctrlSck, creating, origin, tcp, session.blocksReceived⟩
      · next busy => exact .inl ⟨busy, (Except.ok.inj accepted).symm⟩

-----------------------------------------------------------------------------------------
-- Messages
-----------------------------------------------------------------------------------------

/-- The parts of a test that a message of a client leaves alone. -/
structure SameWiring (test next : Test) : Prop where
  ctrlSck : next.ctrlSck = test.ctrlSck
  listener : next.listener = test.listener
  protListener : next.protListener = test.protListener
  protocol : next.protocol = test.protocol
  blocksReceived : next.blocksReceived = test.blocksReceived

theorem SameWiring.trans {test next last : Test} (first : SameWiring test next)
    (second : SameWiring next last)
    : SameWiring test last where
  ctrlSck := second.ctrlSck.trans first.ctrlSck
  listener := second.listener.trans first.listener
  protListener := second.protListener.trans first.protListener
  protocol := second.protocol.trans first.protocol
  blocksReceived := second.blocksReceived.trans first.blocksReceived

theorem iperfStatsCallback_wiring (test : Test) (now : IperfTime)
    : SameWiring test (iperfStatsCallback test now)
      ∧ (iperfStatsCallback test now).state = test.state := by
  unfold iperfStatsCallback
  dsimp only
  split
  · obtain ⟨index, traffic, count, exceeded, shape⟩ := iperfCheckTotalRate_frame
      { test with streams := test.streams.map (closeInterval test now) } (intervalBytes test)
    rw [shape]
    exact ⟨⟨rfl, rfl, rfl, rfl, rfl⟩, rfl⟩
  · exact ⟨⟨rfl, rfl, rfl, rfl, rfl⟩, rfl⟩

theorem takePeerTest_wiring (test : Test) (json : CJson) (cpuUtil : ℚ × ℚ × ℚ)
    (hasRetransmits : Int32)
    : SameWiring test (takePeerTest test json cpuUtil hasRetransmits) := by
  unfold takePeerTest
  dsimp only
  split <;> split <;> exact ⟨rfl, rfl, rfl, rfl, rfl⟩

theorem getResults_wiring (test : Test) (json : CJson)
    : SameWiring test (getResults test json).2 := by
  unfold getResults
  split
  · next total user system retransmits _ _ _ _ =>
      have peer := takePeerTest_wiring test json
        (total.valuedouble, user.valuedouble, system.valuedouble) retransmits.valueint.toInt32
      dsimp only
      split <;> exact ⟨peer.1, peer.2, peer.3, peer.4, peer.5⟩
  · split <;> exact ⟨rfl, rfl, rfl, rfl, rfl⟩

theorem serverTestEnd_ok {test next : Test} {io : EndIo} (connected : 0 ≤ test.ctrlSck)
    (ended : serverTestEnd test io = .ok next)
    : SameWiring test next ∧ next.state = .displayResults := by
  unfold serverTestEnd at ended
  simp only [bind_eq_ok] at ended
  obtain ⟨exchanging, told, exchanged, results, displayed⟩ := ended
  obtain ⟨stats, -⟩ :=
    iperfStatsCallback_wiring { test with done := true, cpuUtil := io.cpuUtil } io.now
  have first : SameWiring test exchanging := by
    rcases iperfSetSendState_ok told with ⟨rfl, _⟩ | ⟨rfl, _⟩
    · exact ⟨stats.1, stats.2, stats.3, stats.4, stats.5⟩
    · exact ⟨stats.1, stats.2, stats.3, stats.4, stats.5⟩
  have second : SameWiring exchanging exchanged := by
    unfold serverExchangeResults at results
    split at results
    · cases results
    · next json _ =>
        have peer := getResults_wiring exchanging json
        split at results
        · cases results
        · next read =>
            rw [read] at peer
            split at results
            · obtain rfl := Except.ok.inj results
              exact peer
            · cases results
  have both := first.trans second
  rcases iperfSetSendState_ok displayed with ⟨rfl, _⟩ | ⟨rfl, negative⟩
  · exact ⟨⟨both.1, both.2, both.3, both.4, both.5⟩, rfl⟩
  · have same := both.ctrlSck
    omega

/-- The client is done, or it has closed the connection. -/
def ControlMessage.Finishes : ControlMessage → Prop
  | .failed => False
  | .closed => True
  | .byte value _ => TestState.ofByte value = .iperfDone

/-- What a message can do that does not end the run with an error. -/
theorem iperfHandleMessageServer_ok {test next : Test} {message : ControlMessage}
    {visited : List TestState} (connected : 0 ≤ test.ctrlSck)
    (handled : iperfHandleMessageServer test message = .ok (next, visited))
    : SameWiring test next
      ∧ ((∃ value io, message = .byte value io ∧ TestState.ofByte value = .testStart
          ∧ next.state = .testStart ∧ visited = [.testStart])
        ∨ (∃ value io, message = .byte value io ∧ TestState.ofByte value = .testEnd
          ∧ next.state = .displayResults
          ∧ visited = [.testEnd, .exchangeResults, .displayResults])
        ∨ (message.Finishes ∧ next.state = .iperfDone ∧ visited = [.iperfDone])
        ∨ (∃ value io, message = .byte value io ∧ TestState.ofByte value = .clientTerminate
          ∧ next.state = .iperfDone
          ∧ visited = [.clientTerminate, .displayResults, .clientTerminate, .iperfDone])) := by
  cases message with
  | failed => cases handled
  | closed =>
      obtain ⟨rfl, rfl⟩ := Prod.mk.inj (Except.ok.inj handled)
      exact ⟨⟨rfl, rfl, rfl, rfl, rfl⟩, .inr (.inr (.inl ⟨trivial, rfl, rfl⟩))⟩
  | byte value io =>
      unfold iperfHandleMessageServer at handled
      dsimp only at handled
      split at handled
      · next start =>
          obtain ⟨rfl, rfl⟩ := Prod.mk.inj (Except.ok.inj handled)
          exact ⟨⟨rfl, rfl, rfl, rfl, rfl⟩, .inl ⟨value, io, rfl, start, start, rfl⟩⟩
      · next ends =>
          obtain ⟨done, ended, shape⟩ := map_eq_ok.mp handled
          obtain ⟨rfl, rfl⟩ := Prod.mk.inj shape
          have stored : 0 ≤ ({ test with state := .ofByte value } : Test).ctrlSck := connected
          obtain ⟨wiring, state⟩ := serverTestEnd_ok stored ended
          exact ⟨⟨wiring.1, wiring.2, wiring.3, wiring.4, wiring.5⟩,
            .inr (.inl ⟨value, io, rfl, ends, state, rfl⟩)⟩
      · next done =>
          obtain ⟨rfl, rfl⟩ := Prod.mk.inj (Except.ok.inj handled)
          exact ⟨⟨rfl, rfl, rfl, rfl, rfl⟩, .inr (.inr (.inl ⟨done, done, rfl⟩))⟩
      · next terminated =>
          obtain ⟨rfl, rfl⟩ := Prod.mk.inj (Except.ok.inj handled)
          exact ⟨⟨rfl, rfl, rfl, rfl, rfl⟩,
            .inr (.inr (.inr ⟨value, io, rfl, terminated, rfl, rfl⟩))⟩
      · cases handled

-----------------------------------------------------------------------------------------
-- Streams
-----------------------------------------------------------------------------------------

/-- A server whose streams are created: the wiring of its test is kept, and the numbers of
streams to accept.
-/
structure SameCreation (s next : Server) : Prop where
  ctrlSck : next.test.ctrlSck = s.test.ctrlSck
  listener : next.test.listener = s.test.listener
  protocol : next.test.protocol = s.test.protocol
  state : next.test.state = s.test.state
  protListener : s.test.protocol = .tcp → next.test.protListener = s.test.protListener
  blocksReceived : next.test.blocksReceived = s.test.blocksReceived
  timer : next.timer = s.timer
  lastReceiveTime : next.lastReceiveTime = s.lastReceiveTime
  lastReceiveBlocks : next.lastReceiveBlocks = s.lastReceiveBlocks
  rcvTimeoutUs : next.rcvTimeoutUs = s.rcvTimeoutUs

theorem protocolAccept_ok {test next : Test} {io : StreamIo} {fd : Int} {isClosed : Bool}
    (accepted : protocolAccept test io = .ok (next, fd, isClosed))
    : ∃ protListener settings, next = { test with protListener, settings }
      ∧ (test.protocol = .tcp → protListener = test.protListener) := by
  unfold protocolAccept at accepted
  split at accepted
  · obtain ⟨⟨s, wasClosed⟩, -, shape⟩ := map_eq_ok.mp accepted
    obtain ⟨rfl, -⟩ := Prod.mk.inj shape
    exact ⟨_, _, rfl, fun _ => rfl⟩
  all_goals
    next other =>
      obtain ⟨⟨taken, s⟩, udp, shape⟩ := map_eq_ok.mp accepted
      obtain ⟨rfl, -⟩ := Prod.mk.inj shape
      obtain ⟨listener, -, shape⟩ := map_eq_ok.mp (mapError_eq_ok.mp udp)
      obtain ⟨rfl, -⟩ := Prod.mk.inj shape
      exact ⟨_, _, rfl, fun tcp => by rw [other] at tcp; cases tcp⟩

/-- Counting a stream touches the counters and the flag. -/
theorem countStream_eq (s : Server)
    : ∃ flag recStreamsAccepted sendStreamsAccepted,
      s.countStream = { s with flag, recStreamsAccepted, sendStreamsAccepted } := by
  unfold Server.countStream
  split_ifs <;> exact ⟨_, _, _, rfl⟩

/-- A connection changes the list of streams and what counts them. -/
theorem addStream_eq {s next : Server} {fd : Int} {io : StreamIo}
    (added : s.addStream fd io = .ok next)
    : ∃ flag recStreamsAccepted sendStreamsAccepted streams,
      next = {
        s with
        flag, recStreamsAccepted, sendStreamsAccepted
        test := { s.test with streams }
      } := by
  obtain ⟨flag, received, sent, shape⟩ := countStream_eq s
  unfold Server.addStream at added
  rw [shape] at added
  dsimp only at added
  split at added
  · obtain ⟨test, created, rfl⟩ := map_eq_ok.mp added
    unfold iperfNewStream at created
    split at created
    · cases created
    · obtain rfl := Except.ok.inj created
      exact ⟨_, _, _, _, rfl⟩
  · obtain rfl := Except.ok.inj added
    exact ⟨_, _, _, _, rfl⟩

theorem addStream_ok {s next : Server} {fd : Int} {io : StreamIo}
    (added : s.addStream fd io = .ok next)
    : SameCreation s next := by
  obtain ⟨_, _, _, _, rfl⟩ := addStream_eq added
  exact ⟨rfl, rfl, rfl, rfl, fun _ => rfl, rfl, rfl, rfl, rfl, rfl⟩

theorem acceptStream_ok {s next : Server} {io : StreamIo}
    (accepted : s.acceptStream io = .ok next)
    : SameCreation s next := by
  unfold Server.acceptStream at accepted
  simp only [bind_eq_ok] at accepted
  obtain ⟨⟨test, fd, isClosed⟩, connection, _, -, rest⟩ := accepted
  obtain ⟨protListener, settings, rfl, tcp⟩ := protocolAccept_ok connection
  dsimp only at rest
  split at rest
  · obtain rfl := Except.ok.inj rest
    exact ⟨rfl, rfl, rfl, rfl, tcp, rfl, rfl, rfl, rfl, rfl⟩
  · have added := addStream_ok rest
    exact ⟨added.1, added.2, added.3, added.4,
      fun isTcp => (added.5 isTcp).trans (tcp isTcp), added.6, added.7, added.8, added.9,
      added.10⟩

/-- What tells streams apart: the connection, the id and the direction. -/
def Stream.key (sp : Stream) : Int × Int32 × Bool := (sp.socket, sp.id, sp.sender)

/-- The start of a test, which is announced on the control connection. -/
structure Started (s : Server) (io : StartIo) (next : Server) : Prop where
  state : 0 ≤ s.test.ctrlSck → next.test.state = .testRunning
  ctrlSck : next.test.ctrlSck = s.test.ctrlSck
  listener : next.test.listener = s.test.listener ∨ io.netannounce = some next.test.listener
  streams : next.test.streams.map Stream.key = s.test.streams.map Stream.key
  blocksReceived : next.test.blocksReceived = s.test.blocksReceived
  lastReceiveTime : next.lastReceiveTime = s.lastReceiveTime
  lastReceiveBlocks : next.lastReceiveBlocks = s.lastReceiveBlocks
  rcvTimeoutUs : next.rcvTimeoutUs = s.rcvTimeoutUs

theorem relisten_ok {test next : Test} {io : StartIo} (listening : relisten test io = .ok next)
    : ∃ listener, next = { test with listener, protListener := -1 }
      ∧ (listener = test.listener ∨ io.netannounce = some listener) := by
  unfold relisten at listening
  split at listening
  · split at listening
    · cases listening
    · next s announced =>
        obtain rfl := Except.ok.inj listening
        exact ⟨s, rfl, .inr announced⟩
  · obtain rfl := Except.ok.inj listening
    exact ⟨_, rfl, .inl rfl⟩

theorem startTest_ok {s next : Server} {io : StartIo} (started : s.startTest io = .ok next)
    : Started s io next := by
  unfold Server.startTest at started
  simp only [bind_eq_ok, guard_eq_ok] at started
  obtain ⟨relistened, listening, _, -, starting, told, running, sent, -, finished⟩ := started
  obtain ⟨listener, rfl, origin⟩ := relisten_ok listening
  obtain rfl := Except.ok.inj finished
  rcases iperfSetSendState_ok told with ⟨rfl, _⟩ | ⟨rfl, _⟩
    <;> rcases iperfSetSendState_ok sent with ⟨rfl, _⟩ | ⟨rfl, negative⟩
    <;> refine ⟨fun connected => ?_, rfl, origin, ?_, rfl, rfl, rfl, rfl⟩
    <;> first
    | rfl
    | exact absurd connected (Int.not_le.mpr negative)
    | simp only [Server.createTimers, iperfInitTest, List.map_map]; rfl

-----------------------------------------------------------------------------------------
-- The parts of a pass
-----------------------------------------------------------------------------------------

/-- The variables of the receive watchdog. -/
structure SameWatch (s next : Server) : Prop where
  blocksReceived : next.test.blocksReceived = s.test.blocksReceived
  lastReceiveTime : next.lastReceiveTime = s.lastReceiveTime
  lastReceiveBlocks : next.lastReceiveBlocks = s.lastReceiveBlocks
  rcvTimeoutUs : next.rcvTimeoutUs = s.rcvTimeoutUs

theorem SameWatch.refl (s : Server) : SameWatch s s := ⟨rfl, rfl, rfl, rfl⟩

theorem SameWatch.trans {s next last : Server} (first : SameWatch s next)
    (second : SameWatch next last)
    : SameWatch s last where
  blocksReceived := second.blocksReceived.trans first.blocksReceived
  lastReceiveTime := second.lastReceiveTime.trans first.lastReceiveTime
  lastReceiveBlocks := second.lastReceiveBlocks.trans first.lastReceiveBlocks
  rcvTimeoutUs := second.rcvTimeoutUs.trans first.rcvTimeoutUs

/-- Setting the numbers of streams touches nothing else. -/
theorem setStreamsNumber_eq (s : Server)
    : ∃ streamsToSend streamsToRec,
      s.setStreamsNumber = { s with streamsToSend, streamsToRec } := by
  unfold Server.setStreamsNumber
  split <;> exact ⟨_, _, rfl⟩

theorem handleControl_idle {s : Server} {readSet : List Int} {io : PassIo}
    (idle : fdIsset s.test.ctrlSck readSet = false)
    : s.handleControl readSet io = .ok (s, readSet, []) := by
  rw [Server.handleControl, if_neg (by simp [idle])]

theorem createStreams_other {s : Server} {readSet : List Int} {io : PassIo}
    (other : s.test.state ≠ .createStreams)
    : s.createStreams readSet io = .ok s := by
  rw [Server.createStreams, if_neg other]

theorem handleListener_ok {s next : Server} {readSet rest : List Int} {io : PassIo}
    (handled : s.handleListener readSet io = .ok (next, rest))
    : (¬ (fdIsset s.test.listener readSet ∧ s.test.state ≠ .createStreams)
        ∧ next = s ∧ rest = readSet)
      ∨ (fdIsset s.test.listener readSet ∧ s.test.state ≠ .createStreams
        ∧ ∃ test, iperfAccept s.test io.accept = .ok test
          ∧ next = Server.setStreamsNumber { s with test }
          ∧ rest = fdClr test.listener readSet) := by
  unfold Server.handleListener at handled
  split at handled
  · next due =>
      obtain ⟨test, accepted, shape⟩ := map_eq_ok.mp handled
      obtain ⟨rfl, rfl⟩ := Prod.mk.inj shape
      exact .inr ⟨due.1, due.2, test, accepted, rfl, rfl⟩
  · next idle =>
      obtain ⟨rfl, rfl⟩ := Prod.mk.inj (Except.ok.inj handled)
      exact .inl ⟨idle, rfl, rfl⟩

theorem handleControl_ok {s next : Server} {readSet rest : List Int} {io : PassIo}
    {visited : List TestState} (handled : s.handleControl readSet io = .ok (next, rest, visited))
    : (¬ fdIsset s.test.ctrlSck readSet ∧ next = s ∧ rest = readSet ∧ visited = [])
      ∨ (fdIsset s.test.ctrlSck readSet
        ∧ ∃ test, iperfHandleMessageServer s.test io.message = .ok (test, visited)
          ∧ next = { s with test }) := by
  unfold Server.handleControl at handled
  split at handled
  · next due =>
      obtain ⟨⟨test, states⟩, message, shape⟩ := map_eq_ok.mp handled
      obtain ⟨rfl, remaining⟩ := Prod.mk.inj shape
      obtain ⟨-, rfl⟩ := Prod.mk.inj remaining
      exact .inr ⟨due, test, message, rfl⟩
  · next idle =>
      obtain ⟨rfl, shape⟩ := Prod.mk.inj (Except.ok.inj handled)
      obtain ⟨rfl, rfl⟩ := Prod.mk.inj shape
      exact .inl ⟨idle, rfl, rfl, rfl⟩

theorem createStreams_ok {s next : Server} {readSet : List Int} {io : PassIo}
    (created : s.createStreams readSet io = .ok next)
    : (s.test.state ≠ .createStreams ∧ next = s)
      ∨ (s.test.state = .createStreams
        ∧ ∃ mid, SameCreation s mid
          ∧ ((mid.AllAccepted ∧ Started mid io.start next)
              ∨ (¬ mid.AllAccepted ∧ next = mid))) := by
  unfold Server.createStreams at created
  split at created
  · next creating =>
      refine .inr ⟨creating, ?_⟩
      obtain ⟨mid, accepted, rest⟩ := bind_eq_ok.mp created
      refine ⟨mid, ?_, ?_⟩
      · unfold Server.acceptReady at accepted
        split at accepted
        · exact acceptStream_ok accepted
        · obtain rfl := Except.ok.inj accepted
          exact ⟨rfl, rfl, rfl, rfl, fun _ => rfl, rfl, rfl, rfl, rfl, rfl⟩
      · split at rest
        · next complete => exact .inl ⟨complete, startTest_ok rest⟩
        · next missing => exact .inr ⟨missing, (Except.ok.inj rest).symm⟩
  · next other => exact .inl ⟨other, (Except.ok.inj created).symm⟩

theorem handleReady_ok {s next : Server} {readSet : List Int} {io : PassIo}
    {visited : List TestState} (handled : s.handleReady readSet io = .ok (next, visited))
    : ∃ first readSet' second readSet'' states,
      s.handleListener readSet io = .ok (first, readSet')
      ∧ first.handleControl readSet' io = .ok (second, readSet'', states)
      ∧ second.createStreams readSet'' io = .ok next
      ∧ visited = states ++ [next.test.state] := by
  unfold Server.handleReady at handled
  simp only [bind_eq_ok] at handled
  obtain ⟨⟨first, readSet'⟩, listener, ⟨second, readSet'', states⟩, control, last, created,
    shape⟩ := handled
  obtain ⟨rfl, rfl⟩ := Prod.mk.inj (Except.ok.inj shape)
  exact ⟨first, readSet', second, readSet'', states, listener, control, created, rfl⟩

/-- Handling the descriptors that are ready does not touch the watchdog. -/
theorem handleReady_watch {s next : Server} {readSet : List Int} {io : PassIo}
    {visited : List TestState} (handled : s.handleReady readSet io = .ok (next, visited))
    : SameWatch s next := by
  obtain ⟨first, _, second, _, _, listener, control, created, -⟩ := handleReady_ok handled
  have listened : SameWatch s first := by
    rcases handleListener_ok listener with ⟨-, rfl, -⟩ | ⟨-, -, test, accepted, rfl, -⟩
    · exact .refl _
    · obtain ⟨toSend, toRec, shape⟩ := setStreamsNumber_eq { s with test }
      obtain ⟨fd, -, ⟨-, rfl⟩ | ⟨-, client⟩⟩ := iperfAccept_ok accepted
      · rw [shape]
        exact ⟨rfl, rfl, rfl, rfl⟩
      · rw [shape]
        exact ⟨client.blocksReceived, rfl, rfl, rfl⟩
  have controlled : SameWatch first second := by
    rcases handleControl_ok control with ⟨-, rfl, -, -⟩ | ⟨due, test, message, rfl⟩
    · exact .refl _
    · have connected : 0 ≤ first.test.ctrlSck := by
        simp only [fdIsset, Bool.and_eq_true, decide_eq_true_eq] at due
        exact due.1
      obtain ⟨wiring, -⟩ := iperfHandleMessageServer_ok connected message
      exact ⟨wiring.blocksReceived, rfl, rfl, rfl⟩
  refine (listened.trans controlled).trans ?_
  rcases createStreams_ok created with ⟨-, rfl⟩ | ⟨-, mid, creation, ⟨-, started⟩ | ⟨-, rfl⟩⟩
  · exact .refl _
  · exact ⟨started.blocksReceived.trans creation.blocksReceived,
      started.lastReceiveTime.trans creation.lastReceiveTime,
      started.lastReceiveBlocks.trans creation.lastReceiveBlocks,
      started.rcvTimeoutUs.trans creation.rcvTimeoutUs⟩
  · exact ⟨creation.blocksReceived, creation.lastReceiveTime, creation.lastReceiveBlocks,
      creation.rcvTimeoutUs⟩

-----------------------------------------------------------------------------------------
-- Timers and workers
-----------------------------------------------------------------------------------------

/-- Two servers in the same phase: the streams and the traffic may differ. -/
structure SamePhase (s next : Server) : Prop where
  state : next.test.state = s.test.state
  listener : next.test.listener = s.test.listener
  protListener : next.test.protListener = s.test.protListener
  protocol : next.test.protocol = s.test.protocol
  allAccepted : next.AllAccepted ↔ s.AllAccepted

theorem SamePhase.refl (s : Server) : SamePhase s s := ⟨rfl, rfl, rfl, rfl, Iff.rfl⟩

theorem SamePhase.trans {s next last : Server} (first : SamePhase s next)
    (second : SamePhase next last)
    : SamePhase s last where
  state := second.state.trans first.state
  listener := second.listener.trans first.listener
  protListener := second.protListener.trans first.protListener
  protocol := second.protocol.trans first.protocol
  allAccepted := second.allAccepted.trans first.allAccepted

/-- The control connection is kept, or the safety timer has dropped it. -/
def SameConnection (s next : Server) : Prop :=
  (next.test.ctrlSck = s.test.ctrlSck ∧ (next.timer → s.timer))
    ∨ (s.timer ∧ next.test.ctrlSck = -1 ∧ next.timer = false)

/-- A timer keeps the phase and the watchdog; at most it drops the control connection. -/
theorem runTimer_frame (now : IperfTime) (s : Server) (timer : Timer)
    : SamePhase s (s.runTimer now timer)
      ∧ SameWatch s (s.runTimer now timer)
      ∧ SameConnection s (s.runTimer now timer) := by
  have same : SamePhase s s ∧ SameWatch s s ∧ SameConnection s s :=
    ⟨.refl s, .refl s, .inl ⟨rfl, id⟩⟩
  cases timer with
  | safety =>
      unfold Server.runTimer
      dsimp only
      split_ifs with armed
      · exact ⟨⟨rfl, rfl, rfl, rfl, Iff.rfl⟩, ⟨rfl, rfl, rfl, rfl⟩,
          .inl ⟨rfl, fun absurd => by cases absurd⟩⟩
      · exact ⟨⟨rfl, rfl, rfl, rfl, Iff.rfl⟩, ⟨rfl, rfl, rfl, rfl⟩, .inr ⟨armed, rfl, rfl⟩⟩
      · exact same
  | stats =>
      unfold Server.runTimer iperfStatsCallback
      dsimp only
      split_ifs
      · exact same
      · obtain ⟨index, traffic, count, exceeded, shape⟩ := iperfCheckTotalRate_frame
          { s.test with streams := s.test.streams.map (closeInterval s.test now) }
          (intervalBytes s.test)
        rw [shape]
        exact ⟨⟨rfl, rfl, rfl, rfl, Iff.rfl⟩, ⟨rfl, rfl, rfl, rfl⟩, .inl ⟨rfl, id⟩⟩
      · exact ⟨⟨rfl, rfl, rfl, rfl, Iff.rfl⟩, ⟨rfl, rfl, rfl, rfl⟩, .inl ⟨rfl, id⟩⟩
      · exact same
  | omitPeriod =>
      unfold Server.runTimer
      dsimp only
      split_ifs
      · exact ⟨⟨rfl, rfl, rfl, rfl, Iff.rfl⟩, ⟨rfl, rfl, rfl, rfl⟩, .inl ⟨rfl, id⟩⟩
      · exact same

/-- The same for all timers of a pass, by induction on those that have expired. -/
theorem runTimers_frame (s : Server) (io : PassIo)
    : SamePhase s (s.runTimers io)
      ∧ SameWatch s (s.runTimers io)
      ∧ SameConnection s (s.runTimers io) := by
  unfold Server.runTimers
  induction io.expired generalizing s with
  | nil => exact ⟨.refl s, .refl s, .inl ⟨rfl, id⟩⟩
  | cons timer rest ih =>
      obtain ⟨phase, watch, connection⟩ := runTimer_frame io.timerNow s timer
      obtain ⟨laterPhase, laterWatch, laterConnection⟩ := ih (s.runTimer io.timerNow timer)
      rw [List.foldl_cons]
      refine ⟨phase.trans laterPhase, watch.trans laterWatch, ?_⟩
      rcases connection with ⟨kept, armed⟩ | ⟨fired, dropped, unarmed⟩
      · rcases laterConnection with ⟨laterKept, laterArmed⟩ | ⟨laterFired, laterDropped⟩
        · exact .inl ⟨laterKept.trans kept, armed ∘ laterArmed⟩
        · exact .inr ⟨armed laterFired, laterDropped⟩
      · rcases laterConnection with ⟨laterKept, laterArmed⟩ | ⟨laterFired, -⟩
        · refine .inr ⟨fired, laterKept.trans dropped, ?_⟩
          exact Bool.eq_false_iff.mpr fun still => by
            rw [unarmed] at laterArmed
            exact Bool.false_ne_true (laterArmed still)
        · rw [unarmed] at laterFired
          cases laterFired

/-- A note of progress touches the watchdog alone. -/
theorem noteProgress_frame (s : Server) (now : IperfTime)
    : (s.noteProgress now).test = s.test ∧ (s.noteProgress now).timer = s.timer
      ∧ SamePhase s (s.noteProgress now) := by
  unfold Server.noteProgress
  split
  · exact ⟨rfl, rfl, rfl, rfl, rfl, rfl, Iff.rfl⟩
  · exact ⟨rfl, rfl, .refl s⟩

/-- The clock reading with which a pass notes progress. -/
def PassIo.clock (io : PassIo) : IperfTime :=
  match io.select with
  | .timedOut => io.later
  | _ => io.now

/-- A pass that goes on notes progress, handles what is ready and runs the timers. -/
theorem pass_ok {s next : Server} {io : PassIo} {visited : List TestState}
    (ran : s.pass io = .ok (next, visited))
    : ∃ mid, next = mid.runTimers io
      ∧ (((∀ readSet, io.select ≠ .ready readSet) ∧ mid = s.noteProgress io.clock
          ∧ visited = [s.test.state])
        ∨ (∃ readSet, io.select = .ready readSet
          ∧ (s.noteProgress io.clock).handleReady readSet io = .ok (mid, visited))) := by
  unfold Server.pass at ran
  split at ran
  · cases ran
  split at ran
  · cases ran
  · unfold PassIo.clock
    split at ran
    · next errno failed =>
        split at ran
        · cases ran
        · obtain ⟨rfl, rfl⟩ := Prod.mk.inj (Except.ok.inj ran)
          rw [failed]
          exact ⟨_, rfl, .inl ⟨fun _ absurd => (by cases absurd), rfl, rfl⟩⟩
    · next timedOut =>
        split at ran
        · cases ran
        · obtain ⟨rfl, rfl⟩ := Prod.mk.inj (Except.ok.inj ran)
          rw [timedOut]
          exact ⟨_, rfl, .inl ⟨fun _ absurd => (by cases absurd), rfl, rfl⟩⟩
    · next readSet ready =>
        split at ran
        · cases ran
        · next mid states handled =>
            obtain ⟨rfl, rfl⟩ := Prod.mk.inj (Except.ok.inj ran)
            rw [ready]
            exact ⟨mid, rfl, .inr ⟨readSet, rfl, handled⟩⟩

/-- A pass that goes on has found every descriptor of its sets open. -/
theorem pass_valid {s next : Server} {io : PassIo} {visited : List TestState}
    (ran : s.pass io = .ok (next, visited))
    : s.staleReadSet = false := by
  unfold Server.pass at ran
  split at ran
  · cases ran
  split at ran
  · cases ran
  · next valid => exact Bool.eq_false_iff.mpr valid

/-- A receiving worker changes its stream and the counters of received bytes and blocks. -/
theorem iperfRecvMt_frame {test next : Test} {position : Nat} {arrivalTime : IperfTime}
    {results : List RecvResult} {r : Int}
    (received : iperfRecvMt test position arrivalTime results = some (r, next))
    : ∃ sp sp', test.streams[position]? = some sp
      ∧ protocolRecv test sp arrivalTime results = some (r, sp')
      ∧ next = {
          test with
          streams := test.streams.set position sp'
          bytesReceived :=
            if r > 0 then test.bytesReceived + UInt64.ofNat r.toNat else test.bytesReceived
          blocksReceived := if r > 0 then test.blocksReceived + 1 else test.blocksReceived
        } := by
  simp only [iperfRecvMt, Option.bind_eq_bind, Option.bind_eq_some_iff] at received
  obtain ⟨sp, found, ⟨r', sp'⟩, got, rest⟩ := received
  dsimp only at rest
  split at rest
  · next positive =>
      obtain ⟨rfl, rfl⟩ := Prod.mk.inj (Option.some.inj rest)
      exact ⟨sp, sp', found, got, by simp only [positive, if_true]⟩
  · next nothing =>
      obtain ⟨rfl, rfl⟩ := Prod.mk.inj (Option.some.inj rest)
      exact ⟨sp, sp', found, got, by simp only [nothing, if_false]⟩

/-- A sending worker changes its stream and the counters of sent bytes and blocks. -/
theorem iperfSendMt_frame {test next : Test} {position : Nat} {before : IperfTime}
    {io : SendIo} {r : Int}
    (sent : iperfSendMt test position before io = some (r, next))
    : ∃ streams bytesSent blocksSent,
      next = { test with streams, bytesSent, blocksSent } := by
  simp only [iperfSendMt, Option.bind_eq_bind, Option.bind_eq_some_iff] at sent
  obtain ⟨sp, found, ⟨out, sp'⟩, got, rest⟩ := sent
  dsimp only at rest
  split at rest
  · obtain ⟨rfl, rfl⟩ := Prod.mk.inj (Option.some.inj rest)
    exact ⟨_, _, _, rfl⟩
  · obtain ⟨rfl, rfl⟩ := Prod.mk.inj (Option.some.inj rest)
    exact ⟨_, _, _, rfl⟩

/-- What a call of a worker that has received so many bytes makes of its test. -/
def Test.Serves (test : Test) (received : Nat) (next : Test) : Prop :=
  ∃ streams bytesSent blocksSent bytesReceived,
    next = {
      test with
      streams, bytesSent, blocksSent, bytesReceived
      blocksReceived := if received > 0 then test.blocksReceived + 1 else test.blocksReceived
    }

theorem Test.Serves.idle (test : Test) : test.Serves 0 test := ⟨_, _, _, _, rfl⟩

theorem iperfRecvMt_serves {test next : Test} {position : Nat} {arrivalTime : IperfTime}
    {results : List RecvResult} {r : Int}
    (received : iperfRecvMt test position arrivalTime results = some (r, next))
    : test.Serves r.toNat next := by
  obtain ⟨_, _, -, -, rfl⟩ := iperfRecvMt_frame received
  have positive : r > 0 ↔ r.toNat > 0 := by omega
  have blocks : (if r > 0 then test.blocksReceived + 1 else test.blocksReceived)
      = if r.toNat > 0 then test.blocksReceived + 1 else test.blocksReceived :=
    if_congr positive rfl rfl
  rw [blocks]
  exact ⟨_, _, _, _, rfl⟩

theorem iperfSendMt_serves {test next : Test} {position : Nat} {before : IperfTime}
    {io : SendIo} {r : Int} (sent : iperfSendMt test position before io = some (r, next))
    : test.Serves 0 next := by
  obtain ⟨_, _, _, rfl⟩ := iperfSendMt_frame sent
  exact ⟨_, _, _, _, rfl⟩

/-- An event that is not a pass is a worker's call. -/
theorem step_worker {s : Server} {event : Event} {next : Server} {visited : List TestState}
    {received : Nat} (notPass : ∀ io, event ≠ .pass io)
    (stepped : s.step event = .ok (next, visited, received))
    : visited = [] ∧ ∃ test, next = { s with test } ∧ s.test.Serves received test := by
  cases event with
  | pass io => exact absurd rfl (notPass io)
  | receive position arrivalTime results =>
      unfold Server.step at stepped
      dsimp only at stepped
      split at stepped
      · split at stepped
        · cases stepped
          exact ⟨rfl, _, rfl, .idle _⟩
        · next got =>
            cases stepped
            exact ⟨rfl, _, rfl, iperfRecvMt_serves got⟩
      · cases stepped
        exact ⟨rfl, _, rfl, .idle _⟩
  | send position before io =>
      unfold Server.step at stepped
      dsimp only at stepped
      split at stepped
      · split at stepped
        · cases stepped
          exact ⟨rfl, _, rfl, .idle _⟩
        · next sent =>
            cases stepped
            exact ⟨rfl, _, rfl, iperfSendMt_serves sent⟩
      · cases stepped
        exact ⟨rfl, _, rfl, .idle _⟩

/-- A worker keeps the phase and the connection. -/
theorem worker_frame {s : Server} {event : Event} {next : Server} {visited : List TestState}
    {received : Nat} (notPass : ∀ io, event ≠ .pass io)
    (stepped : s.step event = .ok (next, visited, received))
    : SamePhase s next ∧ next.test.ctrlSck = s.test.ctrlSck ∧ next.timer = s.timer
      ∧ visited = [] := by
  obtain ⟨nothing, _, rfl, _, _, _, _, rfl⟩ := step_worker notPass stepped
  exact ⟨⟨rfl, rfl, rfl, rfl, Iff.rfl⟩, rfl, rfl, nothing⟩

end Iperf
