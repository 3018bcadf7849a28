import Iperf.Server.Ports

/-! The functions of a server that neither start nor end a worker and leave the timers alone. -/

namespace Iperf

namespace ServerRun

variable {r next last : ServerRun}

/-- Which streams have a thread. -/
def flags (r : ServerRun) : List Bool := r.test.ports.streams.map Prod.snd

/-- Workers may end and streams without a thread may be added. -/
structure Framed (r next : ServerRun) : Prop where
  threads : next.threads ⊆ r.threads
  calls : next.calls = r.calls
  flags : ∃ added, next.flags = r.flags ++ List.replicate added false
  ctrlSck : next.test.ctrlSck = r.test.ctrlSck
  issued : next.misissued = false → r.misissued = false

/-- The timers stay as they are, too. -/
structure Steady (r next : ServerRun) : Prop extends Framed r next where
  timing : next.timing = r.timing

theorem Framed.trans (first : Framed r next) (second : Framed next last) : Framed r last := by
  obtain ⟨some, flags⟩ := first.flags
  obtain ⟨more, flags'⟩ := second.flags
  refine ⟨fun _ lives => first.threads (second.threads lives), second.calls.trans first.calls,
    ⟨some + more, ?_⟩, second.ctrlSck.trans first.ctrlSck,
    fun issued => first.issued (second.issued issued)⟩
  rw [flags', flags, List.append_assoc, List.replicate_append_replicate]

theorem Steady.trans (first : Steady r next) (second : Steady next last) : Steady r last :=
  ⟨first.toFramed.trans second.toFramed, second.timing.trans first.timing⟩

/-- A function that keeps the ports of the streams. -/
theorem framed_of_streams (threads : next.threads = r.threads) (calls : next.calls = r.calls)
    (streams : next.test.ports.streams = r.test.ports.streams)
    (ctrlSck : next.test.ctrlSck = r.test.ctrlSck)
    (issued : next.misissued = false → r.misissued = false)
    : Framed r next := by
  refine ⟨fun _ lives => threads ▸ lives, calls, ⟨0, ?_⟩, ctrlSck, issued⟩
  unfold ServerRun.flags
  rw [streams, List.replicate_zero, List.append_nil]

theorem steady_of_streams (timing : next.timing = r.timing) (threads : next.threads = r.threads)
    (calls : next.calls = r.calls) (streams : next.test.ports.streams = r.test.ports.streams)
    (ctrlSck : next.test.ctrlSck = r.test.ctrlSck)
    (issued : next.misissued = false → r.misissued = false)
    : Steady r next :=
  ⟨framed_of_streams threads calls streams ctrlSck issued, timing⟩

theorem Steady.refl (r : ServerRun) : Steady r r := steady_of_streams rfl rfl rfl rfl rfl id

theorem steady_opens (r : ServerRun) (fd : Int) : Steady r (r.opens fd) := by
  refine steady_of_streams rfl rfl rfl rfl rfl fun issued => ?_
  exact (opens_issued issued).1

theorem steady_close (r : ServerRun) (fd : Int) : Steady r (r.close fd) := by
  obtain ⟨_, shape⟩ := close_eq r fd
  rw [shape]
  exact steady_of_streams rfl rfl rfl rfl rfl id

theorem steady_closeSockets (r : ServerRun) : Steady r r.closeSockets := by
  obtain ⟨_, shape⟩ := closeSockets_eq r
  rw [shape]
  exact steady_of_streams rfl rfl rfl rfl rfl id

/-- The state a function leaves, whatever it returns. -/
def reached {ε α : Type} : Except (ServerRun × ε) (ServerRun × α) → ServerRun
  | .error (r, _) => r
  | .ok (r, _) => r

/-- `iperf_set_send_state` on a control connection. -/
theorem sendState_steady (r : ServerRun) (state : TestState) (sent : Bool)
    : Leaves (Steady r)
        (fun next => Steady r next ∧ (0 ≤ r.test.ctrlSck → next.test.state = state))
        (r.sendState state sent) := by
  unfold sendState iperfSetSendState
  split_ifs with connected written
  · exact ⟨steady_of_streams rfl rfl rfl rfl rfl id, fun _ => rfl⟩
  · exact steady_of_streams rfl rfl rfl rfl rfl id
  · exact ⟨steady_of_streams rfl rfl rfl rfl rfl id, fun valid => absurd valid connected⟩

-----------------------------------------------------------------------------------------
-- The control connection
-----------------------------------------------------------------------------------------

theorem reopenListener_steady (r : ServerRun) (io : ListenIo)
    : match r.reopenListener io with
      | .error (next, _) => Steady r next
      | .ok next => Steady r next := by
  have closed := steady_close r r.test.listener
  unfold reopenListener
  dsimp only
  cases io.socket with
  | none => exact closed
  | some s =>
      have opened : Steady r ((r.close r.test.listener).opens s) :=
        closed.trans (steady_opens _ s)
      cases io.setup with
      | some error => exact opened.trans (steady_close _ s)
      | none => exact opened.trans (steady_of_streams rfl rfl rfl rfl rfl id)

theorem tcpListen_steady (r : ServerRun) (io : ListenIo) : Steady r (reached (r.tcpListen io)) := by
  unfold tcpListen
  cases r.test.ownListener with
  | false =>
      cases io.bufferCheck with
      | some error => exact steady_close r _
      | none => exact .refl r
  | true =>
      have reopened := reopenListener_steady r io
      rw [if_pos rfl]
      rcases result : r.reopenListener io with ⟨next, error⟩ | next
      · rw [result] at reopened
        exact reopened
      · rw [result] at reopened
        cases io.bufferCheck with
        | some error => exact reopened.trans (steady_close next _)
        | none => exact reopened

theorem udpListen_steady (r : ServerRun) (io : ListenIo) : Steady r (reached (r.udpListen io)) := by
  unfold udpListen
  cases io.socket with
  | none => exact .refl r
  | some s => exact steady_opens r s

theorem protocolListen_steady (r : ServerRun) (io : ListenIo)
    : Steady r (reached (r.protocolListen io)) := by
  unfold protocolListen
  cases r.test.protocol with
  | tcp => exact tcpListen_steady r io
  | udp => exact udpListen_steady r io
  | sctp => exact udpListen_steady r io

theorem exchangeParameters_steady (r : ServerRun) (io : AcceptIo)
    : Leaves (Steady r) (Steady r) (r.exchangeParameters io) := by
  unfold exchangeParameters
  cases io.parameters with
  | none => exact .refl r
  | some json =>
      obtain ⟨-, -, -, -, session⟩ := getParameters_exchanged r.test json
      let taken : ServerRun := { r with test := getParameters r.test json }
      have takes : Steady r taken := by
        refine steady_of_streams rfl rfl rfl ?_ session.ctrlSck id
        exact congrArg (List.map Stream.port) session.streams
      have listens := takes.trans (protocolListen_steady taken io.listen)
      dsimp only
      rcases result : taken.protocolListen io.listen with ⟨failed, error⟩ | ⟨listening, s⟩
      · rw [result] at listens
        have told := sendState_steady failed .serverError io.serverErrorSent
        refine @Leaves.bind _ (Steady r) _ _ _ ?_ fun _ steady => steady
        exact told.imp (fun _ => listens.trans) fun _ told => listens.trans told.1
      · rw [result] at listens
        let bound : ServerRun :=
          { listening with test := { listening.test with protListener := s } }
        have binds : Steady r bound := listens.trans (steady_of_streams rfl rfl rfl rfl rfl id)
        exact (sendState_steady bound .createStreams io.createStreamsSent).imp
          (fun _ => binds.trans) fun _ told => binds.trans told.1

/-- The control connection of a new client. -/
def connects (r : ServerRun) (s : Int) : ServerRun :=
  { r.opens s with test := { r.test with ctrlSck := s } }

theorem acceptClient_steady (r : ServerRun) (s : Int) (io : AcceptIo)
    : Leaves (Steady (r.connects s)) (Steady (r.connects s)) ((r.opens s).acceptClient s io) := by
  let cookie := (nread r.test.cookie cookieSize io.cookie).buffer
  let greets : ServerRun := { r.connects s with test := { (r.connects s).test with cookie } }
  have greeting : Steady (r.connects s) greets := steady_of_streams rfl rfl rfl rfl rfl id
  unfold acceptClient
  dsimp only
  split_ifs
  · exact .refl (r.connects s)
  · exact greeting
  · refine @Leaves.bind _ (Steady (r.connects s)) _ _ _ ?_ fun told steady => ?_
    · exact (sendState_steady greets .paramExchange io.paramExchangeSent).imp
        (fun _ => greeting.trans) fun _ told => greeting.trans told.1
    refine @Leaves.bind _ (Steady (r.connects s)) _ _ _ ?_ fun exchanged steady => ?_
    · exact (exchangeParameters_steady told io).imp (fun _ => steady.trans) fun _ => steady.trans
    · split
      · exact steady
      · exact steady

/-- A client is accepted by a free server only; a stranger changes nothing. -/
theorem accept_steady (r : ServerRun) (io : AcceptIo)
    : Leaves (fun next => Steady r next ∨ ∃ s, Steady (r.connects s) next)
        (fun next => (Steady r next ∧ next.test.state = r.test.state)
          ∨ r.test.ctrlSck = -1 ∧ ∃ s, Steady (r.connects s) next)
        (r.accept io) := by
  unfold accept
  cases io.accepted with
  | none => exact .inl (.refl r)
  | some s =>
      have welcomes := acceptClient_steady r s io
      dsimp only
      split
      · next free =>
          rcases result : (r.opens s).acceptClient s io with ⟨failed, error⟩ | next
          · rw [result] at welcomes
            have steady : Steady (r.connects s) failed := welcomes
            exact .inr ⟨s, steady.trans (steady_close failed s)⟩
          · rw [result] at welcomes
            exact .inr ⟨free, s, welcomes⟩
      · refine .inl ⟨(steady_opens r s).trans (steady_close _ s), ?_⟩
        rw [close_test]
        rfl

-----------------------------------------------------------------------------------------
-- Messages
-----------------------------------------------------------------------------------------

theorem exchangeResults_steady (r : ServerRun) (io : EndIo)
    : Leaves (Steady r) (Steady r) (r.exchangeResults io) := by
  unfold exchangeResults
  split
  · exact .refl r
  · next json _ =>
      have ports := getResults_ports r.test json
      split
      · next test result =>
          rw [result] at ports
          exact steady_of_streams rfl rfl rfl (congrArg Ports.streams ports)
            (congrArg Ports.ctrlSck ports) id
      · next test result =>
          rw [result] at ports
          have steady : Steady r { r with test } :=
            steady_of_streams rfl rfl rfl (congrArg Ports.streams ports)
              (congrArg Ports.ctrlSck ports) id
          split
          · exact steady
          · exact steady

theorem testEnd_steady (connected : 0 ≤ r.test.ctrlSck) (io : EndIo)
    : Leaves (Steady r) (fun next => Steady r next ∧ next.test.state ≠ .createStreams)
        (r.testEnd io) := by
  let measured : ServerRun := {
    r with test := iperfStatsCallback { r.test with done := true, cpuUtil := io.cpuUtil } io.now }
  have ports : measured.test.ports = r.test.ports :=
    iperfStatsCallback_ports { r.test with done := true, cpuUtil := io.cpuUtil } io.now
  have measures : Steady r measured :=
    steady_of_streams rfl rfl rfl (congrArg Ports.streams ports) (congrArg Ports.ctrlSck ports) id
  have closes : Steady r measured.closeSockets := measures.trans (steady_closeSockets measured)
  unfold testEnd
  refine @Leaves.bind _ (Steady r) _ _ _ ?_ fun exchanging steady => ?_
  · exact (sendState_steady measured.closeSockets _ io.exchangeResultsSent).imp
      (fun _ => closes.trans) fun _ told => closes.trans told.1
  refine @Leaves.bind _ (Steady r) _ _ _ ?_ fun exchanged steady' => ?_
  · exact (exchangeResults_steady exchanging io).imp (fun _ => steady.trans) fun _ => steady.trans
  · refine (sendState_steady exchanged .displayResults io.displayResultsSent).imp
      (fun _ => steady'.trans) fun _ told => ⟨steady'.trans told.1, ?_⟩
    rw [told.2 (steady'.ctrlSck ▸ connected)]
    nofun

theorem handleMessage_steady (connected : 0 ≤ r.test.ctrlSck) (message : ControlMessage)
    : Leaves (Steady r) (fun next => Steady r next ∧ next.test.state ≠ .createStreams)
        (r.handleMessage message) := by
  cases message with
  | failed => exact .refl r
  | closed => exact ⟨steady_of_streams rfl rfl rfl rfl rfl id, nofun⟩
  | byte value io =>
      let told := r.setState (.ofByte value)
      have steady : Steady r told := steady_of_streams rfl rfl rfl rfl rfl id
      unfold handleMessage
      dsimp only
      split
      · next state =>
          refine ⟨steady, ?_⟩
          rw [state]
          nofun
      · exact (@testEnd_steady told connected io).imp (fun _ => steady.trans)
          fun _ ended => ⟨steady.trans ended.1, ended.2⟩
      · next state =>
          refine ⟨steady, ?_⟩
          rw [state]
          nofun
      · let measured : ServerRun := { told with test := { told.test with cpuUtil := io.cpuUtil } }
        have measures : Steady told measured := steady_of_streams rfl rfl rfl rfl rfl id
        have closes := (steady.trans measures).trans (steady_closeSockets measured)
        refine ⟨closes.trans (steady_of_streams rfl rfl rfl rfl rfl id), ?_⟩
        exact nofun
      · exact steady

-----------------------------------------------------------------------------------------
-- Streams
-----------------------------------------------------------------------------------------

theorem tcpAccept_steady (r : ServerRun) (io : StreamIo)
    : Steady r (reached (r.tcpAccept io))
      ∧ (reached (r.tcpAccept io)).test.state = r.test.state := by
  unfold tcpAccept
  cases io.accepted with
  | none => exact ⟨.refl r, rfl⟩
  | some s =>
      have opened : Steady r (r.opens s) := steady_opens r s
      have closed : Steady r ((r.opens s).close s) := opened.trans (steady_close _ s)
      have state : ((r.opens s).close s).test.state = r.test.state := by
        rw [close_test]
        rfl
      dsimp only
      split_ifs
      · exact ⟨closed, state⟩
      · exact ⟨opened, rfl⟩
      · exact ⟨closed, state⟩

theorem growBuffer_steady (r : ServerRun) (io : StreamIo)
    : Steady r (r.growBuffer io) ∧ (r.growBuffer io).test.state = r.test.state := by
  obtain ⟨_, shape⟩ := growBuffer_eq r io
  rw [shape]
  exact ⟨steady_of_streams rfl rfl rfl rfl rfl id, rfl⟩

theorem udpAccept_steady (r : ServerRun) (io : StreamIo)
    : Steady r (reached (r.udpAccept io))
      ∧ (reached (r.udpAccept io)).test.state = r.test.state := by
  obtain ⟨grown, state⟩ := growBuffer_steady r io
  unfold udpAccept
  dsimp only
  cases io.udpSetup with
  | some error => exact ⟨grown, state⟩
  | none =>
      cases io.nextListener with
      | none => exact ⟨grown.trans (steady_of_streams rfl rfl rfl rfl rfl id), state⟩
      | some fd =>
          have replaced := (grown.trans (steady_opens _ fd)).trans
            (@steady_of_streams _ {
              (r.growBuffer io).opens fd with
              test := { (r.growBuffer io).test with protListener := fd }
            } rfl rfl rfl rfl rfl id)
          dsimp only
          split
          · exact ⟨replaced, state⟩
          · exact ⟨replaced, state⟩

theorem protocolAccept_steady (r : ServerRun) (io : StreamIo)
    : Steady r (reached (r.protocolAccept io))
      ∧ (reached (r.protocolAccept io)).test.state = r.test.state := by
  unfold protocolAccept
  cases r.test.protocol with
  | tcp => exact tcpAccept_steady r io
  | udp => exact udpAccept_steady r io
  | sctp => exact udpAccept_steady r io

/-- A new stream has no thread. -/
theorem addStream_steady (r : ServerRun) (fd : Int) (io : StreamIo)
    : Leaves (Steady r) (fun next => Steady r next ∧ next.test.state = r.test.state)
        (r.addStream fd io) := by
  have counted : Steady r r.countStream := steady_of_streams rfl rfl rfl rfl rfl id
  unfold addStream iperfNewStream
  dsimp only
  split
  · cases io.newStream.failed with
    | some error => exact counted
    | none =>
        refine ⟨⟨⟨fun _ lives => lives, rfl, ⟨1, ?_⟩, rfl, id⟩, rfl⟩, rfl⟩
        simp only [flags, Test.ports, iperfAddStream, List.map_append, List.map_map]
        rfl
  · exact ⟨counted, rfl⟩

theorem acceptStream_steady (r : ServerRun) (io : StreamIo)
    : Leaves (Steady r) (fun next => Steady r next ∧ next.test.state = r.test.state)
        (r.acceptStream io) := by
  obtain ⟨steady, state⟩ := protocolAccept_steady r io
  unfold acceptStream
  rcases result : r.protocolAccept io with ⟨failed, error⟩ | ⟨accepted, fd, closed⟩
  · rw [result] at steady
    exact steady
  · rw [result] at steady state
    dsimp only
    split
    · exact steady
    · split
      · exact ⟨steady, state⟩
      · exact (addStream_steady accepted fd io).imp (fun _ => steady.trans)
          fun _ added => ⟨steady.trans added.1, added.2.trans state⟩

-----------------------------------------------------------------------------------------
-- The start of a test
-----------------------------------------------------------------------------------------

theorem relisten_steady (r : ServerRun) (io : StartIo)
    : Leaves (Steady r) (Steady r) (r.relisten io) := by
  have closed {fd : Int} := steady_close r fd
  unfold relisten
  cases r.test.protocol with
  | udp => exact closed.trans (steady_of_streams rfl rfl rfl rfl rfl id)
  | sctp => exact closed.trans (steady_of_streams rfl rfl rfl rfl rfl id)
  | tcp =>
      dsimp only
      split
      · cases io.netannounce with
        | none => exact closed.trans (steady_of_streams rfl rfl rfl rfl rfl id)
        | some s =>
            exact (closed.trans (steady_opens _ s)).trans
              (steady_of_streams rfl rfl rfl rfl rfl id)
      · exact steady_of_streams rfl rfl rfl rfl rfl id

theorem checkRate_steady (r : ServerRun) : Leaves (Steady r) (Steady r) r.checkRate := by
  unfold checkRate
  split
  · exact .refl r
  · exact .refl r

theorem initTest_steady (r : ServerRun) (io : StartIo)
    : Leaves (Steady r) (Steady r) (r.initTest io) := by
  unfold initTest
  split
  · exact .refl r
  · next now _ =>
      have ports := iperfInitTest_ports r.test now
      exact steady_of_streams rfl rfl rfl (congrArg Ports.streams ports)
        (congrArg Ports.ctrlSck ports) id

/-- Until the timers are created. -/
def openTest (r : ServerRun) (io : StartIo) : Result := do
  let r ← r.relisten io
  let r ← r.checkRate
  let r ← r.sendState .testStart io.testStartSent
  r.initTest io

theorem openTest_steady (r : ServerRun) (io : StartIo)
    : Leaves (Steady r) (Steady r) (r.openTest io) := by
  unfold openTest
  refine (relisten_steady r io).bind fun r₁ steady => ?_
  refine @Leaves.bind _ (Steady r) _ _ _ ?_ fun r₂ steady => ?_
  · exact (checkRate_steady r₁).imp (fun _ => steady.trans) fun _ => steady.trans
  refine @Leaves.bind _ (Steady r) _ _ _ ?_ fun r₃ steady => ?_
  · exact (sendState_steady r₂ .testStart io.testStartSent).imp (fun _ => steady.trans)
      fun _ told => steady.trans told.1
  · exact (initTest_steady r₃ io).imp (fun _ => steady.trans) fun _ => steady.trans

-----------------------------------------------------------------------------------------
-- Workers
-----------------------------------------------------------------------------------------

theorem Worked.steady (worked : Worked r next) : Steady r next := by
  refine ⟨⟨worked.threads, worked.calls, ⟨0, ?_⟩, congrArg Ports.ctrlSck worked.ports,
    fun issued => worked.misissued ▸ issued⟩, worked.timing⟩
  unfold ServerRun.flags
  rw [worked.ports, List.replicate_zero, List.append_nil]

end ServerRun

end Iperf
