import Iperf.Server.Ports

/-! The descriptors that the fields of a server hold, and what opens and closes them. -/

namespace Iperf

open TimerList HandleTable

namespace ServerRun

-----------------------------------------------------------------------------------------
-- Descriptors that are held
-----------------------------------------------------------------------------------------

/-- A field holds a descriptor unless it is negative. -/
def live (fd : Int) : List Int := if fd < 0 then [] else [fd]

theorem live_neg : live (-1) = [] := rfl

/-- What the fields of a test hold. The stream listener of TCP is the listener itself. -/
def held (ports : Ports) : List Int :=
  ports.sockets.flatMap live
    ++ (live ports.ctrlSck ++ (live ports.listener
      ++ if ports.protocol = .tcp then [] else live ports.protListener))

variable {r next : ServerRun} {fd : Int} {rest : List Int}

theorem opens_holds (holds : Holds r.table rest) (issued : (r.opens fd).misissued = false)
    : Holds (r.opens fd).table (live fd ++ rest) := by
  obtain ⟨-, positive, isNew⟩ := opens_issued issued
  unfold live
  rw [if_neg (not_lt.mpr positive)]
  exact holds.add isNew

theorem close_holds (holds : Holds r.table (live fd ++ rest))
    : Holds (r.close fd).table rest := by
  unfold live at holds
  unfold close
  split
  · next negative =>
      rw [if_pos negative] at holds
      exact holds
  · next valid =>
      rw [if_neg valid] at holds
      exact Holds.close holds

/-- By induction on the streams. -/
theorem closeSockets_holds (holds : Holds r.table (r.test.ports.sockets.flatMap live ++ rest))
    : Holds r.closeSockets.table rest := by
  have closes (streams : List Stream) (r : ServerRun)
      (holds : Holds r.table (((streams.map Stream.port).map Prod.fst).flatMap live ++ rest))
      : Holds (streams.foldl (fun r sp => r.close sp.socket) r).table rest := by
    induction streams generalizing r with
    | nil => exact holds
    | cons sp others ih =>
        refine ih _ (close_holds ?_)
        rw [← List.append_assoc]
        exact holds
  exact closes r.test.streams r holds

theorem flatMap_live_closed {sockets : List Int} (closed : ∀ socket ∈ sockets, socket = -1)
    : sockets.flatMap live = [] := by
  refine List.flatMap_eq_nil_iff.mpr fun socket isOne => ?_
  rw [closed socket isOne]
  rfl

-----------------------------------------------------------------------------------------
-- `cleanup_server`
-----------------------------------------------------------------------------------------

/-- No descriptor is left in the fields. -/
structure Emptied (ports : Ports) : Prop where
  listener : ports.listener = -1
  ctrlSck : ports.ctrlSck = -1
  protListener : ports.protListener = -1
  sockets : ∀ socket ∈ ports.sockets, socket = -1

theorem Emptied.held {ports : Ports} (emptied : Emptied ports) : held ports = [] := by
  unfold ServerRun.held
  rw [flatMap_live_closed emptied.sockets, emptied.ctrlSck, emptied.listener, emptied.protListener]
  split <;> rfl

/-- The descriptors are closed in the order of the source. -/
theorem closeAll_holds
    (holds : Holds r.table (r.test.ports.sockets.flatMap live
      ++ (live r.test.ctrlSck ++ (live r.test.listener ++ live r.test.protListener))))
    : Holds r.closeAll.table [] := by
  have sockets := closeSockets_holds holds
  unfold closeAll
  simp only [close_test, closeSockets_test]
  refine close_holds ?_
  rw [List.append_nil]
  refine close_holds ?_
  exact close_holds sockets

/-- Only the second part of `cleanup_server` has to do with descriptors. -/
theorem cleanupServer_closeAll (r : ServerRun) (joined : Nat → Bool)
    : (r.cleanupServer joined).table
        = ((r.log .cleanupServer).joinWorkers joined).closeAll.table
      ∧ (r.cleanupServer joined).test.ports
        = ((r.log .cleanupServer).joinWorkers joined).closeAll.test.ports := by
  unfold cleanupServer cancelTimers
  generalize ((r.log .cleanupServer).joinWorkers joined).closeAll = closed
  exact ⟨rfl, rfl⟩

theorem joinWorkers_sockets (r : ServerRun) (joined : Nat → Bool)
    : (r.joinWorkers joined).test.ports.sockets = r.test.ports.sockets := by
  unfold Ports.sockets Test.ports joinWorkers
  simp only [List.map_map]
  exact List.map_congr_left fun sp _ => rfl

/-- `cleanup_server` closes what the fields hold, unless the stream listener of TCP is still one
of them.
-/
theorem cleanupServer_holds (holds : Holds r.table (held r.test.ports))
    (single : r.test.protocol = .tcp → r.test.protListener = -1) (joined : Nat → Bool)
    : Holds (r.cleanupServer joined).table [] ∧ Emptied (r.cleanupServer joined).test.ports := by
  obtain ⟨table, ports⟩ := cleanupServer_closeAll r joined
  have prot : (if r.test.ports.protocol = .tcp then [] else live r.test.ports.protListener)
      = live r.test.protListener := by
    split
    · next tcp =>
        rw [single tcp]
        rfl
    · rfl
  constructor
  · rw [table]
    refine closeAll_holds ?_
    rw [joinWorkers_sockets]
    unfold held at holds
    rw [prot] at holds
    exact holds
  · rw [ports, closeAll_test]
    refine ⟨rfl, rfl, rfl, fun socket isOne => ?_⟩
    simp only [Test.ports, Ports.sockets, List.map_map, List.mem_map, Function.comp_apply] at isOne
    obtain ⟨sp, -, rfl⟩ := isOne
    rfl

-----------------------------------------------------------------------------------------
-- A new client
-----------------------------------------------------------------------------------------

/-- `listen` succeeds: a listener that is opened again can be had and set up, and its buffer sizes
are as wanted.
-/
structure ListenIo.Succeeds (io : ListenIo) (test : Test) : Prop where
  reopened : test.protocol = .tcp → test.ownListener = true → io.socket.isSome ∧ io.setup = none
  bufferCheck : test.protocol = .tcp → io.bufferCheck = none
  announced : test.protocol ≠ .tcp → io.socket.isSome

instance (io : ListenIo) (test : Test) : Decidable (io.Succeeds test) :=
  decidable_of_iff
    ((test.protocol = .tcp → test.ownListener = true → io.socket.isSome ∧ io.setup = none)
      ∧ (test.protocol = .tcp → io.bufferCheck = none)
      ∧ (test.protocol ≠ .tcp → io.socket.isSome))
    ⟨fun ⟨first, second, third⟩ => ⟨first, second, third⟩,
      fun ⟨first, second, third⟩ => ⟨first, second, third⟩⟩

/-- The test when the parameters of a new client are read. -/
def greeted (test : Test) (s : Int) (io : AcceptIo) : Test :=
  {
    test with
    ctrlSck := s
    cookie := (nread test.cookie cookieSize io.cookie).buffer
    state := .paramExchange
  }

/-- No call fails between `accept(2)` and the end of `iperf_accept`. -/
structure AcceptIo.Succeeds (io : AcceptIo) (test : Test) (s : Int) : Prop where
  valid : 0 ≤ s
  nodelaySet : io.nodelaySet = true
  cookie : (nread test.cookie cookieSize io.cookie).ret = cookieSize
  paramExchangeSent : io.paramExchangeSent = true
  parameters : ∃ json, io.parameters = some json
    ∧ (getParameters (greeted test s io) json).serverAffinity = -1
    ∧ io.listen.Succeeds (getParameters (greeted test s io) json)
  createStreamsSent : io.createStreamsSent = true

instance (io : AcceptIo) (test : Test) (s : Int) : Decidable (io.Succeeds test s) :=
  let usable (json : CJson) : Prop :=
    (getParameters (greeted test s io) json).serverAffinity = -1
      ∧ io.listen.Succeeds (getParameters (greeted test s io) json)
  have : Decidable (∃ json, io.parameters = some json ∧ usable json) :=
    match io.parameters with
    | none => isFalse nofun
    | some json => decidable_of_iff (usable json)
        ⟨fun holds => ⟨json, rfl, holds⟩, fun ⟨_, same, holds⟩ => Option.some.inj same ▸ holds⟩
  decidable_of_iff
    (0 ≤ s ∧ io.nodelaySet = true ∧ (nread test.cookie cookieSize io.cookie).ret = cookieSize
      ∧ io.paramExchangeSent = true ∧ (∃ json, io.parameters = some json ∧ usable json)
      ∧ io.createStreamsSent = true)
    ⟨fun ⟨valid, nodelay, cookie, sent, parameters, sent'⟩ =>
        ⟨valid, nodelay, cookie, sent, parameters, sent'⟩,
      fun ⟨valid, nodelay, cookie, sent, parameters, sent'⟩ =>
        ⟨valid, nodelay, cookie, sent, parameters, sent'⟩⟩

/-- What `listen` leaves when it succeeds: a listener, and a descriptor beside it unless the
protocol is TCP.
-/
structure Listened (r : ServerRun) (rest : List Int) (next : ServerRun) (s : Int) : Prop where
  test : next.test = { r.test with listener := next.test.listener }
  timing : next.timing = r.timing
  holds : next.misissued = false → Holds next.table (live next.test.listener
    ++ ((if r.test.protocol = .tcp then [] else live s) ++ rest))

theorem udpListen_holds {io : ListenIo} (notTcp : r.test.protocol ≠ .tcp)
    (announced : io.socket.isSome)
    (holds : r.misissued = false → Holds r.table (live r.test.listener ++ rest))
    : ∃ next s, r.udpListen io = .ok (next, s) ∧ Listened r rest next s := by
  obtain ⟨s, socket⟩ := Option.isSome_iff_exists.mp announced
  refine ⟨r.opens s, s, ?_, rfl, rfl, fun issued => ?_⟩
  · unfold udpListen
    rw [socket]
  · have opened := opens_holds (holds (opens_issued issued).1) issued
    rw [if_neg notTcp]
    exact opened.perm (List.perm_append_comm_assoc ..)

theorem reopenListener_holds {io : ListenIo} (tcp : r.test.protocol = .tcp)
    (socket : io.socket.isSome) (setup : io.setup = none)
    (holds : r.misissued = false → Holds r.table (live r.test.listener ++ rest))
    : ∃ next, r.reopenListener io = .ok next ∧ Listened r rest next next.test.listener := by
  obtain ⟨s, socket⟩ := Option.isSome_iff_exists.mp socket
  let opened := (r.close r.test.listener).opens s
  have same : opened.test = r.test := close_test r _
  obtain ⟨_, closed⟩ := close_eq r r.test.listener
  refine ⟨{ opened with test := { opened.test with listener := s } }, ?_, ?_, ?_, fun issued => ?_⟩
  · unfold reopenListener
    rw [socket, setup]
  · rw [same]
  · have timing : opened.timing = (r.close r.test.listener).timing := rfl
    rw [closed] at timing
    exact timing
  · rw [if_pos tcp]
    have before := (opens_issued issued).1
    rw [closed] at before
    exact opens_holds (close_holds (holds before)) issued

/-- `listen` either keeps the listener, opens it again, or opens another descriptor. -/
theorem protocolListen_holds {io : ListenIo} (succeeds : io.Succeeds r.test)
    (holds : r.misissued = false → Holds r.table (live r.test.listener ++ rest))
    : ∃ next s, r.protocolListen io = .ok (next, s) ∧ Listened r rest next s := by
  unfold protocolListen
  cases protocol : r.test.protocol with
  | udp =>
      have notTcp : r.test.protocol ≠ .tcp := by rw [protocol]; nofun
      exact udpListen_holds notTcp (succeeds.announced notTcp) holds
  | sctp =>
      have notTcp : r.test.protocol ≠ .tcp := by rw [protocol]; nofun
      exact udpListen_holds notTcp (succeeds.announced notTcp) holds
  | tcp =>
      dsimp only
      unfold tcpListen
      rw [succeeds.bufferCheck protocol]
      cases own : r.test.ownListener with
      | false =>
          refine ⟨r, r.test.listener, rfl, rfl, rfl, fun issued => ?_⟩
          rw [if_pos protocol]
          exact holds issued
      | true =>
          obtain ⟨socket, setup⟩ := succeeds.reopened protocol own
          obtain ⟨next, reopened, listened⟩ := reopenListener_holds protocol socket setup holds
          refine ⟨next, next.test.listener, ?_, listened⟩
          rw [if_pos rfl, reopened]
          rfl

/-- A successful `iperf_set_send_state` on a control connection. -/
theorem sendState_ok (connected : 0 ≤ r.test.ctrlSck) (state : TestState)
    : r.sendState state true = .ok (r.setState state) := by
  unfold sendState iperfSetSendState
  rw [if_pos connected, if_pos rfl]
  rfl

/-- The server after a new client has been accepted. -/
structure Welcomed (r : ServerRun) (s : Int) (next : ServerRun) : Prop where
  state : next.test.state = .createStreams
  ctrlSck : next.test.ctrlSck = s
  timing : next.timing = r.timing
  holds : next.misissued = false → Holds next.table (held next.test.ports)

theorem exchangeParameters_ok {io : AcceptIo} {json : CJson} (connected : 0 ≤ r.test.ctrlSck)
    (parameters : io.parameters = some json)
    (succeeds : io.listen.Succeeds (getParameters r.test json))
    (sent : io.createStreamsSent = true)
    (holds : r.misissued = false → Holds r.table
      (live r.test.listener ++ (r.test.ports.sockets.flatMap live ++ live r.test.ctrlSck)))
    : ∃ next, r.exchangeParameters io = .ok next ∧ Welcomed r r.test.ctrlSck next
      ∧ next.test.serverAffinity = (getParameters r.test json).serverAffinity := by
  obtain ⟨-, -, -, -, session⟩ := getParameters_exchanged r.test json
  let taken : ServerRun := { r with test := getParameters r.test json }
  have holds' : taken.misissued = false → Holds taken.table
      (live taken.test.listener ++ (r.test.ports.sockets.flatMap live ++ live r.test.ctrlSck)) := by
    rw [session.listener]
    exact holds
  obtain ⟨listening, s, listened, test, timing, opened⟩ := protocolListen_holds succeeds holds'
  let bound : ServerRun := { listening with test := { listening.test with protListener := s } }
  have ctrlSck : bound.test.ctrlSck = r.test.ctrlSck := by
    have same : bound.test.ctrlSck = listening.test.ctrlSck := rfl
    rw [same, test]
    exact session.ctrlSck
  have ports : (bound.setState .createStreams).test.ports = {
      listening.test.ports with
      protListener := s
    } := rfl
  refine ⟨bound.setState .createStreams, ?_, ⟨rfl, ctrlSck, timing, fun issued => ?_⟩, ?_⟩
  · unfold exchangeParameters
    rw [parameters]
    dsimp only
    rw [listened, sent]
    exact sendState_ok (ctrlSck ▸ connected) .createStreams
  · have sockets : listening.test.ports.sockets = r.test.ports.sockets := by
      rw [test]
      unfold Ports.sockets Test.ports
      rw [session.streams]
    have protocol : listening.test.ports.protocol = taken.test.protocol := by
      rw [test]
      rfl
    have control : listening.test.ports.ctrlSck = r.test.ctrlSck := ctrlSck
    have holding := opened issued
    rw [← List.append_assoc] at holding
    refine (holding.perm List.perm_append_comm).perm ?_
    unfold held
    rw [ports, List.append_assoc, control, protocol]
    exact List.Perm.of_eq (by rw [← sockets]; rfl)
  · have same : (bound.setState .createStreams).test.serverAffinity
        = listening.test.serverAffinity := rfl
    rw [same, test]

/-- A free server holds its listener and the sockets of its streams. -/
theorem held_free {ports : Ports} (free : ports.ctrlSck = -1) (idle : ports.protListener = -1)
    : held ports = ports.sockets.flatMap live ++ live ports.listener := by
  unfold held
  rw [free, idle, live_neg, ite_self, List.nil_append, List.append_nil]

theorem acceptClient_ok {s : Int} {io : AcceptIo} (succeeds : io.Succeeds r.test s)
    (holds : r.misissued = false → Holds r.table
      (live r.test.listener ++ (r.test.ports.sockets.flatMap live ++ live s)))
    : ∃ next, r.acceptClient s io = .ok next ∧ Welcomed r s next := by
  obtain ⟨json, parameters, affinity, listens⟩ := succeeds.parameters
  let greets : ServerRun := { r with test := greeted r.test s io }
  obtain ⟨next, exchanged, welcomed, sameAffinity⟩ :=
    @exchangeParameters_ok greets io json succeeds.valid parameters listens
      succeeds.createStreamsSent holds
  refine ⟨next, ?_, welcomed.state, welcomed.ctrlSck, welcomed.timing, welcomed.holds⟩
  let connected : ServerRun := {
    r with test := {
      r.test with ctrlSck := s, cookie := (nread r.test.cookie cookieSize io.cookie).buffer } }
  have told : connected.sendState .paramExchange true = .ok greets :=
    sendState_ok succeeds.valid .paramExchange
  unfold acceptClient
  simp only [succeeds.nodelaySet, succeeds.cookie, succeeds.paramExchangeSent, Bool.not_true,
    Bool.false_eq_true, if_false, ne_eq, not_true]
  rw [told]
  simp only [bind, Except.bind]
  rw [exchanged]
  dsimp only
  rw [sameAffinity, affinity]
  rfl

/-- A free server accepts a client. -/
theorem accept_client {s : Int} {io : AcceptIo} (free : r.test.ctrlSck = -1)
    (idle : r.test.protListener = -1) (accepted : io.accepted = some s)
    (succeeds : io.Succeeds r.test s) (holds : Holds r.table (held r.test.ports))
    : ∃ next, r.accept io = .ok next ∧ Welcomed r s next := by
  rw [held_free free idle] at holds
  have opened : (r.opens s).misissued = false → Holds (r.opens s).table
      (live r.test.listener ++ (r.test.ports.sockets.flatMap live ++ live s)) := by
    intro issued
    refine ((opens_holds holds issued).perm List.perm_append_comm).perm ?_
    rw [← List.append_assoc]
    exact List.perm_append_comm.append_right _
  obtain ⟨next, welcomes, welcomed⟩ := @acceptClient_ok (r.opens s) s io succeeds opened
  refine ⟨next, ?_, welcomed.state, welcomed.ctrlSck, welcomed.timing, welcomed.holds⟩
  have freeOpened : (r.opens s).test.ctrlSck = -1 := free
  unfold accept
  rw [accepted]
  dsimp only
  rw [if_pos freeOpened, welcomes]

end ServerRun

end Iperf
