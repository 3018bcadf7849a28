import Iperf.Session.Pairing

/-! The server's side of the creation of streams: which connections it takes for the client's,
and the direction and number it gives to each.
-/

namespace Iperf

open Checked

-----------------------------------------------------------------------------------------
-- Stream ids and counters
-----------------------------------------------------------------------------------------

theorem int32_ofNat_inj {a b : Nat} (left : a < 2 ^ 32) (right : b < 2 ^ 32)
    : Int32.ofNat a = Int32.ofNat b ↔ a = b := by
  refine ⟨fun same => ?_, fun same => by rw [same]⟩
  have words := congrArg (fun n : Int32 => n.toBitVec.toNat) same
  simpa only [Int32.toBitVec_ofNat', BitVec.toNat_ofNat, Nat.mod_eq_of_lt left,
    Nat.mod_eq_of_lt right] using words

theorem int32_ofNat_succ (n : Nat) : Int32.ofNat n + 1 = Int32.ofNat (n + 1) := by
  rw [Int32.ofNat_add]
  rfl

/-- The ids of the first `2^32 - 2` streams are different, although `2` is left out. -/
theorem streamId_inj {a b : Nat} (left : a + 2 < 2 ^ 32) (right : b + 2 < 2 ^ 32)
    : streamId a = streamId b ↔ a = b := by
  have one : (1 : Int32) = Int32.ofNat 1 := rfl
  unfold streamId
  split_ifs with first second second
  · simp [first, second]
  · rw [one, int32_ofNat_inj (by omega) right]
    omega
  · rw [one, int32_ofNat_inj left (by omega)]
    omega
  · rw [int32_ofNat_inj left right]
    omega

theorem receivers_lt (client : Test) : receivers client < 2 ^ 31 := by
  have bound := client.numStreams.toInt_lt
  unfold receivers
  split <;> omega

theorem senders_lt (client : Test) : senders client < 2 ^ 31 := by
  have bound := client.numStreams.toInt_lt
  unfold senders
  split <;> omega

theorem length_clientPlan (client : Test)
    : (clientPlan client).length = receivers client + senders client := by
  simp [clientPlan]

/-- The client sends on its first streams. -/
theorem clientPlan_getElem? {client : Test} {k : Nat} {sender : Bool}
    (planned : (clientPlan client)[k]? = some sender)
    : sender = decide (k < receivers client) := by
  unfold clientPlan at planned
  by_cases early : k < receivers client
  · rw [List.getElem?_append_left (by simpa using early)] at planned
    simp only [List.getElem?_replicate, early, if_true] at planned
    simp [early, ← Option.some.inj planned]
  · rw [List.getElem?_append_right (by simpa using early)] at planned
    simp only [List.getElem?_replicate] at planned
    split at planned
    · simp [early, ← Option.some.inj planned]
    · cases planned

/-- The keys of streams that are numbered along a table of descriptors. -/
def keysAlong (sender : Nat → Bool) (table : List (Int × Nat)) : List (Int × Int32 × Bool) :=
  table.mapIdx fun k entry => (entry.1, streamId k, sender k)

theorem keysAlong_concat (sender : Nat → Bool) (table : List (Int × Nat)) (entry : Int × Nat)
    : keysAlong sender (table ++ [entry])
      = keysAlong sender table
        ++ [(entry.1, streamId table.length, sender table.length)] :=
  List.mapIdx_concat

-----------------------------------------------------------------------------------------
-- The server's side
-----------------------------------------------------------------------------------------

/-- The counters of a server that has accepted `accepted` streams of `client`. -/
structure Counted (client : Test) (accepted : Nat) (s : Server) : Prop where
  streamsToRec : s.streamsToRec = Int32.ofNat (receivers client)
  streamsToSend : s.streamsToSend = Int32.ofNat (senders client)
  recStreamsAccepted : s.recStreamsAccepted = Int32.ofNat (min accepted (receivers client))
  sendStreamsAccepted : s.sendStreamsAccepted = Int32.ofNat (accepted - receivers client)
  bounded : accepted ≤ receivers client + senders client

/-- A server that has accepted `accepted` streams of `client` and waits for more. -/
structure Awaiting (client : Test) (accepted : Nat) (s : Server) : Prop where
  wired : Wired s
  creating : s.test.state = .createStreams
  tcp : s.test.protocol = .tcp
  tos : s.test.settings.tos = 0
  cookie : s.test.cookie = client.cookie
  statsTimer : s.statsTimer = false
  omitTimer : s.omitTimer = false
  counted : Counted client accepted s
  missing : accepted < receivers client + senders client

/-- The counters are complete with the last stream. -/
theorem Counted.allAccepted_iff {client : Test} {accepted : Nat} {s : Server}
    (counted : Counted client accepted s)
    : s.AllAccepted ↔ accepted = receivers client + senders client := by
  have toRec := receivers_lt client
  have toSend := senders_lt client
  have bounded := counted.bounded
  unfold Server.AllAccepted
  rw [counted.streamsToRec, counted.streamsToSend, counted.recStreamsAccepted,
    counted.sendStreamsAccepted, int32_ofNat_inj (by omega) (by omega),
    int32_ofNat_inj (by omega) (by omega)]
  omega

theorem Awaiting.not_allAccepted {client : Test} {accepted : Nat} {s : Server}
    (awaiting : Awaiting client accepted s)
    : ¬ s.AllAccepted := by
  rw [awaiting.counted.allAccepted_iff]
  exact Nat.ne_of_lt awaiting.missing

/-- The next stream is a receiver while the server misses one, then a sender. -/
theorem Counted.countStream {client : Test} {accepted : Nat} {s : Server}
    (counted : Counted client accepted s) (missing : accepted < receivers client + senders client)
    : decide (s.countStream.flag ≠ 0) = decide (receivers client ≤ accepted)
      ∧ Counted client (accepted + 1) s.countStream := by
  have toRec := receivers_lt client
  have toSend := senders_lt client
  have receiving : s.recStreamsAccepted = s.streamsToRec ↔ receivers client ≤ accepted := by
    rw [counted.recStreamsAccepted, counted.streamsToRec,
      int32_ofNat_inj (by omega) (by omega)]
    omega
  unfold Server.countStream
  by_cases complete : receivers client ≤ accepted
  · have sending : s.sendStreamsAccepted ≠ s.streamsToSend := by
      rw [counted.sendStreamsAccepted, counted.streamsToSend, Ne,
        int32_ofNat_inj (by omega) (by omega)]
      omega
    rw [if_neg (not_not.mpr (receiving.mpr complete)), if_pos sending]
    refine ⟨by simp [complete], counted.streamsToRec, counted.streamsToSend, ?_, ?_, missing⟩
    · exact counted.recStreamsAccepted.trans (congrArg Int32.ofNat (by omega))
    · dsimp only
      rw [counted.sendStreamsAccepted, int32_ofNat_succ]
      exact congrArg Int32.ofNat (by omega)
  · rw [if_pos (mt receiving.mp complete)]
    refine ⟨by simp [complete], counted.streamsToRec, counted.streamsToSend, ?_, ?_, missing⟩
    · dsimp only
      rw [counted.recStreamsAccepted, int32_ofNat_succ]
      exact congrArg Int32.ofNat (by omega)
    · exact counted.sendStreamsAccepted.trans (congrArg Int32.ofNat (by omega))

/-- The pass that accepts a stream of the client, and starts the test after the last one. -/
theorem Awaiting.addStream {client : Test} {accepted : Nat} {s mid next : Server} {fd : Int}
    {io : PassIo} (awaiting : Awaiting client accepted s)
    (isAccepted : s.acceptStream io.stream = .ok mid)
    (added : s.addStream fd io.stream = .ok mid)
    (rest : (if mid.AllAccepted then mid.startTest io.start else .ok mid) = .ok next)
    : next.test.streams.map Stream.key
        = s.test.streams.map Stream.key
          ++ [(fd, streamId s.test.streams.length, decide (receivers client ≤ accepted))]
      ∧ (Awaiting client (accepted + 1) next
        ∨ next.test.state ≠ .createStreams
          ∧ accepted + 1 = receivers client + senders client) := by
  have creation := acceptStream_ok isAccepted
  obtain ⟨direction, counts⟩ := awaiting.counted.countStream awaiting.missing
  obtain ⟨sp, key, shape⟩ := addStream_missing awaiting.not_allAccepted added
  obtain ⟨flag, recStreams, sendStreams, counter⟩ := countStream_eq s
  rw [direction] at key
  rw [counter] at counts shape
  have counted : Counted client (accepted + 1) mid := by
    rw [shape]
    exact ⟨counts.1, counts.2, counts.3, counts.4, counts.5⟩
  have streams : mid.test.streams.map Stream.key
      = s.test.streams.map Stream.key
        ++ [(fd, streamId s.test.streams.length, decide (receivers client ≤ accepted))] := by
    rw [shape]
    simp [key]
  split at rest
  · next all =>
      have started := startTest_ok rest
      obtain ⟨connected, -, -⟩ := awaiting.wired.creating awaiting.creating
      refine ⟨started.streams.trans streams, .inr ⟨?_, counted.allAccepted_iff.mp all⟩⟩
      rw [started.state (creation.ctrlSck ▸ connected)]
      exact fun absurd => by cases absurd
  · next more =>
      obtain rfl := Except.ok.inj rest
      have incomplete := mt counted.allAccepted_iff.mpr more
      have bounded := counted.bounded
      refine ⟨streams, .inl {
        wired := awaiting.wired.of_creation awaiting.creating creation
        creating := creation.state.trans awaiting.creating
        tcp := creation.protocol.trans awaiting.tcp
        tos := ?_
        cookie := ?_
        statsTimer := ?_
        omitTimer := ?_
        counted
        missing := by omega
      }⟩
      · rw [shape]
        exact awaiting.tos
      · rw [shape]
        exact awaiting.cookie
      · rw [shape]
        exact awaiting.statsTimer
      · rw [shape]
        exact awaiting.omitTimer

/-- Progress and timers do not matter while streams are awaited. -/
theorem Awaiting.idle {client : Test} {accepted : Nat} {s : Server}
    (awaiting : Awaiting client accepted s) (now : IperfTime) (io : PassIo)
    : Awaiting client accepted ((s.noteProgress now).runTimers io)
      ∧ ((s.noteProgress now).runTimers io).test.streams = s.test.streams := by
  obtain ⟨-, safety, -⟩ := awaiting.wired.creating awaiting.creating
  have noted : ∃ lastReceiveTime lastReceiveBlocks,
      s.noteProgress now = { s with lastReceiveTime, lastReceiveBlocks } := by
    unfold Server.noteProgress
    split <;> exact ⟨_, _, rfl⟩
  obtain ⟨lastReceiveTime, lastReceiveBlocks, shape⟩ := noted
  -- no timer is armed, so none expires
  have silent : (s.noteProgress now).runTimers io = s.noteProgress now := by
    rw [shape]
    unfold Server.runTimers
    induction io.expired with
    | nil => rfl
    | cons timer rest ih =>
        rw [List.foldl_cons]
        have same : ({ s with lastReceiveTime, lastReceiveBlocks } : Server).runTimer
            io.timerNow timer = { s with lastReceiveTime, lastReceiveBlocks } := by
          cases timer <;>
            simp [Server.runTimer, safety, awaiting.statsTimer, awaiting.omitTimer]
        rw [same]
        exact ih
  rw [silent, shape]
  refine ⟨{ awaiting with wired := ?_, counted := ?_ }, rfl⟩
  · exact ⟨awaiting.wired.1, awaiting.wired.2, awaiting.wired.3⟩
  · have counted := awaiting.counted
    exact ⟨counted.1, counted.2, counted.3, counted.4, counted.5⟩

/-- A connection that presents the cookie of the client. -/
def Attempt.honest (client : Test) (attempt : Attempt) : Bool :=
  strncmpEqual cookieSize client.cookie (readCookie attempt.cookie).buffer

theorem strncmpEqual_refl (count : Nat) (text : List UInt8)
    : strncmpEqual count text text = true := by
  induction count generalizing text with
  | zero => rfl
  | succ count ih =>
      cases text with
      | nil => rfl
      | cons byte rest => simp [strncmpEqual, ih]

theorem Attempt.honest_of_sent {client : Test} {attempt : Attempt}
    (sent : readCookie attempt.cookie = { ret := cookieSize, buffer := client.cookie })
    : attempt.honest client = true := by
  rw [Attempt.honest, sent]
  exact strncmpEqual_refl _ _

/-- A server that waits for streams turns strangers away. -/
theorem Awaiting.accept_stranger {client : Test} {accepted : Nat} {s next : Server} {fd : Int}
    {attempt : Attempt} {io : PassIo} {visited : List TestState}
    (awaiting : Awaiting client accepted s) (readable : 0 ≤ (readCookie attempt.cookie).ret)
    (wrong : attempt.honest client = false)
    (handled : s.handleReady [s.test.listener] (acceptAs io fd attempt) = .ok (next, visited))
    : next = s := by
  have away : TurnedAway s (acceptAs io fd attempt).stream := by
    refine ⟨Option.some_ne_none _, readable, ?_, awaiting.tos⟩
    rw [awaiting.cookie]
    exact wrong
  rw [handleReady_creating awaiting.wired awaiting.tcp awaiting.creating,
    acceptStream_turnedAway awaiting.tcp away, ok_bind, if_neg awaiting.not_allAccepted]
    at handled
  exact (Prod.mk.inj (Except.ok.inj handled)).1.symm

/-- A server that waits for streams takes the client's connection for the next one. -/
theorem Awaiting.accept_client {client : Test} {accepted : Nat} {s next : Server} {fd : Int}
    {attempt : Attempt} {io : PassIo} {visited : List TestState}
    (awaiting : Awaiting client accepted s) (honest : attempt.honest client = true)
    (handled : s.handleReady [s.test.listener] (acceptAs io fd attempt) = .ok (next, visited))
    : next.test.streams.map Stream.key
        = s.test.streams.map Stream.key
          ++ [(fd, streamId s.test.streams.length, decide (receivers client ≤ accepted))]
      ∧ (Awaiting client (accepted + 1) next
        ∨ next.test.state ≠ .createStreams
          ∧ accepted + 1 = receivers client + senders client) := by
  rw [handleReady_creating awaiting.wired awaiting.tcp awaiting.creating] at handled
  obtain ⟨last, finished, shape⟩ := map_eq_ok.mp handled
  obtain ⟨rfl, -⟩ := Prod.mk.inj shape
  obtain ⟨mid, isAccepted, rest⟩ := bind_eq_ok.mp finished
  rcases acceptStream_cases awaiting.tcp isAccepted with ⟨-, -, wrong, -⟩ | ⟨_, found, -, added⟩
  · rw [awaiting.cookie] at wrong
    exact absurd (honest.symm.trans wrong) (by decide)
  · obtain rfl := Option.some.inj found
    exact awaiting.addStream isAccepted added rest

/-- Only the client's connections stay open behind `iperf_tcp_accept`. -/
theorem afterAccept_eq {client : Test} {p : Pairing} (cookie : p.server.test.cookie = client.cookie)
    (io : PassIo) (fd : Int) (attempt : Attempt)
    (readable : 0 ≤ (readCookie attempt.cookie).ret)
    : p.afterAccept io fd attempt
      = if attempt.honest client then p.serverEnd ++ [(fd, attempt.connection)]
        else p.serverEnd := by
  have accepted : iperfTcpAccept p.server.test (acceptAs io fd attempt).stream
      = .ok (fd, !attempt.honest client) := by
    rw [Attempt.honest, ← cookie]
    exact if_neg (Int.not_lt.mpr readable)
  rw [Pairing.afterAccept, accepted]
  cases attempt.honest client <;> rfl

-----------------------------------------------------------------------------------------
-- After the handshake
-----------------------------------------------------------------------------------------

/-- A client of a TCP test without a type of service, before its streams are created. -/
structure HonestClient (client : Test) : Prop where
  role : client.role = .client
  directed : Directed client
  tcp : client.protocol = .tcp
  tos : client.settings.tos = 0
  streams : client.streams = []
  numStreams : 0 < client.numStreams.toInt

/-- The pass in which a server takes the control connection of the client. -/
structure Handshake (client : Test) (s : Server) (io : PassIo) : Prop where
  fresh : FreshDescriptors s io
  cookie : (nread s.test.cookie cookieSize io.accept.cookie).buffer = client.cookie
  parameters : io.accept.parameters = some (sendParameters client)

/-- A server between two sessions has no connection. -/
theorem serverAfter_free (earlier : List CJson)
    : (serverAfter earlier).ctrlSck = -1 ∧ (serverAfter earlier).streams = [] := by
  induction earlier using List.reverseRecOn with
  | nil => exact ⟨rfl, rfl⟩
  | append_singleton earlier json _ =>
      have step : serverAfter (earlier ++ [json])
          = iperfResetTest (cleanupServer (getParameters (serverAfter earlier) json)) := by
        simp [serverAfter]
      rw [step]
      simp only [iperfResetTest, setProtocol, checkSenderHasRetransmits_eq, and_self]

theorem int32_ofNat_toInt {n : Int32} (positive : 0 < n.toInt)
    : Int32.ofNat n.toInt.toNat = n := by
  rw [← Int32.ofInt_eq_ofNat, Int.toNat_of_nonneg (Int.le_of_lt positive), Int32.ofInt_toInt]

/-- The settings of the client that matter for the creation of its streams. -/
theorem serverAfter_settings {client test : Test} {earlier : List CJson} {listener fd : Int}
    {cookie : List UInt8} {state : TestState} (honest : HonestClient client)
    (settings : SameSettings test (getParameters {
      serverAfter earlier with
      listener
      ctrlSck := fd
      cookie
      state
    } (sendParameters client)))
    : test.protocol = .tcp ∧ test.settings.tos = 0 ∧ test.numStreams = client.numStreams
      ∧ test.mode = if client.bidirectional then .bidirectional
        else if client.reverse then .sender
        else .receiver := by
  have restored := serverAfter_restored earlier
  obtain ⟨read, mode, -⟩ := getParameters_exchanged {
      serverAfter earlier with
      listener
      ctrlSck := fd
      cookie
      state
    } (sendParameters client)
  have fields := settings.exchanged.trans read
  have before := restored.exchanged
  have protocol := congrArg Exchanged.protocol fields
  have tos := congrArg Exchanged.tos fields
  have numStreams := congrArg Exchanged.numStreams fields
  have oldProtocol : (serverAfter earlier).protocol = .tcp := congrArg Exchanged.protocol before
  have oldTos : (serverAfter earlier).settings.tos = 0 := congrArg Exchanged.tos before
  simp only [exchanged, Exchanged.read, oldProtocol, oldTos] at protocol tos numStreams
  refine ⟨?_, ?_, ?_, ?_⟩
  · rw [protocol, protocolMember_sent honest.directed.protocol, honest.tcp]
  · rw [tos, intMember_default (getObjectItem_sendParameters rfl), honest.tos]
  · rw [numStreams, intMember_sent (getObjectItem_sendParameters rfl)]
  · rw [settings.mode, mode]
    dsimp only
    rw [restored.role, restored.mode, modeMember_sent]

/-- The numbers of streams the server sets are the client's. -/
theorem setStreamsNumber_counted {client : Test} {s : Server} (role : client.role = .client)
    (directed : Directed client) (positive : 0 < client.numStreams.toInt)
    (numStreams : s.test.numStreams = client.numStreams)
    (mode : s.test.mode = if client.bidirectional then .bidirectional
      else if client.reverse then .sender
      else .receiver)
    (received : s.recStreamsAccepted = 0) (sent : s.sendStreamsAccepted = 0)
    : Counted client 0 s.setStreamsNumber := by
  have zero : (0 : Int32) = Int32.ofNat 0 := rfl
  have number := (numStreams.trans (int32_ofNat_toInt positive).symm)
  have clientMode_ := directed.mode role
  have counters : s.setStreamsNumber.recStreamsAccepted = 0
      ∧ s.setStreamsNumber.sendStreamsAccepted = 0 := by
    obtain ⟨toSend, toRec, shape⟩ := setStreamsNumber_eq s
    rw [shape]
    exact ⟨received, sent⟩
  refine ⟨?_, ?_, ?_, ?_, Nat.zero_le _⟩
  · unfold Server.setStreamsNumber receivers
    rw [mode, clientMode_, clientMode]
    cases client.bidirectional <;> cases client.reverse <;> simp [number, zero]
  · unfold Server.setStreamsNumber senders
    rw [mode, clientMode_, clientMode]
    cases client.bidirectional <;> cases client.reverse <;> simp [number, zero]
  · rw [counters.1, Nat.zero_min, zero]
  · rw [counters.2, Nat.zero_sub, zero]

theorem receivers_add_senders (client : Test)
    : receivers client + senders client
        = if client.mode = .bidirectional then 2 * client.numStreams.toInt.toNat
          else client.numStreams.toInt.toNat := by
  unfold receivers senders
  cases client.mode <;> simp
  omega

/-- After the handshake the server waits for the first stream. -/
theorem awaiting_of_handshake {client : Test} {earlier : List CJson} {listener : Int}
    {flag : Int32} {now : IperfTime} {io : PassIo} {next : Server} {visited : List TestState}
    (honest : HonestClient client) (listening : 0 ≤ listener)
    (handshake : Handshake client (serverStart (serverAfter earlier) listener flag now) io)
    (handled : (serverStart (serverAfter earlier) listener flag now).handleReady [listener] io
      = .ok (next, visited))
    : Awaiting client 0 next ∧ next.test.streams = [] := by
  obtain ⟨free, empty⟩ := serverAfter_free earlier
  have start : Wired (serverStart (serverAfter earlier) listener flag now) :=
    ⟨listening, .inl ⟨free, rfl⟩, fun absurd => by cases absurd⟩
  obtain ⟨first, readSet, second, readSet', states, onListener, onControl, created, -⟩ :=
    handleReady_ok handled
  obtain ⟨wired, -⟩ := handleListener_wired start handshake.fresh onListener
  rcases handleListener_ok onListener with ⟨idle, -, -⟩ | ⟨-, -, test, accepted, shape, rest⟩
  · refine absurd ⟨?_, fun absurd => by cases absurd⟩ idle
    simp [fdIsset, serverStart, listening]
  · obtain ⟨fd, descriptor, ⟨busy, -⟩ | ⟨-, taken⟩⟩ := iperfAccept_ok accepted
    · exact absurd free busy
    · obtain ⟨positive, apart⟩ := handshake.fresh.accepted fd descriptor
      obtain ⟨json, state, received, settings⟩ := taken.settings
      rw [handshake.parameters] at received
      obtain rfl := Option.some.inj received
      obtain ⟨tcp, tos, numStreams, mode⟩ := serverAfter_settings honest settings
      obtain ⟨toSend, toRec, counters⟩ :=
        setStreamsNumber_eq { serverStart (serverAfter earlier) listener flag now with test }
      have counted : Counted client 0 first := by
        rw [shape]
        exact setStreamsNumber_counted honest.role honest.directed honest.numStreams numStreams mode
          rfl rfl
      rw [counters] at shape
      -- nothing else is ready: the listener is taken out of the set
      have silent : fdIsset first.test.ctrlSck readSet = false := by
        rw [shape, rest]
        simp only [taken.ctrlSck, fdIsset, fdClr, Bool.and_eq_false_iff]
        have other : fd ≠ listener := apart
        simp [other]
      rw [handleControl_idle silent] at onControl
      obtain ⟨rfl, remaining⟩ := Prod.mk.inj (Except.ok.inj onControl)
      obtain ⟨rfl, -⟩ := Prod.mk.inj remaining
      have notReady : fdIsset first.test.protListener readSet = false := by
        rw [shape, rest]
        simp [taken.protListener tcp, fdIsset, fdClr]
      have creating : first.test.state = .createStreams := by
        rw [shape]
        exact taken.state positive
      have positiveStreams := honest.numStreams
      have planned := receivers_add_senders client
      have missing : 0 < receivers client + senders client := by
        rw [planned]
        split <;> omega
      rw [Server.createStreams, if_pos creating, Server.acceptReady,
        if_neg (by simp [notReady]), ok_bind,
        if_neg (mt counted.allAccepted_iff.mp (by omega))] at created
      obtain rfl := Except.ok.inj created
      refine ⟨{
        wired
        creating
        tcp := ?_
        tos := ?_
        cookie := ?_
        statsTimer := ?_
        omitTimer := ?_
        counted
        missing
      }, ?_⟩
      · rw [shape]
        exact tcp
      · rw [shape]
        exact tos
      · rw [shape]
        exact taken.cookie.trans handshake.cookie
      · rw [shape]
        rfl
      · rw [shape]
        rfl
      · rw [shape]
        exact taken.streams.trans empty

end Iperf
