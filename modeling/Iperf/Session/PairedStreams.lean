import Iperf.Session.StreamCreation

/-! The streams of both ends of a TCP test are paired, however the connections interleave. -/

namespace Iperf

-----------------------------------------------------------------------------------------
-- Both sides
-----------------------------------------------------------------------------------------

/-- The invariant of a run that began with `client`. The connections of the client are those the
server has accepted, followed by those in the queue.
-/
structure Paired (client : Test) (p : Pairing) : Prop where
  same : ∃ streams, p.client = { client with streams }
  planned : p.clientEnd.length ≤ receivers client + senders client
  added : ∃ added connecting, p.clientEnd = added ++ connecting
    ∧ connecting.map Prod.fst = p.pending.toList
    ∧ p.client.streams.map Stream.key
      = keysAlong (fun k => decide (k < receivers client)) added
  accepted : p.server.test.streams.map Stream.key
    = keysAlong (fun k => decide (receivers client ≤ k)) p.serverEnd
  ordered : p.clientEnd.map Prod.snd
    = p.serverEnd.map Prod.snd
      ++ (p.queue.filter (Attempt.honest client)).map Attempt.connection
  readable : ∀ attempt ∈ p.queue, 0 ≤ (readCookie attempt.cookie).ret
  numbered : ∀ connection ∈ p.clientEnd.map Prod.snd ++ p.strangers, connection < p.connections
  apart : ∀ connection ∈ p.clientEnd.map Prod.snd, connection ∉ p.strangers
  clientDescriptors : (p.clientEnd.map Prod.fst).Nodup
  serverDescriptors : (p.serverEnd.map Prod.fst).Nodup
  phase : Awaiting client p.serverEnd.length p.server
    ∨ p.server.test.state ≠ .createStreams
      ∧ p.serverEnd.length = receivers client + senders client

theorem length_keysAlong {sender : Nat → Bool} {table : List (Int × Nat)} {streams : List Stream}
    (keys : streams.map Stream.key = keysAlong sender table)
    : streams.length = table.length := by
  simpa [keysAlong] using congrArg List.length keys

theorem Paired.connect {client : Test} {p : Pairing} (paired : Paired client p) {fd : Int}
    {cookie : List ReadRound} (idle : p.pending = none)
    (missing : p.clientEnd.length < (clientPlan p.client).length)
    (fresh : fd ∉ p.clientEnd.map Prod.fst)
    (sent : readCookie cookie = { ret := cookieSize, buffer := p.client.cookie })
    : Paired client {
        p with
        pending := some fd
        clientEnd := p.clientEnd ++ [(fd, p.connections)]
        queue := p.queue ++ [{ connection := p.connections, cookie }]
        connections := p.connections + 1
      } := by
  obtain ⟨streams, shape⟩ := paired.same
  obtain ⟨added, connecting, split, pending, keys⟩ := paired.added
  have planned : p.clientEnd.length < receivers client + senders client := by
    rw [shape] at missing
    exact length_clientPlan client ▸ missing
  have honest : Attempt.honest client { connection := p.connections, cookie } = true := by
    refine Attempt.honest_of_sent ?_
    rw [shape] at sent
    exact sent
  -- nothing was pending, so every connected stream has been added
  have nothing : connecting = [] := by
    rw [idle] at pending
    exact List.map_eq_nil_iff.mp pending
  rw [nothing, List.append_nil] at split
  constructor
  · exact paired.same
  · rw [List.length_append]
    exact planned
  · exact ⟨added, [(fd, p.connections)], by rw [split], rfl, keys⟩
  · exact paired.accepted
  · simp [paired.ordered, honest]
  · intro attempt member
    rcases List.mem_append.mp member with earlier | last
    · exact paired.readable attempt earlier
    · rw [List.mem_singleton.mp last, sent]
      exact Int.natCast_nonneg cookieSize
  · intro connection member
    simp only [List.map_append, List.map_cons, List.map_nil, List.mem_append,
      List.mem_singleton] at member
    rcases member with (earlier | rfl) | stranger
    · exact Nat.lt_succ_of_lt (paired.numbered _ (List.mem_append_left _ earlier))
    · exact Nat.lt_succ_self _
    · exact Nat.lt_succ_of_lt (paired.numbered _ (List.mem_append_right _ stranger))
  · intro connection member stranger
    rw [List.map_append] at member
    rcases List.mem_append.mp member with earlier | last
    · exact paired.apart connection earlier stranger
    · -- the number of the new connection is not in use
      have used := paired.numbered connection (List.mem_append_right _ stranger)
      rw [List.mem_singleton.mp last] at used
      exact Nat.lt_irrefl _ used
  · simpa using List.nodup_append.mpr ⟨paired.clientDescriptors, List.nodup_singleton fd,
      fun other member _ last => by
        rw [List.mem_singleton.mp last]
        exact fun equal => fresh (equal ▸ member)⟩
  · exact paired.serverDescriptors
  · exact paired.phase

theorem Paired.add {client : Test} {p : Pairing} (paired : Paired client p) {fd : Int}
    {sender : Bool} {io : NewStreamIo} {next : Test} (connected : p.pending = some fd)
    (planned : (clientPlan p.client)[p.client.streams.length]? = some sender)
    (isAdded : iperfNewStream p.client fd sender io = .ok next)
    : Paired client { p with client := next, pending := none } := by
  obtain ⟨streams, shape⟩ := paired.same
  obtain ⟨added, connecting, split, pending, keys⟩ := paired.added
  have direction : sender = decide (p.client.streams.length < receivers client) := by
    rw [clientPlan_getElem? planned, shape]
    rfl
  -- the pending connection is the last one of the table
  obtain ⟨⟨_, connection⟩, rest, rfl⟩ : ∃ entry rest, connecting = entry :: rest := by
    rw [connected] at pending
    cases connecting with
    | nil => cases pending
    | cons entry rest => exact ⟨entry, rest, rfl⟩
  rw [connected] at pending
  obtain ⟨rfl, nothing⟩ := List.cons.inj pending
  obtain rfl := List.map_eq_nil_iff.mp nothing
  unfold iperfNewStream at isAdded
  split at isAdded
  · cases isAdded
  · obtain rfl := Except.ok.inj isAdded
    refine { paired with same := ?_, added := ⟨_, [], by rw [split, List.append_nil], rfl, ?_⟩ }
    · rw [shape]
      exact ⟨_, rfl⟩
    · have length := length_keysAlong keys
      rw [keysAlong_concat, ← keys, iperfAddStream, List.map_append, ← length, ← direction]
      rfl

theorem Paired.stranger {client : Test} {p : Pairing} (paired : Paired client p)
    {cookie : List ReadRound} (readable : 0 ≤ (readCookie cookie).ret)
    (wrong : strncmpEqual cookieSize p.client.cookie (readCookie cookie).buffer = false)
    : Paired client {
        p with
        queue := p.queue ++ [{ connection := p.connections, cookie }]
        connections := p.connections + 1
        strangers := p.strangers ++ [p.connections]
      } := by
  obtain ⟨streams, shape⟩ := paired.same
  have stranger : Attempt.honest client { connection := p.connections, cookie } = false := by
    rw [shape] at wrong
    exact wrong
  refine { paired with ordered := ?_, readable := ?_, numbered := ?_, apart := ?_ }
  · simp [paired.ordered, stranger]
  · intro attempt member
    rcases List.mem_append.mp member with earlier | last
    · exact paired.readable attempt earlier
    · rw [List.mem_singleton.mp last]
      exact readable
  · intro connection member
    rw [← List.append_assoc] at member
    rcases List.mem_append.mp member with earlier | last
    · exact Nat.lt_succ_of_lt (paired.numbered connection earlier)
    · rw [List.mem_singleton.mp last]
      exact Nat.lt_succ_self _
  · intro connection member later
    rcases List.mem_append.mp later with earlier | last
    · exact paired.apart connection member earlier
    · have used := paired.numbered connection (List.mem_append_left _ member)
      rw [List.mem_singleton.mp last] at used
      exact Nat.lt_irrefl _ used

/-- The phase in which a server still accepts streams. -/
theorem Paired.awaiting {client : Test} {p : Pairing} (paired : Paired client p)
    (creating : p.server.test.state = .createStreams)
    : Awaiting client p.serverEnd.length p.server := by
  rcases paired.phase with awaiting | ⟨other, -⟩
  · exact awaiting
  · exact absurd creating other

theorem Paired.accept {client : Test} {p : Pairing} (paired : Paired client p)
    {attempt : Attempt} {rest : List Attempt} {io : PassIo} {next : Server}
    {visited : List TestState} {fd : Int} (head : p.queue = attempt :: rest)
    (creating : p.server.test.state = .createStreams)
    (fresh : fd ∉ p.serverEnd.map Prod.fst)
    (handled : p.server.handleReady [p.server.test.listener] (acceptAs io fd attempt)
      = .ok (next, visited))
    : Paired client {
        p with
        queue := rest
        server := next
        serverEnd := p.afterAccept io fd attempt
      } := by
  have awaiting := paired.awaiting creating
  have readable : 0 ≤ (readCookie attempt.cookie).ret :=
    paired.readable attempt (by rw [head]; exact List.mem_cons_self)
  have later : ∀ other ∈ rest, 0 ≤ (readCookie other.cookie).ret := fun other member =>
    paired.readable other (by rw [head]; exact List.mem_cons_of_mem _ member)
  have ordered := paired.ordered
  rw [head] at ordered
  rw [afterAccept_eq awaiting.cookie io fd attempt readable]
  cases honest : attempt.honest client with
  | false =>
      obtain rfl := awaiting.accept_stranger readable honest handled
      rw [if_neg Bool.false_ne_true]
      rw [List.filter_cons_of_neg (by simp [honest])] at ordered
      exact { paired with ordered, readable := later }
  | true =>
      obtain ⟨keys, phase⟩ := awaiting.accept_client honest handled
      rw [if_pos rfl]
      rw [List.filter_cons_of_pos honest, List.map_cons] at ordered
      refine { paired with
        accepted := ?_
        ordered := ?_
        readable := later
        serverDescriptors := ?_
        phase := ?_ }
      · dsimp only
        rw [keys, paired.accepted, keysAlong_concat, length_keysAlong paired.accepted]
      · rw [ordered, List.map_append, List.append_assoc]
        rfl
      · simpa using List.nodup_append.mpr ⟨paired.serverDescriptors, List.nodup_singleton fd,
          fun other member _ last => by
            rw [List.mem_singleton.mp last]
            exact fun equal => fresh (equal ▸ member)⟩
      · rw [List.length_append]
        exact phase

theorem Paired.idle {client : Test} {p : Pairing} (paired : Paired client p) (now : IperfTime)
    (io : PassIo) (creating : p.server.test.state = .createStreams)
    : Paired client { p with server := (p.server.noteProgress now).runTimers io } := by
  obtain ⟨awaiting, streams⟩ := (paired.awaiting creating).idle now io
  refine { paired with accepted := ?_, phase := .inl awaiting }
  dsimp only
  rw [streams]
  exact paired.accepted

theorem Paired.step {client : Test} {p next : Pairing} (paired : Paired client p)
    (step : PairingStep p next)
    : Paired client next := by
  cases step with
  | connect fd cookie idle missing fresh sent => exact paired.connect idle missing fresh sent
  | add connected planned added => exact paired.add connected planned added
  | stranger cookie readable wrong => exact paired.stranger readable wrong
  | accept fd head creating fresh handled => exact paired.accept head creating fresh handled
  | idle now io creating => exact paired.idle now io creating

/-- By induction on the run. -/
theorem Paired.run {client : Test} {start p : Pairing} (paired : Paired client start)
    (run : PairingRun start p)
    : Paired client p := by
  induction run with
  | start => exact paired
  | step _ step ih => exact ih.step step

-----------------------------------------------------------------------------------------
-- The end of a run
-----------------------------------------------------------------------------------------

/-- What both ends have once the server has left `CREATE_STREAMS`: the tables tell which
connection a stream's descriptor belongs to.
-/
structure StreamsPaired (client : Test) (p : Pairing) : Prop where
  count : p.server.test.streams.length
    = if client.mode = .bidirectional then 2 * client.numStreams.toInt.toNat
      else client.numStreams.toInt.toNat
  complete : p.pending = none → p.client.streams.length = p.server.test.streams.length
  noStranger : ∀ sp ∈ p.server.test.streams,
    ∃ connection, (sp.socket, connection) ∈ p.serverEnd ∧ connection ∉ p.strangers
  sameConnection : ∀ (k : Nat) (mine theirs : Stream), p.client.streams[k]? = some mine
    → p.server.test.streams[k]? = some theirs
    → ∃ connection, (mine.socket, connection) ∈ p.clientEnd
      ∧ (theirs.socket, connection) ∈ p.serverEnd
  sameId : ∀ (k : Nat) (mine theirs : Stream), p.client.streams[k]? = some mine
    → p.server.test.streams[k]? = some theirs → mine.id = theirs.id
  opposite : ∀ (k : Nat) (mine theirs : Stream), p.client.streams[k]? = some mine
    → p.server.test.streams[k]? = some theirs → mine.sender = !theirs.sender
  clientIds : (p.client.streams.map Stream.id).Nodup
  serverIds : (p.server.test.streams.map Stream.id).Nodup
  clientDescriptors : (p.clientEnd.map Prod.fst).Nodup
  serverDescriptors : (p.serverEnd.map Prod.fst).Nodup

/-- The stream at a position has its number and the descriptor of the table. -/
theorem getElem?_keysAlong {sender : Nat → Bool} {table : List (Int × Nat)}
    {streams : List Stream} (keys : streams.map Stream.key = keysAlong sender table) {k : Nat}
    {sp : Stream} (found : streams[k]? = some sp)
    : ∃ connection, table[k]? = some (sp.socket, connection)
      ∧ sp.id = streamId k ∧ sp.sender = sender k := by
  have key := congrArg (fun list => list[k]?) keys
  simp only [List.getElem?_map, found, Option.map_some, keysAlong, List.getElem?_mapIdx] at key
  obtain ⟨⟨fd, connection⟩, entry, same⟩ := Option.map_eq_some_iff.mp key.symm
  obtain ⟨rfl, remaining⟩ := Prod.mk.inj same
  obtain ⟨id, direction⟩ := Prod.mk.inj remaining
  exact ⟨connection, entry, id.symm, direction.symm⟩

/-- Streams that are numbered along a table have different ids. -/
theorem ids_nodup {sender : Nat → Bool} {table : List (Int × Nat)} {streams : List Stream}
    (keys : streams.map Stream.key = keysAlong sender table)
    (small : table.length + 2 ≤ 2 ^ 32)
    : (streams.map Stream.id).Nodup := by
  have ids : streams.map Stream.id = (List.range table.length).map streamId := by
    have second : streams.map Stream.id = (streams.map Stream.key).map (fun key => key.2.1) := by
      rw [List.map_map]
      rfl
    rw [second, keys, keysAlong]
    apply List.ext_getElem
    · simp
    · intro k left right
      simp
  rw [ids]
  refine List.nodup_range.map_on fun a first b last same => ?_
  rw [List.mem_range] at first last
  exact (streamId_inj (by omega) (by omega)).mp same

theorem Paired.streamsPaired {client : Test} {p : Pairing} (paired : Paired client p)
    (left : p.server.test.state ≠ .createStreams)
    : StreamsPaired client p := by
  obtain ⟨added, connecting, split, pending, keys⟩ := paired.added
  have all : p.serverEnd.length = receivers client + senders client := by
    rcases paired.phase with awaiting | ⟨-, all⟩
    · exact absurd awaiting.creating left
    · exact all
  have toRec := receivers_lt client
  have toSend := senders_lt client
  have planned := paired.planned
  -- the server has accepted them all, so none is left in the queue
  have connections : p.clientEnd.map Prod.snd = p.serverEnd.map Prod.snd := by
    have ordered := paired.ordered
    have lengths := congrArg List.length ordered
    simp only [List.length_map, List.length_append] at lengths
    have waiting : p.queue.filter (Attempt.honest client) = [] :=
      List.length_eq_zero_iff.mp (by omega)
    rw [ordered, waiting, List.map_nil, List.append_nil]
  have lengths : p.clientEnd.length = p.serverEnd.length := by
    simpa using congrArg List.length connections
  have parts : p.clientEnd.length = added.length + connecting.length := by
    rw [split, List.length_append]
  have pair {k : Nat} {mine theirs : Stream} (isMine : p.client.streams[k]? = some mine)
      (isTheirs : p.server.test.streams[k]? = some theirs)
      : ∃ connection, (mine.socket, connection) ∈ p.clientEnd
        ∧ (theirs.socket, connection) ∈ p.serverEnd := by
    obtain ⟨first, inClient, -, -⟩ := getElem?_keysAlong keys isMine
    obtain ⟨second, inServer, -, -⟩ := getElem?_keysAlong paired.accepted isTheirs
    have inTable : p.clientEnd[k]? = some (mine.socket, first) := by
      rw [split, List.getElem?_append_left (List.getElem?_eq_some_iff.mp inClient).1]
      exact inClient
    have position := congrArg (fun list => list[k]?) connections
    simp only [List.getElem?_map, inTable, inServer, Option.map_some] at position
    obtain rfl := Option.some.inj position
    exact ⟨first, List.mem_of_getElem? inTable, List.mem_of_getElem? inServer⟩
  constructor
  · rw [length_keysAlong paired.accepted, all, receivers_add_senders]
  · intro idle
    rw [idle] at pending
    have nothing := List.map_eq_nil_iff.mp pending
    rw [length_keysAlong keys, length_keysAlong paired.accepted, ← lengths, parts, nothing]
    rfl
  · intro sp member
    obtain ⟨k, found⟩ := List.getElem?_of_mem member
    obtain ⟨connection, entry, -, -⟩ := getElem?_keysAlong paired.accepted found
    have inServer := List.mem_of_getElem? entry
    refine ⟨connection, inServer, paired.apart connection ?_⟩
    rw [connections]
    exact List.mem_map_of_mem inServer
  · exact fun k mine theirs isMine isTheirs => pair isMine isTheirs
  · intro k mine theirs isMine isTheirs
    obtain ⟨-, -, id, -⟩ := getElem?_keysAlong keys isMine
    obtain ⟨-, -, sameId, -⟩ := getElem?_keysAlong paired.accepted isTheirs
    rw [id, sameId]
  · intro k mine theirs isMine isTheirs
    obtain ⟨-, -, -, sends⟩ := getElem?_keysAlong keys isMine
    obtain ⟨-, -, -, receives⟩ := getElem?_keysAlong paired.accepted isTheirs
    rw [sends, receives, ← decide_not]
    exact decide_eq_decide.mpr Nat.not_le.symm
  · exact ids_nodup keys (by omega)
  · exact ids_nodup paired.accepted (by omega)
  · exact paired.clientDescriptors
  · exact paired.serverDescriptors

/-- Whatever strangers do, the streams of an honest client are paired when the server, which
may have served other clients before, leaves `CREATE_STREAMS`.
-/
theorem streams_paired {client : Test} {earlier : List CJson} {listener : Int} {flag : Int32}
    {now : IperfTime} {io : PassIo} {server : Server} {visited : List TestState} {p : Pairing}
    (honest : HonestClient client) (listening : 0 ≤ listener)
    (handshake : Handshake client (serverStart (serverAfter earlier) listener flag now) io)
    (handled : (serverStart (serverAfter earlier) listener flag now).handleReady [listener] io
      = .ok (server, visited))
    (run : PairingRun { client, server } p) (left : p.server.test.state ≠ .createStreams)
    : StreamsPaired client p := by
  obtain ⟨awaiting, empty⟩ := awaiting_of_handshake honest listening handshake handled
  have start : Paired client { client, server } := {
    same := ⟨client.streams, rfl⟩
    planned := Nat.zero_le _
    added := ⟨[], [], rfl, rfl, by rw [honest.streams]; rfl⟩
    accepted := by
      dsimp only
      rw [empty]
      rfl
    ordered := rfl
    readable := fun _ member => by cases member
    numbered := fun _ member => by cases member
    apart := fun _ member => by cases member
    clientDescriptors := List.nodup_nil
    serverDescriptors := List.nodup_nil
    phase := .inl awaiting
  }
  exact (start.run run).streamsPaired left

-----------------------------------------------------------------------------------------
-- Two streams and a stranger
-----------------------------------------------------------------------------------------

/-- The client of `iperf3 -c host --bidir`. -/
def bidirClient : Test :=
  {
    iperfSetTestBidirectional (iperfSetTestRole (iperfDefaults iperfNewTest) .client) true with
    cookie := sampleCookie
  }

theorem bidirClient_honest : HonestClient bidirClient where
  role := rfl
  directed := ⟨.inl rfl, by decide, fun _ => rfl⟩
  tcp := rfl
  tos := rfl
  streams := rfl
  numStreams := by decide

/-- The server that a pass leaves. -/
def afterPass (s : Server) (io : PassIo) : Server :=
  match s.handleReady [s.test.listener] io with
  | .ok (next, _) => next
  | .error _ => s

/-- The server after the handshake with that client. -/
def bidirServer : Server := afterPass sampleStart (clientConnects (sendParameters bidirClient))

theorem bidirServer_handshake
    : Handshake bidirClient (serverStart (serverAfter []) 3 0 { secs := 0, usecs := 0 })
        (clientConnects (sendParameters bidirClient)) where
  fresh := by
    constructor
    · rintro fd ⟨⟩
      exact ⟨by decide, by decide⟩
    · rintro fd ⟨⟩
      exact ⟨by decide, by simp [clientConnects]⟩
    · rintro fd ⟨⟩
  cookie := by decide +kernel
  parameters := rfl

/-- The client's cookie in one piece. -/
def wholeCookie : List ReadRound := [.ready (.got sampleCookie 37)]

/-- A stranger that sends nothing connects between the two streams of the client. -/
theorem bidirRun
    : ∃ p, PairingRun { client := bidirClient, server := bidirServer } p
      ∧ p.server.test.state = .testRunning ∧ p.pending = none ∧ p.strangers = [1] := by
  have sent : readCookie wholeCookie = { ret := cookieSize, buffer := sampleCookie } := by
    decide +kernel
  let start : Pairing := { client := bidirClient, server := bidirServer }
  have connected : PairingRun start _ :=
    .step .start (.connect 6 wholeCookie rfl (by decide) (by decide) sent)
  have intruded := connected.step (.stranger [] (by decide) (by decide +kernel))
  have added := intruded.step (@PairingStep.add _ 6 true {} _ rfl rfl rfl)
  have accepted := added.step
    (@PairingStep.accept _ _ _ strangerConnects _ _ 7 rfl rfl (by decide) rfl)
  have turnedAway := accepted.step
    (@PairingStep.accept _ _ _ strangerConnects _ _ 8 rfl rfl (by decide) rfl)
  have again := turnedAway.step (.connect 9 wholeCookie rfl (by decide) (by decide) sent)
  have complete := again.step (@PairingStep.add _ 9 false {} _ rfl rfl rfl)
  have started := complete.step
    (@PairingStep.accept _ _ _ strangerConnects _ _ 8 rfl rfl (by decide) rfl)
  exact ⟨_, started, rfl, rfl, rfl⟩

/-- Witness: the two streams of that run are paired. -/
theorem streams_paired_bidirectional
    : ∃ p, PairingRun { client := bidirClient, server := bidirServer } p
      ∧ p.strangers = [1] ∧ p.client.streams.length = 2 ∧ StreamsPaired bidirClient p := by
  obtain ⟨p, run, running, complete, strangers⟩ := bidirRun
  have paired : StreamsPaired bidirClient p :=
    streams_paired bidirClient_honest (by decide : (0 : Int) ≤ 3) bidirServer_handshake rfl run
      (by rw [running]; decide)
  exact ⟨p, run, strangers, (paired.complete complete).trans paired.count, paired⟩

end Iperf
