import Iperf.Client.Steps
import Iperf.Server.Strangers

/-! The creation of TCP streams on both ends: the client connects in the order of its own list,
the server accepts in the order of the listen queue, and strangers get in between.
-/

namespace Iperf

open Checked

/-- The number of the client's streams that the server receives on. -/
def receivers (client : Test) : Nat :=
  match client.mode with
  | .bidirectional | .sender => client.numStreams.toInt.toNat
  | .receiver => 0

/-- The number of the client's streams that the server sends on. -/
def senders (client : Test) : Nat :=
  match client.mode with
  | .bidirectional | .receiver => client.numStreams.toInt.toNat
  | .sender => 0

/-- The directions of the client's streams in the order of their creation. -/
def clientPlan (client : Test) : List Bool :=
  List.replicate (receivers client) true ++ List.replicate (senders client) false

/-- Connect and add one stream for every direction of a plan. -/
def createPlanned : List Bool → Test → List ConnectIo → Except IError (Test × List ConnectIo)
  | [], test, rest => .ok (test, rest)
  | _ :: _, _, [] => .error .iestreamconnect
  | sender :: plan, test, io :: rest => do
      let s ← io.connected.mapError SetupError.toIError
      let test ← iperfNewStream test s sender io.newStream
      createPlanned plan test rest

/-- The loop of `iperf_create_streams` follows a plan with one direction. -/
theorem createStreamsLoop_planned (sender : Bool) (count : Nat) (test : Test)
    (connections : List ConnectIo)
    : createStreamsLoop sender count test connections
      = createPlanned (List.replicate count sender) test connections := by
  induction count generalizing test connections with
  | zero => rfl
  | succ count ih =>
      cases connections with
      | nil => rfl
      | cons io rest =>
          rw [List.replicate_succ, createStreamsLoop, createPlanned]
          simp only [ih]

/-- A plan may be followed in two parts, by induction on the first. -/
theorem createPlanned_append (first second : List Bool) (test : Test)
    (connections : List ConnectIo)
    : createPlanned (first ++ second) test connections
      = (createPlanned first test connections >>= fun out =>
          createPlanned second out.1 out.2) := by
  induction first generalizing test connections with
  | nil => rfl
  | cons sender plan ih =>
      cases connections with
      | nil => rfl
      | cons io rest =>
          rw [List.cons_append, createPlanned, createPlanned]
          cases io.connected with
          | error error => rfl
          | ok s =>
              simp only [Except.mapError, ok_bind]
              cases iperfNewStream test s sender io.newStream with
              | error error => rfl
              | ok added => simp only [ok_bind, ih]

/-- The client's handling of `CREATE_STREAMS` follows the plan. -/
theorem clientCreateStreams_planned (test : Test) (connections : List ConnectIo)
    : clientCreateStreams test connections
      = (createPlanned (clientPlan test) test connections).map Prod.fst := by
  unfold clientCreateStreams clientPlan receivers senders iperfCreateStreams
  cases test.mode with
  | bidirectional =>
      simp only [createStreamsLoop_planned, createPlanned_append]
      cases created : createPlanned (List.replicate test.numStreams.toInt.toNat true) test
          connections with
      | error error => rfl
      | ok out =>
          -- the first half leaves the number of streams alone
          rw [← createStreamsLoop_planned] at created
          obtain ⟨added, shape, -⟩ := createStreamsLoop_new created
          simp only [ok_bind, shape]
          cases createPlanned (List.replicate test.numStreams.toInt.toNat false)
              { test with streams := test.streams ++ added } out.2 with
          | error error => rfl
          | ok last => rfl
  | sender =>
      simp only [createStreamsLoop_planned, List.replicate_zero, List.append_nil]
  | receiver =>
      simp only [createStreamsLoop_planned, List.replicate_zero, List.nil_append]

/-- A connection in the listen queue, with what the read of its cookie gives. -/
structure Attempt where
  connection : Nat
  cookie : List ReadRound

/-- Both ends while streams are created. The tables list the open descriptors of the streams'
connections; a descriptor the client has connected but not yet added is pending. Connections
are numbered, and those of strangers are noted.
-/
structure Pairing where
  client : Test
  pending : Option Int := none
  clientEnd : List (Int × Nat) := []
  queue : List Attempt := []
  server : Server
  serverEnd : List (Int × Nat) := []
  connections : Nat := 0
  strangers : List Nat := []

/-- The pass in which the server accepts a connection as descriptor `fd`. -/
def acceptAs (io : PassIo) (fd : Int) (attempt : Attempt) : PassIo :=
  { io with stream := { io.stream with accepted := some fd, cookie := attempt.cookie } }

/-- The server's table behind `iperf_tcp_accept`: a denied connection is closed again. -/
def Pairing.afterAccept (p : Pairing) (io : PassIo) (fd : Int) (attempt : Attempt)
    : List (Int × Nat) :=
  match iperfTcpAccept p.server.test (acceptAs io fd attempt).stream with
  | .ok (_, true) => p.serverEnd
  | _ => p.serverEnd ++ [(fd, attempt.connection)]

/-- The steps of the two ends and of strangers. The listen queue is in the order of the
connections, and new descriptors are not in use.
-/
inductive PairingStep : Pairing → Pairing → Prop where
  /-- The client connects its next stream and sends the cookie, in whatever pieces. -/
  | connect {p : Pairing} (fd : Int) (cookie : List ReadRound) (idle : p.pending = none)
    (missing : p.clientEnd.length < (clientPlan p.client).length)
    (fresh : fd ∉ p.clientEnd.map Prod.fst)
    (sent : readCookie cookie = { ret := cookieSize, buffer := p.client.cookie })
    : PairingStep p {
        p with
        pending := some fd
        clientEnd := p.clientEnd ++ [(fd, p.connections)]
        queue := p.queue ++ [{ connection := p.connections, cookie }]
        connections := p.connections + 1
      }
  /-- The client adds the stream it has connected. -/
  | add {p : Pairing} {fd : Int} {sender : Bool} {io : NewStreamIo} {next : Test}
    (connected : p.pending = some fd)
    (planned : (clientPlan p.client)[p.client.streams.length]? = some sender)
    (added : iperfNewStream p.client fd sender io = .ok next)
    : PairingStep p { p with client := next, pending := none }
  /-- A stranger connects and presents another cookie. -/
  | stranger {p : Pairing} (cookie : List ReadRound) (readable : 0 ≤ (readCookie cookie).ret)
    (wrong : strncmpEqual cookieSize p.client.cookie (readCookie cookie).buffer = false)
    : PairingStep p {
        p with
        queue := p.queue ++ [{ connection := p.connections, cookie }]
        connections := p.connections + 1
        strangers := p.strangers ++ [p.connections]
      }
  /-- The server takes the oldest connection from the queue. -/
  | accept {p : Pairing} {attempt : Attempt} {rest : List Attempt} {io : PassIo} {next : Server}
    {visited : List TestState} (fd : Int) (head : p.queue = attempt :: rest)
    (creating : p.server.test.state = .createStreams)
    (fresh : fd ∉ p.serverEnd.map Prod.fst)
    (handled : p.server.handleReady [p.server.test.listener] (acceptAs io fd attempt)
      = .ok (next, visited))
    : PairingStep p {
        p with
        queue := rest
        server := next
        serverEnd := p.afterAccept io fd attempt
      }
  /-- The rest of the server's passes: it notes progress and runs timers. -/
  | idle {p : Pairing} (now : IperfTime) (io : PassIo)
    (creating : p.server.test.state = .createStreams)
    : PairingStep p { p with server := (p.server.noteProgress now).runTimers io }

/-- The interleavings of these steps. -/
inductive PairingRun (start : Pairing) : Pairing → Prop where
  | start : PairingRun start start
  | step {p next : Pairing} (earlier : PairingRun start p) (step : PairingStep p next)
    : PairingRun start next

theorem PairingRun.trans {start p next : Pairing} (first : PairingRun start p)
    (second : PairingRun p next)
    : PairingRun start next := by
  induction second with
  | start => exact first
  | step _ step ih => exact ih.step step

/-- The descriptors of the connections that succeed. -/
def descriptors (connections : List ConnectIo) : List Int :=
  connections.filterMap fun io => io.connected.toOption

/-- Both ends after the client has connected `fd` and added its stream. -/
def Pairing.connected (p : Pairing) (fd : Int) (cookie : List ReadRound) (client : Test)
    : Pairing :=
  {
    p with
    client
    pending := none
    clientEnd := p.clientEnd ++ [(fd, p.connections)]
    queue := p.queue ++ [{ connection := p.connections, cookie }]
    connections := p.connections + 1
  }

/-- The steps `connect` and `add` in turn follow a plan, by induction on what is left of it. -/
theorem createPlanned_run {plan : List Bool} {p : Pairing} {connections rest : List ConnectIo}
    {next : Test} {cookie : List ReadRound}
    (created : createPlanned plan p.client connections = .ok (next, rest))
    (ahead : (clientPlan p.client).drop p.client.streams.length = plan)
    (idle : p.pending = none) (level : p.clientEnd.length = p.client.streams.length)
    (sent : readCookie cookie = { ret := cookieSize, buffer := p.client.cookie })
    (fresh : (p.clientEnd.map Prod.fst ++ descriptors connections).Nodup)
    : ∃ last, PairingRun p last ∧ last.client = next ∧ last.server = p.server := by
  induction plan generalizing p connections with
  | nil =>
      obtain ⟨rfl, -⟩ := Prod.mk.inj (Except.ok.inj created)
      exact ⟨p, .start, rfl, rfl⟩
  | cons sender plan ih =>
      cases connections with
      | nil => cases created
      | cons io others =>
          unfold createPlanned at created
          simp only [bind_eq_ok, mapError_eq_ok] at created
          obtain ⟨fd, connected, test, isAdded, later⟩ := created
          have opened : descriptors (io :: others) = fd :: descriptors others := by
            simp [descriptors, connected, Except.toOption]
          rw [opened] at fresh
          have planned : (clientPlan p.client)[p.client.streams.length]? = some sender := by
            rw [← List.head?_drop, ahead]
            rfl
          have missing : p.clientEnd.length < (clientPlan p.client).length := by
            rw [level]
            exact (List.getElem?_eq_some_iff.mp planned).1
          have unused : fd ∉ p.clientEnd.map Prod.fst := fun member =>
            (List.nodup_append.mp fresh).2.2 fd member fd List.mem_cons_self rfl
          have first : PairingRun p _ :=
            .step .start (.connect fd cookie idle missing unused sent)
          have second : PairingRun p (p.connected fd cookie test) :=
            first.step (.add rfl planned isAdded)
          unfold iperfNewStream at isAdded
          split at isAdded
          · cases isAdded
          · obtain rfl := Except.ok.inj isAdded
            obtain ⟨last, run, reached, same⟩ := ih (p := p.connected fd cookie _) later
              (by
                simp only [Pairing.connected, List.length_append, List.length_singleton,
                  ← List.tail_drop]
                exact congrArg List.tail ahead)
              rfl (by simp [Pairing.connected, level]) sent
              (by simpa [Pairing.connected] using fresh)
            exact ⟨last, second.trans run, reached, same⟩

/-- The runs refine the loop of `iperf_create_streams`: every `CREATE_STREAMS` of a client that
succeeds is one of them.
-/
theorem clientCreateStreams_run {client next : Test} {server : Server}
    {connections : List ConnectIo} {cookie : List ReadRound}
    (created : clientCreateStreams client connections = .ok next)
    (empty : client.streams = [])
    (sent : readCookie cookie = { ret := cookieSize, buffer := client.cookie })
    (fresh : (descriptors connections).Nodup)
    : ∃ last, PairingRun { client, server } last ∧ last.client = next ∧ last.server = server := by
  rw [clientCreateStreams_planned] at created
  obtain ⟨⟨test, rest⟩, planned, rfl⟩ := map_eq_ok.mp created
  exact createPlanned_run (p := { client, server }) planned (by rw [empty]; rfl) rfl
    (by rw [empty]; rfl) sent fresh

end Iperf
