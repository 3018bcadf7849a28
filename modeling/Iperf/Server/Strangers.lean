import Iperf.Server.Phases

/-! A third party connects while a test is in progress: when the server stays undisturbed. -/

namespace Iperf

open Checked

-----------------------------------------------------------------------------------------
-- Reachable servers
-----------------------------------------------------------------------------------------

/-- The kernel hands out descriptors that are not in use. -/
structure FreshDescriptors (s : Server) (io : PassIo) : Prop where
  accepted : ∀ fd, io.accept.accepted = some fd → 0 ≤ fd ∧ fd ≠ s.test.listener
  listen : ∀ fd, io.accept.listen = .ok fd → 0 ≤ fd ∧ io.accept.accepted ≠ some fd
  netannounce : ∀ fd, io.start.netannounce = some fd
    → 0 ≤ fd ∧ fd ≠ s.test.ctrlSck ∧ io.accept.accepted ≠ some fd

/-- The servers that `iperf_run_server` can be in at the head of its loop. -/
inductive Reachable : Server → Prop where
  | start (test : Test) (listener : Int) (flag : Int32) (now : IperfTime)
    (listening : 0 ≤ listener) (free : test.ctrlSck = -1)
    : Reachable (serverStart test listener flag now)
  | step {s next : Server} {event : Event} {visited : List TestState} {received : Nat}
    (earlier : Reachable s) (running : s.test.state ≠ .iperfDone)
    (fresh : ∀ io, event = .pass io → FreshDescriptors s io)
    (stepped : s.step event = .ok (next, visited, received))
    : Reachable next

/-- How the descriptors of a server relate. Without a control connection the safety timer is
not armed; while streams are created there is one, and TCP streams come in on the listener.
-/
structure Wired (s : Server) : Prop where
  listening : 0 ≤ s.test.listener
  connection : (s.test.ctrlSck = -1 ∧ s.timer = false)
    ∨ (0 ≤ s.test.ctrlSck ∧ s.test.ctrlSck ≠ s.test.listener)
  creating : s.test.state = .createStreams → 0 ≤ s.test.ctrlSck ∧ s.timer = false
    ∧ (s.test.protocol = .tcp → s.test.protListener = s.test.listener)

/-- At the head of the loop streams are only created while some are missing. -/
def StreamsMissing (s : Server) : Prop :=
  s.test.state = .createStreams → ¬ s.AllAccepted

theorem Wired.of_same {s next : Server} (wired : Wired s) (phase : SamePhase s next)
    (connection : SameConnection s next)
    : Wired next := by
  have listener := phase.listener
  have idle : ¬ next.timer → next.timer = false := Bool.eq_false_iff.mpr
  constructor
  · rw [listener]
    exact wired.listening
  · rw [listener]
    rcases connection with ⟨kept, armed⟩ | ⟨-, dropped, unarmed⟩
    · rw [kept]
      rcases wired.connection with ⟨free, unarmed⟩ | connected
      · exact .inl ⟨free, idle fun still => by rw [unarmed] at armed; cases armed still⟩
      · exact .inr connected
    · exact .inl ⟨dropped, unarmed⟩
  · intro creating
    rw [phase.protListener, listener, phase.protocol]
    obtain ⟨connected, unarmed, tcp⟩ := wired.creating (phase.state ▸ creating)
    rcases connection with ⟨kept, armed⟩ | ⟨fired, -⟩
    · rw [kept]
      exact ⟨connected, idle fun still => (by rw [unarmed] at armed; cases armed still), tcp⟩
    · rw [unarmed] at fired
      cases fired

theorem StreamsMissing.of_same {s next : Server} (missing : StreamsMissing s)
    (phase : SamePhase s next)
    : StreamsMissing next := by
  intro creating
  rw [phase.allAccepted]
  exact missing (phase.state ▸ creating)

-----------------------------------------------------------------------------------------
-- The invariant along a pass
-----------------------------------------------------------------------------------------

/-- `iperf_accept` keeps the wiring; a new control connection is the descriptor accepted. -/
theorem handleListener_wired {s next : Server} {readSet rest : List Int} {io : PassIo}
    (wired : Wired s) (fresh : FreshDescriptors s io)
    (handled : s.handleListener readSet io = .ok (next, rest))
    : Wired next ∧ (next.test.ctrlSck = s.test.ctrlSck
      ∨ io.accept.accepted = some next.test.ctrlSck) := by
  rcases handleListener_ok handled with ⟨-, rfl, -⟩ | ⟨-, active, test, accepted, rfl, -⟩
  · exact ⟨wired, .inl rfl⟩
  · obtain ⟨toSend, toRec, shape⟩ := setStreamsNumber_eq { s with test }
    rw [shape]
    obtain ⟨fd, descriptor, ⟨-, rfl⟩ | ⟨free, client⟩⟩ := iperfAccept_ok accepted
    · exact ⟨⟨wired.listening, wired.connection, wired.creating⟩, .inl rfl⟩
    · obtain ⟨positive, apart⟩ := fresh.accepted fd descriptor
      have unarmed : s.timer = false := by
        rcases wired.connection with ⟨-, unarmed⟩ | ⟨connected, -⟩
        · exact unarmed
        · omega
      have listener : 0 ≤ test.listener ∧ fd ≠ test.listener := by
        rcases client.listener with same | opened
        · rw [same]
          exact ⟨wired.listening, apart⟩
        · obtain ⟨valid, other⟩ := fresh.listen _ opened
          exact ⟨valid, fun equal => other (equal ▸ descriptor)⟩
      refine ⟨⟨listener.1, .inr ?_, fun _ => ⟨?_, unarmed, client.protListener⟩⟩, .inr ?_⟩
      · exact client.ctrlSck ▸ ⟨positive, listener.2⟩
      · exact client.ctrlSck ▸ positive
      · exact client.ctrlSck ▸ descriptor

/-- A message keeps the wiring and never leads into the creation of streams. -/
theorem handleControl_wired {s next : Server} {readSet rest : List Int} {io : PassIo}
    {visited : List TestState} (wired : Wired s)
    (handled : s.handleControl readSet io = .ok (next, rest, visited))
    : Wired next ∧ next.test.ctrlSck = s.test.ctrlSck := by
  rcases handleControl_ok handled with ⟨-, rfl, -, -⟩ | ⟨due, test, message, rfl⟩
  · exact ⟨wired, rfl⟩
  · have connected : 0 ≤ s.test.ctrlSck := by
      simp only [fdIsset, Bool.and_eq_true, decide_eq_true_eq] at due
      exact due.1
    obtain ⟨wiring, outcome⟩ := iperfHandleMessageServer_ok connected message
    have other : test.state ≠ .createStreams := by
      rcases outcome with ⟨_, _, -, -, state, -⟩ | ⟨_, _, -, -, state, -⟩ | ⟨-, state, -⟩
          | ⟨_, _, -, -, state, -⟩
        <;> rw [state] <;> exact fun absurd => by cases absurd
    refine ⟨⟨?_, ?_, fun creating => absurd creating other⟩, wiring.ctrlSck⟩
    · exact wiring.listener ▸ wired.listening
    · rw [wiring.ctrlSck, wiring.listener]
      exact wired.connection

/-- A further stream keeps the wiring. -/
theorem Wired.of_creation {s next : Server} (wired : Wired s)
    (creating : s.test.state = .createStreams) (same : SameCreation s next)
    : Wired next := by
  obtain ⟨connected, unarmed, tcp⟩ := wired.creating creating
  refine ⟨?_, ?_, fun _ => ?_⟩
  · exact same.listener ▸ wired.listening
  · rw [same.ctrlSck, same.listener, same.timer]
    exact wired.connection
  · rw [same.ctrlSck, same.timer, same.listener, same.protocol]
    exact ⟨connected, unarmed, fun isTcp => (same.protListener isTcp).trans (tcp isTcp)⟩

/-- After the streams were looked at, none is missing only in a test that has started. -/
theorem createStreams_wired {s next : Server} {readSet : List Int} {io : PassIo}
    (wired : Wired s)
    (fresh : ∀ fd, io.start.netannounce = some fd → 0 ≤ fd ∧ fd ≠ s.test.ctrlSck)
    (created : s.createStreams readSet io = .ok next)
    : Wired next ∧ StreamsMissing next := by
  rcases createStreams_ok created with
    ⟨other, rfl⟩ | ⟨creating, mid, same, ⟨-, started⟩ | ⟨missing, rfl⟩⟩
  · exact ⟨wired, fun creating => absurd creating other⟩
  · obtain ⟨connected, -, -⟩ := wired.creating creating
    have apart : s.test.ctrlSck ≠ s.test.listener := by
      rcases wired.connection with ⟨free, -⟩ | ⟨-, apart⟩
      · omega
      · exact apart
    have midConnected : 0 ≤ mid.test.ctrlSck := same.ctrlSck ▸ connected
    have ctrlSck : next.test.ctrlSck = s.test.ctrlSck := started.ctrlSck.trans same.ctrlSck
    have listener : 0 ≤ next.test.listener ∧ s.test.ctrlSck ≠ next.test.listener := by
      rcases started.listener with kept | opened
      · rw [kept, same.listener]
        exact ⟨wired.listening, apart⟩
      · obtain ⟨valid, other⟩ := fresh _ opened
        exact ⟨valid, fun equal => other equal.symm⟩
    have running : next.test.state ≠ .createStreams := by
      rw [started.state midConnected]
      exact fun absurd => by cases absurd
    refine ⟨⟨listener.1, .inr ?_, fun absurd => (running absurd).elim⟩,
      fun absurd => (running absurd).elim⟩
    exact ctrlSck.symm ▸ ⟨connected, listener.2⟩
  · exact ⟨wired.of_creation creating same, fun _ => missing⟩

theorem handleReady_wired {s next : Server} {readSet : List Int} {io : PassIo}
    {visited : List TestState} (wired : Wired s) (fresh : FreshDescriptors s io)
    (handled : s.handleReady readSet io = .ok (next, visited))
    : Wired next ∧ StreamsMissing next := by
  obtain ⟨first, _, second, _, _, listener, control, created, -⟩ := handleReady_ok handled
  obtain ⟨firstWired, origin⟩ := handleListener_wired wired fresh listener
  obtain ⟨secondWired, same⟩ := handleControl_wired firstWired control
  refine createStreams_wired secondWired (fun fd announced => ?_) created
  obtain ⟨valid, other, notAccepted⟩ := fresh.netannounce fd announced
  refine ⟨valid, fun equal => ?_⟩
  rw [same] at equal
  rcases origin with kept | accepted
  · exact other (equal.trans kept)
  · exact notAccepted (equal ▸ accepted)

theorem pass_wired {s next : Server} {io : PassIo} {visited : List TestState}
    (wired : Wired s) (missing : StreamsMissing s) (fresh : FreshDescriptors s io)
    (ran : s.pass io = .ok (next, visited))
    : Wired next ∧ StreamsMissing next := by
  obtain ⟨mid, rfl, origin⟩ := pass_ok ran
  obtain ⟨sameTest, sameTimer, notedPhase⟩ := noteProgress_frame s io.clock
  have kept : SameConnection s (s.noteProgress io.clock) :=
    .inl ⟨by rw [sameTest], by rw [sameTimer]; exact id⟩
  obtain ⟨phase, -, connection⟩ := runTimers_frame mid io
  have before : Wired mid ∧ StreamsMissing mid := by
    rcases origin with ⟨-, rfl, -⟩ | ⟨readSet, -, handled⟩
    · exact ⟨wired.of_same notedPhase kept, missing.of_same notedPhase⟩
    · refine handleReady_wired (wired.of_same notedPhase kept) ?_ handled
      exact ⟨by rw [sameTest]; exact fresh.accepted, fresh.listen,
        by rw [sameTest]; exact fresh.netannounce⟩
  exact ⟨before.1.of_same phase connection, before.2.of_same phase⟩

/-- By induction on the run: passes keep the invariant, workers do not touch it. -/
theorem Reachable.invariant {s : Server} (reachable : Reachable s)
    : Wired s ∧ StreamsMissing s := by
  induction reachable with
  | start test listener flag now listening free =>
      have idle : (serverStart test listener flag now).test.state ≠ .createStreams :=
        fun absurd => by cases absurd
      exact ⟨⟨listening, .inl ⟨free, rfl⟩, fun creating => absurd creating idle⟩,
        fun creating => absurd creating idle⟩
  | @step s next event visited received _ _ fresh stepped ih =>
      cases event with
      | pass io =>
          obtain ⟨⟨out, states⟩, ran, shape⟩ := map_eq_ok.mp stepped
          obtain ⟨rfl, -⟩ := Prod.mk.inj shape
          exact pass_wired ih.1 ih.2 (fresh io rfl) ran
      | receive position arrivalTime results =>
          obtain ⟨phase, kept, timer, -⟩ := worker_frame (by simp) stepped
          exact ⟨ih.1.of_same phase (.inl ⟨kept, by rw [timer]; exact id⟩),
            ih.2.of_same phase⟩
      | send position before io =>
          obtain ⟨phase, kept, timer, -⟩ := worker_frame (by simp) stepped
          exact ⟨ih.1.of_same phase (.inl ⟨kept, by rw [timer]; exact id⟩),
            ih.2.of_same phase⟩

-----------------------------------------------------------------------------------------
-- A stranger's connection
-----------------------------------------------------------------------------------------

/-- The run goes on and the test has the same state, streams and counters. -/
def Undisturbed (s : Server) (outcome : Except IError (Server × List TestState)) : Prop :=
  ∃ next visited, outcome = .ok (next, visited)
    ∧ next.test.state = s.test.state
    ∧ next.test.streams = s.test.streams
    ∧ next.recStreamsAccepted = s.recStreamsAccepted
    ∧ next.sendStreamsAccepted = s.sendStreamsAccepted

/-- The connection that `iperf_tcp_accept` turns away without ending the run: it is accepted by
`accept(2)`, its cookie is read without an error and is a wrong one, and no type of service
has to be set.
-/
def TurnedAway (s : Server) (io : StreamIo) : Prop :=
  io.accepted ≠ none
    ∧ 0 ≤ (readCookie io.cookie).ret
    ∧ strncmpEqual cookieSize s.test.cookie (readCookie io.cookie).buffer = false
    ∧ s.test.settings.tos = 0

/-- The connection is turned away while streams are created; at other times it is enough that
`accept(2)` succeeds.
-/
def Harmless (s : Server) (io : PassIo) : Prop :=
  if s.test.state = .createStreams then TurnedAway s io.stream
  else io.accept.accepted ≠ none

/-- Outside the creation of streams `iperf_accept` handles the connection. -/
theorem handleReady_busy {s : Server} {io : PassIo} (wired : Wired s)
    (connected : s.test.ctrlSck ≠ -1) (other : s.test.state ≠ .createStreams)
    : s.handleReady [s.test.listener] io
      = if io.accept.accepted = none then .error .ieaccept
        else .ok (s.setStreamsNumber, [s.test.state]) := by
  have due : fdIsset s.test.listener [s.test.listener] := by
    simp [fdIsset, wired.listening]
  have same : s.setStreamsNumber.test = s.test := by
    obtain ⟨toSend, toRec, shape⟩ := setStreamsNumber_eq s
    rw [shape]
  cases accepted : io.accept.accepted with
  | none =>
      have refused : iperfAccept s.test io.accept = .error .ieaccept := by
        simp only [iperfAccept, accepted]
      rw [Server.handleReady, Server.handleListener, if_pos ⟨due, other⟩, refused]
      rfl
  | some fd =>
      -- the listener is cleared from the set, so nothing else is ready
      have denied : iperfAccept s.test io.accept = .ok s.test := by
        simp only [iperfAccept, accepted, if_neg connected]
      have cleared : fdClr s.test.listener [s.test.listener] = [] := by simp [fdClr]
      have first : s.handleListener [s.test.listener] io = .ok (s.setStreamsNumber, []) := by
        rw [Server.handleListener, if_pos ⟨due, other⟩, denied, Except.map, cleared]
      have idle : fdIsset s.setStreamsNumber.test.ctrlSck [] = false := by simp [fdIsset]
      have stays : s.setStreamsNumber.test.state ≠ .createStreams := same ▸ other
      simp only [Server.handleReady, first, ok_bind, handleControl_idle idle,
        createStreams_other stays, List.nil_append, same, reduceCtorEq, if_false]
      rfl

/-- While streams are created, the connection goes to the protocol's `accept`. -/
theorem handleReady_creating {s : Server} {io : PassIo} (wired : Wired s)
    (tcp : s.test.protocol = .tcp) (creating : s.test.state = .createStreams)
    : s.handleReady [s.test.listener] io
      = (s.acceptStream io.stream >>= fun mid =>
          if mid.AllAccepted then mid.startTest io.start else .ok mid).map
            fun next => (next, [next.test.state]) := by
  obtain ⟨connected, -, isListener⟩ := wired.creating creating
  have apart : s.test.ctrlSck ≠ s.test.listener := by
    rcases wired.connection with ⟨free, -⟩ | ⟨-, apart⟩
    · omega
    · exact apart
  have due : fdIsset s.test.protListener [s.test.listener] = true := by
    simp [fdIsset, isListener tcp, wired.listening]
  have silent : fdIsset s.test.ctrlSck [s.test.listener] = false := by
    simp [fdIsset, apart]
  have first : s.handleListener [s.test.listener] io = .ok (s, [s.test.listener]) := by
    rw [Server.handleListener, if_neg (by simp [creating])]
  simp only [Server.handleReady, first, ok_bind, handleControl_idle silent, List.nil_append]
  rw [Server.createStreams, if_pos creating, Server.acceptReady, if_pos due]
  cases s.acceptStream io.stream with
  | error error => rfl
  | ok mid =>
      rw [ok_bind]
      cases (if mid.AllAccepted then mid.startTest io.start else .ok mid) with
      | error error => rfl
      | ok next => rfl

/-- While a stream is missing, a direction is chosen for the next one. -/
theorem countStream_missing {s : Server} (missing : ¬ s.AllAccepted)
    : s.countStream.flag ≠ -1 ∧ s.countStream.test = s.test := by
  unfold Server.countStream
  split_ifs with received sent
  · exact ⟨(by decide : (0 : Int32) ≠ -1), rfl⟩
  · exact ⟨(by decide : (1 : Int32) ≠ -1), rfl⟩
  · exact absurd ⟨not_not.mp received, not_not.mp sent⟩ missing

/-- A stream that is accepted while some are missing is a new one, behind the others. -/
theorem addStream_missing {s next : Server} {fd : Int} {io : StreamIo}
    (missing : ¬ s.AllAccepted) (added : s.addStream fd io = .ok next)
    : ∃ sp, sp.key = (fd, streamId s.test.streams.length, decide (s.countStream.flag ≠ 0))
      ∧ next = {
          s.countStream with
          test := { s.test with streams := s.test.streams ++ [sp] }
          flag := -1
        } := by
  have counted := countStream_missing missing
  unfold Server.addStream at added
  dsimp only at added
  rw [if_pos counted.1] at added
  obtain ⟨test, created, rfl⟩ := map_eq_ok.mp added
  rw [counted.2, iperfNewStream] at created
  split at created
  · cases created
  · obtain rfl := Except.ok.inj created
    let sp : Stream := {
      socket := fd
      id := streamId s.test.streams.length
      sender := decide (s.countStream.flag ≠ 0)
      buffer := newStreamBuffer s.test io.newStream
      bufferFile := List.replicate (blockSize s.test) 0
    }
    exact ⟨sp, rfl, rfl⟩

theorem acceptStream_turnedAway {s : Server} {io : StreamIo} (tcp : s.test.protocol = .tcp)
    (away : TurnedAway s io)
    : s.acceptStream io = .ok s := by
  obtain ⟨accepted, read, wrong, tos⟩ := away
  obtain ⟨fd, found⟩ := Option.ne_none_iff_exists'.mp accepted
  simp only [Server.acceptStream, protocolAccept, tcp, iperfTcpAccept, found,
    if_neg (Int.not_lt.mpr read), wrong, Bool.not_false, Except.map, ok_bind,
    iperfCommonSockopts, tos, if_true]
  rfl

/-- A connection that is accepted without being turned away becomes a stream. -/
theorem acceptStream_cases {s mid : Server} {io : StreamIo} (tcp : s.test.protocol = .tcp)
    (accepted : s.acceptStream io = .ok mid)
    : TurnedAway s io
      ∨ ∃ fd, io.accepted = some fd
        ∧ strncmpEqual cookieSize s.test.cookie (readCookie io.cookie).buffer
        ∧ s.addStream fd io = .ok mid := by
  unfold Server.acceptStream at accepted
  simp only [bind_eq_ok] at accepted
  obtain ⟨⟨test, fd, isClosed⟩, connection, _, options, rest⟩ := accepted
  simp only [protocolAccept, tcp] at connection
  obtain ⟨⟨fd', closed'⟩, found, shape⟩ := map_eq_ok.mp connection
  obtain ⟨rfl, remaining⟩ := Prod.mk.inj shape
  obtain ⟨rfl, rfl⟩ := Prod.mk.inj remaining
  unfold iperfTcpAccept at found
  split at found
  · cases found
  · next descriptor isAccepted =>
      obtain ⟨read, shape⟩ := guard_eq_ok.mp found
      obtain ⟨rfl, rfl⟩ := Prod.mk.inj (Except.ok.inj shape)
      cases matching : strncmpEqual cookieSize s.test.cookie (readCookie io.cookie).buffer with
      | true =>
          simp only [matching, Bool.not_true, Bool.false_eq_true, if_false] at rest
          exact .inr ⟨_, isAccepted, rfl, rest⟩
      | false =>
          refine .inl ⟨by rw [isAccepted]; exact Option.some_ne_none _, Int.not_lt.mp read,
            matching, ?_⟩
          -- with a type of service to set, the closed descriptor is an error
          by_contra tos
          simp only [iperfCommonSockopts, if_neg tos, matching, Bool.not_false, if_true]
            at options
          cases options

/-- Handling a third party's connection leaves a reachable server undisturbed exactly when the
connection is harmless.
-/
theorem stranger_undisturbed_iff {s : Server} (reachable : Reachable s)
    (connected : s.test.ctrlSck ≠ -1) (tcp : s.test.protocol = .tcp) (io : PassIo)
    : Undisturbed s (s.handleReady [s.test.listener] io) ↔ Harmless s io := by
  obtain ⟨wired, missing⟩ := reachable.invariant
  unfold Harmless
  split
  · next creating =>
      rw [handleReady_creating wired tcp creating]
      constructor
      · rintro ⟨next, visited, done, -, streams, -, -⟩
        obtain ⟨last, finished, shape⟩ := map_eq_ok.mp done
        obtain ⟨rfl, -⟩ := Prod.mk.inj shape
        obtain ⟨mid, accepted, rest⟩ := bind_eq_ok.mp finished
        rcases acceptStream_cases tcp accepted with away | ⟨fd, -, -, added⟩
        · exact away
        · -- the stranger's stream stays in the list
          have longer : mid.test.streams.length = s.test.streams.length + 1 := by
            obtain ⟨sp, -, rfl⟩ := addStream_missing (missing creating) added
            exact List.length_append
          have kept : last.test.streams.length = mid.test.streams.length := by
            split at rest
            · simpa using congrArg List.length (startTest_ok rest).streams
            · rw [Except.ok.inj rest]
          rw [streams] at kept
          omega
      · intro away
        rw [acceptStream_turnedAway tcp away, ok_bind, if_neg (missing creating)]
        exact ⟨s, _, rfl, rfl, rfl, rfl, rfl⟩
  · next other =>
      rw [handleReady_busy wired connected other]
      split
      · next refused =>
          refine ⟨?_, fun accepted => (accepted refused).elim⟩
          rintro ⟨_, _, ended, _⟩
          cases ended
      · next accepted =>
          refine ⟨fun _ => accepted, fun _ => ⟨_, _, rfl, ?_⟩⟩
          obtain ⟨toSend, toRec, shape⟩ := setStreamsNumber_eq s
          rw [shape]
          exact ⟨rfl, rfl, rfl, rfl⟩

-----------------------------------------------------------------------------------------
-- A client and a stranger
-----------------------------------------------------------------------------------------

def sampleCookie : List UInt8 := List.replicate 36 97 ++ [0]

/-- A server that listens on descriptor `3`. -/
def sampleStart : Server := serverStart freshServer 3 0 { secs := 0, usecs := 0 }

/-- A client with the given parameters connects. -/
def clientConnects (parameters : CJson) : PassIo :=
  {
    now := { secs := 0, usecs := 0 }
    select := .ready [3]
    later := { secs := 0, usecs := 0 }
    accept := {
      accepted := some 4
      cookie := [.ready (.got sampleCookie 37)]
      parameters := some parameters
      listen := .ok 3
    }
    message := .failed
    stream := { accepted := none }
    start := {}
  }

/-- A stranger connects and sends nothing. -/
def strangerConnects : PassIo :=
  {
    now := { secs := 0, usecs := 0 }
    select := .ready [3]
    later := { secs := 0, usecs := 0 }
    accept := { accepted := some 5 }
    message := .failed
    stream := { accepted := some 5 }
    start := {}
  }

/-- The server while it waits for the streams of such a client. -/
def creatingServer (parameters : CJson) : Server :=
  match sampleStart.pass (clientConnects parameters) with
  | .ok (s, _) => s
  | .error _ => sampleStart

theorem creatingServer_reachable {parameters : CJson} {visited : List TestState}
    (ran : sampleStart.pass (clientConnects parameters)
      = .ok (creatingServer parameters, visited))
    : Reachable (creatingServer parameters) := by
  have start : Reachable sampleStart := .start freshServer 3 0 _ (by decide) rfl
  have stepped : sampleStart.step (.pass (clientConnects parameters))
      = .ok (creatingServer parameters, visited, 0) := by
    rw [Server.step, ran]
    rfl
  refine .step start (fun absurd => by cases absurd) ?_ stepped
  rintro io ⟨⟩
  constructor
  · rintro fd ⟨⟩
    exact ⟨by decide, by decide⟩
  · rintro fd ⟨⟩
    exact ⟨by decide, by simp [clientConnects]⟩
  · rintro fd ⟨⟩

/-- Witness: without a type of service the silent stranger is turned away. -/
theorem stranger_undisturbed_silent
    : Undisturbed (creatingServer (.object [(.tcp, .bool true)]))
        ((creatingServer (.object [(.tcp, .bool true)])).handleReady [3] strangerConnects) :=
  (stranger_undisturbed_iff (creatingServer_reachable rfl) (by decide +kernel)
    (by decide +kernel) strangerConnects).mpr
    ⟨Option.some_ne_none _, by decide +kernel, by decide +kernel, by decide +kernel⟩

/-- With `--tos 16` the same stranger ends the test of a reachable server. -/
theorem stranger_ends_test
    : Reachable (creatingServer (.object [(.tcp, .bool true), (.tos, .number 16)]))
      ∧ (creatingServer (.object [(.tcp, .bool true), (.tos, .number 16)])).test.ctrlSck = 4
      ∧ (creatingServer (.object [(.tcp, .bool true), (.tos, .number 16)])).test.protocol = .tcp
      ∧ (creatingServer (.object [(.tcp, .bool true), (.tos, .number 16)])).handleReady [3]
          strangerConnects
        = .error .iesettos
      ∧ ¬ Undisturbed (creatingServer (.object [(.tcp, .bool true), (.tos, .number 16)]))
          ((creatingServer (.object [(.tcp, .bool true), (.tos, .number 16)])).handleReady [3]
            strangerConnects) := by
  have ends : (creatingServer (.object [(.tcp, .bool true), (.tos, .number 16)])).handleReady [3]
      strangerConnects = .error .iesettos := rfl
  refine ⟨creatingServer_reachable rfl, by decide +kernel, by decide +kernel, ends, ?_⟩
  rw [ends]
  rintro ⟨_, _, absurd, _⟩
  cases absurd

end Iperf
