import Iperf.Server.Strangers

/-! Bytes on the control connection of a running test: when they only move the server forward,
and that traffic counts towards the bitrate limit until the test ends.
-/

namespace Iperf

open Checked

-----------------------------------------------------------------------------------------
-- The order of the states
-----------------------------------------------------------------------------------------

/-- The place of a state on the way from a running test to its end. -/
def TestState.rank : TestState → Option Nat
  | .testRunning => some 0
  | .testEnd => some 1
  | .exchangeResults => some 2
  | .displayResults => some 3
  | .iperfDone => some 4
  | _ => none

/-- Both states are on the way, the first not behind the second. -/
def Forward (state next : TestState) : Prop :=
  match state.rank, next.rank with
  | some i, some j => i ≤ j
  | _, _ => False

instance (state next : TestState) : Decidable (Forward state next) := by
  unfold Forward
  split <;> infer_instance

theorem Forward.trans {state next last : TestState} (first : Forward state next)
    (second : Forward next last)
    : Forward state last := by
  unfold Forward at *
  cases i : state.rank <;> cases j : next.rank <;> cases k : last.rank <;> simp_all
  omega

theorem Forward.refl {state : TestState} (onWay : state.rank ≠ none)
    : Forward state state := by
  unfold Forward
  cases i : state.rank
  · exact absurd i onWay
  · exact le_refl _

theorem Forward.right {state next : TestState} (forward : Forward state next)
    : next.rank ≠ none := by
  unfold Forward at forward
  intro off
  rw [off] at forward
  split at forward <;> simp_all

/-- The end of a test is ahead of every state on the way. -/
theorem Forward.done {state : TestState} (onWay : state.rank ≠ none)
    : Forward state .iperfDone := by
  cases state <;> first | decide | exact absurd rfl onWay

-----------------------------------------------------------------------------------------
-- Runs
-----------------------------------------------------------------------------------------

/-- The runs of the loop and its workers in which every step meets a condition, with the
states they go through.
-/
inductive RunWith (allowed : Server → Event → Prop)
    : Server → List Event → List TestState → Server → Prop where
  | nil (s : Server) : RunWith allowed s [] [] s
  | cons {s next final : Server} {event : Event} {events : List Event}
    {visited trace : List TestState} {received : Nat}
    (running : s.test.state ≠ .iperfDone) (meets : allowed s event)
    (stepped : s.step event = .ok (next, visited, received))
    (rest : RunWith allowed next events trace final)
    : RunWith allowed s (event :: events) (visited ++ trace) final

/-- The control message that a server reads in an event. -/
def Server.reads (s : Server) : Event → Option ControlMessage
  | .pass io =>
      match io.select with
      | .ready readSet => if fdIsset s.test.ctrlSck readSet then some io.message else none
      | _ => none
  | _ => none

/-- Neither `TEST_START` nor `CLIENT_TERMINATE` is read, and `TEST_END` only while the test
runs.
-/
structure Orderly (s : Server) (event : Event) : Prop where
  noStart : ∀ value io, s.reads event = some (.byte value io)
    → TestState.ofByte value ≠ .testStart
  noTerminate : ∀ value io, s.reads event = some (.byte value io)
    → TestState.ofByte value ≠ .clientTerminate
  endsRunning : ∀ value io, s.reads event = some (.byte value io)
    → TestState.ofByte value = .testEnd → s.test.state = .testRunning

/-- The message is `TEST_END`, or it terminates the test. -/
def ControlMessage.Ends (message : ControlMessage) : Prop :=
  message.Finishes ∨ ∃ value io, message = .byte value io
    ∧ (TestState.ofByte value = .testEnd ∨ TestState.ofByte value = .clientTerminate)

/-- Neither `TEST_END` nor a termination is received. -/
def Quiet (s : Server) (event : Event) : Prop :=
  ∀ message, s.reads event = some message → ¬ message.Ends

-----------------------------------------------------------------------------------------
-- The control connection
-----------------------------------------------------------------------------------------

/-- The server still waits for its client, it has the control connection, or the safety timer
has closed it and the next `select(2)` fails.
-/
def Attended (s : Server) : Prop :=
  s.test.state = .iperfStart ∨ s.staleReadSet ∨ 0 ≤ s.test.ctrlSck

/-- The timers of a pass drop the control connection only with a stale set, by induction on
those that have expired.
-/
theorem runTimers_attended {s : Server} {io : PassIo} (attended : Attended s)
    : Attended (s.runTimers io) := by
  unfold Server.runTimers
  induction io.expired generalizing s with
  | nil => exact attended
  | cons timer rest ih =>
      rw [List.foldl_cons]
      refine ih ?_
      obtain ⟨phase, -, -⟩ := runTimer_frame io.timerNow s timer
      rcases attended with idle | attended
      · exact .inl (phase.state.trans idle)
      refine .inr ?_
      cases timer with
      | safety =>
          simp only [Server.runTimer]
          split_ifs
          · exact attended
          · refine .inl ?_
            simpa only [Bool.or_eq_true, decide_eq_true_eq] using attended
          · exact attended
      | stats =>
          simp only [Server.runTimer]
          split_ifs
          · exact attended
          · rw [(iperfStatsCallback_wiring _ _).1.ctrlSck]
            exact attended
          · exact attended
      | omitPeriod =>
          simp only [Server.runTimer]
          split_ifs <;> exact attended

/-- What is ready does not take the control connection away. -/
theorem handleReady_attended {s next : Server} {readSet : List Int} {io : PassIo}
    {visited : List TestState} (attended : s.test.state = .iperfStart ∨ 0 ≤ s.test.ctrlSck)
    (fresh : s.test.ctrlSck = -1 → ∀ fd, io.accept.accepted = some fd → 0 ≤ fd)
    (handled : s.handleReady readSet io = .ok (next, visited))
    : next.test.state = .iperfStart ∨ 0 ≤ next.test.ctrlSck := by
  obtain ⟨first, _, second, _, _, listener, control, created, -⟩ := handleReady_ok handled
  have listened : first.test.state = .iperfStart ∨ 0 ≤ first.test.ctrlSck := by
    rcases handleListener_ok listener with ⟨-, rfl, -⟩ | ⟨-, -, test, accepted, rfl, -⟩
    · exact attended
    · obtain ⟨toSend, toRec, shape⟩ := setStreamsNumber_eq { s with test }
      rw [shape]
      obtain ⟨fd, descriptor, ⟨-, rfl⟩ | ⟨free, client⟩⟩ := iperfAccept_ok accepted
      · exact attended
      · exact .inr (client.ctrlSck ▸ fresh free fd descriptor)
  have controlled : second.test.state = .iperfStart ∨ 0 ≤ second.test.ctrlSck := by
    rcases handleControl_ok control with ⟨-, rfl, -, -⟩ | ⟨due, test, message, rfl⟩
    · exact listened
    · have connected : 0 ≤ first.test.ctrlSck := by
        simp only [fdIsset, Bool.and_eq_true, decide_eq_true_eq] at due
        exact due.1
      obtain ⟨wiring, -⟩ := iperfHandleMessageServer_ok connected message
      exact .inr (wiring.ctrlSck ▸ connected)
  rcases createStreams_ok created with ⟨-, rfl⟩ | ⟨creating, mid, same, outcome⟩
  · exact controlled
  · have connected : 0 ≤ mid.test.ctrlSck := by
      rw [same.ctrlSck]
      exact controlled.resolve_left fun idle => by rw [creating] at idle; cases idle
    rcases outcome with ⟨-, started⟩ | ⟨-, rfl⟩
    · exact .inr (started.ctrlSck ▸ connected)
    · exact .inr connected

theorem step_attended {s next : Server} {event : Event} {visited : List TestState}
    {received : Nat} (attended : Attended s)
    (fresh : s.test.ctrlSck = -1
      → ∀ io, event = .pass io → ∀ fd, io.accept.accepted = some fd → 0 ≤ fd)
    (stepped : s.step event = .ok (next, visited, received))
    : Attended next := by
  have worker : (∀ io, event ≠ .pass io) → Attended next := by
    intro notPass
    obtain ⟨-, test, rfl, _, _, _, _, rfl⟩ := step_worker notPass stepped
    exact attended
  cases event with
  | receive position arrivalTime results => exact worker (by simp)
  | send position before io => exact worker (by simp)
  | pass io =>
      obtain ⟨⟨out, states⟩, ran, shape⟩ := map_eq_ok.mp stepped
      obtain ⟨rfl, -⟩ := Prod.mk.inj shape
      have valid := pass_valid ran
      obtain ⟨mid, rfl, origin⟩ := pass_ok ran
      obtain ⟨sameTest, -, -⟩ := noteProgress_frame s io.clock
      refine runTimers_attended ?_
      have before : s.test.state = .iperfStart ∨ 0 ≤ s.test.ctrlSck := by
        rcases attended with idle | stale | connected
        · exact .inl idle
        · rw [valid] at stale
          cases stale
        · exact .inr connected
      rcases origin with ⟨-, rfl, -⟩ | ⟨readSet, -, handled⟩
      · rw [Attended, sameTest]
        exact before.imp_right .inr
      · refine (handleReady_attended (by rwa [sameTest]) ?_ handled).imp_right .inr
        rw [sameTest]
        exact fun free => fresh free io rfl

/-- By induction on the run. -/
theorem Reachable.attended {s : Server} (reachable : Reachable s)
    : Attended s := by
  induction reachable with
  | start test listener flag now listening free => exact .inl rfl
  | step _ _ fresh stepped ih =>
      exact step_attended ih (fun _ io isPass fd accepted =>
        ((fresh io isPass).accepted fd accepted).1) stepped

-----------------------------------------------------------------------------------------
-- One step
-----------------------------------------------------------------------------------------

/-- The states that a step goes through lead forward to the one it ends in. -/
structure Advances (state : TestState) (visited : List TestState) (next : TestState) : Prop where
  sorted : List.Pairwise Forward (state :: visited)
  final : ∀ earlier ∈ state :: visited, Forward earlier next

theorem Advances.stay {state : TestState} (onWay : state.rank ≠ none)
    : Advances state [state] state := by
  have same := Forward.refl onWay
  constructor <;> simp [same]

/-- No streams are created on the way. -/
theorem createStreams_onWay {s next : Server} {readSet : List Int} {io : PassIo}
    (onWay : s.test.state.rank ≠ none) (created : s.createStreams readSet io = .ok next)
    : next = s := by
  have other : s.test.state ≠ .createStreams := fun creating => by
    rw [creating] at onWay
    exact onWay rfl
  rw [createStreams_other other] at created
  exact (Except.ok.inj created).symm

/-- What is ready when the test is on its way: a message at most moves it forward. -/
theorem handleReady_advances {s next : Server} {readSet : List Int} {io : PassIo}
    {visited : List TestState} (onWay : s.test.state.rank ≠ none)
    (attended : 0 ≤ s.test.ctrlSck) (orderly : Orderly s (.pass io))
    (ready : io.select = .ready readSet)
    (handled : s.handleReady readSet io = .ok (next, visited))
    : Advances s.test.state visited next.test.state
      ∧ (Quiet s (.pass io) → next.test.state = s.test.state) := by
  obtain ⟨first, readSet', second, _, states, listener, control, created, rfl⟩ :=
    handleReady_ok handled
  have sameTest : first.test = s.test := by
    rcases handleListener_ok listener with ⟨-, rfl, -⟩ | ⟨-, -, test, accepted, rfl, -⟩
    · rfl
    · obtain ⟨toSend, toRec, shape⟩ := setStreamsNumber_eq { s with test }
      obtain ⟨_, -, ⟨-, rfl⟩ | ⟨free, -⟩⟩ := iperfAccept_ok accepted
      · rw [shape]
      · omega
  have sameSet : fdIsset s.test.ctrlSck readSet' → fdIsset s.test.ctrlSck readSet := by
    rcases handleListener_ok listener with ⟨-, -, rfl⟩ | ⟨-, -, _, -, -, rfl⟩
    · exact id
    · intro still
      simp only [fdIsset, fdClr, Bool.and_eq_true, List.contains_iff_mem, List.mem_filter]
        at still ⊢
      exact ⟨still.1, still.2.1⟩
  rcases handleControl_ok control with ⟨-, rfl, -, rfl⟩ | ⟨due, test, message, rfl⟩
  · obtain rfl := createStreams_onWay (sameTest ▸ onWay) created
    rw [sameTest]
    exact ⟨.stay onWay, fun _ => rfl⟩
  · rw [sameTest] at due message
    have read : s.reads (.pass io) = some io.message := by
      simp only [Server.reads, ready, sameSet due, if_true]
    obtain ⟨-, ⟨value, endIo, isByte, start, -⟩ | ⟨value, endIo, isByte, ends, state, rfl⟩
      | ⟨finishes, state, rfl⟩ | ⟨value, endIo, isByte, terminates, -⟩⟩ :=
        iperfHandleMessageServer_ok attended message
    · exact absurd start (orderly.noStart value endIo (isByte ▸ read))
    · have running := orderly.endsRunning value endIo (isByte ▸ read) ends
      obtain rfl := createStreams_onWay (by rw [state]; decide) created
      rw [state, running]
      refine ⟨by constructor <;> decide, fun quiet => ?_⟩
      exact absurd (.inr ⟨value, endIo, isByte, .inl ends⟩) (quiet _ read)
    · obtain rfl := createStreams_onWay (by rw [state]; decide) created
      rw [state]
      have ahead := Forward.done onWay
      have last : Forward .iperfDone .iperfDone := by decide
      refine ⟨?_, fun quiet => absurd (.inl finishes) (quiet _ read)⟩
      constructor <;> simp [ahead, last]
    · exact absurd terminates (orderly.noTerminate value endIo (isByte ▸ read))

theorem step_advances {s next : Server} {event : Event} {visited : List TestState}
    {received : Nat} (onWay : s.test.state.rank ≠ none) (attended : Attended s)
    (orderly : Orderly s event)
    (stepped : s.step event = .ok (next, visited, received))
    : Advances s.test.state visited next.test.state
      ∧ (Quiet s event → next.test.state = s.test.state) := by
  have worker : (∀ io, event ≠ .pass io)
      → Advances s.test.state visited next.test.state
        ∧ (Quiet s event → next.test.state = s.test.state) := by
    intro notPass
    obtain ⟨phase, -, -, rfl⟩ := worker_frame notPass stepped
    rw [phase.state]
    refine ⟨?_, fun _ => rfl⟩
    constructor <;> simp [Forward.refl onWay]
  cases event with
  | receive position arrivalTime results => exact worker (by simp)
  | send position before io => exact worker (by simp)
  | pass io =>
      obtain ⟨⟨out, states⟩, ran, shape⟩ := map_eq_ok.mp stepped
      obtain ⟨rfl, remaining⟩ := Prod.mk.inj shape
      obtain ⟨rfl, -⟩ := Prod.mk.inj remaining
      have valid := pass_valid ran
      obtain ⟨mid, rfl, origin⟩ := pass_ok ran
      obtain ⟨phase, -, -⟩ := runTimers_frame mid io
      obtain ⟨sameTest, -, -⟩ := noteProgress_frame s io.clock
      rw [phase.state]
      rcases origin with ⟨-, rfl, rfl⟩ | ⟨readSet, ready, handled⟩
      · rw [sameTest]
        exact ⟨.stay onWay, fun _ => rfl⟩
      · -- progress is noted first, which the condition does not depend on
        have reads : (s.noteProgress io.clock).reads (.pass io) = s.reads (.pass io) := by
          simp only [Server.reads, sameTest]
        have noted : Orderly (s.noteProgress io.clock) (.pass io) :=
          ⟨by rw [reads]; exact orderly.noStart,
            by rw [reads]; exact orderly.noTerminate,
            by rw [reads, sameTest]; exact orderly.endsRunning⟩
        have connected : 0 ≤ s.test.ctrlSck := by
          rcases attended with idle | stale | connected
          · rw [idle] at onWay
            exact absurd rfl onWay
          · rw [valid] at stale
            cases stale
          · exact connected
        have advances := handleReady_advances (by rw [sameTest]; exact onWay)
          (by rw [sameTest]; exact connected) noted ready handled
        rwa [sameTest, Quiet, reads] at advances

-----------------------------------------------------------------------------------------
-- The bytes of a running test
-----------------------------------------------------------------------------------------

theorem udpCountSequence_result (sp : Stream) (pcount : UInt64)
    : (udpCountSequence sp pcount).result = sp.result := by
  unfold udpCountSequence
  dsimp only
  split_ifs <;> rfl

/-- While the test runs, a receive adds what it returns to the interval of its stream. -/
theorem protocolRecv_counts {test : Test} {sp sp' : Stream} {arrivalTime : IperfTime}
    {results : List RecvResult} {r : Int} (running : test.state = .testRunning)
    (got : protocolRecv test sp arrivalTime results = some (r, sp')) (positive : 0 < r)
    : sp'.result.bytesReceivedThisInterval
        = sp.result.bytesReceivedThisInterval + UInt64.ofNat r.toNat
      ∧ sp'.result.bytesSentThisInterval = sp.result.bytesSentThisInterval := by
  have tcp : iperfTcpRecv test sp results = some (r, sp')
      → sp'.result.bytesReceivedThisInterval
          = sp.result.bytesReceivedThisInterval + UInt64.ofNat r.toNat
        ∧ sp'.result.bytesSentThisInterval = sp.result.bytesSentThisInterval := by
    intro received
    simp only [iperfTcpRecv, running, if_true, Option.map_eq_some_iff] at received
    obtain ⟨out, -, shape⟩ := received
    split at shape
    · obtain ⟨rfl, -⟩ := Prod.mk.inj shape
      omega
    · obtain ⟨rfl, rfl⟩ := Prod.mk.inj shape
      exact ⟨rfl, rfl⟩
  unfold protocolRecv at got
  split at got
  · simp only [iperfUdpRecv, running, if_true, Option.map_eq_some_iff] at got
    obtain ⟨out, -, shape⟩ := got
    split at shape
    · obtain ⟨rfl, -⟩ := Prod.mk.inj shape
      omega
    · obtain ⟨rfl, rfl⟩ := Prod.mk.inj shape
      simp only [udpJitter, udpCountSequence_result, and_self]
  · exact tcp got
  · exact tcp got

/-- Replacing one stream by one with more traffic adds it to the total, by induction on the
streams.
-/
theorem sum_set_add {α : Type} {f : α → UInt64} {a a' : α} {more : UInt64} {list : List α}
    {position : Nat} (found : list[position]? = some a) (added : f a' = f a + more)
    : ((list.set position a').map f).sum = (list.map f).sum + more := by
  induction list generalizing position with
  | nil => cases found
  | cons head rest ih =>
      cases position with
      | zero =>
          obtain rfl := Option.some.inj found
          simp only [List.set_cons_zero, List.map_cons, List.sum_cons, added]
          ac_rfl
      | succ position =>
          simp only [List.set_cons_succ, List.map_cons, List.sum_cons]
          rw [ih found]
          ac_rfl

/-- What a worker receives is added to its interval and to the total that the bitrate limit is
checked with.
-/
def CountsBytes (test : Test) : Prop :=
  ∀ position arrivalTime results r next,
    iperfRecvMt test position arrivalTime results = some (r, next) → 0 < r
    → ∃ sp sp', test.streams[position]? = some sp ∧ next.streams[position]? = some sp'
      ∧ sp'.result.bytesReceivedThisInterval
        = sp.result.bytesReceivedThisInterval + UInt64.ofNat r.toNat
      ∧ intervalBytes next = intervalBytes test + UInt64.ofNat r.toNat

theorem countsBytes_of_running {test : Test} (running : test.state = .testRunning)
    : CountsBytes test := by
  intro position arrivalTime results r next received positive
  obtain ⟨sp, sp', found, got, rfl⟩ := iperfRecvMt_frame received
  obtain ⟨counted, sentSame⟩ := protocolRecv_counts running got positive
  have inside : position < test.streams.length := (List.getElem?_eq_some_iff.mp found).1
  refine ⟨sp, sp', found, List.getElem?_set_self inside, counted, ?_⟩
  refine sum_set_add found ?_
  rw [counted, sentSame, UInt64.add_assoc]

-----------------------------------------------------------------------------------------
-- Whole runs
-----------------------------------------------------------------------------------------

/-- A server on its way has no room for a new client. -/
theorem step_attended_onWay {s next : Server} {event : Event} {visited : List TestState}
    {received : Nat} (onWay : s.test.state.rank ≠ none) (attended : Attended s)
    (stepped : s.step event = .ok (next, visited, received))
    : Attended next := by
  refine step_attended attended ?_ stepped
  rintro free io rfl
  obtain ⟨⟨out, states⟩, ran, -⟩ := map_eq_ok.mp stepped
  rcases attended with idle | stale | connected
  · rw [idle] at onWay
    exact absurd rfl onWay
  · rw [pass_valid ran] at stale
    cases stale
  · omega

/-- By induction on the run: each step leads forward from the state it starts in. -/
theorem RunWith.forward {s final : Server} {events : List Event} {trace : List TestState}
    (run : RunWith Orderly s events trace final) (onWay : s.test.state.rank ≠ none)
    (attended : Attended s)
    : List.Pairwise Forward (s.test.state :: trace) := by
  induction run with
  | nil s => exact List.pairwise_singleton _ _
  | @cons s next final event events visited trace received _ meets stepped _ ih =>
      obtain ⟨advances, -⟩ := step_advances onWay attended meets stepped
      have nextOnWay := (advances.final _ List.mem_cons_self).right
      have later :=
        List.pairwise_cons.mp (ih nextOnWay (step_attended_onWay onWay attended stepped))
      rw [← List.cons_append]
      refine List.pairwise_append.mpr ⟨advances.sorted, later.2, ?_⟩
      intro earlier isEarlier after isAfter
      exact (advances.final earlier isEarlier).trans (later.1 after isAfter)

/-- By induction on the run: without `TEST_END` and termination the state stays. -/
theorem RunWith.quiet {s final : Server} {events : List Event} {trace : List TestState}
    (run : RunWith (fun s event => Orderly s event ∧ Quiet s event) s events trace final)
    (onWay : s.test.state.rank ≠ none) (attended : Attended s)
    : final.test.state = s.test.state := by
  induction run with
  | nil s => rfl
  | cons _ meets stepped _ ih =>
      obtain ⟨-, stays⟩ := step_advances onWay attended meets.1 stepped
      have same := stays meets.2
      rw [ih (by rw [same]; exact onWay) (step_attended_onWay onWay attended stepped), same]

/-- In a run from a running test whose messages come in order, the state only moves forward;
and as long as neither `TEST_END` nor a termination was received, it stays `TEST_RUNNING` and
every byte that is received counts.
-/
theorem controlBytes_forward {s final : Server} {events : List Event} {trace : List TestState}
    (reachable : Reachable s) (running : s.test.state = .testRunning)
    (run : RunWith Orderly s events trace final)
    : List.Pairwise Forward (s.test.state :: trace)
      ∧ (RunWith (fun s event => Orderly s event ∧ Quiet s event) s events trace final
        → final.test.state = .testRunning ∧ CountsBytes final.test) := by
  have onWay : s.test.state.rank ≠ none := by
    rw [running]
    decide
  have attended := reachable.attended
  refine ⟨run.forward onWay attended, fun quiet => ?_⟩
  have stays := (quiet.quiet onWay attended).trans running
  exact ⟨stays, countsBytes_of_running stays⟩

-----------------------------------------------------------------------------------------
-- A client that sends a byte out of order
-----------------------------------------------------------------------------------------

/-- `iperf3 -c host -l 4`. -/
def smallBlocks : CJson := .object [(.tcp, .bool true), (.len, .number 4)]

/-- The client's one stream connects. -/
def streamConnects : PassIo :=
  {
    now := { secs := 0, usecs := 0 }
    select := .ready [3]
    later := { secs := 0, usecs := 0 }
    accept := { accepted := none }
    message := .failed
    stream := { accepted := some 6, cookie := [.ready (.got sampleCookie 37)] }
    start := {}
  }

/-- The results of a client without streams. -/
def emptyResults : CJson :=
  .object [(.cpuUtilTotal, .number 0), (.cpuUtilUser, .number 0), (.cpuUtilSystem, .number 0),
    (.senderHasRetransmits, .number 0), (.streams, .array [])]

/-- A byte arrives on the control connection. -/
def byteArrives (value : UInt8) : PassIo :=
  {
    now := { secs := 0, usecs := 0 }
    select := .ready [4]
    later := { secs := 0, usecs := 0 }
    accept := { accepted := none }
    message := .byte value { results := some emptyResults }
    stream := { accepted := none }
    start := {}
  }

/-- The server in `TEST_RUNNING`, with one receiving stream. -/
def runningServer : Server :=
  match (creatingServer smallBlocks).pass streamConnects with
  | .ok (s, _) => s
  | .error _ => sampleStart

/-- The server after one more byte on the control connection. -/
def runningServerAfter (value : UInt8) : Server :=
  match runningServer.pass (byteArrives value) with
  | .ok (s, _) => s
  | .error _ => sampleStart

/-- One received byte, behind which nothing is there yet. -/
def oneByte : List RecvResult := [.got [7] 1, .failed .eagain]

theorem runningServer_reachable : Reachable runningServer := by
  have creating : Reachable (creatingServer smallBlocks) :=
    creatingServer_reachable rfl
  have stepped : (creatingServer smallBlocks).step (.pass streamConnects)
      = .ok (runningServer, [.testRunning], 0) := rfl
  refine .step creating (by decide +kernel) ?_ stepped
  rintro io ⟨⟩
  constructor <;> rintro fd ⟨⟩

theorem byteArrives_reads {s : Server} {value value' : UInt8} {io : EndIo}
    (found : s.reads (.pass (byteArrives value)) = some (.byte value' io))
    : value' = value := by
  simp only [Server.reads, byteArrives] at found
  split at found
  · cases found
    rfl
  · cases found

/-- Witness: the client ends a running test with its results. -/
theorem controlBytes_forward_ended
    : ∃ final, RunWith Orderly runningServer [.pass (byteArrives 4)]
        ([.testEnd, .exchangeResults, .displayResults, .displayResults] ++ []) final
      ∧ List.Pairwise Forward (runningServer.test.state
        :: ([.testEnd, .exchangeResults, .displayResults, .displayResults] ++ [])) := by
  have running : runningServer.test.state = .testRunning := by decide +kernel
  have orderly : Orderly runningServer (.pass (byteArrives 4)) := by
    constructor
    · intro value io found
      rw [byteArrives_reads found]
      decide
    · intro value io found
      rw [byteArrives_reads found]
      decide
    · exact fun _ _ _ _ => running
  have stepped : runningServer.step (.pass (byteArrives 4)) = .ok (runningServerAfter 4,
      [.testEnd, .exchangeResults, .displayResults, .displayResults], 0) := rfl
  have run := RunWith.cons (by decide +kernel) orderly stepped (.nil _)
  exact ⟨_, run, (controlBytes_forward runningServer_reachable running run).1⟩

/-- `TEST_START` in a running test moves it back, and what is received then is not counted. -/
theorem testStart_moves_back
    : Reachable runningServer ∧ runningServer.test.state = .testRunning
      ∧ runningServer.pass (byteArrives 1)
        = .ok (runningServerAfter 1, [.testStart, .testStart])
      ∧ ¬ List.Pairwise Forward [.testRunning, .testStart, .testStart]
      ∧ ¬ CountsBytes (runningServerAfter 1).test := by
  refine ⟨runningServer_reachable, by decide +kernel, rfl, by decide, ?_⟩
  intro counts
  obtain ⟨⟨r, next⟩, received⟩ := Option.isSome_iff_exists.mp
    (rfl : (iperfRecvMt (runningServerAfter 1).test 0 { secs := 0, usecs := 0 }
      oneByte).isSome = true)
  have returned : (iperfRecvMt (runningServerAfter 1).test 0 { secs := 0, usecs := 0 }
      oneByte).map (fun out => (out.1, intervalBytes out.2)) = some (1, 0) := by decide +kernel
  have before : intervalBytes (runningServerAfter 1).test = 0 := by decide +kernel
  rw [received] at returned
  obtain ⟨rfl, after⟩ := Prod.mk.inj (Option.some.inj returned)
  obtain ⟨_, _, -, -, -, total⟩ := counts _ _ _ _ _ received (by decide)
  rw [after, before] at total
  exact absurd total (by decide)

end Iperf
