import Iperf.Client.Steps
import Iperf.Library.TimerList
import Iperf.Model.Timeout
import Iperf.Parameters.Arguments
import Iperf.Server.Strangers

/-! The timeout that the loops of client and server pass to `select(2)`. -/

namespace Iperf

open Checked

-----------------------------------------------------------------------------------------
-- The timeout of a pass
-----------------------------------------------------------------------------------------

/-- The time `tmr_timeout` finds on a list of timers. -/
def timersTimeout {α : Type} (timers : TimerList.Timers IperfTime α) (now : IperfTime)
    : Option Timeval :=
  tmrTimeout (timers.active.head?.map TimerList.Entry.time) now

/-- The lines both loops share: the time of the timers is copied, a copy in microseconds is
capped, and the receive timeout is taken when the capped copy is above it.
-/
def usedTimeout (timeout : Option Timeval) (rcvTimeoutUs : Nat) (rcvTimeout : IperfTime)
    : Timeval :=
  let timeoutUs : Int := match timeout with
    | none => -1
    | some timeout => timeout.inUsecs
  let timeoutUs := if timeoutUs > 1000000 then 1000000 else timeoutUs
  let rcv : Timeval := { sec := rcvTimeout.secs.toNat, usec := rcvTimeout.usecs.toNat }
  if timeoutUs < 0 ∨ timeoutUs > rcvTimeoutUs then rcv else timeout.getD rcv

/-- What `iperf_run_client` passes to `select(2)`. -/
def Client.selectTimeout {α : Type} (c : Client) (timers : TimerList.Timers IperfTime α)
    (now : IperfTime)
    : Option Timeval :=
  if c.test.state = .testRunning ∧ c.rcvTimeoutUs > 0 then
    some (usedTimeout (timersTimeout timers now) c.rcvTimeoutUs c.test.settings.rcvTimeout)
  else timersTimeout timers now

/-- What `iperf_run_server` passes to `select(2)`. -/
def Server.selectTimeout {α : Type} (s : Server) (timers : TimerList.Timers IperfTime α)
    (now : IperfTime)
    : Option Timeval :=
  if s.test.state = .iperfStart then
    if timersTimeout timers now = none ∧ s.test.settings.idleTimeout > 0 then
      some { sec := s.test.settings.idleTimeout.toInt.toNat, usec := 0 }
    else timersTimeout timers now
  else if s.test.mode ≠ .sender then
    some (usedTimeout (timersTimeout timers now) s.rcvTimeoutUs s.test.settings.rcvTimeout)
  else timersTimeout timers now

/-- A timeout that respects its three caps. -/
structure Capped (timers : Option Timeval) (rcvTimeout : IperfTime) (timeout : Timeval)
    : Prop where
  second : timeout.inUsecs ≤ 1000000
  rcvTimeout : timeout.inUsecs ≤ iperfTimeInUsecs rcvTimeout
  timer : ∀ time, timers = some time → timeout.inUsecs ≤ time.inUsecs

/-- Where the caps hold: the next timer comes within a second, or the receive timeout is below
one; without timers the receive timeout is at most a second.
-/
def CapUnneeded (timers : Option Timeval) (rcvTimeout : IperfTime) : Prop :=
  match timers with
  | none => iperfTimeInUsecs rcvTimeout ≤ 1000000
  | some time => time.inUsecs ≤ 1000000 ∨ iperfTimeInUsecs rcvTimeout < 1000000

theorem usedTimeout_capped_iff (timers : Option Timeval) (rcvTimeout : IperfTime)
    : Capped timers rcvTimeout
        (usedTimeout timers (iperfTimeInUsecs rcvTimeout) rcvTimeout)
      ↔ CapUnneeded timers rcvTimeout := by
  have whole : ({ sec := rcvTimeout.secs.toNat, usec := rcvTimeout.usecs.toNat }
      : Timeval).inUsecs = iperfTimeInUsecs rcvTimeout := rfl
  cases timers with
  | none =>
      have used : usedTimeout none (iperfTimeInUsecs rcvTimeout) rcvTimeout
          = { sec := rcvTimeout.secs.toNat, usec := rcvTimeout.usecs.toNat } := by
        simp [usedTimeout]
      rw [used]
      constructor
      · intro capped
        have second := capped.second
        rw [whole] at second
        exact second
      · intro short
        exact ⟨whole.le.trans short, whole.le, fun _ some_ => by cases some_⟩
  | some time =>
      -- the capped copy decides, the uncapped time is passed on
      have used : usedTimeout (some time) (iperfTimeInUsecs rcvTimeout) rcvTimeout
          = if min time.inUsecs 1000000 ≤ iperfTimeInUsecs rcvTimeout then time
            else { sec := rcvTimeout.secs.toNat, usec := rcvTimeout.usecs.toNat } := by
        by_cases near : time.inUsecs ≤ 1000000
        · have kept : ¬ (time.inUsecs : Int) > 1000000 := by omega
          simp only [usedTimeout, Option.getD_some, if_neg kept, Nat.min_eq_left near]
          split_ifs <;> first | rfl | omega
        · have cut : (time.inUsecs : Int) > 1000000 := by omega
          have most : min time.inUsecs 1000000 = 1000000 := by omega
          simp only [usedTimeout, Option.getD_some, if_pos cut, most]
          split_ifs <;> first | rfl | omega
      rw [used]
      split
      · next within =>
          constructor
          · intro capped
            exact .inl capped.second
          · rintro (near | short)
            · exact ⟨near, by omega, fun other same => by rw [Option.some.inj same]⟩
            · exact ⟨by omega, by omega, fun other same => by rw [Option.some.inj same]⟩
      · next beyond =>
          refine iff_of_true ⟨by omega, whole.le, ?_⟩ (by unfold CapUnneeded; omega)
          intro other same
          obtain rfl := Option.some.inj same
          omega

-----------------------------------------------------------------------------------------
-- The setting in the loops
-----------------------------------------------------------------------------------------

/-- The receive timeout is still the one the loop began with. -/
def SameTimeout (test next : Test) : Prop :=
  next.settings.rcvTimeout = test.settings.rcvTimeout

theorem SameTimeout.trans {test next last : Test} (first : SameTimeout test next)
    (second : SameTimeout next last)
    : SameTimeout test last := Eq.trans second first

theorem iperfStatsCallback_timeout (test : Test) (now : IperfTime)
    : SameTimeout test (iperfStatsCallback test now) := by
  obtain ⟨index, traffic, count, exceeded, shape⟩ := iperfStatsCallback_shape test now
  rw [shape]
  rfl

theorem iperfSetSendState_timeout {test next : Test} {state : TestState} {sent : Bool}
    (told : iperfSetSendState test state sent = .ok next)
    : SameTimeout test next := by
  rcases iperfSetSendState_ok told with ⟨rfl, -⟩ | ⟨rfl, -⟩ <;> rfl

theorem setProtocol_timeout (test : Test) (protocol : ProtocolId)
    : SameTimeout test (setProtocol test protocol) := by
  cases protocol <;> simp only [SameTimeout, setProtocol, checkSenderHasRetransmits_eq]

theorem iperfSetTestReverse_timeout (test : Test) (reverse : Bool)
    : SameTimeout test (iperfSetTestReverse test reverse) := by
  rw [iperfSetTestReverse, checkSenderHasRetransmits_eq]
  rfl

theorem iperfSetTestBidirectional_timeout (test : Test) (bidirectional : Bool)
    : SameTimeout test (iperfSetTestBidirectional test bidirectional) := by
  unfold iperfSetTestBidirectional
  split
  · rfl
  · exact iperfSetTestReverse_timeout _ _

theorem getProtocol_timeout (test : Test) (json : CJson)
    : SameTimeout test (getProtocol test json) := by
  have chosen (flag : Bool) (test : Test) (protocol : ProtocolId)
      : SameTimeout test (if flag then setProtocol test protocol else test) := by
    cases flag
    · rfl
    · exact setProtocol_timeout test protocol
  exact ((chosen _ _ _).trans (chosen _ _ _)).trans (chosen _ _ _)

theorem getDirection_timeout (test : Test) (json : CJson)
    : SameTimeout test (getDirection test json) := by
  have first (flag : Bool) (test : Test)
      : SameTimeout test (if flag then iperfSetTestReverse test true else test) := by
    cases flag
    · rfl
    · exact iperfSetTestReverse_timeout test true
  have second (flag : Bool) (test : Test)
      : SameTimeout test (if flag then iperfSetTestBidirectional test true else test) := by
    cases flag
    · rfl
    · exact iperfSetTestBidirectional_timeout test true
  exact (first _ _).trans (second _ _)

theorem getParameters_timeout (test : Test) (json : CJson)
    : SameTimeout test (getParameters test json) := by
  have protocol := getProtocol_timeout test json
  unfold getParameters
  dsimp only
  generalize getProtocol test json = chosen at *
  split <;> exact protocol.trans (getDirection_timeout _ json)

theorem getResults_timeout (test : Test) (json : CJson)
    : SameTimeout test (getResults test json).2 := by
  obtain ⟨_, _, _, _, _, -, shape⟩ := getResults_shape test json
  rw [shape]
  rfl

theorem iperfAccept_timeout {test next : Test} {io : AcceptIo}
    (accepted : iperfAccept test io = .ok next)
    : SameTimeout test next := by
  unfold iperfAccept at accepted
  split at accepted
  · cases accepted
  · split at accepted
    · unfold acceptClient at accepted
      dsimp only at accepted
      simp only [guard_eq_ok, bind_eq_ok] at accepted
      obtain ⟨-, -, sent, told, exchanged, parameters, -, finished⟩ := accepted
      obtain rfl := Except.ok.inj finished
      obtain ⟨json, listener, protListener, state, -, rfl, -, -, -⟩ :=
        serverExchangeParameters_ok parameters
      have whole := (iperfSetSendState_timeout told).trans (getParameters_timeout sent json)
      exact whole
    · obtain rfl := Except.ok.inj accepted
      rfl

theorem iperfHandleMessageServer_timeout {test next : Test} {message : ControlMessage}
    {visited : List TestState}
    (handled : iperfHandleMessageServer test message = .ok (next, visited))
    : SameTimeout test next := by
  cases message with
  | failed => cases handled
  | closed =>
      obtain ⟨rfl, -⟩ := Prod.mk.inj (Except.ok.inj handled)
      rfl
  | byte value io =>
      unfold iperfHandleMessageServer at handled
      dsimp only at handled
      split at handled
      · obtain ⟨rfl, -⟩ := Prod.mk.inj (Except.ok.inj handled)
        rfl
      · obtain ⟨done, ended, shape⟩ := map_eq_ok.mp handled
        obtain ⟨rfl, -⟩ := Prod.mk.inj shape
        unfold serverTestEnd at ended
        simp only [bind_eq_ok] at ended
        obtain ⟨exchanging, told, exchanged, results, displayed⟩ := ended
        have stats := iperfStatsCallback_timeout
          { test with state := .ofByte value, done := true, cpuUtil := io.cpuUtil } io.now
        have second : SameTimeout exchanging exchanged := by
          unfold serverExchangeResults at results
          split at results
          · cases results
          · next json _ =>
              have peer := getResults_timeout exchanging json
              split at results
              · cases results
              · next read =>
                  rw [read] at peer
                  split at results
                  · obtain rfl := Except.ok.inj results
                    exact peer
                  · cases results
        have first := stats.trans (iperfSetSendState_timeout told)
        exact (first.trans second).trans (iperfSetSendState_timeout displayed)
      · obtain ⟨rfl, -⟩ := Prod.mk.inj (Except.ok.inj handled)
        rfl
      · obtain ⟨rfl, -⟩ := Prod.mk.inj (Except.ok.inj handled)
        rfl
      · cases handled

theorem addStream_timeout {s next : Server} {fd : Int} {io : StreamIo}
    (added : s.addStream fd io = .ok next)
    : SameTimeout s.test next.test := by
  obtain ⟨_, _, _, _, rfl⟩ := addStream_eq added
  rfl

theorem acceptStream_timeout {s next : Server} {io : StreamIo}
    (accepted : s.acceptStream io = .ok next)
    : SameTimeout s.test next.test := by
  unfold Server.acceptStream at accepted
  simp only [bind_eq_ok] at accepted
  obtain ⟨⟨test, fd, isClosed⟩, connection, _, -, rest⟩ := accepted
  have first : SameTimeout s.test test := by
    unfold protocolAccept at connection
    split at connection
    · obtain ⟨⟨taken, wasClosed⟩, -, shape⟩ := map_eq_ok.mp connection
      obtain ⟨rfl, -⟩ := Prod.mk.inj shape
      rfl
    all_goals
      obtain ⟨⟨taken, fd⟩, udp, shape⟩ := map_eq_ok.mp connection
      obtain ⟨rfl, -⟩ := Prod.mk.inj shape
      obtain ⟨listener, -, shape⟩ := map_eq_ok.mp (mapError_eq_ok.mp udp)
      obtain ⟨rfl, -⟩ := Prod.mk.inj shape
      rfl
  dsimp only at rest
  split at rest
  · obtain rfl := Except.ok.inj rest
    exact first
  · exact first.trans (addStream_timeout rest)

theorem startTest_timeout {s next : Server} {io : StartIo} (started : s.startTest io = .ok next)
    : SameTimeout s.test next.test := by
  unfold Server.startTest at started
  simp only [bind_eq_ok, guard_eq_ok] at started
  obtain ⟨relistened, listening, _, -, starting, told, running, sent, -, finished⟩ := started
  obtain ⟨listener, rfl, -⟩ := relisten_ok listening
  obtain rfl := Except.ok.inj finished
  have first := iperfSetSendState_timeout told
  have second := iperfSetSendState_timeout sent
  exact @SameTimeout.trans s.test starting _ first second

theorem runTimers_timeout (s : Server) (io : PassIo)
    : SameTimeout s.test (s.runTimers io).test := by
  unfold Server.runTimers
  induction io.expired generalizing s with
  | nil => rfl
  | cons timer rest ih =>
      have first : SameTimeout s.test (s.runTimer io.timerNow timer).test := by
        cases timer with
        | stats =>
            unfold Server.runTimer
            dsimp only
            split
            · split
              · rfl
              · exact iperfStatsCallback_timeout _ _
            · rfl
        | safety =>
            unfold Server.runTimer
            dsimp only
            split
            · split <;> rfl
            · rfl
        | omitPeriod =>
            unfold Server.runTimer
            dsimp only
            split <;> rfl
      exact first.trans (ih _)

theorem handleReady_timeout {s next : Server} {readSet : List Int} {io : PassIo}
    {visited : List TestState} (handled : s.handleReady readSet io = .ok (next, visited))
    : SameTimeout s.test next.test := by
  obtain ⟨first, _, second, _, _, listener, control, created, -⟩ := handleReady_ok handled
  have listened : SameTimeout s.test first.test := by
    rcases handleListener_ok listener with ⟨-, rfl, -⟩ | ⟨-, -, test, accepted, rfl, -⟩
    · rfl
    · obtain ⟨toSend, toRec, shape⟩ := setStreamsNumber_eq { s with test }
      rw [shape]
      exact iperfAccept_timeout accepted
  have controlled : SameTimeout first.test second.test := by
    rcases handleControl_ok control with ⟨-, rfl, -, -⟩ | ⟨-, test, message, rfl⟩
    · rfl
    · exact iperfHandleMessageServer_timeout message
  refine (listened.trans controlled).trans ?_
  unfold Server.createStreams at created
  split at created
  · obtain ⟨mid, accepted, rest⟩ := bind_eq_ok.mp created
    have streams : SameTimeout second.test mid.test := by
      unfold Server.acceptReady at accepted
      split at accepted
      · exact acceptStream_timeout accepted
      · obtain rfl := Except.ok.inj accepted
        rfl
    split at rest
    · exact streams.trans (startTest_timeout rest)
    · obtain rfl := Except.ok.inj rest
      exact streams
  · obtain rfl := Except.ok.inj created
    rfl

/-- No event changes the receive timeout of a server. -/
theorem Server.step_timeout {s next : Server} {event : Event} {visited : List TestState}
    {received : Nat} (stepped : s.step event = .ok (next, visited, received))
    : SameTimeout s.test next.test ∧ next.rcvTimeoutUs = s.rcvTimeoutUs := by
  cases event with
  | pass io =>
      obtain ⟨⟨out, states⟩, ran, shape⟩ := map_eq_ok.mp stepped
      obtain ⟨rfl, -⟩ := Prod.mk.inj shape
      obtain ⟨mid, rfl, before⟩ := pass_ok ran
      have timed := (runTimers_frame mid io).2.1.rcvTimeoutUs
      have noted : SameTimeout s.test (s.noteProgress io.clock).test
          ∧ (s.noteProgress io.clock).rcvTimeoutUs = s.rcvTimeoutUs := by
        unfold Server.noteProgress
        split <;> exact ⟨rfl, rfl⟩
      rcases before with ⟨-, rfl, -⟩ | ⟨readSet, -, handled⟩
      · exact ⟨noted.1.trans (runTimers_timeout _ io), timed.trans noted.2⟩
      · have watch := (handleReady_watch handled).rcvTimeoutUs
        exact ⟨(noted.1.trans (handleReady_timeout handled)).trans (runTimers_timeout _ io),
          timed.trans (watch.trans noted.2)⟩
  | receive position arrivalTime results =>
      obtain ⟨-, _, rfl, _, _, _, _, rfl⟩ := step_worker (by simp) stepped
      exact ⟨rfl, rfl⟩
  | send position before io =>
      obtain ⟨-, _, rfl, _, _, _, _, rfl⟩ := step_worker (by simp) stepped
      exact ⟨rfl, rfl⟩

theorem Handled.timeout {c next : Client} {state : TestState} (handled : Handled c state next)
    : SameTimeout c.test next.test := by
  cases handled with
  | exchangeResults json taken => exact getResults_timeout _ json
  | displayResults =>
      unfold iperfClientEnd
      split <;> rfl
  | _ => rfl

theorem clientTimers_timeout (now : IperfTime) (c : Client) (expired : List Timer)
    : SameTimeout c.test (expired.foldl (Client.runTimer now) c).test := by
  induction expired generalizing c with
  | nil => rfl
  | cons timer rest ih =>
      have first : SameTimeout c.test (c.runTimer now timer).test := by
        cases timer with
        | stats =>
            unfold Client.runTimer
            dsimp only
            split
            · exact iperfStatsCallback_timeout _ _
            · rfl
        | safety | omitPeriod =>
            unfold Client.runTimer
            dsimp only
            split <;> rfl
      exact first.trans (ih _)

theorem running_timeout {c next : Client} {io : ClientPassIo} (ran : c.running io = .ok next)
    : SameTimeout c.test next.test := by
  rcases running_ok ran with ⟨-, rfl⟩ | ⟨timed, ⟨-, started, threads, timers⟩, finished⟩
  · rfl
  · have first : SameTimeout c.test started.test := by
      rcases startThreads_ok threads with ⟨-, rfl⟩ | ⟨-, rfl⟩
      · rfl
      · rfl
    have second : SameTimeout c.test timed.test := by
      rw [timers]
      exact first.trans (clientTimers_timeout io.timerNow started io.expired)
    have stats : SameTimeout timed.test (timed.ended io) := iperfStatsCallback_timeout
      { stopSenders timed.test with done := true, cpuUtil := io.cpuUtil } io.timerNow
    rcases finish_ok finished with ⟨-, rfl⟩ | ⟨-, ⟨rfl, -⟩ | ⟨rfl, -⟩⟩
    · exact second
    · exact second.trans stats
    · exact second.trans stats

/-- No event changes the receive timeout of a client. -/
theorem Client.step_timeout {c next : Client} {event : ClientEvent} {received : Nat}
    (stepped : c.step event = .ok (next, received))
    : SameTimeout c.test next.test ∧ next.rcvTimeoutUs = c.rcvTimeoutUs := by
  cases event with
  | pass io =>
      obtain ⟨out, ran, shape⟩ := map_eq_ok.mp stepped
      obtain ⟨rfl, -⟩ := Prod.mk.inj shape
      obtain ⟨mid, after, rest⟩ := clientPass_parts ran
      have noted : SameTimeout c.test (c.noteProgress (c.clock io)).test
          ∧ (c.noteProgress (c.clock io)).rcvTimeoutUs = c.rcvTimeoutUs := by
        unfold Client.noteProgress
        split <;> exact ⟨rfl, rfl⟩
      refine ⟨(noted.1.trans ?_).trans (running_timeout rest),
        (clientPass_watch ran).rcvTimeoutUs.trans noted.2⟩
      unfold Client.AfterMessage at after
      split at after
      · exact after ▸ rfl
      · obtain ⟨_, _, -, byte⟩ := clientMessage_handled after
        exact byte.timeout
  | receive position arrivalTime results =>
      obtain ⟨_, rfl, _, _, _, _, rfl⟩ := clientStep_worker (by simp) stepped
      exact ⟨rfl, rfl⟩
  | send position before io =>
      obtain ⟨_, rfl, _, _, _, _, rfl⟩ := clientStep_worker (by simp) stepped
      exact ⟨rfl, rfl⟩

-----------------------------------------------------------------------------------------
-- Every pass
-----------------------------------------------------------------------------------------

/-- A server after any events since it began to listen. -/
inductive ServerReaches (start : Server) : Server → Prop where
  | start : ServerReaches start start
  | step {s next : Server} {event : Event} {visited : List TestState} {received : Nat}
    (earlier : ServerReaches start s) (stepped : s.step event = .ok (next, visited, received))
    : ServerReaches start next

/-- A client after any events since it connected. -/
inductive ClientReaches (start : Client) : Client → Prop where
  | start : ClientReaches start start
  | step {c next : Client} {event : ClientEvent} {received : Nat}
    (earlier : ClientReaches start c) (stepped : c.step event = .ok (next, received))
    : ClientReaches start next

/-- By induction on the run. -/
theorem ServerReaches.timeout {start s : Server} (reaches : ServerReaches start s)
    : SameTimeout start.test s.test ∧ s.rcvTimeoutUs = start.rcvTimeoutUs := by
  induction reaches with
  | start => exact ⟨rfl, rfl⟩
  | step _ stepped ih =>
      obtain ⟨setting, limit⟩ := Server.step_timeout stepped
      exact ⟨ih.1.trans setting, limit.trans ih.2⟩

/-- By induction on the run. -/
theorem ClientReaches.timeout {start c : Client} (reaches : ClientReaches start c)
    : SameTimeout start.test c.test ∧ c.rcvTimeoutUs = start.rcvTimeoutUs := by
  induction reaches with
  | start => exact ⟨rfl, rfl⟩
  | step _ stepped ih =>
      obtain ⟨setting, limit⟩ := Client.step_timeout stepped
      exact ⟨ih.1.trans setting, limit.trans ih.2⟩

/-- In every pass of a running client with a receive timeout, and of a server that has a client
and receives, the timeout of `select(2)` respects its caps exactly when the cap at one second
is not needed.
-/
theorem selectTimeout_capped_iff {α : Type} (test : Test) (began now : IperfTime)
    (timers : TimerList.Timers IperfTime α)
    : (∀ c, ClientReaches (clientStart test began) c → c.test.state = .testRunning
        → 0 < c.rcvTimeoutUs
        → ∃ timeout, c.selectTimeout timers now = some timeout
          ∧ (Capped (timersTimeout timers now) test.settings.rcvTimeout timeout
            ↔ CapUnneeded (timersTimeout timers now) test.settings.rcvTimeout))
      ∧ ∀ listener flag s, ServerReaches (serverStart test listener flag began) s
        → s.test.state ≠ .iperfStart → s.test.mode ≠ .sender
        → ∃ timeout, s.selectTimeout timers now = some timeout
          ∧ (Capped (timersTimeout timers now) test.settings.rcvTimeout timeout
            ↔ CapUnneeded (timersTimeout timers now) test.settings.rcvTimeout) := by
  refine ⟨?_, ?_⟩
  · intro c reaches running active
    obtain ⟨setting, limit⟩ := reaches.timeout
    have same : c.rcvTimeoutUs = iperfTimeInUsecs test.settings.rcvTimeout := by
      rw [limit] at active ⊢
      unfold clientStart at active ⊢
      dsimp only at active ⊢
      split at active
      · next receives => rw [if_pos receives]
      · exact absurd active (lt_irrefl 0)
    refine ⟨_, if_pos ⟨running, active⟩, ?_⟩
    rw [same, show c.test.settings.rcvTimeout = test.settings.rcvTimeout from setting]
    exact usedTimeout_capped_iff _ _
  · intro listener flag s reaches busy receives
    obtain ⟨setting, limit⟩ := reaches.timeout
    have same : s.rcvTimeoutUs = iperfTimeInUsecs test.settings.rcvTimeout := limit
    refine ⟨usedTimeout (timersTimeout timers now) s.rcvTimeoutUs s.test.settings.rcvTimeout,
      ?_, ?_⟩
    · rw [Server.selectTimeout, if_neg busy, if_pos receives]
    · rw [same, show s.test.settings.rcvTimeout = test.settings.rcvTimeout from setting]
      exact usedTimeout_capped_iff _ _

/-- The server that waits for its streams is reached. -/
theorem creatingServer_reached
    : ServerReaches sampleStart (creatingServer (.object [(.tcp, .bool true)])) :=
  @ServerReaches.step _ _ _ (.pass (clientConnects (.object [(.tcp, .bool true)])))
    [.createStreams] 0 .start rfl

/-- One timer that expires at the given second. -/
def timerAt (seconds : UInt32) : TimerList.Timers IperfTime Unit :=
  { active := [{ id := 1, time := { secs := seconds, usecs := 0 }, record := () }] }

/-- With a timer half a second ahead the server's timeout is capped. -/
theorem selectTimeout_capped_iff_near
    : ∃ timeout,
        (creatingServer (.object [(.tcp, .bool true)])).selectTimeout (timerAt 1)
            { secs := 0, usecs := 500000 } = some timeout
        ∧ Capped (timersTimeout (timerAt 1) { secs := 0, usecs := 500000 })
            freshServer.settings.rcvTimeout timeout := by
  obtain ⟨timeout, passed, capped⟩ :=
    (selectTimeout_capped_iff freshServer { secs := 0, usecs := 0 } { secs := 0, usecs := 500000 }
      (timerAt 1)).2 3 0 _ creatingServer_reached (by decide +kernel) (by decide +kernel)
  exact ⟨timeout, passed, capped.mpr (.inl (by decide +kernel))⟩

/-- With a timer ten seconds ahead it is ten seconds. -/
theorem selectTimeout_not_capped
    : ServerReaches sampleStart (creatingServer (.object [(.tcp, .bool true)]))
      ∧ (creatingServer (.object [(.tcp, .bool true)])).test.state = .createStreams
      ∧ (creatingServer (.object [(.tcp, .bool true)])).test.mode = .receiver
      ∧ (creatingServer (.object [(.tcp, .bool true)])).selectTimeout (timerAt 10)
          { secs := 0, usecs := 0 } = some { sec := 10, usec := 0 }
      ∧ ¬ Capped (timersTimeout (timerAt 10) { secs := 0, usecs := 0 })
          freshServer.settings.rcvTimeout { sec := 10, usec := 0 } :=
  ⟨creatingServer_reached, by decide +kernel, by decide +kernel, by decide +kernel,
    fun capped => absurd capped.second (by decide)⟩

end Iperf
