import Iperf.Client.Loop
import Iperf.Results.Agreement
import Iperf.Server.Phases

/-! What an event can do to a client: a message and the rest of a pass, case by case, and the
calls of the workers.
-/

namespace Iperf

open Checked KeyedUpdate

-----------------------------------------------------------------------------------------
-- Results of the peer
-----------------------------------------------------------------------------------------

/-- A stream after some reports of the peer about it. -/
def TakesPeer (sp sp' : Stream) : Prop :=
  ∃ peers : List PeerResult, sp' = peers.foldl (fun sp peer => takePeerResult peer sp) sp

theorem TakesPeer.refl (sp : Stream) : TakesPeer sp sp := ⟨[], rfl⟩

/-- What one report keeps is kept, by induction on the reports. -/
theorem TakesPeer.kept {α : Type} {sp sp' : Stream} (takes : TakesPeer sp sp') (f : Stream → α)
    (one : ∀ peer sp, f (takePeerResult peer sp) = f sp)
    : f sp' = f sp := by
  obtain ⟨peers, rfl⟩ := takes
  induction peers generalizing sp with
  | nil => rfl
  | cons peer rest ih => exact ih.trans (one peer sp)

/-- Every stream comes from one that was there, by induction on the streams. -/
theorem exists_of_forall₂_right {r : Stream → Stream → Prop} {streams streams' : List Stream}
    (related : List.Forall₂ r streams streams') {sp' : Stream} (member : sp' ∈ streams')
    : ∃ sp ∈ streams, r sp sp' := by
  induction related with
  | nil => cases member
  | cons head _ ih =>
      rcases List.mem_cons.mp member with rfl | later
      · exact ⟨_, List.mem_cons_self, head⟩
      · obtain ⟨sp, isThere, holds⟩ := ih later
        exact ⟨sp, List.mem_cons_of_mem _ isThere, holds⟩

/-- By induction on the streams. -/
theorem map_eq_of_forall₂ {α : Type} {f : Stream → α} {streams streams' : List Stream}
    (same : List.Forall₂ (fun sp sp' => f sp' = f sp) streams streams')
    : streams'.map f = streams.map f := by
  induction same with
  | nil => rfl
  | cons head _ ih => rw [List.map_cons, List.map_cons, head, ih]

/-- By induction on the elements of the array. -/
theorem getStreamResult_takes (items : List CJson) {start : Option IError × List Stream}
    {streams : List Stream} (before : List.Forall₂ TakesPeer streams start.2)
    : List.Forall₂ TakesPeer streams (items.foldl getStreamResult start).2 := by
  induction items generalizing start with
  | nil => exact before
  | cons json rest ih =>
      refine ih ?_
      unfold getStreamResult
      split
      · exact before
      · next peer _ =>
          split
          · exact before
          · next updated =>
              refine updateFirst_forall₂ before ?_ updated
              rintro sp _ ⟨peers, rfl⟩
              exact ⟨peers ++ [peer], by rw [List.foldl_append]; rfl⟩

/-- The results of the peer change the streams and what is known about the peer. -/
theorem getResults_shape (test : Test) (json : CJson)
    : ∃ streams remoteCpuUtil senderHasRetransmits otherSideHasRetransmits remoteCongestionUsed,
      List.Forall₂ TakesPeer test.streams streams
      ∧ (getResults test json).2 = {
        test with
        streams
        remoteCpuUtil
        senderHasRetransmits
        otherSideHasRetransmits
        remoteCongestionUsed
      } := by
  have same : List.Forall₂ TakesPeer test.streams test.streams :=
    List.forall₂_same.mpr fun sp _ => .refl sp
  have peer (cpuUtil : ℚ × ℚ × ℚ) (hasRetransmits : Int32) : ∃ a b c d,
      takePeerTest test json cpuUtil hasRetransmits = {
        test with
        remoteCpuUtil := a
        senderHasRetransmits := b
        otherSideHasRetransmits := c
        remoteCongestionUsed := d
      } := by
    unfold takePeerTest
    dsimp only
    split <;> split <;> exact ⟨_, _, _, _, rfl⟩
  unfold getResults
  split
  · next total user system retransmits _ _ _ _ =>
      obtain ⟨a, b, c, d, shape⟩ := peer
        (total.valuedouble, user.valuedouble, system.valuedouble) retransmits.valueint.toInt32
      rw [shape]
      dsimp only
      split
      · next items _ => exact ⟨_, a, b, c, d, getStreamResult_takes items same, rfl⟩
      · exact ⟨_, a, b, c, d, same, rfl⟩
  · split <;> exact ⟨_, _, _, _, _, same, rfl⟩

-----------------------------------------------------------------------------------------
-- Messages
-----------------------------------------------------------------------------------------

/-- A stream as it is added to the test. -/
structure NewStream (sp : Stream) : Prop where
  threadCreated : sp.threadCreated = false
  done : sp.done = false
  result : sp.result = {}

theorem createStreamsLoop_new {sender : Bool} {count : Nat} {test next : Test}
    {connections rest : List ConnectIo}
    (created : createStreamsLoop sender count test connections = .ok (next, rest))
    : ∃ added, next = { test with streams := test.streams ++ added }
      ∧ ∀ sp ∈ added, NewStream sp ∧ sp.sender = sender := by
  induction count generalizing test connections with
  | zero =>
      obtain ⟨rfl, -⟩ := Prod.mk.inj (Except.ok.inj created)
      exact ⟨[], by rw [List.append_nil], fun _ member => absurd member List.not_mem_nil⟩
  | succ count ih =>
      cases connections with
      | nil => cases created
      | cons io others =>
          unfold createStreamsLoop at created
          simp only [bind_eq_ok] at created
          obtain ⟨s, -, mid, isAdded, later⟩ := created
          obtain ⟨added, rfl, new⟩ := ih later
          unfold iperfNewStream at isAdded
          split at isAdded
          · cases isAdded
          · obtain rfl := Except.ok.inj isAdded
            unfold iperfAddStream
            rw [List.append_assoc]
            exact ⟨_, rfl, List.forall_mem_cons.mpr ⟨⟨⟨rfl, rfl, rfl⟩, rfl⟩, new⟩⟩

theorem clientCreateStreams_new {test next : Test} {connections : List ConnectIo}
    (created : clientCreateStreams test connections = .ok next)
    : ∃ added, next = { test with streams := test.streams ++ added }
      ∧ ∀ sp ∈ added, NewStream sp := by
  unfold clientCreateStreams at created
  split at created
  · simp only [bind_eq_ok] at created
    obtain ⟨⟨mid, rest⟩, first, ⟨last, _⟩, second, shape⟩ := created
    obtain rfl := Except.ok.inj shape
    obtain ⟨sending, rfl, newSending⟩ := createStreamsLoop_new first
    obtain ⟨receiving, rfl, newReceiving⟩ := createStreamsLoop_new second
    refine ⟨sending ++ receiving, by rw [List.append_assoc], fun sp member => ?_⟩
    rcases List.mem_append.mp member with sends | receives
    · exact (newSending sp sends).1
    · exact (newReceiving sp receives).1
  all_goals
    obtain ⟨⟨mid, rest⟩, only, rfl⟩ := map_eq_ok.mp created
    obtain ⟨added, rfl, new⟩ := createStreamsLoop_new only
    exact ⟨added, rfl, fun sp member => (new sp member).1⟩

/-- What a message can do that does not end the run with an error. -/
inductive Handled (c : Client) : TestState → Client → Prop where
  | paramExchange
    : Handled c .paramExchange { c with test := { c.test with state := .paramExchange } }
  | createStreams {added : List Stream} (new : ∀ sp ∈ added, NewStream sp)
    : Handled c .createStreams {
        c with
        test := { c.test with state := .createStreams, streams := c.test.streams ++ added }
      }
  | testStart (now : IperfTime)
    : Handled c .testStart
        (Client.createTimers {
          c with
          test := iperfInitTest { c.test with state := .testStart } now
        })
  | testRunning : Handled c .testRunning { c with test := { c.test with state := .testRunning } }
  | exchangeResults (json : CJson)
    (taken : (getResults { c.test with state := .exchangeResults } json).1 = none)
    : Handled c .exchangeResults
        { c with test := (getResults { c.test with state := .exchangeResults } json).2 }
  | displayResults
    : Handled c .displayResults
        { c with test := iperfClientEnd { c.test with state := .displayResults } }
  | iperfDone : Handled c .iperfDone { c with test := { c.test with state := .iperfDone } }

theorem clientMessage_handled {c next : Client} {message : ClientMessage}
    (handled : c.handleMessage message = .ok next)
    : ∃ value io, message = .byte value io ∧ Handled c (.ofByte value) next := by
  cases message with
  | failed => cases handled
  | closed => cases handled
  | byte value io =>
      refine ⟨value, io, rfl, ?_⟩
      unfold Client.handleMessage at handled
      dsimp only at handled
      split at handled
      · next state =>
          split at handled
          · obtain rfl := Except.ok.inj handled
            rw [state]
            exact .paramExchange
          · cases handled
      · next state =>
          obtain ⟨test, created, rfl⟩ := map_eq_ok.mp handled
          obtain ⟨added, rfl, new⟩ := clientCreateStreams_new (mapError_eq_ok.mp created)
          rw [state]
          exact .createStreams new
      · next state =>
          obtain rfl := Except.ok.inj handled
          rw [state]
          exact .testStart io.now
      · next state =>
          obtain rfl := Except.ok.inj handled
          rw [state]
          exact .testRunning
      · next state =>
          obtain ⟨test, exchanged, rfl⟩ := map_eq_ok.mp handled
          rw [mapError_eq_ok] at exchanged
          unfold clientExchangeResults at exchanged
          obtain ⟨-, exchanged⟩ := guard_eq_ok.mp exchanged
          rw [state] at exchanged ⊢
          split at exchanged
          · cases exchanged
          · next json _ =>
              have shape := Handled.exchangeResults (c := c) json
              split at exchanged
              · cases exchanged
              · next read =>
                  obtain rfl := Except.ok.inj exchanged
                  rw [read] at shape
                  exact shape rfl
      · next state =>
          obtain rfl := Except.ok.inj handled
          rw [state]
          exact .displayResults
      · next state =>
          obtain rfl := Except.ok.inj handled
          rw [state]
          exact .iperfDone
      all_goals cases handled

-----------------------------------------------------------------------------------------
-- Passes
-----------------------------------------------------------------------------------------

/-- The control message that a pass reads. -/
def Client.reads (c : Client) (io : ClientPassIo) : Option ClientMessage :=
  match io.select with
  | .ready readSet => if fdIsset c.test.ctrlSck readSet then some io.message else none
  | _ => none

/-- A client once the message of the pass, if there is one, is handled. -/
def Client.AfterMessage (c : Client) (io : ClientPassIo) (mid : Client) : Prop :=
  match c.reads io with
  | none => mid = c
  | some message => c.handleMessage message = .ok mid

theorem noteProgress_test (c : Client) (now : IperfTime)
    : (c.noteProgress now).test = c.test ∧ (c.noteProgress now).startup = c.startup
      ∧ (c.noteProgress now).timer = c.timer ∧ (c.noteProgress now).omitTimer = c.omitTimer := by
  unfold Client.noteProgress
  split <;> exact ⟨rfl, rfl, rfl, rfl⟩

/-- The clock reading with which a pass notes progress. -/
def Client.clock (c : Client) (io : ClientPassIo) : IperfTime :=
  match io.select with
  | .timedOut => if c.watches then io.later else io.now
  | _ => io.now

theorem clientPass_ok {c next : Client} {io : ClientPassIo} (ran : c.pass io = .ok next)
    : (c.noteProgress (c.clock io)).proceed io = .ok next := by
  unfold Client.pass at ran
  unfold Client.clock
  split at ran
  · next failed =>
      split at ran
      · cases ran
      · rw [failed]
        exact ran
  · next timedOut =>
      rw [timedOut]
      dsimp only
      split at ran
      · next watches =>
          rw [if_pos watches]
          split at ran
          · cases ran
          · exact ran
      · next looksAway =>
          rw [if_neg looksAway]
          exact ran
  · next ready =>
      rw [ready]
      exact ran

/-- A pass notes progress, handles a message, and goes on with a running test. -/
theorem clientPass_parts {c next : Client} {io : ClientPassIo} (ran : c.pass io = .ok next)
    : ∃ mid, (c.noteProgress (c.clock io)).AfterMessage io mid ∧ mid.running io = .ok next := by
  have proceeds := clientPass_ok ran
  generalize c.noteProgress (c.clock io) = noted at proceeds ⊢
  unfold Client.AfterMessage Client.reads
  unfold Client.proceed at proceeds
  cases select : io.select with
  | ready readSet =>
      rw [select] at proceeds
      dsimp only at proceeds ⊢
      split at proceeds
      · next isReady =>
          rw [if_pos isReady]
          exact bind_eq_ok.mp proceeds
      · next notReady =>
          rw [if_neg notReady]
          exact ⟨noted, rfl, proceeds⟩
  | failed errno =>
      rw [select] at proceeds
      exact ⟨noted, rfl, proceeds⟩
  | timedOut =>
      rw [select] at proceeds
      exact ⟨noted, rfl, proceeds⟩

/-- The first pass in `TEST_RUNNING` starts the threads. -/
theorem startThreads_ok {c started : Client} {io : ClientPassIo}
    (threads : c.startThreads io = .ok started)
    : (c.startup = false ∧ started = c)
      ∨ (c.startup = true ∧ started = {
          c with
          startup := false
          test := {
            c.test with
            streams := c.test.streams.map (fun sp => { sp with threadCreated := true })
          }
        }) := by
  unfold Client.startThreads at threads
  split at threads
  · next first =>
      split at threads
      · exact .inr ⟨first, (Except.ok.inj threads).symm⟩
      · cases threads
  · next later => exact .inl ⟨Bool.eq_false_iff.mpr later, (Except.ok.inj threads).symm⟩

/-- No timer leaves the state. -/
theorem runTimer_state (c : Client) (now : IperfTime) (timer : Timer)
    : (c.runTimer now timer).test.state = c.test.state := by
  cases timer with
  | safety =>
      unfold Client.runTimer
      dsimp only
      split <;> rfl
  | stats =>
      obtain ⟨_, _, _, _, shape⟩ := iperfStatsCallback_shape c.test now
      unfold Client.runTimer
      dsimp only
      split
      · rw [shape]
      · rfl
  | omitPeriod =>
      unfold Client.runTimer
      dsimp only
      split <;> rfl

/-- The client when a pass looks at the end conditions: its threads run, its timers ran. -/
def Client.Checks (c : Client) (io : ClientPassIo) (timed : Client) : Prop :=
  c.test.state = .testRunning
    ∧ ∃ started, c.startThreads io = .ok started
      ∧ timed = io.expired.foldl (Client.runTimer io.timerNow) started

theorem running_ok {c next : Client} {io : ClientPassIo} (ran : c.running io = .ok next)
    : (c.test.state ≠ .testRunning ∧ next = c)
      ∨ ∃ timed, c.Checks io timed ∧ timed.finish io = .ok next := by
  unfold Client.running at ran
  split at ran
  · next running =>
      obtain ⟨started, threads, finished⟩ := bind_eq_ok.mp ran
      exact .inr ⟨_, ⟨running, started, threads, rfl⟩, finished⟩
  · next other => exact .inl ⟨other, (Except.ok.inj ran).symm⟩

/-- A client that sends `TEST_END`. -/
def Client.ended (c : Client) (io : ClientPassIo) : Test :=
  iperfStatsCallback { stopSenders c.test with done := true, cpuUtil := io.cpuUtil } io.timerNow

theorem finish_ok {c next : Client} {io : ClientPassIo} (finished : c.finish io = .ok next)
    : (¬ (c.test.omitting = false ∧ c.test.fulfilled = true) ∧ next = c)
      ∨ ((c.test.omitting = false ∧ c.test.fulfilled = true)
        ∧ ((next = { c with test := { c.ended io with state := .testEnd } }
            ∧ 0 ≤ (c.ended io).ctrlSck)
          ∨ (next = { c with test := c.ended io } ∧ (c.ended io).ctrlSck < 0))) := by
  unfold Client.finish at finished
  split at finished
  · next stopped =>
      obtain ⟨test, sent, rfl⟩ := map_eq_ok.mp finished
      rcases iperfSetSendState_ok (mapError_eq_ok.mp sent) with ⟨rfl, connected⟩ | ⟨rfl, lost⟩
      · exact .inr ⟨stopped, .inl ⟨rfl, connected⟩⟩
      · exact .inr ⟨stopped, .inr ⟨rfl, lost⟩⟩
  · next goesOn => exact .inl ⟨goesOn, (Except.ok.inj finished).symm⟩

-----------------------------------------------------------------------------------------
-- The receive watchdog
-----------------------------------------------------------------------------------------

/-- The variables of the receive watchdog. -/
structure SameClientWatch (c next : Client) : Prop where
  blocksReceived : next.test.blocksReceived = c.test.blocksReceived
  lastReceiveTime : next.lastReceiveTime = c.lastReceiveTime
  lastReceiveBlocks : next.lastReceiveBlocks = c.lastReceiveBlocks
  rcvTimeoutUs : next.rcvTimeoutUs = c.rcvTimeoutUs

theorem SameClientWatch.refl (c : Client) : SameClientWatch c c := ⟨rfl, rfl, rfl, rfl⟩

theorem SameClientWatch.trans {c next last : Client} (first : SameClientWatch c next)
    (second : SameClientWatch next last)
    : SameClientWatch c last where
  blocksReceived := second.blocksReceived.trans first.blocksReceived
  lastReceiveTime := second.lastReceiveTime.trans first.lastReceiveTime
  lastReceiveBlocks := second.lastReceiveBlocks.trans first.lastReceiveBlocks
  rcvTimeoutUs := second.rcvTimeoutUs.trans first.rcvTimeoutUs

theorem Handled.watch {c next : Client} {state : TestState} (handled : Handled c state next)
    : SameClientWatch c next := by
  cases handled with
  | exchangeResults json taken =>
      obtain ⟨_, _, _, _, _, -, shape⟩ :=
        getResults_shape { c.test with state := .exchangeResults } json
      rw [shape]
      exact ⟨rfl, rfl, rfl, rfl⟩
  | displayResults =>
      unfold iperfClientEnd
      split <;> exact ⟨rfl, rfl, rfl, rfl⟩
  | _ => exact ⟨rfl, rfl, rfl, rfl⟩

theorem clientTimers_watch (now : IperfTime) (c : Client) (expired : List Timer)
    : SameClientWatch c (expired.foldl (Client.runTimer now) c) := by
  induction expired generalizing c with
  | nil => exact .refl c
  | cons timer rest ih =>
      refine SameClientWatch.trans ?_ (ih _)
      unfold Client.runTimer
      cases timer with
      | stats =>
          dsimp only
          split
          · exact ⟨(iperfStatsCallback_wiring c.test now).1.blocksReceived, rfl, rfl, rfl⟩
          · exact .refl c
      | safety | omitPeriod => dsimp only; split <;> exact ⟨rfl, rfl, rfl, rfl⟩

/-- The part of a pass for a running test leaves them alone. -/
theorem running_watch {c next : Client} {io : ClientPassIo} (ran : c.running io = .ok next)
    : SameClientWatch c next := by
  rcases running_ok ran with ⟨-, rfl⟩ | ⟨timed, ⟨-, started, threads, timers⟩, finished⟩
  · exact .refl _
  · have first : SameClientWatch c started := by
      rcases startThreads_ok threads with ⟨-, rfl⟩ | ⟨-, rfl⟩
      · exact .refl _
      · exact ⟨rfl, rfl, rfl, rfl⟩
    have second : SameClientWatch c timed := by
      rw [timers]
      exact first.trans (clientTimers_watch io.timerNow started io.expired)
    have blocks : (timed.ended io).blocksReceived = timed.test.blocksReceived :=
      (iperfStatsCallback_wiring
        { stopSenders timed.test with done := true, cpuUtil := io.cpuUtil }
        io.timerNow).1.blocksReceived
    rcases finish_ok finished with ⟨-, rfl⟩ | ⟨-, ⟨rfl, -⟩ | ⟨rfl, -⟩⟩
    · exact second
    · exact second.trans ⟨blocks, rfl, rfl, rfl⟩
    · exact second.trans ⟨blocks, rfl, rfl, rfl⟩

/-- After the progress was noted a pass leaves them alone. -/
theorem clientPass_watch {c next : Client} {io : ClientPassIo} (ran : c.pass io = .ok next)
    : SameClientWatch (c.noteProgress (c.clock io)) next := by
  obtain ⟨mid, after, rest⟩ := clientPass_parts ran
  refine SameClientWatch.trans ?_ (running_watch rest)
  unfold Client.AfterMessage at after
  split at after
  · exact after ▸ .refl _
  · obtain ⟨_, _, -, byte⟩ := clientMessage_handled after
    exact byte.watch

-----------------------------------------------------------------------------------------
-- Workers
-----------------------------------------------------------------------------------------

/-- An event that is not a pass is a worker's call. -/
theorem clientStep_worker {c next : Client} {event : ClientEvent} {received : Nat}
    (notPass : ∀ io, event ≠ .pass io) (stepped : c.step event = .ok (next, received))
    : ∃ test, next = { c with test } ∧ c.test.Serves received test := by
  cases event with
  | pass io => exact absurd rfl (notPass io)
  | receive position arrivalTime results =>
      unfold Client.step at stepped
      dsimp only at stepped
      split at stepped
      · split at stepped
        · cases stepped
          exact ⟨_, rfl, .idle _⟩
        · next got =>
            cases stepped
            exact ⟨_, rfl, iperfRecvMt_serves got⟩
      · cases stepped
        exact ⟨_, rfl, .idle _⟩
  | send position before io =>
      unfold Client.step at stepped
      dsimp only at stepped
      split at stepped
      · split at stepped
        · cases stepped
          exact ⟨_, rfl, .idle _⟩
        · next sent =>
            cases stepped
            exact ⟨_, rfl, iperfSendMt_serves sent⟩
      · cases stepped
        exact ⟨_, rfl, .idle _⟩

end Iperf
