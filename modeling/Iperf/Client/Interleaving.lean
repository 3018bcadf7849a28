import Iperf.Client.Steps

/-! `iperf_run_client` and its workers in the steps between which another thread can run: the
parts of a pass, the reset of every stream when the omit period ends, and the counts of a transfer,
which come to the stream first and to the test later.
-/

namespace Iperf

open Checked

-----------------------------------------------------------------------------------------
-- The turn of a worker
-----------------------------------------------------------------------------------------

/-- What a worker has still to count for the test. -/
inductive Count where
  | bytesSent (n : UInt64)
  | blockSent
  | bytesReceived (n : UInt64)
  | blockReceived
deriving DecidableEq

def Test.count (test : Test) : Count → Test
  | .bytesSent n => { test with bytesSent := test.bytesSent + n }
  | .blockSent => { test with blocksSent := test.blocksSent + 1 }
  | .bytesReceived n => { test with bytesReceived := test.bytesReceived + n }
  | .blockReceived => { test with blocksReceived := test.blocksReceived + 1 }

/-- `iperf_recv_mt` up to the return of `sp->rcv`, and what is to be counted after it. -/
def recvPart (test : Test) (position : Nat) (arrivalTime : IperfTime)
    (results : List RecvResult)
    : Option (Int × Test × List Count) := do
  let sp ← test.streams[position]?
  let (r, sp) ← protocolRecv test sp arrivalTime results
  let counts := if r > 0 then [.bytesReceived (UInt64.ofNat r.toNat), .blockReceived] else []
  return (r, { test with streams := test.streams.set position sp }, counts)

/-- One message of `iperf_send_mt` up to the return of `sp->snd`, and what is to be counted
after it.
-/
def sendPart (test : Test) (position : Nat) (before : IperfTime) (io : SendIo)
    : Option (Int × Test × List Count) := do
  let sp ← test.streams[position]?
  let (sent, sp) ← protocolSend test sp before io
  let counts :=
    if sent.ret < 0 then []
    else .bytesSent (UInt64.ofNat sent.ret.toNat) :: if sp.pendingSize = 0 then [.blockSent] else []
  return (sent.ret, { test with streams := test.streams.set position sp }, counts)

/-- Without an interruption the parts are `iperf_recv_mt`. -/
theorem iperfRecvMt_eq_parts (test : Test) (position : Nat) (arrivalTime : IperfTime)
    (results : List RecvResult)
    : iperfRecvMt test position arrivalTime results
      = (recvPart test position arrivalTime results).map
        fun part => (part.1, part.2.2.foldl Test.count part.2.1) := by
  unfold iperfRecvMt recvPart
  cases test.streams[position]? with
  | none => rfl
  | some sp =>
      simp only [Option.bind_eq_bind, Option.bind_some]
      cases protocolRecv test sp arrivalTime results with
      | none => rfl
      | some got =>
          simp only [Option.bind_some]
          split <;> rfl

/-- Without an interruption the parts are one message of `iperf_send_mt`. -/
theorem iperfSendMt_eq_parts (test : Test) (position : Nat) (before : IperfTime) (io : SendIo)
    : iperfSendMt test position before io
      = (sendPart test position before io).map
        fun part => (part.1, part.2.2.foldl Test.count part.2.1) := by
  unfold iperfSendMt sendPart
  cases test.streams[position]? with
  | none => rfl
  | some sp =>
      simp only [Option.bind_eq_bind, Option.bind_some]
      cases protocolSend test sp before io with
      | none => rfl
      | some got =>
          simp only [Option.bind_some]
          split
          · rfl
          · split <;> rfl

-----------------------------------------------------------------------------------------
-- The first part of a pass
-----------------------------------------------------------------------------------------

/-- The first part of a pass: `select(2)`, the watchdog and the message. -/
def Client.listen (c : Client) (io : ClientPassIo) : Except Int32 Client :=
  let handle (c : Client) : Except Int32 Client :=
    match io.select with
    | .ready readSet => if fdIsset c.test.ctrlSck readSet then c.handleMessage io.message else .ok c
    | _ => .ok c
  match io.select with
  | .failed errno =>
      if errno ≠ .eintr then .error IError.ieselect.code else handle (c.noteProgress io.now)
  | .timedOut =>
      if c.watches then
        if c.timedOut io.later then .error IError.ienomsg.code else handle (c.noteProgress io.later)
      else handle (c.noteProgress io.now)
  | .ready _ => handle (c.noteProgress io.now)

/-- A pass is its first part and then the part for a running test. -/
theorem pass_eq_listen (c : Client) (io : ClientPassIo)
    : c.pass io = (c.listen io >>= fun c => c.running io) := by
  have proceeds (c : Client) : c.proceed io
      = ((match io.select with
        | .ready readSet =>
            if fdIsset c.test.ctrlSck readSet then c.handleMessage io.message else .ok c
        | _ => .ok c) >>= fun c => c.running io) := by
    unfold Client.proceed
    cases io.select with
    | ready readSet =>
        dsimp only
        split <;> rfl
    | failed errno => rfl
    | timedOut => rfl
  unfold Client.pass Client.listen
  cases select : io.select with
  | failed errno =>
      dsimp only
      split
      · rfl
      · rw [proceeds, select]
  | timedOut =>
      dsimp only
      split
      · split
        · rfl
        · rw [proceeds, select]
      · rw [proceeds, select]
  | ready readSet =>
      dsimp only
      rw [proceeds, select]

/-- The first part notes progress and handles a message. -/
theorem listen_ok {c next : Client} {io : ClientPassIo} (ran : c.listen io = .ok next)
    : (c.noteProgress (c.clock io)).AfterMessage io next := by
  unfold Client.listen at ran
  unfold Client.clock Client.AfterMessage Client.reads
  cases select : io.select with
  | failed errno =>
      rw [select] at ran
      obtain ⟨-, ran⟩ := guard_eq_ok.mp ran
      exact (Except.ok.inj ran).symm
  | timedOut =>
      rw [select] at ran
      dsimp only at ran ⊢
      split at ran
      · next watches =>
          obtain ⟨-, ran⟩ := guard_eq_ok.mp ran
          rw [if_pos watches]
          exact (Except.ok.inj ran).symm
      · next looksAway =>
          rw [if_neg looksAway]
          exact (Except.ok.inj ran).symm
  | ready readSet =>
      rw [select] at ran
      dsimp only at ran ⊢
      split at ran
      · next isReady =>
          rw [if_pos isReady]
          exact ran
      · next notReady =>
          rw [if_neg notReady]
          exact (Except.ok.inj ran).symm

-----------------------------------------------------------------------------------------
-- Steps
-----------------------------------------------------------------------------------------

/-- The main thread and the workers of the streams. -/
structure ThreadedClient where
  client : Client
  /-- What the worker of each stream has still to count; there are none before the threads. -/
  workers : List (List Count) := []
  /-- Inside `iperf_reset_stats`: the stream that is reset next, and the clock. -/
  resetting : Option (Nat × IperfTime) := none

/-- What can happen next. -/
inductive ThreadEvent where
  | listen (io : ClientPassIo)
  | threads (io : ClientPassIo)
  | timer (now : IperfTime) (timer : Timer)
  | resetStream
  | check (io : ClientPassIo)
  | receive (position : Nat) (arrivalTime : IperfTime) (results : List RecvResult)
  | send (position : Nat) (before : IperfTime) (io : SendIo)
  | count (position : Nat)

namespace ThreadedClient

/-- The main thread goes on, unless it resets the statistics. -/
def main (m : ThreadedClient) (part : Client → Except Int32 Client)
    : Except Int32 ThreadedClient :=
  if m.resetting.isNone then (part m.client).map fun client => { m with client } else .ok m

/-- The first pass in `TEST_RUNNING` starts a worker for each stream. -/
def startThreads (m : ThreadedClient) (io : ClientPassIo) : Except Int32 ThreadedClient :=
  if m.resetting.isNone ∧ m.client.test.state = .testRunning then
    (m.client.startThreads io).map fun client =>
      let workers := if m.client.startup then client.test.streams.map (fun _ => []) else m.workers
      { m with client, workers }
  else .ok m

/-- The beginning of `iperf_reset_stats`, when the omit timer fires. -/
def startReset (m : ThreadedClient) (now : IperfTime) : ThreadedClient :=
  let test := { m.client.test with omitting := false, bytesSent := 0, blocksSent := 0 }
  { m with client := { m.client with omitTimer := false, test }, resetting := some (0, now) }

/-- Run one timer that has expired. -/
def fireTimer (m : ThreadedClient) (now : IperfTime) (timer : Timer) : ThreadedClient :=
  match timer with
  | .omitPeriod => if m.client.omitTimer then m.startReset now else m
  | .safety | .stats => { m with client := m.client.runTimer now timer }

def runTimer (m : ThreadedClient) (now : IperfTime) (timer : Timer) : ThreadedClient :=
  if m.resetting.isNone ∧ m.client.test.state = .testRunning then m.fireTimer now timer else m

/-- One turn of the loop in `iperf_reset_stats`. -/
def resetStream (m : ThreadedClient) : ThreadedClient :=
  match m.resetting with
  | none => m
  | some (position, now) =>
      match m.client.test.streams[position]? with
      | none => { m with resetting := none }
      | some sp =>
          let streams := m.client.test.streams.set position (resetStreamStats now sp)
          { m with client.test.streams := streams, resetting := some (position + 1, now) }

/-- A worker that has counted its last transfer makes another one. -/
def transfer (m : ThreadedClient) (position : Nat) (sender : Bool)
    (part : Option (Int × Test × List Count))
    : ThreadedClient :=
  if m.client.test.working position sender ∧ m.workers[position]? = some [] then
    match part with
    | none => m
    | some (_, test, counts) =>
        { m with client := { m.client with test }, workers := m.workers.set position counts }
  else m

/-- A worker counts for the test. -/
def count (m : ThreadedClient) (position : Nat) : ThreadedClient :=
  match m.workers[position]? with
  | some (count :: rest) =>
      {
        m with
        client.test := m.client.test.count count
        workers := m.workers.set position rest
      }
  | _ => m

/-- One step of the main thread or of a worker. -/
def step (m : ThreadedClient) : ThreadEvent → Except Int32 ThreadedClient
  | .listen io => m.main fun c => c.listen io
  | .threads io => m.startThreads io
  | .timer now timer => .ok (m.runTimer now timer)
  | .resetStream => .ok m.resetStream
  | .check io => m.main fun c => if c.test.state = .testRunning then c.finish io else .ok c
  | .receive position arrivalTime results =>
      .ok (m.transfer position false (recvPart m.client.test position arrivalTime results))
  | .send position before io =>
      .ok (m.transfer position true (sendPart m.client.test position before io))
  | .count position => .ok (m.count position)

/-- Steps one after the other. -/
def steps (m : ThreadedClient) (events : List ThreadEvent) : Except Int32 ThreadedClient :=
  events.foldlM step m

theorem steps_cons {m next : ThreadedClient} {event : ThreadEvent}
    (stepped : m.step event = .ok next) (rest : List ThreadEvent)
    : m.steps (event :: rest) = next.steps rest := by
  rw [steps, List.foldlM_cons, stepped]
  rfl

theorem steps_append {m next : ThreadedClient} {events : List ThreadEvent}
    (stepped : m.steps events = .ok next) (rest : List ThreadEvent)
    : m.steps (events ++ rest) = next.steps rest := by
  unfold steps at stepped
  rw [steps, List.foldlM_append, stepped]
  rfl

-----------------------------------------------------------------------------------------
-- Without interruptions
-----------------------------------------------------------------------------------------

/-- The streams from the position on are reset one after the other, by induction on their number.
-/
theorem resetStream_steps (c : Client) (workers : List (List Count)) (now : IperfTime)
    (front rest : List Stream) (streams : c.test.streams = front ++ rest)
    : ThreadedClient.steps { client := c, workers, resetting := some (front.length, now) }
        (List.replicate (rest.length + 1) .resetStream)
      = .ok {
          client := {
            c with test := { c.test with streams := front ++ rest.map (resetStreamStats now) }
          }
          workers
        } := by
  induction rest generalizing c front with
  | nil =>
      have past : c.test.streams[front.length]? = none := by
        rw [streams, List.append_nil]
        exact List.getElem?_eq_none (le_refl _)
      have stepped : ThreadedClient.step
          { client := c, workers, resetting := some (front.length, now) } .resetStream
          = .ok { client := c, workers } := by
        unfold step resetStream
        simp only [past]
      rw [List.length_nil, List.replicate_succ, steps_cons stepped, List.replicate_zero,
        List.map_nil, ← streams]
      rfl
  | cons sp others ih =>
      have here : c.test.streams[front.length]? = some sp := by
        rw [streams, List.getElem?_append_right (le_refl _), Nat.sub_self]
        rfl
      have replaced : c.test.streams.set front.length (resetStreamStats now sp)
          = (front ++ [resetStreamStats now sp]) ++ others := by
        rw [streams, List.set_append_right _ _ (le_refl _), Nat.sub_self, List.append_assoc]
        rfl
      have stepped : ThreadedClient.step
          { client := c, workers, resetting := some (front.length, now) } .resetStream
          = .ok {
              client := {
                c with
                test := {
                  c.test with streams := (front ++ [resetStreamStats now sp]) ++ others
                }
              }
              workers
              resetting := some ((front ++ [resetStreamStats now sp]).length, now)
            } := by
        unfold step resetStream
        simp only [here, replaced, List.length_append, List.length_singleton]
      have regroup : front ++ (sp :: others).map (resetStreamStats now)
          = (front ++ [resetStreamStats now sp]) ++ others.map (resetStreamStats now) := by
        rw [List.append_assoc]
        rfl
      rw [regroup, List.length_cons, List.replicate_succ, steps_cons stepped]
      exact ih _ _ rfl

/-- A timer that is not interrupted, with the reset of all streams. -/
theorem runTimer_steps (c : Client) (workers : List (List Count)) (now : IperfTime)
    (timer : Timer) (running : c.test.state = .testRunning)
    : ∃ events, ThreadedClient.steps { client := c, workers } events
      = .ok { client := c.runTimer now timer, workers } := by
  have fires (fired : ThreadedClient)
      (same : ThreadedClient.fireTimer { client := c, workers } now timer = fired)
      : ThreadedClient.step { client := c, workers } (.timer now timer) = .ok fired := by
    unfold step runTimer
    rw [← same]
    exact congrArg Except.ok (if_pos ⟨rfl, running⟩)
  cases timer with
  | safety => exact ⟨[.timer now .safety], steps_cons (fires _ rfl) []⟩
  | stats => exact ⟨[.timer now .stats], steps_cons (fires _ rfl) []⟩
  | omitPeriod =>
      by_cases armed : c.omitTimer = true
      · refine ⟨.timer now .omitPeriod
          :: List.replicate (c.test.streams.length + 1) .resetStream, ?_⟩
        have starts : ThreadedClient.fireTimer { client := c, workers } now .omitPeriod
            = ThreadedClient.startReset { client := c, workers } now := if_pos armed
        rw [steps_cons (fires _ starts)]
        have resets := resetStream_steps
          (ThreadedClient.startReset { client := c, workers } now).client workers now []
          c.test.streams rfl
        refine Eq.trans resets ?_
        unfold Client.runTimer
        dsimp only
        rw [if_pos armed]
        rfl
      · refine ⟨[.timer now .omitPeriod], ?_⟩
        have idle : ThreadedClient.fireTimer { client := c, workers } now .omitPeriod
            = { client := c, workers } := if_neg armed
        rw [steps_cons (fires _ idle)]
        unfold Client.runTimer
        dsimp only
        rw [if_neg armed]
        rfl

/-- By induction on the expired timers. -/
theorem runTimers_steps (c : Client) (workers : List (List Count)) (now : IperfTime)
    (expired : List Timer) (running : c.test.state = .testRunning)
    : (expired.foldl (Client.runTimer now) c).test.state = .testRunning
      ∧ ∃ events, ThreadedClient.steps { client := c, workers } events
        = .ok { client := expired.foldl (Client.runTimer now) c, workers } := by
  induction expired generalizing c with
  | nil => exact ⟨running, [], rfl⟩
  | cons timer rest ih =>
      obtain ⟨first, fired⟩ := runTimer_steps c workers now timer running
      obtain ⟨still, later, done⟩ :=
        ih (c.runTimer now timer) ((runTimer_state c now timer).trans running)
      exact ⟨still, first ++ later, (steps_append fired later).trans done⟩

/-- A pass is a sequence of steps that no worker interrupts. -/
theorem pass_steps {c next : Client} {io : ClientPassIo} (ran : c.pass io = .ok next)
    (workers : List (List Count))
    : ∃ events others, ThreadedClient.steps { client := c, workers } events
      = .ok { client := next, workers := others } := by
  rw [pass_eq_listen] at ran
  obtain ⟨mid, heard, goesOn⟩ := bind_eq_ok.mp ran
  have listens : ThreadedClient.step { client := c, workers } (.listen io)
      = .ok { client := mid, workers } := by
    unfold step main
    dsimp only
    rw [heard]
    rfl
  rcases running_ok goesOn with ⟨-, rfl⟩ | ⟨timed, ⟨running, started, threads, rfl⟩, finished⟩
  · exact ⟨[.listen io], workers, steps_cons listens []⟩
  · have still : started.test.state = .testRunning := by
      rcases startThreads_ok threads with ⟨-, rfl⟩ | ⟨-, rfl⟩ <;> exact running
    let others := if mid.startup then started.test.streams.map (fun _ => []) else workers
    have starts : ThreadedClient.step { client := mid, workers } (.threads io)
        = .ok { client := started, workers := others } := by
      unfold step startThreads
      dsimp only
      rw [if_pos ⟨rfl, running⟩, threads]
      rfl
    obtain ⟨measuring, fired, timers⟩ :=
      runTimers_steps started others io.timerNow io.expired still
    have checks : ThreadedClient.step
        {
          client := io.expired.foldl (Client.runTimer io.timerNow) started
          workers := others
        } (.check io) = .ok { client := next, workers := others } := by
      unfold step main
      dsimp only
      rw [if_pos measuring, finished]
      rfl
    refine ⟨.listen io :: .threads io :: (fired ++ [.check io]), others, ?_⟩
    rw [steps_cons listens, steps_cons starts, steps_append timers, steps_cons checks]
    rfl

/-- The counts of a worker that is not interrupted, by induction on them. -/
theorem count_steps (c : Client) (workers : List (List Count)) {position : Nat}
    (counts : List Count) (waits : workers[position]? = some counts)
    : ThreadedClient.steps { client := c, workers } (List.replicate counts.length (.count position))
      = .ok {
          client := { c with test := counts.foldl Test.count c.test }
          workers := workers.set position []
        } := by
  induction counts generalizing c workers with
  | nil =>
      have same : workers.set position [] = workers := by
        obtain ⟨inside, isThere⟩ := List.getElem?_eq_some_iff.mp waits
        rw [← isThere, List.set_getElem_self]
      rw [same]
      rfl
  | cons first rest ih =>
      have inside : position < workers.length := (List.getElem?_eq_some_iff.mp waits).1
      have stepped : ThreadedClient.step { client := c, workers } (.count position)
          = .ok {
              client := { c with test := c.test.count first }
              workers := workers.set position rest
            } := by
        unfold step ThreadedClient.count
        simp only [waits]
      rw [List.length_cons, List.replicate_succ, steps_cons stepped,
        ih _ _ (List.getElem?_set_self inside), List.set_set]
      rfl

/-- A transfer and its counts, if nothing interrupts them. -/
theorem transfer_steps {c : Client} {workers : List (List Count)} {position : Nat} {sender : Bool}
    {event : ThreadEvent} {r : Int} {test : Test} {counts : List Count}
    (working : c.test.working position sender = true) (waits : workers[position]? = some [])
    (moves : ThreadedClient.step { client := c, workers } event
      = .ok (ThreadedClient.transfer { client := c, workers } position sender
        (some (r, test, counts))))
    : ∃ events, ThreadedClient.steps { client := c, workers } events
      = .ok { client := { c with test := counts.foldl Test.count test }, workers } := by
  obtain ⟨inside, isThere⟩ := List.getElem?_eq_some_iff.mp waits
  have moved : ThreadedClient.transfer { client := c, workers } position sender
      (some (r, test, counts))
      = { client := { c with test }, workers := workers.set position counts } :=
    if_pos ⟨working, waits⟩
  rw [moved] at moves
  refine ⟨event :: List.replicate counts.length (.count position), ?_⟩
  rw [steps_cons moves, count_steps _ _ counts (List.getElem?_set_self inside), List.set_set,
    ← isThere, List.set_getElem_self]

/-- The turn of a worker is a sequence of steps that nothing interrupts. -/
theorem worker_steps {c next : Client} {event : ClientEvent} {received : Nat}
    {workers : List (List Count)} (notPass : ∀ io, event ≠ .pass io)
    (stepped : c.step event = .ok (next, received))
    (idle : ∀ position sender, c.test.working position sender → workers[position]? = some [])
    : ∃ events, ThreadedClient.steps { client := c, workers } events
      = .ok { client := next, workers } := by
  have nothing : ∃ events, ThreadedClient.steps { client := c, workers } events
      = .ok { client := c, workers } := ⟨[], rfl⟩
  cases event with
  | pass io => exact absurd rfl (notPass io)
  | receive position arrivalTime results =>
      unfold Client.step at stepped
      dsimp only at stepped
      split at stepped
      · next working =>
          rw [iperfRecvMt_eq_parts] at stepped
          cases part : recvPart c.test position arrivalTime results with
          | none =>
              rw [part] at stepped
              cases stepped
              exact nothing
          | some got =>
              obtain ⟨r, test, counts⟩ := got
              rw [part] at stepped
              cases stepped
              have moves : ThreadedClient.step { client := c, workers }
                  (.receive position arrivalTime results)
                  = .ok (ThreadedClient.transfer { client := c, workers } position false
                    (some (r, test, counts))) := by
                rw [← part]
                rfl
              exact transfer_steps working (idle position false working) moves
      · cases stepped
        exact nothing
  | send position before io =>
      unfold Client.step at stepped
      dsimp only at stepped
      split at stepped
      · next working =>
          rw [iperfSendMt_eq_parts] at stepped
          cases part : sendPart c.test position before io with
          | none =>
              rw [part] at stepped
              cases stepped
              exact nothing
          | some sent =>
              obtain ⟨r, test, counts⟩ := sent
              rw [part] at stepped
              cases stepped
              have moves : ThreadedClient.step { client := c, workers } (.send position before io)
                  = .ok (ThreadedClient.transfer { client := c, workers } position true
                    (some (r, test, counts))) := by
                rw [← part]
                rfl
              exact transfer_steps working (idle position true working) moves
      · cases stepped
        exact nothing

end ThreadedClient

end Iperf
