import Iperf.Client.Steps
import Iperf.Library.StallMonitor
import Iperf.Server.ControlBytes
import Iperf.Session.Failures

/-! The receive watchdog of both ends: under which schedules `IENOMSG` is never a false alarm.
-/

namespace Iperf

open Checked StallMonitor

-----------------------------------------------------------------------------------------
-- The variables of the watchdog against the schedule
-----------------------------------------------------------------------------------------

/-- The variables of the watchdog are what the schedule says: every block that was received is
counted, and the last receive time is that of the last pass that saw a new one.
-/
structure Watching (lastReceiveTime : IperfTime) (lastReceiveBlocks blocksReceived : UInt64)
    (log : Log) : Prop where
  counted : blocksReceived.toNat = log.arrivals.length
  seen : lastReceiveBlocks.toNat = log.seen
  since : iperfTimeInUsecs lastReceiveTime = log.since
  normal : lastReceiveTime.Normalised
  covers : log.Covers

variable {lastReceiveTime now later : IperfTime} {lastReceiveBlocks blocksReceived : UInt64}
  {log : Log}

/-- A block arrives, and the counter does not wrap. -/
theorem Watching.arrive (watching : Watching lastReceiveTime lastReceiveBlocks blocksReceived log)
    (arrival : Nat) (room : log.arrivals.length + 1 < 2 ^ 64)
    : Watching lastReceiveTime lastReceiveBlocks (blocksReceived + 1) (log.arrive arrival) where
  counted := by
    unfold Log.arrive
    rw [UInt64.toNat_add, watching.counted, List.length_append]
    exact Nat.mod_eq_of_lt room
  seen := watching.seen
  since := watching.since
  normal := watching.normal
  covers := watching.covers.arrive arrival

/-- The comparison of the counters tells whether there are new blocks. -/
theorem Watching.grown_iff
    (watching : Watching lastReceiveTime lastReceiveBlocks blocksReceived log)
    : (blocksReceived > lastReceiveBlocks ↔ log.Grown)
      ∧ (blocksReceived = lastReceiveBlocks ↔ ¬ log.Grown) := by
  have counted := watching.covers.counted
  unfold Log.Grown
  rw [gt_iff_lt, UInt64.lt_iff_toNat_lt, ← UInt64.toNat_inj, watching.counted, watching.seen]
  exact ⟨Iff.rfl, by omega⟩

/-- "See if the test is making progress." -/
theorem Watching.look (watching : Watching lastReceiveTime lastReceiveBlocks blocksReceived log)
    (normal : now.Normalised)
    (timely : log.Grown → ∀ arrival ∈ log.arrivals, arrival ≤ iperfTimeInUsecs now)
    : Watching (if blocksReceived > lastReceiveBlocks then now else lastReceiveTime)
        (if blocksReceived > lastReceiveBlocks then blocksReceived else lastReceiveBlocks)
        blocksReceived (log.look (iperfTimeInUsecs now)) := by
  have covers := watching.covers.look timely
  unfold Log.look at covers ⊢
  by_cases grown : log.Grown
  · rw [if_pos grown] at covers ⊢
    have more := watching.grown_iff.1.mpr grown
    rw [if_pos more, if_pos more]
    exact ⟨watching.counted, watching.counted, rfl, normal, covers⟩
  · rw [if_neg grown]
    have same := fun more => grown (watching.grown_iff.1.mp more)
    rw [if_neg same, if_neg same]
    exact watching

/-- The comparison of the clocks, in microseconds. -/
theorem Watching.overdue_iff
    (watching : Watching lastReceiveTime lastReceiveBlocks blocksReceived log)
    (normal : later.Normalised) (limit : Nat)
    : ((iperfTimeDiff later lastReceiveTime).1 = false
        ∧ iperfTimeInUsecs (iperfTimeDiff later lastReceiveTime).2 > limit)
      ↔ log.since + limit < iperfTimeInUsecs later := by
  rw [← watching.since, iperfTimeDiff_later normal watching.normal]
  constructor
  · rintro ⟨order, overdue⟩
    rw [iperfTimeDiff_inUsecs normal watching.normal order] at overdue
    omega
  · intro past
    have order : iperfTimeInUsecs lastReceiveTime < iperfTimeInUsecs later := by omega
    refine ⟨order, ?_⟩
    rw [iperfTimeDiff_inUsecs normal watching.normal order]
    omega

/-- An alarm at the clock `later` is a true one: the test has been running for longer than the
timeout, and no block arrived within it.
-/
structure TrueAlarm (state : TestState) (timeout entered : Nat) (arrivals : List Nat)
    (later : IperfTime) : Prop where
  running : state = .testRunning
  longEnough : entered + timeout < iperfTimeInUsecs later
  silent : ∀ arrival ∈ arrivals, arrival + timeout < iperfTimeInUsecs later

/-- A timeout of `select(2)` that is too early for an alarm: the last progress, or the beginning,
is longer ago than the receive timeout, and `TEST_RUNNING` is not.
-/
def TooEarly (running : Prop) (timeout entered : Nat) (log : Log) (later : IperfTime) : Prop :=
  ¬ log.Grown ∧ log.since + timeout < iperfTimeInUsecs later
    ∧ (running → iperfTimeInUsecs later ≤ entered + timeout)

-----------------------------------------------------------------------------------------
-- The server
-----------------------------------------------------------------------------------------

/-- A server with the schedule so far: the clock when `TEST_RUNNING` was entered, as the timers
of the test were set with, and what happened to the blocks.
-/
structure WatchedServer where
  server : Server
  entered : Nat := 0
  log : Log

/-- What an event adds to the schedule. -/
def WatchedServer.extend (w : WatchedServer) (event : Event) (next : Server) (received : Nat)
    : WatchedServer :=
  match event with
  | .pass io =>
      {
        server := next
        entered :=
          if next.test.state = .testRunning ∧ w.server.test.state ≠ .testRunning then
            iperfTimeInUsecs io.start.now
          else w.entered
        log := w.log.look (iperfTimeInUsecs io.clock)
      }
  | .receive _ arrivalTime _ =>
      {
        w with
        server := next
        log := if received > 0 then w.log.arrive (iperfTimeInUsecs arrivalTime) else w.log
      }
  | .send _ _ _ => { w with server := next }

/-- A pass with proper clock readings that sees new blocks only with one that is not older than
they are.
-/
structure ServerStamps (w : WatchedServer) (io : PassIo) : Prop where
  normalNow : io.now.Normalised
  normalLater : io.later.Normalised
  noted : w.log.Grown → ∀ arrival ∈ w.log.arrivals, arrival ≤ iperfTimeInUsecs io.clock

/-- The pass comes to the watchdog: `select(2)` is reached and times out, in any state but
`IPERF_START`, and the server receives.
-/
structure ServerLooks (s : Server) (io : PassIo) : Prop where
  limited : s.test.bitrateLimitExceeded = false
  readable : s.staleReadSet = false
  timedOut : io.select = .timedOut
  started : s.test.state ≠ .iperfStart
  receives : s.test.mode ≠ .sender

/-- The runs of a server with such passes, in which the block counter does not wrap. -/
inductive ServerWatchRun (start : WatchedServer) : WatchedServer → Prop where
  | start : ServerWatchRun start start
  | step {w : WatchedServer} {event : Event} {next : Server} {visited : List TestState}
    {received : Nat} (earlier : ServerWatchRun start w)
    (stamps : ∀ io, event = .pass io → ServerStamps w io)
    (room : w.log.arrivals.length + 1 < 2 ^ 64)
    (stepped : w.server.step event = .ok (next, visited, received))
    : ServerWatchRun start (w.extend event next received)

def WatchedServer.Sound (w : WatchedServer) : Prop :=
  Watching w.server.lastReceiveTime w.server.lastReceiveBlocks w.server.test.blocksReceived w.log

/-- A pass notes progress; nothing else in it touches the watchdog. -/
theorem pass_watching {w : WatchedServer} {io : PassIo} {next : Server}
    {visited : List TestState} (sound : w.Sound) (stamps : ServerStamps w io)
    (ran : w.server.pass io = .ok (next, visited))
    : Watching next.lastReceiveTime next.lastReceiveBlocks next.test.blocksReceived
        (w.log.look (iperfTimeInUsecs io.clock))
      ∧ next.rcvTimeoutUs = w.server.rcvTimeoutUs := by
  have clock : io.clock.Normalised := by
    unfold PassIo.clock
    split
    · exact stamps.normalLater
    · exact stamps.normalNow
  obtain ⟨mid, rfl, origin⟩ := pass_ok ran
  obtain ⟨-, timers, -⟩ := runTimers_frame mid io
  have watch : SameWatch (w.server.noteProgress io.clock) mid := by
    rcases origin with ⟨-, rfl, -⟩ | ⟨readSet, -, handled⟩
    · exact .refl _
    · exact handleReady_watch handled
  have both := watch.trans timers
  have looked := Watching.look sound clock stamps.noted
  rw [both.lastReceiveTime, both.lastReceiveBlocks, both.blocksReceived, both.rcvTimeoutUs]
  unfold Server.noteProgress
  split
  · next grown =>
      rw [if_pos grown, if_pos grown] at looked
      exact ⟨looked, rfl⟩
  · next same =>
      rw [if_neg same, if_neg same] at looked
      exact ⟨looked, rfl⟩

/-- A worker counts exactly the blocks that enter the schedule. -/
theorem worker_watching {s next : Server} {event : Event} {visited : List TestState}
    {received : Nat} (notPass : ∀ io, event ≠ .pass io)
    (stepped : s.step event = .ok (next, visited, received))
    : next.test.blocksReceived
        = (if received > 0 then s.test.blocksReceived + 1 else s.test.blocksReceived)
      ∧ next.lastReceiveTime = s.lastReceiveTime
      ∧ next.lastReceiveBlocks = s.lastReceiveBlocks
      ∧ next.rcvTimeoutUs = s.rcvTimeoutUs := by
  obtain ⟨-, _, rfl, _, _, _, _, rfl⟩ := step_worker notPass stepped
  exact ⟨rfl, rfl, rfl, rfl⟩

/-- A sending worker receives nothing. -/
theorem send_received {s next : Server} {position : Nat} {before : IperfTime} {io : SendIo}
    {visited : List TestState} {received : Nat}
    (stepped : s.step (.send position before io) = .ok (next, visited, received))
    : received = 0 := by
  unfold Server.step at stepped
  dsimp only at stepped
  split at stepped
  · split at stepped <;> cases stepped <;> rfl
  · cases stepped
    rfl

/-- By induction on the run. -/
theorem ServerWatchRun.sound {start w : WatchedServer} (run : ServerWatchRun start w)
    (initially : start.Sound)
    : w.Sound ∧ w.server.rcvTimeoutUs = start.server.rcvTimeoutUs := by
  induction run with
  | start => exact ⟨initially, rfl⟩
  | @step w event next visited received _ stamps room stepped ih =>
      obtain ⟨sound, timeout⟩ := ih
      cases event with
      | pass io =>
          obtain ⟨⟨out, states⟩, ran, shape⟩ := map_eq_ok.mp stepped
          obtain ⟨rfl, -⟩ := Prod.mk.inj shape
          obtain ⟨watching, same⟩ := pass_watching sound (stamps io rfl) ran
          exact ⟨watching, same.trans timeout⟩
      | receive position arrivalTime results =>
          obtain ⟨blocks, time, counted, same⟩ := worker_watching (by simp) stepped
          refine ⟨?_, same.trans timeout⟩
          unfold WatchedServer.Sound WatchedServer.extend
          dsimp only
          rw [blocks, time, counted]
          split
          · exact Watching.arrive sound _ room
          · exact sound
      | send position before io =>
          obtain ⟨blocks, time, counted, same⟩ := worker_watching (by simp) stepped
          obtain rfl := send_received stepped
          refine ⟨?_, same.trans timeout⟩
          unfold WatchedServer.Sound WatchedServer.extend
          dsimp only
          rw [blocks, time, counted]
          exact sound

/-- What the watchdog compares. -/
theorem checkTimeout_noMessage_iff {s : Server} {later : IperfTime}
    : s.checkTimeout later = some (.failed .ienomsg)
      ↔ s.test.state ≠ .iperfStart ∧ s.test.mode ≠ .sender
        ∧ ((iperfTimeDiff later s.lastReceiveTime).1 = false
          ∧ iperfTimeInUsecs (iperfTimeDiff later s.lastReceiveTime).2 > s.rcvTimeoutUs)
        ∧ s.test.blocksReceived = s.lastReceiveBlocks := by
  unfold Server.checkTimeout
  dsimp only
  split
  · next notLater => simp [notLater]
  · next isLater =>
      split
      · next waiting =>
          split <;> simp [waiting]
      · next active =>
          have after := Bool.eq_false_iff.mpr isLater
          split
          · next overdue =>
              exact iff_of_true rfl
                ⟨active, overdue.1, ⟨after, overdue.2.1⟩, overdue.2.2⟩
          · next quiet =>
              refine iff_of_false (by simp) fun alarm => quiet ?_
              exact ⟨alarm.2.1, alarm.2.2.1.2, alarm.2.2.2⟩

/-- The server raises the alarm exactly at a look without new blocks, for longer than the receive
timeout after the last progress.
-/
theorem serverAlarm_iff {w : WatchedServer} {io : PassIo} (sound : w.Sound)
    (normal : io.later.Normalised)
    : w.server.pass io = .error (.failed .ienomsg)
      ↔ ServerLooks w.server io ∧ ¬ w.log.Grown
        ∧ w.log.since + w.server.rcvTimeoutUs < iperfTimeInUsecs io.later := by
  rw [← sound.overdue_iff normal, ← sound.grown_iff.2]
  constructor
  · intro failed
    obtain ⟨timedOut, alarm⟩ := pass_noMessage failed
    obtain ⟨started, receives, overdue, same⟩ := checkTimeout_noMessage_iff.mp alarm
    unfold Server.pass at failed
    split at failed
    · cases failed
    · next limited =>
        split at failed
        · cases failed
        · next readable =>
            exact ⟨⟨Bool.eq_false_iff.mpr limited, Bool.eq_false_iff.mpr readable, timedOut,
              started, receives⟩, same, overdue⟩
  · rintro ⟨⟨limited, readable, timedOut, started, receives⟩, same, overdue⟩
    have alarm := checkTimeout_noMessage_iff.mpr ⟨started, receives, overdue, same⟩
    unfold Server.pass
    simp only [limited, readable, timedOut, alarm, Bool.false_eq_true, if_false]

/-- An alarm of the server is a true one unless the look comes too early for it. -/
theorem serverAlarm_true_iff {w : WatchedServer} {io : PassIo} (sound : w.Sound)
    (normal : io.later.Normalised)
    : (w.server.pass io = .error (.failed .ienomsg)
        → TrueAlarm w.server.test.state w.server.rcvTimeoutUs w.entered w.log.arrivals io.later)
      ↔ (ServerLooks w.server io
        → ¬ TooEarly (w.server.test.state = .testRunning) w.server.rcvTimeoutUs w.entered w.log
            io.later) := by
  rw [serverAlarm_iff sound normal]
  constructor
  · rintro isTrue looks ⟨same, overdue, early⟩
    obtain ⟨running, longEnough, -⟩ := isTrue ⟨looks, same, overdue⟩
    have inTime := early running
    omega
  · rintro timely ⟨looks, same, overdue⟩
    have late : w.server.test.state = .testRunning
        ∧ ¬ iperfTimeInUsecs io.later ≤ w.entered + w.server.rcvTimeoutUs :=
      Classical.not_imp.mp fun early => timely looks ⟨same, overdue, early⟩
    exact ⟨late.1, not_le.mp late.2, sound.covers.silent same overdue⟩

-----------------------------------------------------------------------------------------
-- The client
-----------------------------------------------------------------------------------------

/-- A client with the schedule so far: the clock that it reads once it is in `TEST_RUNNING`, and
what happened to the blocks.
-/
structure WatchedClient where
  client : Client
  entered : Nat := 0
  log : Log

/-- What an event adds to the schedule. -/
def WatchedClient.extend (w : WatchedClient) (event : ClientEvent) (next : Client)
    (received : Nat)
    : WatchedClient :=
  match event with
  | .pass io =>
      {
        client := next
        entered :=
          if next.test.state = .testRunning ∧ w.client.test.state ≠ .testRunning then
            iperfTimeInUsecs io.timerNow
          else w.entered
        log := w.log.look (iperfTimeInUsecs (w.client.clock io))
      }
  | .receive _ arrivalTime _ =>
      {
        w with
        client := next
        log := if received > 0 then w.log.arrive (iperfTimeInUsecs arrivalTime) else w.log
      }
  | .send _ _ _ => { w with client := next }

/-- A pass as for the server; the server's own errors are told apart. -/
structure ClientStamps (w : WatchedClient) (io : ClientPassIo) : Prop where
  normalNow : io.now.Normalised
  normalLater : io.later.Normalised
  ownError : io.message.OwnError
  noted : w.log.Grown
    → ∀ arrival ∈ w.log.arrivals, arrival ≤ iperfTimeInUsecs (w.client.clock io)

/-- The runs of a client with such passes, in which the block counter does not wrap. -/
inductive ClientWatchRun (start : WatchedClient) : WatchedClient → Prop where
  | start : ClientWatchRun start start
  | step {w : WatchedClient} {event : ClientEvent} {next : Client} {received : Nat}
    (earlier : ClientWatchRun start w)
    (stamps : ∀ io, event = .pass io → ClientStamps w io)
    (room : w.log.arrivals.length + 1 < 2 ^ 64)
    (stepped : w.client.step event = .ok (next, received))
    : ClientWatchRun start (w.extend event next received)

def WatchedClient.Sound (w : WatchedClient) : Prop :=
  Watching w.client.lastReceiveTime w.client.lastReceiveBlocks w.client.test.blocksReceived w.log

theorem clientPass_watching {w : WatchedClient} {io : ClientPassIo} {next : Client}
    (sound : w.Sound) (stamps : ClientStamps w io) (ran : w.client.pass io = .ok next)
    : Watching next.lastReceiveTime next.lastReceiveBlocks next.test.blocksReceived
        (w.log.look (iperfTimeInUsecs (w.client.clock io)))
      ∧ next.rcvTimeoutUs = w.client.rcvTimeoutUs := by
  have clock : (w.client.clock io).Normalised := by
    unfold Client.clock
    split
    · split
      · exact stamps.normalLater
      · exact stamps.normalNow
    · exact stamps.normalNow
  have watch := clientPass_watch ran
  have looked := Watching.look sound clock stamps.noted
  rw [watch.lastReceiveTime, watch.lastReceiveBlocks, watch.blocksReceived, watch.rcvTimeoutUs]
  unfold Client.noteProgress
  split
  · next grown =>
      rw [if_pos grown, if_pos grown] at looked
      exact ⟨looked, rfl⟩
  · next same =>
      rw [if_neg same, if_neg same] at looked
      exact ⟨looked, rfl⟩

/-- A worker counts exactly the blocks that enter the schedule. -/
theorem clientWorker_watching {c next : Client} {event : ClientEvent} {received : Nat}
    (notPass : ∀ io, event ≠ .pass io) (stepped : c.step event = .ok (next, received))
    : next.test.blocksReceived
        = (if received > 0 then c.test.blocksReceived + 1 else c.test.blocksReceived)
      ∧ next.lastReceiveTime = c.lastReceiveTime
      ∧ next.lastReceiveBlocks = c.lastReceiveBlocks
      ∧ next.rcvTimeoutUs = c.rcvTimeoutUs := by
  obtain ⟨_, rfl, _, _, _, _, rfl⟩ := clientStep_worker notPass stepped
  exact ⟨rfl, rfl, rfl, rfl⟩

theorem clientSend_received {c next : Client} {position : Nat} {before : IperfTime} {io : SendIo}
    {received : Nat} (stepped : c.step (.send position before io) = .ok (next, received))
    : received = 0 := by
  unfold Client.step at stepped
  dsimp only at stepped
  split at stepped
  · split at stepped <;> cases stepped <;> rfl
  · cases stepped
    rfl

/-- By induction on the run. -/
theorem ClientWatchRun.sound {start w : WatchedClient} (run : ClientWatchRun start w)
    (initially : start.Sound)
    : w.Sound ∧ w.client.rcvTimeoutUs = start.client.rcvTimeoutUs := by
  induction run with
  | start => exact ⟨initially, rfl⟩
  | @step w event next received _ stamps room stepped ih =>
      obtain ⟨sound, timeout⟩ := ih
      cases event with
      | pass io =>
          obtain ⟨out, ran, shape⟩ := map_eq_ok.mp stepped
          obtain ⟨rfl, -⟩ := Prod.mk.inj shape
          obtain ⟨watching, same⟩ := clientPass_watching sound (stamps io rfl) ran
          exact ⟨watching, same.trans timeout⟩
      | receive position arrivalTime results =>
          obtain ⟨blocks, time, counted, same⟩ := clientWorker_watching (by simp) stepped
          refine ⟨?_, same.trans timeout⟩
          unfold WatchedClient.Sound WatchedClient.extend
          dsimp only
          rw [blocks, time, counted]
          split
          · exact Watching.arrive sound _ room
          · exact sound
      | send position before io =>
          obtain ⟨blocks, time, counted, same⟩ := clientWorker_watching (by simp) stepped
          obtain rfl := clientSend_received stepped
          refine ⟨?_, same.trans timeout⟩
          unfold WatchedClient.Sound WatchedClient.extend
          dsimp only
          rw [blocks, time, counted]
          exact sound

/-- The client raises the alarm exactly at a look in `TEST_RUNNING` without new blocks, for longer
than the receive timeout after the last progress.
-/
theorem clientAlarm_iff {w : WatchedClient} {io : ClientPassIo} (sound : w.Sound)
    (stamps : ClientStamps w io)
    : w.client.pass io = .error IError.ienomsg.code
      ↔ (io.select = .timedOut ∧ w.client.watches) ∧ ¬ w.log.Grown
        ∧ w.log.since + w.client.rcvTimeoutUs < iperfTimeInUsecs io.later := by
  have timedOut_iff : w.client.timedOut io.later = true
      ↔ ¬ w.log.Grown ∧ w.log.since + w.client.rcvTimeoutUs < iperfTimeInUsecs io.later := by
    rw [← sound.overdue_iff stamps.normalLater, ← sound.grown_iff.2]
    simp only [Client.timedOut, Bool.and_eq_true, Bool.not_eq_true', decide_eq_true_eq]
    exact and_comm
  rw [← timedOut_iff]
  constructor
  · intro failed
    obtain ⟨timedOut, watches, overdue⟩ := clientPass_noMessage stamps.ownError failed
    exact ⟨⟨timedOut, watches⟩, overdue⟩
  · rintro ⟨⟨timedOut, watches⟩, overdue⟩
    unfold Client.pass
    rw [timedOut]
    dsimp only
    rw [if_pos watches, if_pos overdue]

/-- An alarm of the client is a true one unless the look comes too early for it. -/
theorem clientAlarm_true_iff {w : WatchedClient} {io : ClientPassIo} (sound : w.Sound)
    (stamps : ClientStamps w io)
    : (w.client.pass io = .error IError.ienomsg.code
        → TrueAlarm w.client.test.state w.client.rcvTimeoutUs w.entered w.log.arrivals io.later)
      ↔ (io.select = .timedOut → w.client.watches
        → ¬ TooEarly True w.client.rcvTimeoutUs w.entered w.log io.later) := by
  rw [clientAlarm_iff sound stamps]
  constructor
  · rintro isTrue timedOut watches ⟨same, overdue, early⟩
    have longEnough := (isTrue ⟨⟨timedOut, watches⟩, same, overdue⟩).longEnough
    have inTime := early trivial
    omega
  · rintro timely ⟨⟨timedOut, watches⟩, same, overdue⟩
    refine ⟨watches.1, ?_, sound.covers.silent same overdue⟩
    by_contra inTime
    exact timely timedOut watches ⟨same, overdue, fun _ => not_lt.mp inTime⟩

-----------------------------------------------------------------------------------------
-- Both ends
-----------------------------------------------------------------------------------------

/-- In every run with proper clocks the alarms of both ends are true ones, but for those of a
`select(2)` timeout that comes too early: longer than the receive timeout after the last pass
that saw a new block, or after the server began to listen or the client connected, but not that
long after `TEST_RUNNING` began.
-/
theorem watchdog_noFalseAlarm_iff {test : Test} {now : IperfTime}
    (fresh : test.blocksReceived = 0) (normal : now.Normalised)
    : (∀ listener flag w io,
        ServerWatchRun {
            server := serverStart test listener flag now
            log := { since := iperfTimeInUsecs now }
          } w
        → ServerStamps w io
        → ((w.server.pass io = .error (.failed .ienomsg)
            → TrueAlarm w.server.test.state (iperfTimeInUsecs test.settings.rcvTimeout) w.entered
                w.log.arrivals io.later)
          ↔ (ServerLooks w.server io
            → ¬ TooEarly (w.server.test.state = .testRunning)
                (iperfTimeInUsecs test.settings.rcvTimeout) w.entered w.log io.later)))
      ∧ (∀ w io,
        ClientWatchRun {
            client := clientStart test now
            log := { since := iperfTimeInUsecs now }
          } w
        → ClientStamps w io
        → ((w.client.pass io = .error IError.ienomsg.code
            → TrueAlarm w.client.test.state (iperfTimeInUsecs test.settings.rcvTimeout) w.entered
                w.log.arrivals io.later)
          ↔ (io.select = .timedOut → w.client.test.state = .testRunning
            → test.mode ≠ .sender → 0 < iperfTimeInUsecs test.settings.rcvTimeout
            → ¬ TooEarly True (iperfTimeInUsecs test.settings.rcvTimeout) w.entered w.log
                io.later))) := by
  have initially : Watching now 0 test.blocksReceived { since := iperfTimeInUsecs now } :=
    ⟨by rw [fresh]; rfl, rfl, rfl, normal, covers_start _⟩
  constructor
  · intro listener flag w io run stamps
    obtain ⟨sound, timeout⟩ := run.sound initially
    have exactly := serverAlarm_true_iff sound stamps.normalLater
    rwa [timeout] at exactly
  · intro w io run stamps
    obtain ⟨sound, timeout⟩ := run.sound initially
    have exactly := clientAlarm_true_iff sound stamps
    have alarm := clientAlarm_iff sound stamps
    rw [timeout] at exactly
    unfold Client.watches at exactly alarm
    rw [timeout] at exactly alarm
    by_cases receives : test.mode ≠ .sender
    · simpa [clientStart, receives] using exactly
    · -- a sender has no timeout, and its watchdog never looks
      refine iff_of_true (fun failed => ?_) fun _ _ absurd => (receives absurd).elim
      obtain ⟨⟨-, -, watched⟩, -⟩ := alarm.mp failed
      simp [clientStart, receives] at watched

-----------------------------------------------------------------------------------------
-- A server that listens from the time 0 on
-----------------------------------------------------------------------------------------

/-- The server after an event, if it does not fail. -/
def WatchedServer.after (w : WatchedServer) (event : Event) : WatchedServer :=
  match w.server.step event with
  | .ok (next, _, received) => w.extend event next received
  | .error _ => w

theorem ServerWatchRun.follow {start w : WatchedServer} {event : Event}
    (run : ServerWatchRun start w) (stamps : ∀ io, event = .pass io → ServerStamps w io)
    (room : w.log.arrivals.length + 1 < 2 ^ 64) (runs : (w.server.step event).isOk = true)
    : ServerWatchRun start (w.after event) := by
  unfold WatchedServer.after
  split
  · next stepped => exact .step run stamps room stepped
  · next failed =>
      rw [failed] at runs
      cases runs

/-- A pass in which `select(2)` times out at the given time. -/
def timesOutAt (seconds : UInt32) : PassIo :=
  {
    now := { secs := seconds, usecs := 0 }
    select := .timedOut
    later := { secs := seconds, usecs := 0 }
    accept := { accepted := none }
    message := .failed
    stream := { accepted := none }
    start := {}
  }

/-- A client connects, and its one stream does at the given time: `TEST_RUNNING` begins. -/
def startedAt (seconds : UInt32) : WatchedServer :=
  let listening : WatchedServer := { server := sampleStart, log := { since := 0 } }
  (listening.after (.pass (clientConnects smallBlocks))).after
    (.pass { streamConnects with start := { now := { secs := seconds, usecs := 0 } } })

theorem startedAt_run (seconds : UInt32)
    : ServerWatchRun { server := sampleStart, log := { since := 0 } } (startedAt seconds) := by
  have whole : (⟨0, 0⟩ : IperfTime).Normalised := (by decide : (0 : UInt32).toNat < 1000000)
  let listening : WatchedServer := { server := sampleStart, log := { since := 0 } }
  have connected : ServerWatchRun listening
      (listening.after (.pass (clientConnects smallBlocks))) := by
    refine .follow .start ?_ (by decide) rfl
    rintro io ⟨⟩
    exact ⟨whole, whole, fun grown => absurd grown (by decide)⟩
  unfold startedAt
  refine .follow connected ?_ (by decide) rfl
  rintro io ⟨⟩
  exact ⟨whole, whole, fun grown => absurd grown (by decide)⟩

/-- A block arrives five seconds after the server began to listen, and is noted one later. -/
def receivingServer : WatchedServer :=
  ((startedAt 1).after (.receive 0 { secs := 5, usecs := 0 } oneByte)).after (.pass (timesOutAt 6))

/-- Witness: two minutes and a second without a block. -/
theorem watchdog_noFalseAlarm_afterTwoMinutes
    : TrueAlarm receivingServer.server.test.state
        (iperfTimeInUsecs freshServer.settings.rcvTimeout) receivingServer.entered
        receivingServer.log.arrivals { secs := 127, usecs := 0 } := by
  have whole (secs : UInt32) : (⟨secs, 0⟩ : IperfTime).Normalised :=
    (by decide : (0 : UInt32).toNat < 1000000)
  have run : ServerWatchRun { server := sampleStart, log := { since := 0 } } receivingServer := by
    refine .follow (.follow (startedAt_run 1) ?_ (by decide +kernel) (by decide +kernel)) ?_
      (by decide +kernel) (by decide +kernel)
    · rintro io ⟨⟩
    · rintro io ⟨⟩
      exact ⟨whole 6, whole 6, fun _ => by decide +kernel⟩
  have stamps : ServerStamps receivingServer (timesOutAt 127) :=
    ⟨whole 127, whole 127, fun grown => absurd grown (by decide +kernel)⟩
  have exactly := (watchdog_noFalseAlarm_iff rfl (whole 0)).1 3 0 _ (timesOutAt 127) run stamps
  refine exactly.mpr (fun _ early => ?_) rfl
  exact absurd early.2.2 (by decide +kernel)

/-- A server that has listened for 200 seconds raises the alarm one second into a test. -/
theorem watchdog_false_alarm
    : ServerWatchRun { server := sampleStart, log := { since := 0 } } (startedAt 200)
      ∧ (startedAt 200).server.test.state = .testRunning
      ∧ (startedAt 200).server.pass (timesOutAt 201) = .error (.failed .ienomsg)
      ∧ ¬ TrueAlarm (startedAt 200).server.test.state
          (iperfTimeInUsecs freshServer.settings.rcvTimeout) (startedAt 200).entered
          (startedAt 200).log.arrivals { secs := 201, usecs := 0 } := by
  refine ⟨startedAt_run 200, by decide +kernel, rfl, fun alarm => ?_⟩
  exact absurd alarm.longEnough (by decide +kernel)

end Iperf
