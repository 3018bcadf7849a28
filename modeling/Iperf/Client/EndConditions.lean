import Iperf.Client.Interleaving
import Iperf.Library.DeferredTotal
import Iperf.Stats.Workers

/-! The byte and block targets against the traffic after the omit period. `iperf_reset_stats`
clears what the test has sent, but not what it has received, and a worker counts a transfer for
its stream before it does for the test.
-/

namespace Iperf

open Checked DeferredTotal

-----------------------------------------------------------------------------------------
-- Measured traffic
-----------------------------------------------------------------------------------------

/-- `bytes_sent - bytes_sent_omit` of a sending stream. -/
def Stream.sentMeasured (sp : Stream) : UInt64 :=
  if sp.sender then sp.result.bytesSent - sp.result.bytesSentOmit else 0

/-- `bytes_received` of a receiving stream. -/
def Stream.receivedMeasured (sp : Stream) : UInt64 :=
  if sp.sender then 0 else sp.result.bytesReceived

def Count.sent : Count → Nat
  | .bytesSent n => n.toNat
  | .blockSent | .bytesReceived _ | .blockReceived => 0

def Count.received : Count → Nat
  | .bytesReceived n => n.toNat
  | .bytesSent _ | .blockSent | .blockReceived => 0

/-- The blocks of both directions after the omit period, which no stream counts. -/
structure Transfers where
  sent : Nat := 0
  received : Nat := 0

namespace ThreadedClient

/-- The streams that a reset under way has been at. -/
def reached (m : ThreadedClient) : List Stream :=
  match m.resetting with
  | none => m.client.test.streams
  | some (position, _) => m.client.test.streams.take position

/-- What each worker has still to count. -/
def left (m : ThreadedClient) (amount : Count → Nat) : List Nat :=
  m.workers.map fun counts => (counts.map amount).sum

/-- The blocks that are transferred and not counted yet. -/
def blocksLeft (m : ThreadedClient) (block : Count) : Nat :=
  (m.left fun count => if count = block then 1 else 0).sum

/-- The main thread may look at the end conditions. -/
def Checks (m : ThreadedClient) : Prop :=
  m.resetting = none ∧ m.client.test.state = .testRunning

instance (m : ThreadedClient) : Decidable m.Checks := inferInstanceAs (Decidable (_ ∧ _))

end ThreadedClient

/-- The blocks so far after a step: the end of the omit period begins a new count, and a transfer
may complete a block.
-/
def Transfers.extend (blocks : Transfers) (m : ThreadedClient) (event : ThreadEvent)
    (next : ThreadedClient)
    : Transfers :=
  match event with
  | .timer _ _ => if m.resetting.isNone && next.resetting.isSome then {} else blocks
  | .receive _ _ _ | .send _ _ _ =>
      {
        sent := blocks.sent + (next.blocksLeft .blockSent - m.blocksLeft .blockSent)
        received :=
          blocks.received + (next.blocksLeft .blockReceived - m.blocksLeft .blockReceived)
      }
  | _ => blocks

/-- The runs in which every step meets a condition, with the blocks after the omit period. -/
def MeasuredRun (allowed : ThreadedClient → ThreadEvent → Prop)
    : ThreadedClient × Transfers → ThreadedClient × Transfers → Prop :=
  Relation.ReflTransGen fun now later => ∃ event, allowed now.1 event
    ∧ now.1.step event = .ok later.1 ∧ later.2 = now.2.extend now.1 event later.1

/-- The server does not come back to `TEST_RUNNING`: what is received in between counts for the
test and not for a stream.
-/
def RunsOnce (m : ThreadedClient) : ThreadEvent → Prop
  | .listen io =>
      match m.client.reads io with
      | some (.byte value _) => TestState.ofByte value = .testRunning
          → m.client.startup = true ∨ m.client.test.state = .testRunning
      | _ => True
  | _ => True

/-- When the omit period ends nothing was received yet and no worker is between its counts, and
a stream that is still to be reset transfers nothing.
-/
def OmitsCleanly (m : ThreadedClient) : ThreadEvent → Prop
  | .timer _ .omitPeriod => m.client.omitTimer = true
      → m.client.test.bytesReceived = 0 ∧ m.client.test.blocksReceived = 0
        ∧ ∀ counts ∈ m.workers, counts = []
  | .receive position _ _ | .send position _ _ => ∀ reset ∈ m.resetting, position < reset.1
  | _ => True

/-- No stream's count of the traffic after the omit period passes `2 ^ 64`. -/
def WithinWord (m : ThreadedClient) : ThreadEvent → Prop
  | .receive position arrivalTime results =>
      ∀ sp ∈ m.client.test.streams[position]?,
        ∀ part ∈ recvPart m.client.test position arrivalTime results,
          sp.receivedMeasured.toNat + part.1.toNat < 2 ^ 64
  | .send position before io =>
      ∀ sp ∈ m.client.test.streams[position]?,
        ∀ part ∈ sendPart m.client.test position before io,
          sp.sentMeasured.toNat + part.1.toNat < 2 ^ 64
  | _ => True

/-- The steps under which only measured traffic is counted. -/
structure Measures (m : ThreadedClient) (event : ThreadEvent) : Prop where
  once : RunsOnce m event
  cleanly : OmitsCleanly m event
  within : WithinWord m event

/-- The test as it was configured: without streams, nothing transferred. -/
structure Test.Untouched (test : Test) : Prop where
  streams : test.streams = []
  bytesSent : test.bytesSent = 0
  bytesReceived : test.bytesReceived = 0
  blocksSent : test.blocksSent = 0
  blocksReceived : test.blocksReceived = 0

-----------------------------------------------------------------------------------------
-- The accounts of the test and those of its streams
-----------------------------------------------------------------------------------------

/-- The traffic of a direction counts for the test and its streams alike. -/
def Client.Counting (c : Client) : Prop := c.startup = true ∨ c.test.state = .testRunning

/-- What the streams have measured, as far as a reset under way has been at them. -/
def ThreadedClient.parts (m : ThreadedClient) (measure : Stream → UInt64) : List Nat :=
  m.reached.map fun sp => (measure sp).toNat

/-- The counters of the test are those of its streams, but for what the workers have still to
count; what it has received only as long as it counts for both.
-/
structure Measured (m : ThreadedClient) (blocks : Transfers) : Prop where
  sent : Agrees (2 ^ 64) m.client.test.bytesSent.toNat (m.parts Stream.sentMeasured)
    (m.left Count.sent)
  received : m.client.Counting → Agrees (2 ^ 64) m.client.test.bytesReceived.toNat
    (m.parts Stream.receivedMeasured) (m.left Count.received)
  idle : m.client.startup = true
    → (∀ sp ∈ m.client.test.streams, sp.threadCreated = false) ∧ m.workers = []
  armed : m.client.omitTimer = true → m.client.test.omitPeriod ≠ 0
  blocksSent : m.client.test.blocksSent.toNat + m.blocksLeft .blockSent ≤ blocks.sent
  blocksReceived
    : m.client.test.blocksReceived.toNat + m.blocksLeft .blockReceived ≤ blocks.received

/-- Nothing that is counted has changed. -/
structure SameAccounts (c next : Client) : Prop where
  bytesSent : next.test.bytesSent = c.test.bytesSent
  blocksSent : next.test.blocksSent = c.test.blocksSent
  bytesReceived : next.test.bytesReceived = c.test.bytesReceived
  blocksReceived : next.test.blocksReceived = c.test.blocksReceived
  omitPeriod : next.test.omitPeriod = c.test.omitPeriod
  sent : next.test.streams.map Stream.sentMeasured = c.test.streams.map Stream.sentMeasured
  received : next.test.streams.map Stream.receivedMeasured
    = c.test.streams.map Stream.receivedMeasured

variable {m m' : ThreadedClient} {next : Client} {blocks : Transfers}

/-- Streams that are changed one by one measure the same when each of them does. -/
theorem map_congr {f : Stream → UInt64} {g : Stream → Stream} (kept : ∀ sp, f (g sp) = f sp)
    (streams : List Stream)
    : (streams.map g).map f = streams.map f := by
  have same : f ∘ g = f := funext kept
  rw [List.map_map, same]

/-- A client in any other state counts only what it receives before its threads start. -/
theorem counts_before (c : Client) (state : TestState) (other : state ≠ .testRunning)
    (counting : c.startup = true ∨ state = .testRunning)
    : c.Counting :=
  counting.imp_right fun running => absurd running other

theorem parts_of_map_eq {measure : Stream → UInt64} (free : m.resetting = none)
    (same : next.test.streams.map measure = m.client.test.streams.map measure)
    : ({ m with client := next } : ThreadedClient).parts measure = m.parts measure := by
  have mapped := congrArg (List.map UInt64.toNat) same
  rw [List.map_map, List.map_map] at mapped
  unfold ThreadedClient.parts ThreadedClient.reached
  dsimp only
  rw [free]
  exact mapped

theorem Measured.keep (measured : Measured m blocks) (free : m.resetting = none)
    (same : SameAccounts m.client next)
    (counts : next.Counting → m.client.Counting)
    (idle : next.startup = true
      → (∀ sp ∈ next.test.streams, sp.threadCreated = false) ∧ m.workers = [])
    (armed : next.omitTimer = true → m.client.test.omitPeriod ≠ 0)
    : Measured { m with client := next } blocks where
  sent := by
    rw [parts_of_map_eq free same.sent, same.bytesSent]
    exact measured.sent
  received := by
    intro counting
    rw [parts_of_map_eq free same.received, same.bytesReceived]
    exact measured.received (counts counting)
  idle := idle
  armed := by
    rw [same.omitPeriod]
    exact armed
  blocksSent := by
    rw [same.blocksSent]
    exact measured.blocksSent
  blocksReceived := by
    rw [same.blocksReceived]
    exact measured.blocksReceived

/-- Streams that are changed one by one stay without threads before the threads start. -/
theorem Measured.idle_map (measured : Measured m blocks) {g : Stream → Stream}
    (kept : ∀ sp, (g sp).threadCreated = true → sp.threadCreated = true)
    (startup : m.client.startup = true)
    : (∀ sp ∈ m.client.test.streams.map g, sp.threadCreated = false) ∧ m.workers = [] := by
  obtain ⟨idle, workers⟩ := measured.idle startup
  refine ⟨fun sp member => ?_, workers⟩
  obtain ⟨old, isOld, rfl⟩ := List.mem_map.mp member
  refine Bool.eq_false_iff.mpr fun thread => ?_
  exact Bool.eq_false_iff.mp (idle old isOld) (kept old thread)

theorem map_takesPeer {f : Stream → UInt64}
    (kept : ∀ peer sp, f (takePeerResult peer sp) = f sp) {streams streams' : List Stream}
    (taken : List.Forall₂ TakesPeer streams streams')
    : streams'.map f = streams.map f :=
  map_eq_of_forall₂ (taken.imp fun _ _ takes => takes.kept f kept)

theorem sentMeasured_takes (peer : PeerResult) (sp : Stream)
    : (takePeerResult peer sp).sentMeasured = sp.sentMeasured := by
  unfold takePeerResult
  split
  · next isSender => simp only [Stream.sentMeasured, senderTakes, isSender, if_true]
  · next isReceiver => simp [Stream.sentMeasured, receiverTakes, isReceiver]

theorem receivedMeasured_takes (peer : PeerResult) (sp : Stream)
    : (takePeerResult peer sp).receivedMeasured = sp.receivedMeasured := by
  unfold takePeerResult
  split
  · next isSender => simp only [Stream.receivedMeasured, senderTakes, isSender, if_true]
  · next isReceiver => simp [Stream.receivedMeasured, receiverTakes, isReceiver]

theorem NewStream.sentMeasured {sp : Stream} (new : NewStream sp) : sp.sentMeasured = 0 := by
  unfold Stream.sentMeasured
  rw [new.result]
  exact ite_self _

theorem NewStream.receivedMeasured {sp : Stream} (new : NewStream sp)
    : sp.receivedMeasured = 0 := by
  unfold Stream.receivedMeasured
  rw [new.result]
  exact ite_self _

/-- New streams have transferred nothing. -/
theorem parts_addStreams {measure : Stream → UInt64} (free : m.resetting = none)
    {added : List Stream} (nothing : ∀ sp ∈ added, measure sp = 0) {total : Nat}
    {pending : List Nat} (agrees : Agrees (2 ^ 64) total (m.parts measure) pending)
    (created : next.test.streams = m.client.test.streams ++ added)
    : Agrees (2 ^ 64) total (({ m with client := next } : ThreadedClient).parts measure)
      pending := by
  unfold ThreadedClient.parts ThreadedClient.reached at agrees ⊢
  rw [free] at agrees ⊢
  dsimp only at agrees ⊢
  rw [created, List.map_append]
  refine agrees.append ?_
  intro part isPart
  obtain ⟨sp, isNew, rfl⟩ := List.mem_map.mp isPart
  rw [nothing sp isNew]
  rfl

/-- A message moves nothing; only `TEST_RUNNING` must not come back. -/
theorem Measured.handle {state : TestState} (measured : Measured m blocks)
    (free : m.resetting = none) (handled : Handled m.client state next)
    (once : state = .testRunning → m.client.Counting)
    : Measured { m with client := next } blocks := by
  cases handled with
  | paramExchange =>
      exact measured.keep free ⟨rfl, rfl, rfl, rfl, rfl, rfl, rfl⟩
        (counts_before m.client .paramExchange (by decide)) measured.idle measured.armed
  | @createStreams added new =>
      refine ⟨?_, fun counting => ?_, fun startup => ?_, measured.armed, measured.blocksSent,
        measured.blocksReceived⟩
      · exact parts_addStreams free (fun sp isNew => (new sp isNew).sentMeasured) measured.sent rfl
      · exact parts_addStreams free (fun sp isNew => (new sp isNew).receivedMeasured)
          (measured.received (counts_before m.client .createStreams (by decide) counting)) rfl
      · refine ⟨fun sp member => ?_, (measured.idle startup).2⟩
        rcases List.mem_append.mp member with old | isNew
        · exact (measured.idle startup).1 sp old
        · exact (new sp isNew).threadCreated
  | testStart now =>
      refine measured.keep free ⟨rfl, rfl, rfl, rfl, rfl, ?_, ?_⟩
        (counts_before m.client .testStart (by decide)) ?_ ?_
      · refine map_congr ?_ _
        exact fun _ => rfl
      · refine map_congr ?_ _
        exact fun _ => rfl
      · exact measured.idle_map fun _ => id
      · exact fun armed => of_decide_eq_true armed
  | testRunning =>
      exact measured.keep free ⟨rfl, rfl, rfl, rfl, rfl, rfl, rfl⟩ (fun _ => once rfl)
        measured.idle measured.armed
  | exchangeResults json taken =>
      obtain ⟨streams, _, _, _, _, peers, shape⟩ :=
        getResults_shape { m.client.test with state := .exchangeResults } json
      rw [shape]
      refine measured.keep free ⟨rfl, rfl, rfl, rfl, rfl, ?_, ?_⟩
        (counts_before m.client .exchangeResults (by decide)) ?_ measured.armed
      · exact map_takesPeer sentMeasured_takes peers
      · exact map_takesPeer receivedMeasured_takes peers
      · intro startup
        refine ⟨fun sp member => ?_, (measured.idle startup).2⟩
        have threads : List.Forall₂ (fun a b : Stream => b.threadCreated = a.threadCreated)
            m.client.test.streams streams := peers.imp fun a b takes =>
          takes.kept Stream.threadCreated fun peer sp => by unfold takePeerResult; split <;> rfl
        obtain ⟨old, isOld, same⟩ := exists_of_forall₂_right threads member
        exact same.trans ((measured.idle startup).1 old isOld)
  | displayResults =>
      unfold iperfClientEnd
      split
      · exact measured.keep free ⟨rfl, rfl, rfl, rfl, rfl, rfl, rfl⟩
          (counts_before m.client .iperfDone (by decide)) measured.idle measured.armed
      · exact measured.keep free ⟨rfl, rfl, rfl, rfl, rfl, rfl, rfl⟩
          (counts_before m.client .displayResults (by decide)) measured.idle measured.armed
  | iperfDone =>
      exact measured.keep free ⟨rfl, rfl, rfl, rfl, rfl, rfl, rfl⟩
        (counts_before m.client .iperfDone (by decide)) measured.idle measured.armed

-----------------------------------------------------------------------------------------
-- The parts of a pass
-----------------------------------------------------------------------------------------

theorem Measured.noted (measured : Measured m blocks) (free : m.resetting = none)
    (now : IperfTime)
    : Measured { m with client := m.client.noteProgress now } blocks := by
  unfold Client.noteProgress
  split
  · exact measured.keep free ⟨rfl, rfl, rfl, rfl, rfl, rfl, rfl⟩ id measured.idle measured.armed
  · exact measured

theorem reads_noteProgress (c : Client) (now : IperfTime) (io : ClientPassIo)
    : (c.noteProgress now).reads io = c.reads io := by
  unfold Client.reads
  rw [(noteProgress_test c now).1]

/-- The message of a pass keeps the accounts. -/
theorem Measured.listen {io : ClientPassIo} (measured : Measured m blocks)
    (free : m.resetting = none) (once : RunsOnce m (.listen io))
    (heard : m.client.listen io = .ok next)
    : Measured { m with client := next } blocks := by
  have handled := listen_ok heard
  obtain ⟨test, startup, -⟩ := noteProgress_test m.client (m.client.clock io)
  have noted := measured.noted free (m.client.clock io)
  unfold Client.AfterMessage at handled
  unfold RunsOnce at once
  dsimp only at once
  rw [reads_noteProgress] at handled
  cases read : m.client.reads io with
  | none =>
      rw [read] at handled
      rw [handled]
      exact noted
  | some message =>
      rw [read] at handled once
      obtain ⟨value, answer, rfl, byte⟩ := clientMessage_handled handled
      refine noted.handle free byte fun running => ?_
      unfold Client.Counting
      rw [startup, test]
      exact once running

/-- Workers that have counted everything have nothing left. -/
theorem left_idle {workers : List (List Count)} (idle : ∀ counts ∈ workers, counts = [])
    (amount : Count → Nat)
    : ∀ n ∈ workers.map (fun counts => (counts.map amount).sum), n = 0 := by
  intro n isOne
  obtain ⟨counts, isThere, rfl⟩ := List.mem_map.mp isOne
  rw [idle counts isThere]
  rfl

/-- New workers have nothing to count. -/
theorem Measured.startWorkers (measured : Measured m blocks) (none : m.workers = [])
    (later : m.client.startup = false)
    {workers : List (List Count)} (idle : ∀ counts ∈ workers, counts = [])
    : Measured { m with workers } blocks := by
  have before (amount : Count → Nat) : ∀ n ∈ m.left amount, n = 0 := by
    unfold ThreadedClient.left
    rw [none]
    exact fun n isOne => absurd isOne List.not_mem_nil
  have nothing (block : Count)
      : ({ m with workers } : ThreadedClient).blocksLeft block = m.blocksLeft block := by
    unfold ThreadedClient.blocksLeft
    rw [List.sum_eq_zero (before _)]
    exact List.sum_eq_zero (left_idle idle _)
  refine ⟨measured.sent.idle (before _) (left_idle idle _),
    fun counting => (measured.received counting).idle (before _) (left_idle idle _),
    fun startup => ?_, measured.armed, ?_, ?_⟩
  · rw [later] at startup
    cases startup
  · rw [nothing]
    exact measured.blocksSent
  · rw [nothing]
    exact measured.blocksReceived

/-- Threads start in `TEST_RUNNING` only. -/
theorem Measured.threads {io : ClientPassIo} (measured : Measured m blocks)
    (started : m.startThreads io = .ok m')
    : Measured m' blocks := by
  unfold ThreadedClient.startThreads at started
  split at started
  · next condition =>
      have free : m.resetting = none := Option.isNone_iff_eq_none.mp condition.1
      obtain ⟨client, threads, shape⟩ := map_eq_ok.mp started
      rcases startThreads_ok threads with ⟨later, rfl⟩ | ⟨first, rfl⟩
      · rw [later] at shape
        exact shape ▸ measured
      · rw [first] at shape
        obtain rfl := shape.symm
        have kept : Measured {
              m with
              client.startup := false
              client.test.streams :=
                m.client.test.streams.map (fun sp => { sp with threadCreated := true })
            } blocks := by
          refine measured.keep free ⟨rfl, rfl, rfl, rfl, rfl, ?_, ?_⟩ (fun _ => .inr condition.2)
            (fun startup => by cases startup) measured.armed
          · refine map_congr ?_ _
            exact fun _ => rfl
          · refine map_congr ?_ _
            exact fun _ => rfl
        refine kept.startWorkers (measured.idle first).2 rfl ?_
        intro counts isNew
        obtain ⟨_, -, rfl⟩ := List.mem_map.mp isNew
        rfl
  · exact (Except.ok.inj started) ▸ measured

-----------------------------------------------------------------------------------------
-- Timers and the end of the test
-----------------------------------------------------------------------------------------

theorem Measured.stats (measured : Measured m blocks) (free : m.resetting = none)
    (now : IperfTime)
    : Measured { m with client.test := iperfStatsCallback m.client.test now } blocks := by
  obtain ⟨_, _, _, _, shape⟩ := iperfStatsCallback_shape m.client.test now
  rw [shape]
  refine measured.keep free ⟨rfl, rfl, rfl, rfl, rfl, ?_, ?_⟩ id ?_ measured.armed
  · refine map_congr ?_ _
    exact fun _ => rfl
  · refine map_congr ?_ _
    exact fun _ => rfl
  · exact measured.idle_map fun _ => id

/-- The reset starts both counts anew, provided that nothing was received and nothing is left to
be counted.
-/
theorem Measured.startReset (measured : Measured m blocks) (now : IperfTime)
    (nothing : m.client.test.bytesReceived = 0 ∧ m.client.test.blocksReceived = 0
      ∧ ∀ counts ∈ m.workers, counts = [])
    : Measured (m.startReset now) {} where
  sent := agrees_zero _ (left_idle nothing.2.2 _)
  received := by
    intro _
    have none : (m.startReset now).client.test.bytesReceived = 0 := nothing.1
    rw [none]
    exact agrees_zero _ (left_idle nothing.2.2 _)
  idle := measured.idle
  armed := fun absurd => by cases absurd
  blocksSent := by
    have none : (m.startReset now).client.test.blocksSent.toNat = 0 := rfl
    rw [none, Nat.zero_add]
    exact (List.sum_eq_zero (left_idle nothing.2.2 _)).le
  blocksReceived := by
    have none : (m.startReset now).client.test.blocksReceived = 0 := nothing.2.1
    rw [none, UInt64.toNat_zero, Nat.zero_add]
    exact (List.sum_eq_zero (left_idle nothing.2.2 _)).le

/-- A timer keeps the accounts, and only the omit timer starts the count anew. -/
theorem Measured.timer (measured : Measured m blocks) (now : IperfTime) (timer : Timer)
    (cleanly : OmitsCleanly m (.timer now timer))
    : Measured (m.runTimer now timer)
      (blocks.extend m (.timer now timer) (m.runTimer now timer)) := by
  unfold Transfers.extend ThreadedClient.runTimer
  dsimp only
  split
  · next condition =>
      have free : m.resetting = none := Option.isNone_iff_eq_none.mp condition.1
      have same {next : ThreadedClient} (still : next.resetting = m.resetting)
          (kept : Measured next blocks)
          : Measured next
            (if (m.resetting.isNone && next.resetting.isSome) = true then {} else blocks) := by
        rw [still, free]
        exact kept
      unfold ThreadedClient.fireTimer Client.runTimer
      cases timer with
      | safety =>
          refine same rfl ?_
          dsimp only
          split
          · exact measured.keep free ⟨rfl, rfl, rfl, rfl, rfl, rfl, rfl⟩ id measured.idle
              measured.armed
          · exact measured
      | stats =>
          refine same rfl ?_
          dsimp only
          split
          · exact measured.stats free now
          · exact measured
      | omitPeriod =>
          dsimp only
          split
          · next armed =>
              rw [free]
              exact measured.startReset now (cleanly armed)
          · exact same rfl measured
  · rw [if_neg (by cases m.resetting <;> simp)]
    exact measured

/-- A stream that is reset measures nothing. -/
theorem parts_resetStream {measure : Stream → UInt64} {position : Nat} {now : IperfTime}
    (resetting : m.resetting = some (position, now))
    (nothing : ∀ sp, measure (resetStreamStats now sp) = 0) {total : Nat} {pending : List Nat}
    (agrees : Agrees (2 ^ 64) total (m.parts measure) pending)
    : Agrees (2 ^ 64) total (m.resetStream.parts measure) pending := by
  unfold ThreadedClient.parts ThreadedClient.reached ThreadedClient.resetStream at *
  rw [resetting] at agrees ⊢
  dsimp only at agrees ⊢
  cases found : m.client.test.streams[position]? with
  | none =>
      rw [List.take_of_length_le (List.getElem?_eq_none_iff.mp found)] at agrees
      exact agrees
  | some sp =>
      have inside : position < m.client.test.streams.length :=
        (List.getElem?_eq_some_iff.mp found).1
      dsimp only
      rw [List.take_add_one, List.take_set_of_le (le_refl _), List.getElem?_set_self inside,
        Option.toList_some, List.map_append]
      refine agrees.append ?_
      intro part isPart
      obtain ⟨new, isNew, rfl⟩ := List.mem_map.mp isPart
      obtain rfl := List.mem_singleton.mp isNew
      rw [nothing sp]
      rfl

theorem Measured.resetStream (measured : Measured m blocks) : Measured m.resetStream blocks := by
  cases resetting : m.resetting with
  | none =>
      unfold ThreadedClient.resetStream
      rw [resetting]
      exact measured
  | some reset =>
      obtain ⟨position, now⟩ := reset
      have sentAnew (sp : Stream) : (resetStreamStats now sp).sentMeasured = 0 := by
        simp [Stream.sentMeasured, resetStreamStats]
      have receivedAnew (sp : Stream) : (resetStreamStats now sp).receivedMeasured = 0 :=
        ite_self _
      have sent := parts_resetStream resetting sentAnew measured.sent
      have received (counting : m.client.Counting) :=
        parts_resetStream resetting receivedAnew (measured.received counting)
      unfold ThreadedClient.resetStream at sent received ⊢
      rw [resetting] at sent received ⊢
      dsimp only at sent received ⊢
      cases found : m.client.test.streams[position]? with
      | none =>
          rw [found] at sent received
          exact ⟨sent, received, measured.idle, measured.armed, measured.blocksSent,
            measured.blocksReceived⟩
      | some sp =>
          rw [found] at sent received
          refine ⟨sent, received, fun startup => ⟨fun sp' member => ?_, (measured.idle startup).2⟩,
            measured.armed, measured.blocksSent, measured.blocksReceived⟩
          rcases List.mem_or_eq_of_mem_set member with old | rfl
          · exact (measured.idle startup).1 sp' old
          · exact (measured.idle startup).1 sp (List.mem_of_getElem? found)

theorem Measured.finish {io : ClientPassIo} (measured : Measured m blocks)
    (free : m.resetting = none) (finished : m.client.finish io = .ok next)
    : Measured { m with client := next } blocks := by
  rcases finish_ok finished with ⟨-, rfl⟩ | ⟨-, ending⟩
  · exact measured
  · have stopped : Measured {
          m with
          client.test := { stopSenders m.client.test with done := true, cpuUtil := io.cpuUtil }
        } blocks := by
      refine measured.keep free ⟨rfl, rfl, rfl, rfl, rfl, ?_, ?_⟩ id ?_ measured.armed
      · refine map_congr ?_ _
        exact fun sp => by split <;> rfl
      · refine map_congr ?_ _
        exact fun sp => by split <;> rfl
      · refine measured.idle_map fun sp thread => ?_
        split at thread
        · cases thread
        · exact thread
    have ended := stopped.stats free io.timerNow
    rcases ending with ⟨rfl, -⟩ | ⟨rfl, -⟩
    · refine ended.keep free ⟨rfl, rfl, rfl, rfl, rfl, rfl, rfl⟩ ?_ ended.idle ended.armed
      exact counts_before { m.client with test := m.client.ended io } .testEnd (by decide)
    · exact ended

-----------------------------------------------------------------------------------------
-- Workers
-----------------------------------------------------------------------------------------

/-- A worker has a stream of its direction, and only runs once the threads are started. -/
theorem Measured.worker {position : Nat} {sender : Bool} (measured : Measured m blocks)
    (working : m.client.test.working position sender = true)
    : ∃ sp, m.client.test.streams[position]? = some sp ∧ sp.sender = sender
      ∧ m.client.startup = false := by
  unfold Test.working at working
  split at working
  · cases working
  · next sp found =>
      obtain ⟨thread, direction⟩ : sp.threadCreated = true ∧ sp.sender = sender := by
        simpa using working
      refine ⟨sp, found, direction, ?_⟩
      cases startup : m.client.startup with
      | false => rfl
      | true =>
          have idle := (measured.idle startup).1 sp (List.mem_of_getElem? found)
          rw [thread] at idle
          cases idle

/-- What a stream takes is left to be counted. -/
theorem parts_transfer {measure : Stream → UInt64} {amount : Count → Nat} {position total : Nat}
    {sp sp' : Stream} {counts : List Count} {test : Test}
    (agrees : Agrees (2 ^ 64) total (m.parts measure) (m.left amount))
    (found : m.client.test.streams[position]? = some sp)
    (streams : test.streams = m.client.test.streams.set position sp')
    (idle : m.workers[position]? = some [])
    (reset : ∀ reset ∈ m.resetting, position < reset.1)
    (takes : (measure sp').toNat = (measure sp).toNat + (counts.map amount).sum)
    : Agrees (2 ^ 64) total
      (({
          m with
          client := { m.client with test }
          workers := m.workers.set position counts
        } : ThreadedClient).parts measure)
      ((m.workers.set position counts).map fun counts => (counts.map amount).sum) := by
  have waits : (m.left amount)[position]? = some 0 := by
    unfold ThreadedClient.left
    rw [List.getElem?_map, idle]
    rfl
  have has : (m.parts measure)[position]? = some (measure sp).toNat := by
    unfold ThreadedClient.parts ThreadedClient.reached
    rw [List.getElem?_map]
    cases resetting : m.resetting with
    | none => rw [found]; rfl
    | some pair =>
        dsimp only
        rw [List.getElem?_take_of_lt (reset pair resetting), found]
        rfl
  have taken := agrees.take has waits (counts.map amount).sum
  rw [← takes] at taken
  unfold ThreadedClient.left at taken
  unfold ThreadedClient.parts ThreadedClient.reached at taken ⊢
  dsimp only
  rw [List.map_set, streams]
  cases resetting : m.resetting with
  | none =>
      rw [resetting] at taken
      rw [List.map_set]
      exact taken
  | some pair =>
      rw [resetting] at taken
      dsimp only at taken ⊢
      rw [List.take_set, List.map_set]
      exact taken

/-- A transfer keeps the accounts if the stream takes exactly what is left to be counted. -/
theorem Measured.transfers {position : Nat} {sp sp' : Stream} {counts : List Count}
    {next : ThreadedClient} {event : ThreadEvent}
    (measured : Measured m blocks) (started : m.client.startup = false)
    (found : m.client.test.streams[position]? = some sp)
    (idle : m.workers[position]? = some [])
    (reset : ∀ reset ∈ m.resetting, position < reset.1)
    (moved : next = {
        m with
        client.test.streams := m.client.test.streams.set position sp'
        workers := m.workers.set position counts
      })
    (sent : sp'.sentMeasured.toNat = sp.sentMeasured.toNat + (counts.map Count.sent).sum)
    (received : m.client.test.state = .testRunning → sp'.receivedMeasured.toNat
      = sp.receivedMeasured.toNat + (counts.map Count.received).sum)
    (extended : blocks.extend m event next = {
        sent := blocks.sent + (next.blocksLeft .blockSent - m.blocksLeft .blockSent)
        received :=
          blocks.received + (next.blocksLeft .blockReceived - m.blocksLeft .blockReceived)
      })
    : Measured next (blocks.extend m event next) := by
  have blocksSent := measured.blocksSent
  have blocksReceived := measured.blocksReceived
  rw [extended]
  obtain rfl := moved
  refine ⟨?_, fun counting => ?_, fun startup => ?_, measured.armed, ?_, ?_⟩
  · exact parts_transfer measured.sent found rfl idle reset sent
  · rcases counting with startup | running
    · rw [started] at startup
      cases startup
    · exact parts_transfer (measured.received (.inr running)) found rfl idle reset
        (received running)
  · rw [started] at startup
    cases startup
  · dsimp only at blocksSent ⊢
    omega
  · dsimp only at blocksReceived ⊢
    omega

/-- A sum that does not wrap around. -/
theorem toNat_add_ofNat {n : UInt64} {r : Int} (small : n.toNat + r.toNat < 2 ^ 64)
    : (n + UInt64.ofNat r.toNat).toNat = n.toNat + r.toNat := by
  rw [UInt64.toNat_add, UInt64.toNat_ofNat', Nat.add_mod_mod, Nat.mod_eq_of_lt small]

/-- The result of a call is a word when a sum with it is. -/
theorem toNat_ofNat_ret {n : Nat} {r : Int} (small : n + r.toNat < 2 ^ 64)
    : (UInt64.ofNat r.toNat).toNat = r.toNat := by
  rw [UInt64.toNat_ofNat', Nat.mod_eq_of_lt]
  exact (Nat.le_add_left _ _).trans_lt small

/-- Nothing has changed. -/
theorem Transfers.extend_self (blocks : Transfers) (event : ThreadEvent)
    : blocks.extend m event m = blocks := by
  unfold Transfers.extend
  cases event with
  | timer now timer =>
      dsimp only
      rw [if_neg (by cases m.resetting <;> simp)]
  | receive position arrivalTime results | send position before io =>
      simp only [Nat.sub_self, Nat.add_zero]
  | listen io | threads io | resetStream | check io | count position => rfl

/-- A receiving worker in `TEST_RUNNING` adds to its stream what it has to count. -/
theorem Measured.receive {position : Nat} {arrivalTime : IperfTime} {results : List RecvResult}
    (measured : Measured m blocks) (meets : Measures m (.receive position arrivalTime results))
    : Measured
      (m.transfer position false (recvPart m.client.test position arrivalTime results))
      (blocks.extend m (.receive position arrivalTime results)
        (m.transfer position false (recvPart m.client.test position arrivalTime results))) := by
  have same := Transfers.extend_self (m := m) blocks (.receive position arrivalTime results)
  unfold ThreadedClient.transfer
  split
  · next condition =>
      obtain ⟨working, idle⟩ := condition
      obtain ⟨sp, found, isReceiver, started⟩ := measured.worker working
      have small := meets.within sp found
      cases part : recvPart m.client.test position arrivalTime results with
      | none => exact same.symm ▸ measured
      | some got =>
          have fits := small got part
          unfold recvPart at part
          rw [found] at part
          simp only [Option.bind_eq_bind, Option.bind_some, Option.bind_eq_some_iff] at part
          obtain ⟨⟨r, sp'⟩, called, shape⟩ := part
          obtain rfl := (Option.some.inj shape).symm
          obtain ⟨baseline, result⟩ := protocolRecv_accounts called
          have isReceiverToo : sp'.sender = false := baseline.sender.trans isReceiver
          refine measured.transfers started found idle meets.cleanly rfl ?_ ?_ rfl
          · have none : sp'.sentMeasured = sp.sentMeasured := by
              simp [Stream.sentMeasured, isReceiver, isReceiverToo]
            rw [none]
            split <;> rfl
          · intro running
            have counted : countedBytes m.client.test r = UInt64.ofNat r.toNat := if_pos running
            have more : sp'.receivedMeasured = sp.receivedMeasured + UInt64.ofNat r.toNat := by
              simp [Stream.receivedMeasured, isReceiver, isReceiverToo, result,
                StreamResult.receive, counted]
            rw [more, toNat_add_ofNat fits]
            split
            · simp [Count.received, toNat_ofNat_ret fits]
            · next nothing =>
                rw [Int.toNat_of_nonpos (not_lt.mp nothing)]
                rfl
  · exact same.symm ▸ measured

/-- A sending worker adds to its stream what it has to count. -/
theorem Measured.send {position : Nat} {before : IperfTime} {io : SendIo}
    (measured : Measured m blocks) (meets : Measures m (.send position before io))
    : Measured (m.transfer position true (sendPart m.client.test position before io))
      (blocks.extend m (.send position before io)
        (m.transfer position true (sendPart m.client.test position before io))) := by
  have same := Transfers.extend_self (m := m) blocks (.send position before io)
  unfold ThreadedClient.transfer
  split
  · next condition =>
      obtain ⟨working, idle⟩ := condition
      obtain ⟨sp, found, isSender, started⟩ := measured.worker working
      have small := meets.within sp found
      cases part : sendPart m.client.test position before io with
      | none => exact same.symm ▸ measured
      | some got =>
          have fits := small got part
          unfold sendPart at part
          rw [found] at part
          simp only [Option.bind_eq_bind, Option.bind_some, Option.bind_eq_some_iff] at part
          obtain ⟨⟨sent, sp'⟩, called, shape⟩ := part
          obtain rfl := (Option.some.inj shape).symm
          obtain ⟨baseline, result⟩ := protocolSend_accounts called
          have isSenderToo : sp'.sender = true := baseline.sender.trans isSender
          have more : sp'.sentMeasured = sp.sentMeasured + UInt64.ofNat sent.ret.toNat := by
            simp only [Stream.sentMeasured, isSender, isSenderToo, result, StreamResult.send,
              if_true, UInt64.sub_eq_add_neg]
            ac_rfl
          refine measured.transfers started found idle meets.cleanly rfl ?_ ?_ rfl
          · rw [more, toNat_add_ofNat fits]
            dsimp only
            split
            · next failed =>
                rw [Int.toNat_of_nonpos failed.le]
                rfl
            · split <;> simp [Count.sent, toNat_ofNat_ret fits]
          · intro _
            have none : sp'.receivedMeasured = sp.receivedMeasured := by
              simp [Stream.receivedMeasured, isSender, isSenderToo]
            rw [none]
            dsimp only
            split
            · rfl
            · split <;> rfl
  · exact same.symm ▸ measured

/-- What is left of a worker, before and after it has counted. -/
theorem left_count {position : Nat} {first : Count} {rest : List Count}
    (waits : m.workers[position]? = some (first :: rest)) (amount : Count → Nat)
    : (m.left amount)[position]? = some (amount first + (rest.map amount).sum)
      ∧ (m.count position).left amount = (m.left amount).set position (rest.map amount).sum := by
  unfold ThreadedClient.count ThreadedClient.left
  rw [waits]
  dsimp only
  rw [List.getElem?_map, waits, List.map_set]
  exact ⟨rfl, rfl⟩

/-- The test has what a worker counts. -/
theorem count_amounts (test : Test) (first : Count)
    : (test.count first).bytesSent.toNat ≡ test.bytesSent.toNat + first.sent [MOD 2 ^ 64]
      ∧ (test.count first).bytesReceived.toNat
        ≡ test.bytesReceived.toNat + first.received [MOD 2 ^ 64]
      ∧ (test.count first).blocksSent.toNat
        ≤ test.blocksSent.toNat + (if first = .blockSent then 1 else 0)
      ∧ (test.count first).blocksReceived.toNat
        ≤ test.blocksReceived.toNat + (if first = .blockReceived then 1 else 0) := by
  have more (a b : UInt64) : (a + b).toNat ≡ a.toNat + b.toNat [MOD 2 ^ 64] := by
    rw [UInt64.toNat_add]
    exact Nat.mod_modEq _ _
  have next (a : UInt64) : (a + 1).toNat ≤ a.toNat + 1 := by
    rw [UInt64.toNat_add]
    exact Nat.mod_le _ _
  cases first with
  | bytesSent n => exact ⟨more _ _, Nat.ModEq.refl _, Nat.le_add_right _ _, Nat.le_add_right _ _⟩
  | blockSent => exact ⟨Nat.ModEq.refl _, Nat.ModEq.refl _, next _, Nat.le_add_right _ _⟩
  | bytesReceived n =>
      exact ⟨Nat.ModEq.refl _, more _ _, Nat.le_add_right _ _, Nat.le_add_right _ _⟩
  | blockReceived => exact ⟨Nat.ModEq.refl _, Nat.ModEq.refl _, Nat.le_add_right _ _, next _⟩

/-- The count of a worker moves to the test what was left. -/
theorem Measured.count (measured : Measured m blocks) (position : Nat)
    : Measured (m.count position) blocks := by
  cases waits : m.workers[position]? with
  | none =>
      unfold ThreadedClient.count
      rw [waits]
      exact measured
  | some counts =>
      cases counts with
      | nil =>
          unfold ThreadedClient.count
          rw [waits]
          exact measured
      | cons first rest =>
          have left := left_count waits
          have shape : m.count position = {
              m with
              client.test := m.client.test.count first
              workers := m.workers.set position rest
            } := by
            unfold ThreadedClient.count
            rw [waits]
          obtain ⟨sent, received, blocksSent, blocksReceived⟩ :=
            count_amounts m.client.test first
          have fewer (block : Count) : (m.count position).blocksLeft block
              + (if first = block then 1 else 0) = m.blocksLeft block := by
            unfold ThreadedClient.blocksLeft
            rw [(left _).2]
            have sums := sum_set (left fun count => if count = block then 1 else 0).1
              ((rest.map fun count => if count = block then 1 else 0).sum)
            omega
          obtain ⟨parts, startup, omitTimer, threads, omitPeriod, counting⟩ :
              (∀ measure, (m.count position).parts measure = m.parts measure)
              ∧ (m.count position).client.startup = m.client.startup
              ∧ (m.count position).client.omitTimer = m.client.omitTimer
              ∧ (m.count position).client.test.streams = m.client.test.streams
              ∧ (m.count position).client.test.omitPeriod = m.client.test.omitPeriod
              ∧ ((m.count position).client.Counting → m.client.Counting) := by
            rw [shape]
            cases first <;> exact ⟨fun _ => rfl, rfl, rfl, rfl, rfl, id⟩
          have posted : (m.count position).client.test = m.client.test.count first := by
            rw [shape]
          rw [← posted] at sent received blocksSent blocksReceived
          have wasSent := measured.blocksSent
          have wasReceived := measured.blocksReceived
          have fewerSent := fewer .blockSent
          have fewerReceived := fewer .blockReceived
          refine ⟨?_, fun still => ?_, fun first => ?_, ?_, by omega, by omega⟩
          · rw [parts, (left _).2]
            exact measured.sent.post (left _).1 sent
          · rw [parts, (left _).2]
            exact (measured.received (counting still)).post (left _).1 received
          · rw [startup] at first
            have none := (measured.idle first).2
            rw [none] at waits
            cases waits
          · rw [omitTimer, omitPeriod]
            exact measured.armed

-----------------------------------------------------------------------------------------
-- Whole runs
-----------------------------------------------------------------------------------------

theorem main_ok {part : Client → Except Int32 Client} (stepped : m.main part = .ok m')
    : m' = m ∨ m.resetting = none
      ∧ ∃ next, part m.client = .ok next ∧ m' = { m with client := next } := by
  unfold ThreadedClient.main at stepped
  split at stepped
  · next free =>
      obtain ⟨next, ran, rfl⟩ := map_eq_ok.mp stepped
      exact .inr ⟨Option.isNone_iff_eq_none.mp free, next, ran, rfl⟩
  · exact .inl (Except.ok.inj stepped).symm

/-- A step that meets the conditions keeps the accounts. -/
theorem Measured.step {event : ThreadEvent} (measured : Measured m blocks)
    (meets : Measures m event) (stepped : m.step event = .ok m')
    : Measured m' (blocks.extend m event m') := by
  cases event with
  | listen io =>
      have main : m.main (fun c => c.listen io) = .ok m' := stepped
      rcases main_ok main with rfl | ⟨free, next, heard, rfl⟩
      · exact measured
      · exact measured.listen free meets.once heard
  | threads io => exact measured.threads stepped
  | timer now timer =>
      obtain rfl := Except.ok.inj stepped
      exact measured.timer now timer meets.cleanly
  | resetStream =>
      obtain rfl := Except.ok.inj stepped
      exact measured.resetStream
  | check io =>
      have main : m.main (fun c => if c.test.state = .testRunning then c.finish io else .ok c)
          = .ok m' := stepped
      rcases main_ok main with rfl | ⟨free, next, checked, rfl⟩
      · exact measured
      · split at checked
        · exact measured.finish free checked
        · exact (Except.ok.inj checked) ▸ measured
  | receive position arrivalTime results =>
      obtain rfl := Except.ok.inj stepped
      exact measured.receive meets
  | send position before io =>
      obtain rfl := Except.ok.inj stepped
      exact measured.send meets
  | count position =>
      obtain rfl := Except.ok.inj stepped
      exact measured.count position

/-- By induction on the run. -/
theorem MeasuredRun.measured {start last : ThreadedClient × Transfers}
    (run : MeasuredRun Measures start last) (initially : Measured start.1 start.2)
    : Measured last.1 last.2 := by
  induction run with
  | refl => exact initially
  | tail _ taken ih =>
      obtain ⟨event, meets, stepped, extended⟩ := taken
      rw [extended]
      exact ih.step meets stepped

/-- The bytes condition holds, and the test is not omitting any more. -/
def Client.EndsByBytes (c : Client) : Prop :=
  c.test.omitting = false ∧ c.test.settings.bytes ≠ 0
    ∧ (c.test.bytesSent ≥ c.test.settings.bytes ∨ c.test.bytesReceived ≥ c.test.settings.bytes)

/-- The blocks condition holds, and the test is not omitting any more. -/
def Client.EndsByBlocks (c : Client) : Prop :=
  c.test.omitting = false ∧ c.test.settings.blocks ≠ 0
    ∧ (c.test.blocksSent ≥ c.test.settings.blocks
      ∨ c.test.blocksReceived ≥ c.test.settings.blocks)

/-- One direction has transferred the target after the omit period. -/
def Client.TransferredBytes (c : Client) : Prop :=
  c.test.settings.bytes.toNat ≤ (c.test.streams.map (·.sentMeasured.toNat)).sum
    ∨ c.test.settings.bytes.toNat ≤ (c.test.streams.map (·.receivedMeasured.toNat)).sum

def Client.TransferredBlocks (c : Client) (blocks : Transfers) : Prop :=
  c.test.settings.blocks.toNat ≤ blocks.sent ∨ c.test.settings.blocks.toNat ≤ blocks.received

theorem Test.Untouched.measured {test : Test} (untouched : test.Untouched) (now : IperfTime)
    : Measured { client := clientStart test now } {} := by
  have parts (measure : Stream → UInt64)
      : ({ client := clientStart test now } : ThreadedClient).parts measure = [] := by
    have none : (clientStart test now).test.streams = [] := untouched.streams
    unfold ThreadedClient.parts ThreadedClient.reached
    dsimp only
    rw [none]
    rfl
  have sent : (clientStart test now).test.bytesSent = 0 := untouched.bytesSent
  have received : (clientStart test now).test.bytesReceived = 0 := untouched.bytesReceived
  refine ⟨?_, fun _ => ?_, fun _ => ⟨fun sp member => ?_, rfl⟩, fun armed => ?_, ?_, ?_⟩
  · rw [parts, sent]
    exact agrees_zero _ fun amount isOne => absurd isOne List.not_mem_nil
  · rw [parts, received]
    exact agrees_zero _ fun amount isOne => absurd isOne List.not_mem_nil
  · have none : (clientStart test now).test.streams = [] := untouched.streams
    rw [none] at member
    exact absurd member List.not_mem_nil
  · cases armed
  · exact (congrArg UInt64.toNat untouched.blocksSent).le
  · exact (congrArg UInt64.toNat untouched.blocksReceived).le

instance (m : ThreadedClient) : (event : ThreadEvent) → Decidable (RunsOnce m event)
  | .listen io =>
      match read : m.client.reads io with
      | some (.byte value _) =>
          decidable_of_iff (TestState.ofByte value = .testRunning
            → m.client.startup = true ∨ m.client.test.state = .testRunning)
            (by unfold RunsOnce; dsimp only; rw [read])
      | some .failed | some .closed | none =>
          .isTrue (by unfold RunsOnce; dsimp only; rw [read]; trivial)
  | .threads _ | .timer _ _ | .resetStream | .check _ | .receive _ _ _ | .send _ _ _
  | .count _ => .isTrue trivial

instance (m : ThreadedClient) : (event : ThreadEvent) → Decidable (OmitsCleanly m event)
  | .timer _ .omitPeriod => inferInstanceAs (Decidable (_ → _))
  | .receive position _ _ | .send position _ _ =>
      inferInstanceAs (Decidable (∀ reset ∈ m.resetting, position < reset.1))
  | .timer _ .safety | .timer _ .stats | .listen _ | .threads _ | .resetStream | .check _
  | .count _ => .isTrue trivial

instance (m : ThreadedClient) : (event : ThreadEvent) → Decidable (WithinWord m event)
  | .receive _ _ _ => inferInstanceAs (Decidable (∀ sp ∈ _, ∀ part ∈ _, _))
  | .send _ _ _ => inferInstanceAs (Decidable (∀ sp ∈ _, ∀ part ∈ _, _))
  | .timer _ _ | .listen _ | .threads _ | .resetStream | .check _ | .count _ => .isTrue trivial

instance (m : ThreadedClient) (event : ThreadEvent) : Decidable (Measures m event) :=
  decidable_of_iff (RunsOnce m event ∧ OmitsCleanly m event ∧ WithinWord m event)
    ⟨fun meets => ⟨meets.1, meets.2.1, meets.2.2⟩,
      fun meets => ⟨meets.once, meets.cleanly, meets.within⟩⟩

instance (c : Client) : Decidable c.EndsByBytes := inferInstanceAs (Decidable (_ ∧ _))

instance (c : Client) : Decidable c.TransferredBytes := inferInstanceAs (Decidable (_ ∨ _))

/-- The steps of a run, as long as each is allowed and none fails. -/
def runEvents (allowed : ThreadedClient → ThreadEvent → Prop)
    [∀ m event, Decidable (allowed m event)] (start : ThreadedClient × Transfers)
    (events : List ThreadEvent)
    : Option (ThreadedClient × Transfers) :=
  events.foldlM
    (fun now event =>
      if allowed now.1 event then
        match now.1.step event with
        | .ok later => some (later, now.2.extend now.1 event later)
        | .error _ => none
      else none)
    start

/-- By induction on the events. -/
theorem runEvents_run {allowed : ThreadedClient → ThreadEvent → Prop}
    [∀ m event, Decidable (allowed m event)] {start last : ThreadedClient × Transfers}
    {events : List ThreadEvent} (followed : runEvents allowed start events = some last)
    : MeasuredRun allowed start last := by
  induction events generalizing start with
  | nil =>
      obtain rfl := Option.some.inj followed
      exact .refl
  | cons event rest ih =>
      unfold runEvents at followed ih
      rw [List.foldlM_cons] at followed
      obtain ⟨later, first, others⟩ := Option.bind_eq_some_iff.mp followed
      split at first
      · next meets =>
          split at first
          · next stepped =>
              obtain rfl := Option.some.inj first
              exact .head ⟨event, meets, stepped, rfl⟩ (ih others)
          · cases first
      · cases first

/-- A client that receives until it has five bytes, and omits the first second. -/
def downloadTest : Test :=
  {
    role := .client
    mode := .receiver
    reverse := true
    numStreams := 1
    ctrlSck := 3
    omitPeriod := 1
    settings := { blksize := 5, bytes := 5 }
  }

/-- The client of a test that omits, before any event. -/
def connectedClient (test : Test) : ThreadedClient × Transfers :=
  ({ client := clientStart test { secs := 0, usecs := 0 } }, {})

/-- A pass in which the server's message arrives. -/
def messageArrives (value : UInt8) : ClientPassIo :=
  {
    now := { secs := 0, usecs := 0 }
    select := .ready [3]
    later := { secs := 0, usecs := 0 }
    message := .byte value { connections := [{ connected := .ok 4 }] }
    timerNow := { secs := 1, usecs := 0 }
  }

/-- `CREATE_STREAMS`, `TEST_START` and `TEST_RUNNING`, and the threads. -/
def setUp : List ThreadEvent :=
  [
    .listen (messageArrives 10), .listen (messageArrives 1), .listen (messageArrives 2),
    .threads (messageArrives 2)
  ]

/-- The omit period ends, and the only stream is reset. -/
def omitEnds : List ThreadEvent :=
  [.timer { secs := 1, usecs := 0 } .omitPeriod, .resetStream, .resetStream]

/-- Five bytes arrive and are counted. -/
def fiveBytes : List ThreadEvent :=
  [.receive 0 { secs := 0, usecs := 5 } [.got [1, 2, 3, 4, 5] 5], .count 0, .count 0]

/-- A run of events after which the client looks at the end conditions and finds enough bytes. -/
theorem runEvents_reaches {allowed : ThreadedClient → ThreadEvent → Prop}
    [∀ m event, Decidable (allowed m event)] {start : ThreadedClient × Transfers}
    {events : List ThreadEvent} {found : ThreadedClient → Prop} [DecidablePred found]
    (reaches : (runEvents allowed start events).any (fun last => found last.1) = true)
    : ∃ m blocks, MeasuredRun allowed start (m, blocks) ∧ found m := by
  obtain ⟨⟨m, blocks⟩, followed, isFound⟩ := (Option.any_eq_true _ _).mp reaches
  exact ⟨m, blocks, runEvents_run followed, of_decide_eq_true isFound⟩

/-- The bytes condition is found fulfilled before the target is transferred. -/
def ThreadedClient.EndsUnmeasured (m : ThreadedClient) : Prop :=
  m.Checks ∧ m.client.EndsByBytes ∧ ¬ m.client.TransferredBytes

instance (m : ThreadedClient) : Decidable m.EndsUnmeasured :=
  inferInstanceAs (Decidable (_ ∧ _ ∧ _))

/-- A client that sends until it has sent five bytes. -/
def uploadTest : Test :=
  { downloadTest with mode := .sender, reverse := false, repeatingPayload := true }

/-- The five bytes of the omit period are counted for the stream when they are sent, and for the
test after the reset.
-/
example
    : (runEvents RunsOnce (connectedClient uploadTest)
        (setUp ++ [.send 0 { secs := 0, usecs := 5 } { writes := [.accepted 5] }] ++ omitEnds
          ++ [.count 0])).any (fun last => last.1.EndsUnmeasured)
      = true := by
  decide +kernel

end Iperf
