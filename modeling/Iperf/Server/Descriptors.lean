import Iperf.Server.DescriptorOwners

/-! The descriptors of a server over whole runs: when each one is closed exactly once. -/

namespace Iperf

open TimerList HandleTable

namespace ServerRun

variable {r next : ServerRun}

-----------------------------------------------------------------------------------------
-- The start of a test
-----------------------------------------------------------------------------------------

/-- The descriptors are in order if the kernel hands out new ones. -/
def Orderly (r : ServerRun) : Prop := r.misissued = false → Holds r.table (held r.test.ports)

/-- The stream listener is gone. -/
structure Started (r : ServerRun) : Prop where
  protListener : r.test.protListener = -1
  connected : 0 ≤ r.test.ctrlSck
  orderly : r.Orderly

theorem Orderly.keep (orderly : r.Orderly) (ports : next.test.ports = r.test.ports)
    (table : next.table = r.table) (misissued : next.misissued = r.misissued)
    : next.Orderly := by
  unfold Orderly
  rw [ports, table, misissued]
  exact orderly

theorem Started.keep (started : Started r) (ports : next.test.ports = r.test.ports)
    (table : next.table = r.table) (misissued : next.misissued = r.misissued)
    : Started next where
  protListener := (congrArg Ports.protListener ports).trans started.protListener
  connected := by
    have same : next.test.ctrlSck = r.test.ctrlSck := congrArg Ports.ctrlSck ports
    rw [same]
    exact started.connected
  orderly := started.orderly.keep ports table misissued

/-- The listener is closed, or opened again. -/
theorem held_listener (ports : Ports) (fd : Int)
    : (live fd ++ held ports).Perm (live ports.listener ++ held { ports with listener := fd }) := by
  unfold held
  refine List.perm_iff_count.mpr fun x => ?_
  simp only [Ports.sockets, List.count_append]
  omega

theorem held_unlisten {ports : Ports} (tcp : ports.protocol = .tcp)
    : held { ports with protListener := -1 } = held ports := by
  unfold held
  rw [if_pos tcp, if_pos tcp]
  rfl

/-- The stream listener is closed. -/
theorem closeProtListener_started (notTcp : r.test.protocol ≠ .tcp)
    (connected : 0 ≤ r.test.ctrlSck) (holds : Holds r.table (held r.test.ports))
    (test : next.test = { r.test with protListener := -1 })
    (table : next.table = (r.close r.test.protListener).table)
    : Started next := by
  refine ⟨by rw [test], by rw [test]; exact connected, fun _ => ?_⟩
  have perm := @held_replace r.test.ports notTcp (-1)
  rw [live_neg, List.nil_append] at perm
  rw [table, test]
  exact close_holds (holds.perm perm)

theorem closeListener_holds (holds : Holds r.table (held r.test.ports))
    : Holds (r.close r.test.listener).table (held { r.test.ports with listener := -1 }) := by
  have perm := held_listener r.test.ports (-1)
  rw [live_neg, List.nil_append] at perm
  exact close_holds (holds.perm perm)

/-- The listener goes back to default options. -/
theorem reopen_started (tcp : r.test.protocol = .tcp) (connected : 0 ≤ r.test.ctrlSck)
    (holds : Holds r.table (held r.test.ports)) {s : Int}
    (test : next.test = { r.test with listener := s, protListener := -1 })
    (table : next.table = ((r.close r.test.listener).opens s).table)
    (misissued : next.misissued = ((r.close r.test.listener).opens s).misissued)
    : Started next := by
  refine ⟨by rw [test], by rw [test]; exact connected, fun issued => ?_⟩
  have opened := opens_holds (closeListener_holds holds) (misissued ▸ issued)
  have perm := held_listener { r.test.ports with listener := -1 } s
  have same := @held_unlisten { r.test.ports with listener := s } tcp
  rw [table, test]
  refine (opened.perm perm).perm ?_
  exact List.Perm.of_eq same.symm

theorem relisten_started (connected : 0 ≤ r.test.ctrlSck)
    (holds : Holds r.table (held r.test.ports)) (io : StartIo)
    : Leaves Orderly (fun next => Started next ∧ next.timing = r.timing) (r.relisten io) := by
  unfold relisten
  cases protocol : r.test.protocol with
  | udp =>
      refine ⟨closeProtListener_started ?_ connected holds ?_ rfl, close_timing r _⟩
      · rw [protocol]
        nofun
      · rw [close_test]
  | sctp =>
      refine ⟨closeProtListener_started ?_ connected holds ?_ rfl, close_timing r _⟩
      · rw [protocol]
        nofun
      · rw [close_test]
  | tcp =>
      dsimp only
      split
      · cases io.netannounce with
        | none =>
            intro _
            rw [close_test]
            exact closeListener_holds holds
        | some s =>
            refine ⟨reopen_started protocol connected holds ?_ rfl rfl, close_timing r _⟩
            rw [close_test]
      · refine ⟨⟨rfl, connected, fun _ => ?_⟩, rfl⟩
        exact holds.perm (List.Perm.of_eq (@held_unlisten r.test.ports protocol).symm)

theorem checkRate_started (started : Started r)
    : Leaves Orderly (fun next => Started next ∧ next.timing = r.timing) r.checkRate := by
  unfold checkRate
  split
  · exact started.orderly
  · exact ⟨started, rfl⟩

theorem sendState_started (started : Started r) (state : TestState) (sent : Bool)
    : Leaves Orderly
        (fun next => Started next ∧ next.timing = r.timing ∧ next.test.state = state)
        (r.sendState state sent) := by
  unfold sendState iperfSetSendState
  rw [if_pos started.connected]
  split_ifs
  · exact ⟨started.keep rfl rfl rfl, rfl, rfl⟩
  · exact started.orderly.keep rfl rfl rfl

theorem initTest_started (started : Started r) (io : StartIo)
    : Leaves Orderly (fun next => Started next ∧ next.timing = r.timing) (r.initTest io) := by
  unfold initTest
  split
  · exact started.orderly
  · exact ⟨started.keep (iperfInitTest_ports ..) rfl rfl, rfl⟩

theorem serverTimers_tracked (wellFormed : r.timing.timers.WellFormed)
    (unarmed : ¬ r.timing.Armed .timer) (now : IperfTime) (io : TimersIo)
    : (Timing.left (r.serverTimers now io)).Tracked .timer := by
  let cleared := ((r.timing.setField .timer none).setField .statsTimer none).setField
    .reporterTimer none
  have unarmed' : ¬ cleared.Armed .timer := unarmed
  unfold serverTimers
  refine Timing.Tracked.andThen ?_ fun t tracked => Timing.Tracked.andThen ?_ fun t tracked => ?_
  · exact @Timing.tracked_createTimerIf cleared .timer wellFormed unarmed' _ now _ _
  · refine tracked.createTimerIf ?_ _ now _ _ _
    decide
  · refine tracked.createTimerIf ?_ _ now _ _ _
    decide

theorem withTiming_started (started : Started r) {x : Except Timing Timing}
    (tracked : (Timing.left x).Tracked .timer)
    : Leaves Orderly (fun next => Started next ∧ next.timing.Tracked .timer)
        (r.withTiming x) := by
  cases x with
  | error timing => exact started.orderly.keep rfl rfl rfl
  | ok timing => exact ⟨started.keep rfl rfl rfl, tracked⟩

theorem createServerTimers_started (started : Started r)
    (wellFormed : r.timing.timers.WellFormed) (unarmed : ¬ r.timing.Armed .timer) (io : TimersIo)
    : Leaves Orderly (fun next => Started next ∧ next.timing.Tracked .timer)
        (r.createServerTimers io) := by
  unfold createServerTimers
  split
  · exact started.orderly
  · next now _ =>
      refine withTiming_started ?_ (serverTimers_tracked wellFormed unarmed now io)
      exact started.keep rfl rfl rfl

theorem createServerOmitTimer_started (started : Started r) (tracked : r.timing.Tracked .timer)
    (io : TimersIo)
    : Leaves Orderly (fun next => Started next ∧ next.timing.Tracked .timer)
        (r.createServerOmitTimer io) := by
  unfold createServerOmitTimer
  split
  · refine ⟨started.keep rfl rfl rfl, tracked.setField ?_ none⟩
    decide
  · split
    · exact started.orderly
    · refine withTiming_started ?_ (tracked.createTimer ?_ _ _ _ _)
      · exact started.keep rfl rfl rfl
      · decide

/-- From the last stream to `TEST_RUNNING`. -/
theorem startTest_started (connected : 0 ≤ r.test.ctrlSck)
    (holds : Holds r.table (held r.test.ports)) (wellFormed : r.timing.timers.WellFormed)
    (unarmed : ¬ r.timing.Armed .timer) (io : StartIo)
    : Leaves Orderly
        (fun next => Started next ∧ next.timing.Tracked .timer
          ∧ next.test.state ≠ .createStreams)
        (r.startTest io) := by
  have timers {r' : ServerRun} (same : r'.timing = r.timing)
      : r'.timing.timers.WellFormed ∧ ¬ r'.timing.Armed .timer := by
    rw [same]
    exact ⟨wellFormed, unarmed⟩
  unfold startTest
  refine (relisten_started connected holds io).bind fun r₁ ⟨started, same₁⟩ => ?_
  refine (checkRate_started started).bind fun r₂ ⟨started, same₂⟩ => ?_
  refine (sendState_started started _ _).bind fun r₃ ⟨started, same₃, _⟩ => ?_
  refine (initTest_started started io).bind fun r₄ ⟨started, same₄⟩ => ?_
  obtain ⟨wellFormed₄, unarmed₄⟩ := timers (same₄.trans (same₃.trans (same₂.trans same₁)))
  refine (createServerTimers_started started wellFormed₄ unarmed₄ io.timers).bind
    fun r₅ ⟨started, tracked⟩ => ?_
  refine (createServerOmitTimer_started started tracked io.timers).bind
    fun r₆ ⟨started, tracked⟩ => ?_
  refine (sendState_started started .testRunning io.testRunningSent).imp (fun _ orderly => orderly)
    fun last ⟨started, same, state⟩ => ⟨started, same ▸ tracked, ?_⟩
  rw [state]
  nofun

theorem complete_sound (sound : Sound r) (here : r.point = .complete) {io : StartIo}
    (issued : (r.completeStreams io).misissued = false)
    : Sound (r.completeStreams io) := by
  have working : Working r := by
    rcases sound.alive (by rw [here]; rfl) with working | closed
    · exact working
    · exact absurd here closed.point.2.1
  have creating := working.complete here
  have unarmed : ¬ r.timing.Armed .timer := fun armed => (working.safety armed).2.2 creating
  have outcome := startTest_started (working.creating creating) sound.holds
    working.tracked.wellFormed unarmed io
  unfold completeStreams at issued ⊢
  rcases result : r.startTest io with ⟨next, error⟩ | next
  · rw [result] at outcome issued
    exact @sound_failing { next with point := .failing (-1) } (outcome issued) (-1) rfl
  · rw [result] at outcome issued
    obtain ⟨started, tracked, state⟩ := outcome
    have connected := started.connected
    refine ⟨started.orderly issued, fun _ => .inl ?_, fun _ isOver => by cases isOver⟩
    constructor
    · exact nofun
    · exact nofun
    · exact fun _ => ⟨started.protListener, state⟩
    · exact fun _ => started.protListener
    · exact fun creating => absurd creating state
    · exact tracked
    · refine fun _ => ⟨fun none_ => ?_, started.protListener, state⟩
      dsimp only at none_
      omega

-----------------------------------------------------------------------------------------
-- Threads and timers
-----------------------------------------------------------------------------------------

/-- New threads change no socket. -/
theorem createThreads_sockets (r : ServerRun) (count : Nat)
    : (r.createThreads count).test.ports.sockets = r.test.ports.sockets := by
  unfold Ports.sockets Test.ports createThreads
  simp only [List.map_append, List.map_map]
  conv_rhs => rw [← List.take_append_drop count r.test.streams, List.map_append]
  exact congrArg₂ (· ++ ·) (List.map_congr_left fun _ _ => rfl) rfl

theorem held_createThreads (r : ServerRun) (count : Nat)
    : held (r.createThreads count).test.ports = held r.test.ports := by
  unfold held
  rw [createThreads_sockets]
  rfl

theorem Emptied.createThreads (emptied : Emptied r.test.ports) (count : Nat)
    : Emptied (r.createThreads count).test.ports := by
  refine ⟨emptied.listener, emptied.ctrlSck, emptied.protListener, ?_⟩
  rw [createThreads_sockets]
  exact emptied.sockets

/-- `cleanup_server` in the middle of a run. -/
theorem cleanup_closed (holds : Holds r.table (held r.test.ports))
    (unlistened : r.test.protListener = -1) (running : r.test.state ≠ .createStreams)
    (joined : Nat → Bool) {timedOut : Bool}
    : Sound { r.cleanupServer joined with point := .passed timedOut } := by
  obtain ⟨nothing, emptied⟩ := cleanupServer_holds holds (fun _ => unlistened) joined
  refine ⟨?_, fun _ => .inr ⟨emptied, ?_, nofun, nofun, nofun⟩, nofun⟩
  · exact nothing.perm (List.Perm.of_eq emptied.held.symm)
  · exact (cleanupServer_state r joined) ▸ running

theorem threads_sound (sound : Sound r) (here : r.point = .threads) (io : ThreadsIo)
    : Sound (r.startThreads io) := by
  have working : Working r := by
    rcases sound.alive (by rw [here]; rfl) with working | closed
    · exact working
    · exact absurd here closed.point.2.2
  obtain ⟨unlistened, running⟩ := working.threads here
  have holds {r' : ServerRun} (holds : Holds r'.table (held r'.test.ports))
      : Holds (r'.createThreads io.created).table
          (held (r'.createThreads io.created).test.ports) := by
    rw [held_createThreads]
    exact holds
  unfold startThreads
  dsimp only
  cases io.attrInit with
  | true =>
      rw [if_pos rfl]
      split_ifs
      · exact sound_failing (holds sound.holds) rfl
      · refine ⟨holds sound.holds, fun _ => .inl ?_, nofun⟩
        exact working.keep rfl rfl rfl (.inl rfl) ⟨nofun, nofun, nofun⟩
      · exact cleanup_closed (holds sound.holds) unlistened running io.joined
  | false =>
      obtain ⟨nothing, emptied⟩ := cleanupServer_holds sound.holds (fun _ => unlistened) io.joined
      have running' : (r.cleanupServer io.joined).test.state ≠ .createStreams :=
        (cleanupServer_state r io.joined) ▸ running
      have empty : Holds (r.cleanupServer io.joined).table
          (held (r.cleanupServer io.joined).test.ports) :=
        nothing.perm (List.Perm.of_eq emptied.held.symm)
      rw [if_neg Bool.false_ne_true]
      split_ifs
      · exact sound_failing (holds empty) rfl
      · refine ⟨holds empty, fun _ => .inr ?_, nofun⟩
        exact ⟨emptied.createThreads io.created, running', nofun, nofun, nofun⟩
      · exact cleanup_closed (holds empty) emptied.protListener running' io.joined

/-- A timer fires that has nothing to do with descriptors. -/
theorem Sound.fire (sound : Sound r) (here : r.point.isOver = false)
    {now : IperfTime} {entry : Entry IperfTime TimerRecord}
    (isActive : entry ∈ r.timing.timers.active) (ports : next.test.ports = r.test.ports)
    (state : next.test.state = r.test.state) (table : next.table = r.table)
    (timing : next.timing = r.timing.fire now entry) {following : Option Nat}
    (point : next.point = .timers now following)
    : Sound next := by
  have apart : next.point ≠ .start ∧ next.point ≠ .complete ∧ next.point ≠ .threads := by
    rw [point]
    exact ⟨nofun, nofun, nofun⟩
  refine ⟨?_, fun _ => ?_, fun _ isOver => ?_⟩
  · rw [ports, table]
    exact sound.holds
  · rcases sound.alive here with working | closed
    · have inherits := Timing.inherits_fire working.tracked.wellFormed now isActive
      refine .inl (working.goOn (congrArg Ports.ctrlSck ports) (congrArg Ports.protListener ports)
        ?_ ?_ (.inl state) apart)
      · rw [timing]
        exact working.tracked.fire now isActive
      · rw [timing]
        exact inherits.armed
    · exact .inr (closed.keep ports (.inl state) apart)
  · rw [point] at isOver
    cases isOver

/-- The safety timer closes what it frees. -/
theorem safetyProc_holds (holds : Holds r.table (held r.test.ports)) (undone : r.test.done = false)
    : Holds r.safetyProc.table (held r.safetyProc.test.ports)
      ∧ r.safetyProc.test.ports = { r.test.ports with streams := [], ctrlSck := -1 }
      ∧ r.safetyProc.test.state = r.test.state := by
  let ending : ServerRun := { r with test := { r.test with done := true } }
  have sockets : Holds ending.closeSockets.table _ := closeSockets_holds holds
  have same : ending.closeSockets.test = ending.test := closeSockets_test ending
  unfold safetyProc
  rw [undone, if_neg Bool.false_ne_true]
  dsimp only
  unfold freeStreams
  dsimp only
  rw [close_test, same]
  refine ⟨?_, rfl, rfl⟩
  exact close_holds sockets

/-- The safety timer fires on a test that is not done. -/
theorem safety_sound (sound : Sound r) (here : r.point.isOver = false) {now : IperfTime}
    {entry : Entry IperfTime TimerRecord} (isActive : entry ∈ r.timing.timers.active)
    (own : r.timing.Own entry) (proc : entry.record.proc = .timer) (undone : r.test.done = false)
    {following : Option Nat}
    : Sound {
        r.safetyProc with
        timing := r.timing.fire now entry
        point := .timers now following
      } := by
  obtain ⟨holds, ports, state⟩ := safetyProc_holds sound.holds undone
  refine ⟨holds, fun _ => ?_, nofun⟩
  rcases sound.alive here with working | closed
  · obtain ⟨-, unlistened, running⟩ := working.safety ⟨entry, isActive, own, proc⟩
    have running' : r.safetyProc.test.state ≠ .createStreams := state ▸ running
    refine .inl ⟨nofun, nofun, nofun, fun _ => ?_, fun creating => absurd creating running', ?_, ?_⟩
    · exact (congrArg Ports.protListener ports).trans unlistened
    · exact working.tracked.fire now isActive
    · exact fun armed => absurd armed (working.tracked.fireOwn now isActive own proc)
  · refine .inr ⟨?_, state ▸ closed.state, nofun, nofun, nofun⟩
    dsimp only
    rw [ports]
    exact ⟨closed.emptied.listener, rfl, closed.emptied.protListener, nofun⟩

/-- All other procedures leave the descriptors alone. -/
theorem timerProc_untouched (reading : IperfTime) {proc : TimerField}
    (harmless : proc = .timer → r.test.done = true)
    : (r.timerProc reading proc).test.ports = r.test.ports
      ∧ (r.timerProc reading proc).test.state = r.test.state
      ∧ (r.timerProc reading proc).table = r.table := by
  cases proc with
  | timer =>
      unfold timerProc safetyProc
      rw [harmless rfl, if_pos rfl]
      exact ⟨rfl, rfl, rfl⟩
  | statsTimer =>
      unfold timerProc
      dsimp only
      split
      · exact ⟨rfl, rfl, rfl⟩
      · obtain ⟨_, _, _, _, shape⟩ := iperfStatsCallback_shape r.test reading
        refine ⟨iperfStatsCallback_ports .., ?_, rfl⟩
        rw [shape]
  | reporterTimer => exact ⟨rfl, rfl, rfl⟩
  | omitTimer => exact ⟨iperfResetStats_ports { r.test with omitting := false } reading, rfl, rfl⟩

theorem timer_sound (sound : Sound r) {now : IperfTime} {next : Option Nat}
    (here : r.point = .timers now next) (reading : IperfTime)
    : Sound (r.runTimer now next reading) := by
  have going : r.point.isOver = false := by rw [here]; rfl
  have ends : Sound { r with point := .loop } :=
    sound.keep going ⟨rfl, rfl, rfl⟩ (.inl rfl) ⟨nofun, nofun, nofun⟩ rfl
  unfold runTimer
  split
  · exact ends
  · next entry due =>
      split
      · exact ends
      · obtain ⟨id, -, found⟩ := Option.bind_eq_some_iff.mp due
        obtain ⟨isActive, -⟩ := Timers.find_some found
        unfold fireTimer
        dsimp only
        split
        · next own =>
            by_cases undone : entry.record.proc = .timer ∧ r.test.done = false
            · rw [undone.1]
              exact safety_sound sound going isActive own undone.1 undone.2
            · have harmless : entry.record.proc = .timer → r.test.done = true := fun proc =>
                Bool.of_not_eq_false fun notDone => undone ⟨proc, notDone⟩
              obtain ⟨ports, state, table⟩ := timerProc_untouched reading harmless
              exact sound.fire going isActive ports state table rfl rfl
        · exact sound.fire going isActive rfl rfl rfl rfl rfl

-----------------------------------------------------------------------------------------
-- The head and the end of the loop
-----------------------------------------------------------------------------------------

theorem listen_sound (sound : Sound r) (here : r.point = .start) {announced : Option Int}
    {now : IperfTime} (issued : (r.serverListen announced now).misissued = false)
    : Sound (r.serverListen announced now) := by
  have working : Working r := by
    rcases sound.alive (by rw [here]; rfl) with working | closed
    · exact working
    · exact absurd here closed.point.1
  have emptied := working.start here
  unfold serverListen at issued ⊢
  cases announced with
  | none =>
      refine @sound_failing {
        r with test := { r.test with listener := -1 }, point := .failing (-2) } ?_ (-2) rfl
      have same : held { r.test.ports with listener := -1 } = held r.test.ports := by
        rw [← emptied.listener]
      exact same ▸ sound.holds
  | some s =>
      have perm := held_listener r.test.ports s
      rw [emptied.listener, live_neg, List.nil_append] at perm
      refine ⟨(opens_holds sound.holds issued).perm perm, fun _ => .inl ?_, nofun⟩
      refine ⟨nofun, nofun, nofun, fun _ => emptied.protListener, nofun, working.tracked, ?_⟩
      exact fun armed => ⟨(working.safety armed).1, emptied.protListener, nofun⟩

theorem select_sound (sound : Sound r) (here : r.point = .loop) (io : SelectIo)
    : Sound (r.select io) := by
  have going : r.point.isOver = false := by rw [here]; rfl
  have goesOn {noted : ServerRun} {point : Point} (same : Untouched r noted)
      (state : noted.test.state = r.test.state)
      (apart : point ≠ .start ∧ point ≠ .complete ∧ point ≠ .threads)
      (isOver : point.isOver = false)
      : Sound { noted with point } :=
    sound.keep going ⟨same.ports, same.timing, same.table⟩ (.inl state) apart isOver
  have fails (result : Int) : Sound { r with point := .failing result } :=
    sound_failing sound.holds rfl
  have noted (now : IperfTime) : Untouched r (r.noteProgress now) := ⟨rfl, rfl, rfl⟩
  unfold select
  split
  · exact fails (-1)
  · split
    · split
      · exact fails (-1)
      · exact goesOn (noted io.now) rfl ⟨nofun, nofun, nofun⟩ rfl
    · split
      · exact fails 2
      · exact fails (-1)
      · exact goesOn (noted io.later) rfl ⟨nofun, nofun, nofun⟩ rfl
    · exact goesOn (noted io.now) rfl ⟨nofun, nofun, nofun⟩ rfl

theorem leave_sound (sound : Sound r) (single : r.test.protocol = .tcp → r.test.protListener = -1)
    (joined : Nat → Bool) (result : Int)
    : Sound (r.leave joined result) := by
  obtain ⟨nothing, emptied⟩ := cleanupServer_holds sound.holds single joined
  refine ⟨?_, nofun, fun _ _ => emptied⟩
  exact nothing.perm (List.Perm.of_eq emptied.held.symm)

/-- A worker changes nothing that has to do with descriptors. -/
theorem Sound.congr (sound : Sound r) (same : Untouched r next)
    (state : next.test.state = r.test.state) (point : next.point = r.point)
    : Sound next := by
  have ctrlSck : next.test.ctrlSck = r.test.ctrlSck := congrArg Ports.ctrlSck same.ports
  have protListener : next.test.protListener = r.test.protListener :=
    congrArg Ports.protListener same.ports
  refine ⟨same.holds sound.holds, fun going => ?_, fun result isOver => ?_⟩
  · rcases sound.alive (point ▸ going) with working | closed
    · refine .inl ⟨?_, ?_, ?_, ?_, ?_, same.timing ▸ working.tracked, ?_⟩
      · rw [point, same.ports]
        exact working.start
      · rw [point, state]
        exact working.complete
      · rw [point, state, protListener]
        exact working.threads
      · rw [ctrlSck, protListener]
        exact working.idle
      · rw [state, ctrlSck]
        exact working.creating
      · rw [same.timing, state, ctrlSck, protListener]
        exact working.safety
    · refine .inr ⟨same.ports ▸ closed.emptied, ?_, ?_⟩
      · rw [state]
        exact closed.state
      · rw [point]
        exact closed.point
  · rw [point] at isOver
    exact same.ports ▸ sound.returned result isOver

theorem worker_sound (sound : Sound r) (position : Nat) (event : WorkerEvent)
    : Sound (r.work position event) := by
  have worked := work_worked r position event
  exact sound.congr ⟨worked.ports, worked.timing, worked.table⟩ worked.state worked.point

-----------------------------------------------------------------------------------------
-- Runs
-----------------------------------------------------------------------------------------

/-- What must not happen: a call that fails while a client or a stream is accepted, the end of a
test while it has streams, an end while TCP has a stream listener, and a failure of
`iperf_json_finish`.
-/
def Careful (r : ServerRun) : Event → Prop
  | .accept io => r.test.ctrlSck = -1 → ∀ s, io.accepted = some s → io.Succeeds r.test s
  | .message message => ClosesStreams message → r.test.streams = []
  | .stream io => r.streamReady = true → io.Keeps r
  | .cleanup _ => r.test.protocol = .tcp → r.test.protListener = -1
  | .finish jsonFinished _ =>
      jsonFinished = true ∧ (r.test.protocol = .tcp → r.test.protListener = -1)
  | _ => True

instance (r : ServerRun) (event : Event) : Decidable (Careful r event) :=
  match event with
  | .accept io =>
      match accepted : io.accepted with
      | none => isTrue fun _ s same => by rw [accepted] at same; cases same
      | some fd => decidable_of_iff (r.test.ctrlSck = -1 → io.Succeeds r.test fd)
          ⟨fun holds free s same => Option.some.inj (accepted.symm.trans same) ▸ holds free,
            fun holds free => holds free fd accepted⟩
  | .message message => inferInstanceAs (Decidable (ClosesStreams message → r.test.streams = []))
  | .stream io => inferInstanceAs (Decidable (r.streamReady = true → io.Keeps r))
  | .cleanup _ =>
      inferInstanceAs (Decidable (r.test.protocol = .tcp → r.test.protListener = -1))
  | .finish jsonFinished _ =>
      inferInstanceAs (Decidable
        (jsonFinished = true ∧ (r.test.protocol = .tcp → r.test.protListener = -1)))
  | .listen .. | .select _ | .complete _ | .threads _ | .runTimers _ | .skipTimers | .timer _
  | .worker .. => isTrue trivial

/-- By cases on the step. -/
theorem Sound.step (sound : Sound r) {event : Event} (careful : Careful r event)
    (steps : Step r event next) (issued : next.misissued = false)
    : Sound next := by
  cases steps with
  | listen here => exact listen_sound sound here issued
  | select here going => exact select_sound sound here _
  | accept here => exact accept_sound sound here careful issued
  | message here => exact message_sound sound here careful
  | stream here => exact stream_sound sound here careful issued
  | complete here => exact complete_sound sound here issued
  | threads here => exact threads_sound sound here _
  | runTimers here =>
      refine sound.keep ?_ ⟨rfl, rfl, rfl⟩ (.inl rfl) ⟨nofun, nofun, nofun⟩ rfl
      rw [here]
      rfl
  | skipTimers here =>
      refine sound.keep ?_ ⟨rfl, rfl, rfl⟩ (.inl rfl) ⟨nofun, nofun, nofun⟩ rfl
      rw [here]
      rfl
  | timer here => exact timer_sound sound here _
  | cleanup here => exact leave_sound sound careful _ _
  | finish here done =>
      obtain ⟨finished, single⟩ := careful
      unfold finish
      rw [finished, if_pos rfl]
      exact leave_sound sound single _ _
  | worker lives => exact worker_sound sound _ _

variable {test : Test} {reporterInterval : ℚ} {flag : Int32} {address : Nat}
  {timers : Timers IperfTime TimerRecord}

theorem sound_start (wellFormed : timers.WellFormed)
    (none_ : ∀ entry ∈ timers.active, entry.record.clientData ≠ address)
    : Sound (runServer test reporterInterval flag address timers) := by
  have emptied : Emptied (runServer test reporterInterval flag address timers).test.ports :=
    ⟨rfl, rfl, rfl, nofun⟩
  have unarmed : ¬ (runServer test reporterInterval flag address timers).timing.Armed .timer := by
    rintro ⟨entry, isActive, own, -⟩
    exact none_ entry isActive own
  refine ⟨?_, fun _ => .inl ⟨?_, nofun, nofun, ?_, ?_, ?_, ?_⟩, nofun⟩
  · rw [emptied.held]
    exact holds_empty
  · exact fun _ => emptied
  · exact fun _ => rfl
  · exact nofun
  · exact Timing.tracked_of_unarmed wellFormed unarmed
  · exact fun armed => absurd armed unarmed

/-- What the invariant says of the table. -/
theorem Sound.closedOnce (sound : Sound r)
    : r.table.stray = [] ∧ ∀ result, r.point = .returned result → r.table.opened = [] := by
  refine ⟨sound.holds.stray, fun result isOver => ?_⟩
  have nothing := sound.holds
  rw [(sound.returned result isOver).held] at nothing
  exact nothing.nothing

/-- On every careful run no descriptor is closed that is not open, and all are closed when
`iperf_run_server` returns.
-/
theorem descriptors_closed_once (wellFormed : timers.WellFormed)
    (none_ : ∀ entry ∈ timers.active, entry.record.clientData ≠ address)
    (runs : Run Careful (runServer test reporterInterval flag address timers) r)
    : r.table.stray = [] ∧ ∀ result, r.point = .returned result → r.table.opened = [] := by
  refine Sound.closedOnce ?_
  induction runs with
  | refl => exact sound_start wellFormed none_
  | tail _ steps ih =>
      obtain ⟨event, careful, steps, issued⟩ := steps
      exact ih.step careful steps issued

/-- Witness: the server returns and has closed its listener, the control connection and the
stream.
-/
theorem descriptors_closed_once_closedRun
    : ∃ r, firstRun.follow (fun r event => decide (Careful r event)) closedRun = some r
      ∧ r.point = .returned 0 ∧ r.table.stray = [] ∧ r.table.opened = [] := by
  have returns : (firstRun.follow (fun r event => decide (Careful r event)) closedRun).any
      (fun r => decide (r.point = .returned 0)) = true := by
    decide +kernel
  obtain ⟨r, follows, point⟩ := (Option.any_eq_true _ _).mp returns
  have point : r.point = .returned 0 := of_decide_eq_true point
  have once := @descriptors_closed_once r _ 0 0 0 { active := [] } .nil nofun
    (follow_run follows fun _ _ => of_decide_eq_true)
  exact ⟨r, follows, point, once.1, once.2 0 point⟩

/-- The client ends the test and says goodbye. -/
def normalRun : List Event :=
  let results := CJson.object [
    (.cpuUtilTotal, .number 0),
    (.cpuUtilUser, .number 0),
    (.cpuUtilSystem, .number 0),
    (.senderHasRetransmits, .number 0),
    (.streams, .array [])
  ]
  oneStream ++ turn [4] {} (.byte 4 { results }) {} ++ [.skipTimers]
    ++ turn [4] {} (.byte 16 {}) {} ++ [.skipTimers, .finish true fun _ => true]

/-- Then the socket of the stream is closed a second time. -/
theorem stream_closed_twice
    : ∃ r, Run (fun _ _ => True) firstRun r ∧ r.point = .returned 0 ∧ r.table.stray = [5] := by
  have returns : (firstRun.follow (fun _ _ => true) normalRun).any
      (fun r => decide (r.point = .returned 0) && decide (r.table.stray = [5])) = true := by
    decide +kernel
  obtain ⟨r, follows, ends⟩ := (Option.any_eq_true _ _).mp returns
  rw [Bool.and_eq_true, decide_eq_true_iff, decide_eq_true_iff] at ends
  exact ⟨r, follow_run follows fun _ _ _ => trivial, ends⟩

end ServerRun

end Iperf
