import Iperf.Server.SteadyWorkers

/-! The workers and timers of a server over whole runs: when a stream outlives its worker, and
nothing is left behind when `iperf_run_server` returns.
-/

namespace Iperf

open TimerList

namespace ServerRun

variable {r next : ServerRun}

-----------------------------------------------------------------------------------------
-- The invariant
-----------------------------------------------------------------------------------------

/-- No worker is created once `cleanup_server` has run. -/
def Follows (earlier later : Call) : Prop :=
  earlier = .cleanupServer → ∀ position, later ≠ .createThread position

/-- What holds at every moment: streams are freed without a worker, the calls are in order, and
each timer of the test is the target of its field.
-/
structure Kept (r : ServerRun) : Prop where
  frees : ∀ sp running, Call.freeStream sp running ∈ r.calls →
    sp.threadCreated = false ∧ running = false
  order : r.calls.Pairwise Follows
  owned : r.timing.Owned none

/-- A server that has not been cleaned up. The safety timer waits only while there is a control
connection and streams are not created.
-/
structure Active (r : ServerRun) : Prop where
  uncleaned : Call.cleanupServer ∉ r.calls
  running : ∀ position ∈ r.threads, r.flags[position]? = some true
  idle : r.test.ctrlSck = -1 → r.timing.field .timer = none
  creating : r.test.state = .createStreams → 0 ≤ r.test.ctrlSck ∧ r.timing.field .timer = none
  complete : r.point = .complete → r.test.state = .createStreams
  threads : r.point = .threads → r.test.state ≠ .createStreams

/-- No stream has a thread and no timer is set. -/
structure Settled (r : ServerRun) : Prop where
  flags : ∀ flag ∈ r.flags, flag = false
  unset : ∀ field, r.timing.field field = none

/-- A server that has been cleaned up but goes on, deaf to everything. -/
structure Cleaned (r : ServerRun) : Prop extends Settled r where
  listener : r.test.listener = -1
  ctrlSck : r.test.ctrlSck = -1
  state : r.test.state ≠ .createStreams
  point : r.point ≠ .start ∧ r.point ≠ .complete ∧ r.point ≠ .threads

structure Tended (r : ServerRun) : Prop where
  kept : Kept r
  alive : r.point.isOver = false → Active r ∨ Cleaned r
  returned : ∀ result, r.point = .returned result → Settled r

theorem Kept.steady (kept : Kept r) (steady : Steady r next) : Kept next := by
  refine ⟨?_, ?_, steady.timing ▸ kept.owned⟩
  · rw [steady.calls]
    exact kept.frees
  · rw [steady.calls]
    exact kept.order

theorem Framed.running (framed : Framed r next)
    (running : ∀ position ∈ r.threads, r.flags[position]? = some true)
    : ∀ position ∈ next.threads, next.flags[position]? = some true := by
  intro position lives
  obtain ⟨added, flags⟩ := framed.flags
  have before := running position (framed.threads lives)
  obtain ⟨short, -⟩ := List.getElem?_eq_some_iff.mp before
  rw [flags, List.getElem?_append_left short]
  exact before

theorem Settled.steady (settled : Settled r) (steady : Steady r next) : Settled next := by
  obtain ⟨added, flags⟩ := steady.flags
  refine ⟨fun flag isOne => ?_, steady.timing ▸ settled.unset⟩
  rw [flags] at isOne
  rcases List.mem_append.mp isOne with before | new
  · exact settled.flags flag before
  · exact List.eq_of_mem_replicate new

/-- The server goes on to a point without conditions. -/
theorem Active.keep (active : Active r) (steady : Steady r next)
    (state : next.test.state = r.test.state ∨ next.test.state ≠ .createStreams)
    (point : next.point ≠ .complete ∧ next.point ≠ .threads)
    : Active next := by
  refine ⟨steady.calls ▸ active.uncleaned, steady.running active.running, ?_, fun creating => ?_,
    fun here => absurd here point.1, fun here => absurd here point.2⟩
  · rw [steady.ctrlSck, steady.timing]
    exact active.idle
  · rcases state with kept | other
    · rw [steady.ctrlSck, steady.timing]
      exact active.creating (kept ▸ creating)
    · exact absurd creating other

theorem Tended.active (kept : Kept r) (active : Active r) (going : r.point.isOver = false)
    : Tended r := by
  refine ⟨kept, fun _ => .inl active, fun _ isOver => ?_⟩
  rw [isOver] at going
  cases going

theorem tended_failing (kept : Kept r) {result : Int} (point : r.point = .failing result)
    : Tended r := by
  refine ⟨kept, fun going => ?_, fun _ isOver => ?_⟩
  · rw [point] at going
    cases going
  · rw [point] at isOver
    cases isOver

/-- A step that leaves workers, timers and descriptors alone. -/
theorem Tended.keep (tended : Tended r) (here : r.point.isOver = false) (steady : Steady r next)
    (listener : next.test.listener = r.test.listener)
    (state : next.test.state = r.test.state)
    (point : next.point ≠ .start ∧ next.point ≠ .complete ∧ next.point ≠ .threads)
    (going : next.point.isOver = false)
    : Tended next := by
  rcases tended.alive here with active | cleaned
  · exact .active (tended.kept.steady steady) (active.keep steady (.inl state) point.2) going
  · refine ⟨tended.kept.steady steady, fun _ => .inr ?_, fun _ isOver => ?_⟩
    · refine ⟨cleaned.toSettled.steady steady, ?_, ?_, ?_, point⟩
      · rw [listener]
        exact cleaned.listener
      · rw [steady.ctrlSck]
        exact cleaned.ctrlSck
      · rw [state]
        exact cleaned.state
    · rw [isOver] at going
      cases going

-----------------------------------------------------------------------------------------
-- Connections, messages and streams
-----------------------------------------------------------------------------------------

/-- The control connection of a client is no matter of workers and timers. -/
theorem Kept.connects (kept : Kept r) (s : Int) : Kept (r.connects s) :=
  ⟨kept.frees, kept.order, kept.owned⟩

theorem connects_valid {s : Int} (issued : (r.connects s).misissued = false) : 0 ≤ s :=
  (@opens_issued r s issued).2.1

/-- A new client takes the place of the control connection. -/
theorem Active.welcome (active : Active r) {s : Int} (steady : Steady (r.connects s) next)
    (issued : next.misissued = false) (free : r.test.ctrlSck = -1)
    (point : next.point ≠ .complete ∧ next.point ≠ .threads)
    : Active next := by
  have valid := connects_valid (steady.issued issued)
  have ctrlSck : next.test.ctrlSck = s := steady.ctrlSck
  have timer : next.timing.field .timer = none := by
    rw [steady.timing]
    exact active.idle free
  refine ⟨?_, steady.running active.running, fun _ => timer, fun _ => ⟨?_, timer⟩,
    fun here => absurd here point.1, fun here => absurd here point.2⟩
  · rw [steady.calls]
    exact active.uncleaned
  · rw [ctrlSck]
    exact valid

theorem accept_tended (tended : Tended r) {readSet : List Int} (here : r.point = .listener readSet)
    {io : AcceptIo}
    (issued : (r.handleListener readSet io).misissued = false)
    : Tended (r.handleListener readSet io) := by
  have going : r.point.isOver = false := by rw [here]; rfl
  unfold handleListener at issued ⊢
  split at issued
  · next ready =>
      rw [if_pos ready]
      have active : Active r := by
        rcases tended.alive going with active | cleaned
        · exact active
        · rw [cleaned.listener] at ready
          exact absurd ready.1 (by simp [fdIsset])
      have outcome := accept_steady r io
      rcases result : r.accept io with ⟨failed, error⟩ | accepted
      · rw [result] at outcome
        have kept : Kept failed := by
          rcases outcome with steady | ⟨s, steady⟩
          · exact tended.kept.steady steady
          · exact (tended.kept.connects s).steady steady
        exact tended_failing (kept.steady (steady_of_streams rfl rfl rfl rfl rfl id)) rfl
      · rw [result] at outcome issued
        have moves : Steady accepted {
            accepted.setStreamsNumber with
            point := .control (fdClr accepted.test.listener readSet) } :=
          steady_of_streams rfl rfl rfl rfl rfl id
        rcases outcome with ⟨steady, state⟩ | ⟨free, s, steady⟩
        · have steady := steady.trans moves
          exact .active (tended.kept.steady steady)
            (active.keep steady (.inl state) ⟨by simp, by simp⟩) rfl
        · have steady := steady.trans moves
          exact .active ((tended.kept.connects s).steady steady)
            (active.welcome steady issued free ⟨by simp, by simp⟩) rfl
  · next absent =>
      rw [if_neg absent]
      exact tended.keep going (steady_of_streams rfl rfl rfl rfl rfl id) rfl rfl
        ⟨by simp, by simp, by simp⟩ rfl

theorem message_tended (tended : Tended r) {readSet : List Int} (here : r.point = .control readSet)
    (message : ControlMessage)
    : Tended (r.handleControl readSet message) := by
  have going : r.point.isOver = false := by rw [here]; rfl
  unfold handleControl
  split
  · next ready =>
      have connected : 0 ≤ r.test.ctrlSck := by
        simp only [fdIsset, Bool.and_eq_true, decide_eq_true_eq] at ready
        exact ready.1
      have active : Active r := by
        rcases tended.alive going with active | cleaned
        · exact active
        · rw [cleaned.ctrlSck] at connected
          omega
      have outcome := handleMessage_steady connected message
      rcases result : r.handleMessage message with ⟨failed, error⟩ | told
      · rw [result] at outcome
        have steady : Steady r failed := outcome
        exact tended_failing ((tended.kept.steady steady).steady
          (steady_of_streams rfl rfl rfl rfl rfl id)) rfl
      · rw [result] at outcome
        obtain ⟨steady, state⟩ := outcome
        have steady := steady.trans (@steady_of_streams _ {
          told with point := .streams (fdClr told.test.ctrlSck readSet) } rfl rfl rfl rfl rfl id)
        exact .active (tended.kept.steady steady)
          (active.keep steady (.inr state) ⟨by simp, by simp⟩) rfl
  · exact tended.keep going (steady_of_streams rfl rfl rfl rfl rfl id) rfl rfl
      ⟨by simp, by simp, by simp⟩ rfl

theorem stream_tended (tended : Tended r) {readSet : List Int} (here : r.point = .streams readSet)
    (io : StreamIo)
    : Tended (r.handleStreams readSet io) := by
  have going : r.point.isOver = false := by rw [here]; rfl
  unfold handleStreams
  split
  · next creating =>
      have active : Active r := by
        rcases tended.alive going with active | cleaned
        · exact active
        · exact absurd creating cleaned.state
      have outcome : Leaves (Steady r)
          (fun next => Steady r next ∧ next.test.state = r.test.state)
          (if fdIsset r.test.protListener readSet then r.acceptStream io else .ok r) := by
        split
        · exact acceptStream_steady r io
        · exact ⟨.refl r, rfl⟩
      rcases result : (if fdIsset r.test.protListener readSet then r.acceptStream io
        else .ok r : Result) with ⟨failed, error⟩ | accepted
      · rw [result] at outcome
        have steady : Steady r failed := outcome
        exact tended_failing ((tended.kept.steady steady).steady
          (steady_of_streams rfl rfl rfl rfl rfl id)) rfl
      · rw [result] at outcome
        obtain ⟨steady, state⟩ := outcome
        have state : accepted.test.state = .createStreams := state.trans creating
        have moved := steady.trans (@steady_of_streams _ {
          accepted with point := if accepted.allAccepted then .complete else .passed false
          } rfl rfl rfl rfl rfl id)
        refine .active (tended.kept.steady moved) ?_ ?_
        · refine ⟨moved.calls ▸ active.uncleaned, moved.running active.running, ?_, fun _ => ?_,
            fun _ => state, fun here => ?_⟩
          · rw [moved.ctrlSck, moved.timing]
            exact active.idle
          · rw [moved.ctrlSck, moved.timing]
            exact active.creating creating
          · dsimp only at here
            split at here <;> cases here
        · dsimp only
          split <;> rfl
  · exact tended.keep going (steady_of_streams rfl rfl rfl rfl rfl id) rfl rfl
      ⟨by simp, by simp, by simp⟩ rfl

-----------------------------------------------------------------------------------------
-- The start of a test
-----------------------------------------------------------------------------------------

/-- What a function leaves that sets timers: ownership, with `NULL` in the fields whose turn is
still to come.
-/
structure Arms (r : ServerRun) (pending : List TimerField) (next : ServerRun) : Prop
    extends Framed r next where
  arming : next.timing.Arming pending

variable {pending fewer : List TimerField}

theorem Arms.kept (arms : Arms r pending next) (kept : Kept r) : Kept next := by
  refine ⟨?_, ?_, arms.arming.owned⟩
  · rw [arms.calls]
    exact kept.frees
  · rw [arms.calls]
    exact kept.order

theorem Arms.fails (arms : Arms r pending next) : Arms r [] next :=
  ⟨arms.toFramed, arms.arming.mono (List.nil_subset _)⟩

theorem Arms.steady (arms : Arms r pending next) {last : ServerRun} (steady : Steady next last)
    : Arms r pending last :=
  ⟨arms.toFramed.trans steady.toFramed, steady.timing ▸ arms.arming⟩

theorem withTiming_arms (framed : Framed r next) {x : Except Timing Timing}
    (arming : (Timing.left x).Arming pending)
    : Leaves (Arms r []) (Arms r pending) (next.withTiming x) := by
  cases x with
  | error timing =>
      have arms : Arms r pending { next with timing } :=
        ⟨framed.trans (framed_of_streams rfl rfl rfl rfl id), arming⟩
      exact arms.fails
  | ok timing => exact ⟨framed.trans (framed_of_streams rfl rfl rfl rfl id), arming⟩

theorem serverTimers_arming
    (arming : r.timing.Arming [.timer, .statsTimer, .reporterTimer, .omitTimer])
    (now : IperfTime) (io : TimersIo)
    : (Timing.left (r.serverTimers now io)).Arming [.omitTimer] := by
  have kindTimer : false = true
      ↔ TimerField.timer = .statsTimer ∨ TimerField.timer = .reporterTimer :=
    by decide
  have kindStats : true = true
      ↔ TimerField.statsTimer = .statsTimer ∨ TimerField.statsTimer = .reporterTimer := by decide
  have kindReporter : true = true
      ↔ TimerField.reporterTimer = .statsTimer ∨ TimerField.reporterTimer = .reporterTimer := by
    decide
  unfold serverTimers
  rw [Timing.setField_of_unset (arming.unset .timer (by simp)),
    Timing.setField_of_unset (arming.unset .statsTimer (by simp)),
    Timing.setField_of_unset (arming.unset .reporterTimer (by simp))]
  refine Timing.Arming.andThen (arming.createTimerIf (by decide) _ now _ _ kindTimer) (by simp) ?_
  intro t arming
  refine Timing.Arming.andThen (arming.createTimerIf (by decide) _ now _ _ kindStats) (by simp) ?_
  intro t arming
  exact arming.createTimerIf (by decide) _ now _ _ kindReporter

theorem createServerTimers_arms
    (arms : Arms r [.timer, .statsTimer, .reporterTimer, .omitTimer] next) (io : TimersIo)
    : Leaves (Arms r []) (Arms r [.omitTimer]) (next.createServerTimers io) := by
  unfold createServerTimers
  split
  · exact arms.fails
  · next now _ =>
      refine withTiming_arms ?_ (serverTimers_arming arms.arming now io)
      exact arms.toFramed.trans (framed_of_streams rfl rfl rfl rfl id)

theorem createServerOmitTimer_arms (arms : Arms r [.omitTimer] next) (io : TimersIo)
    : Leaves (Arms r []) (Arms r []) (next.createServerOmitTimer io) := by
  unfold createServerOmitTimer
  split
  · have unset := Timing.setField_of_unset (arms.arming.unset .omitTimer (by simp))
    rw [unset]
    exact arms.fails.steady (steady_of_streams rfl rfl rfl rfl rfl id)
  · split
    · exact arms.fails
    · next now _ =>
        refine withTiming_arms ?_ (arms.arming.createTimer (by decide) now _ _ (by decide))
        exact arms.toFramed.trans (framed_of_streams rfl rfl rfl rfl id)

theorem startTest_eq (r : ServerRun) (io : StartIo)
    : r.startTest io = (do
        let r ← r.openTest io
        let r ← r.createServerTimers io.timers
        let r ← r.createServerOmitTimer io.timers
        r.sendState .testRunning io.testRunningSent) := by
  unfold startTest openTest
  simp only [bind_assoc]

/-- From the last stream to `TEST_RUNNING`. -/
theorem startTest_arms (owned : r.timing.Owned none) (connected : 0 ≤ r.test.ctrlSck)
    (unset : ∀ field, r.timing.field field = none) (io : StartIo)
    : Leaves (Arms r []) (fun next => Arms r [] next ∧ next.test.state ≠ .createStreams)
        (r.startTest io) := by
  have arming : r.timing.Arming [.timer, .statsTimer, .reporterTimer, .omitTimer] :=
    ⟨owned, fun field _ => unset field⟩
  rw [startTest_eq]
  refine @Leaves.bind _ (Arms r [.timer, .statsTimer, .reporterTimer, .omitTimer]) _ _ _ ?_
    fun opened arms => ?_
  · exact (openTest_steady r io).imp
      (fun _ steady => ⟨steady.toFramed, steady.timing ▸ arming.mono (List.nil_subset _)⟩)
      fun _ steady => ⟨steady.toFramed, steady.timing ▸ arming⟩
  refine (createServerTimers_arms arms io.timers).bind fun timed arms => ?_
  refine (createServerOmitTimer_arms arms io.timers).bind fun omits arms => ?_
  refine (sendState_steady omits .testRunning io.testRunningSent).imp (fun _ => arms.steady)
    fun last told => ⟨arms.steady told.1, ?_⟩
  rw [told.2 (arms.ctrlSck ▸ connected)]
  nofun

theorem complete_tended (tended : Tended r) (here : r.point = .complete)
    (unset : ∀ field, r.timing.field field = none) (io : StartIo)
    : Tended (r.completeStreams io) := by
  have active : Active r := by
    rcases tended.alive (by rw [here]; rfl) with active | cleaned
    · exact active
    · exact absurd here cleaned.point.2.1
  have connected := (active.creating (active.complete here)).1
  have outcome := startTest_arms tended.kept.owned connected unset io
  unfold completeStreams
  rcases result : r.startTest io with ⟨failed, error⟩ | started
  · rw [result] at outcome
    have arms : Arms r [] failed := outcome
    exact tended_failing ((arms.kept tended.kept).steady
      (steady_of_streams rfl rfl rfl rfl rfl id)) rfl
  · rw [result] at outcome
    obtain ⟨arms, state⟩ := outcome
    have moved := arms.steady
      (@steady_of_streams _ { started with point := .threads } rfl rfl rfl rfl rfl id)
    refine .active (moved.kept tended.kept) ?_ rfl
    refine ⟨?_, moved.running active.running, fun none_ => ?_,
      fun creating => absurd creating state, nofun, fun _ => state⟩
    · rw [moved.calls]
      exact active.uncleaned
    · rw [moved.ctrlSck] at none_
      omega

-----------------------------------------------------------------------------------------
-- `cleanup_server`
-----------------------------------------------------------------------------------------

/-- All four timers are cancelled. -/
theorem cleanupServer_timing (owned : r.timing.Owned none) (joined : Nat → Bool)
    : (r.cleanupServer joined).timing.Owned none
      ∧ ∀ field, (r.cleanupServer joined).timing.field field = none := by
  obtain ⟨-, timing, -⟩ := cleanupServer_parts r joined
  rw [timing]
  refine ⟨?_, fun field => ?_⟩
  · exact (((owned.cancelTimer .statsTimer).cancelTimer .reporterTimer).cancelTimer
      .omitTimer).cancelTimer .timer
  · simp only [Timing.cancelTimer_field]
    cases field <;> rfl

theorem cleanupServer_kept (kept : Kept r) (joined : Nat → Bool)
    : Kept (r.cleanupServer joined) := by
  obtain ⟨calls, -, -⟩ := cleanupServer_parts r joined
  refine ⟨?_, ?_, (cleanupServer_timing kept.owned joined).1⟩
  · intro sp running isCall
    rw [calls] at isCall
    rcases List.mem_append.mp isCall with before | new
    · exact kept.frees sp running before
    · cases List.mem_singleton.mp new
  · rw [calls]
    refine List.pairwise_append.mpr ⟨kept.order, List.pairwise_singleton .., ?_⟩
    intro earlier _ later isLast _ position
    rw [List.mem_singleton.mp isLast]
    nofun

theorem cleanupServer_settled (owned : r.timing.Owned none) (joined : Nat → Bool)
    : Settled (r.cleanupServer joined) := by
  obtain ⟨-, -, test⟩ := cleanupServer_parts r joined
  refine ⟨fun flag isOne => ?_, (cleanupServer_timing owned joined).2⟩
  unfold ServerRun.flags at isOne
  rw [test, closeAll_test] at isOne
  simp only [Test.ports, joinWorkers, List.map_map, List.mem_map] at isOne
  obtain ⟨_, -, rfl⟩ := isOne
  rfl

theorem leave_tended (kept : Kept r) (joined : Nat → Bool) (result : Int)
    : Tended (r.leave joined result) := by
  have settled := cleanupServer_settled kept.owned joined
  have cleaned := cleanupServer_kept kept joined
  exact ⟨⟨cleaned.frees, cleaned.order, cleaned.owned⟩, nofun,
    fun _ _ => ⟨settled.flags, settled.unset⟩⟩

/-- A server that is cleaned up and goes on. -/
theorem cleanup_goesOn (kept : Kept r) (running : r.test.state ≠ .createStreams)
    (joined : Nat → Bool)
    : Tended { r.cleanupServer joined with point := .passed false } := by
  obtain ⟨-, -, test⟩ := cleanupServer_parts r joined
  have settled := cleanupServer_settled kept.owned joined
  have cleaned := cleanupServer_kept kept joined
  refine ⟨⟨cleaned.frees, cleaned.order, cleaned.owned⟩, fun _ => .inr ?_, nofun⟩
  refine ⟨⟨settled.flags, settled.unset⟩, ?_, ?_, ?_, nofun, nofun, nofun⟩
  · dsimp only
    rw [test, closeAll_test]
  · dsimp only
    rw [test, closeAll_test]
  · exact (cleanupServer_state r joined) ▸ running

-----------------------------------------------------------------------------------------
-- Threads
-----------------------------------------------------------------------------------------

theorem createThreads_flags (r : ServerRun) (count : Nat)
    : (r.createThreads count).flags
      = (r.flags.take count).map (fun _ => true) ++ r.flags.drop count := by
  simp only [flags, createThreads, Test.ports, List.map_append, List.map_map, List.map_take,
    List.map_drop]
  rfl

/-- A stream keeps its thread or gets one. -/
theorem createThreads_running
    (running : ∀ position ∈ r.threads, r.flags[position]? = some true) (count : Nat)
    : ∀ position ∈ (r.createThreads count).threads,
        (r.createThreads count).flags[position]? = some true := by
  intro position lives
  have inside : position < r.flags.length := by
    rcases List.mem_append.mp lives with before | new
    · exact (List.getElem?_eq_some_iff.mp (running position before)).1
    · have short := List.mem_range.mp new
      have length : r.flags.length = r.test.streams.length := by simp [flags, Test.ports]
      omega
  rw [createThreads_flags]
  by_cases first : position < count
  · rw [List.getElem?_append_left (by simp; omega)]
    simp only [List.getElem?_map, List.getElem?_take]
    rw [if_pos first, List.getElem?_eq_getElem inside]
    rfl
  · rcases List.mem_append.mp lives with before | new
    · have taken : (List.map (fun _ => true) (r.flags.take count)).length = count := by
        rw [List.length_map, List.length_take]
        omega
      rw [List.getElem?_append_right (by omega), taken, List.getElem?_drop,
        Nat.add_sub_of_le (not_lt.mp first)]
      exact running position before
    · have short := List.mem_range.mp new
      omega

theorem createThreads_kept (kept : Kept r) (uncleaned : Call.cleanupServer ∉ r.calls) (count : Nat)
    : Kept (r.createThreads count) ∧ Call.cleanupServer ∉ (r.createThreads count).calls := by
  have created {call : Call}
      (isNew : call ∈ (List.range (min count r.test.streams.length)).map Call.createThread)
      : ∃ position, call = .createThread position := by
    obtain ⟨position, -, rfl⟩ := List.mem_map.mp isNew
    exact ⟨position, rfl⟩
  refine ⟨⟨?_, ?_, kept.owned⟩, ?_⟩
  · intro sp running isCall
    rcases List.mem_append.mp isCall with before | new
    · exact kept.frees sp running before
    · obtain ⟨_, absurd⟩ := created new
      cases absurd
  · refine List.pairwise_append.mpr ⟨kept.order, ?_, ?_⟩
    · refine List.pairwise_of_forall_mem_list fun earlier isEarlier later _ cleans => ?_
      obtain ⟨_, rfl⟩ := created isEarlier
      cases cleans
    · intro earlier isEarlier later _ cleans
      exact absurd (cleans ▸ isEarlier) uncleaned
  · intro isCall
    rcases List.mem_append.mp isCall with before | new
    · exact uncleaned before
    · obtain ⟨_, absurd⟩ := created new
      cases absurd

theorem threads_tended (tended : Tended r) (here : r.point = .threads) {io : ThreadsIo}
    (careful : io.attrInit = true)
    : Tended (r.startThreads io) := by
  have active : Active r := by
    rcases tended.alive (by rw [here]; rfl) with active | cleaned
    · exact active
    · exact absurd here cleaned.point.2.2
  have running := active.threads here
  obtain ⟨kept, uncleaned⟩ := createThreads_kept tended.kept active.uncleaned io.created
  unfold startThreads
  rw [careful, if_pos rfl]
  dsimp only
  split_ifs
  · exact tended_failing (kept.steady (steady_of_streams rfl rfl rfl rfl rfl id)) rfl
  · refine .active (kept.steady (steady_of_streams rfl rfl rfl rfl rfl id)) ?_ rfl
    exact ⟨uncleaned, createThreads_running active.running io.created, active.idle,
      fun creating => absurd creating running, nofun, nofun⟩
  · exact cleanup_goesOn kept running io.joined

-----------------------------------------------------------------------------------------
-- Timers
-----------------------------------------------------------------------------------------

/-- The safety timer is about to fire on a test that is not done. -/
def safetyDue (r : ServerRun) : Bool :=
  match r.point with
  | .timers now next =>
      (next.bind r.timing.timers.find).any fun entry =>
        !decide (now < entry.time) && decide (entry.record.clientData = r.timing.address)
          && decide (entry.record.proc = .timer) && !r.test.done
  | _ => false

theorem safetyDue_of {now : IperfTime} {next : Option Nat} {entry : Entry IperfTime TimerRecord}
    (here : r.point = .timers now next) (due : next.bind r.timing.timers.find = some entry)
    (late : ¬ now < entry.time) (own : entry.record.clientData = r.timing.address)
    (proc : entry.record.proc = .timer) (undone : r.test.done = false)
    : r.safetyDue = true := by
  unfold safetyDue
  rw [here]
  dsimp only
  rw [due, Option.any_some, decide_eq_false late, decide_eq_true own, decide_eq_true proc, undone]
  rfl

/-- All procedures but the safety timer's leave the workers alone. -/
theorem timerProc_framed (reading : IperfTime) {proc : TimerField}
    (harmless : proc = .timer → r.test.done = true)
    : Framed r (r.timerProc reading proc)
      ∧ (r.timerProc reading proc).test.state = r.test.state := by
  cases proc with
  | timer =>
      unfold timerProc safetyProc
      rw [harmless rfl, if_pos rfl]
      exact ⟨framed_of_streams rfl rfl rfl rfl id, rfl⟩
  | statsTimer =>
      unfold timerProc
      dsimp only
      split
      · exact ⟨framed_of_streams rfl rfl rfl rfl id, rfl⟩
      · have ports := iperfStatsCallback_ports r.test reading
        obtain ⟨_, _, _, _, shape⟩ := iperfStatsCallback_shape r.test reading
        refine ⟨framed_of_streams rfl rfl (congrArg Ports.streams ports)
          (congrArg Ports.ctrlSck ports) id, ?_⟩
        rw [shape]
  | reporterTimer => exact ⟨framed_of_streams rfl rfl rfl rfl id, rfl⟩
  | omitTimer =>
      have ports := iperfResetStats_ports { r.test with omitting := false } reading
      exact ⟨framed_of_streams rfl rfl (congrArg Ports.streams ports)
        (congrArg Ports.ctrlSck ports) id, rfl⟩

/-- Another test's timer fires. -/
theorem Tended.fireForeign (tended : Tended r) (here : r.point.isOver = false) {now : IperfTime}
    {entry : Entry IperfTime TimerRecord} (isActive : entry ∈ r.timing.timers.active)
    (foreign : ¬ r.timing.Own entry) (following : Option Nat)
    : Tended { r with timing := r.timing.fire now entry, point := .timers now following } := by
  have fields : ∀ field, (r.timing.fire now entry).field field = r.timing.field field := by
    intro field
    have apart : ¬ entry.record.clientData = r.timing.address := foreign
    unfold Timing.fire
    dsimp only
    rw [if_neg apart]
  refine ⟨⟨tended.kept.frees, tended.kept.order, tended.kept.owned.fire isActive now⟩,
    fun _ => ?_, nofun⟩
  rcases tended.alive here with active | cleaned
  · refine .inl ⟨active.uncleaned, active.running, fun free => ?_, fun creating => ?_, nofun, nofun⟩
    · exact (fields .timer).trans (active.idle free)
    · obtain ⟨connected, unset⟩ := active.creating creating
      exact ⟨connected, (fields .timer).trans unset⟩
  · refine .inr ⟨⟨cleaned.flags, fun field => ?_⟩, cleaned.listener, cleaned.ctrlSck,
      cleaned.state, nofun, nofun, nofun⟩
    exact (fields field).trans (cleaned.unset field)

/-- A timer of the test waits: the server has not been cleaned up. -/
theorem Tended.timed (tended : Tended r) (here : r.point.isOver = false)
    {entry : Entry IperfTime TimerRecord} (isActive : entry ∈ r.timing.timers.active)
    (own : r.timing.Own entry)
    : Active r := by
  rcases tended.alive here with active | cleaned
  · exact active
  · exact absurd own (tended.kept.owned.gone cleaned.unset entry isActive)

/-- A procedure sets no safety timer. -/
theorem fire_timer {t : Timing} (now : IperfTime) {entry : Entry IperfTime TimerRecord}
    (own : t.Own entry) (unset : entry.record.proc = .timer ∨ t.field .timer = none)
    : (t.fire now entry).field .timer = none := by
  have isOwn : entry.record.clientData = t.address := own
  unfold Timing.fire
  dsimp only
  rw [if_pos isOwn]
  by_cases proc : entry.record.proc = .timer
  · rw [proc]
    exact Function.update_self TimerField.timer none t.field
  · exact (Timing.runProc_field t now proc).trans (unset.resolve_left proc)

/-- Its streams have no thread when the safety timer frees them. -/
theorem safetyProc_kept (kept : Kept r)
    (running : ∀ position ∈ r.threads, r.flags[position]? = some true)
    (undone : r.test.done = false) (idle : ∀ sp ∈ r.test.streams, sp.threadCreated = false)
    (uncleaned : Call.cleanupServer ∉ r.calls)
    : Kept r.safetyProc ∧ r.safetyProc.threads = [] ∧ Call.cleanupServer ∉ r.safetyProc.calls
      ∧ r.safetyProc.test.state = r.test.state := by
  have nobody : r.threads = [] := by
    refine List.eq_nil_iff_forall_not_mem.mpr fun position lives => ?_
    have flagged := List.mem_of_getElem? (running position lives)
    simp only [flags, Test.ports, List.map_map, List.mem_map, Function.comp_apply] at flagged
    obtain ⟨sp, isOne, created⟩ := flagged
    rw [Stream.port, idle sp isOne] at created
    cases created
  let ending : ServerRun := { r with test := { r.test with done := true } }
  obtain ⟨table, closed⟩ := closeSockets_eq ending
  obtain ⟨table', closed'⟩ := close_eq ending.freeStreams ending.freeStreams.test.ctrlSck
  have frees {call : Call}
      (isNew : call ∈ r.test.streams.mapIdx fun position sp =>
        Call.freeStream sp (r.threads.contains position))
      : ∃ sp ∈ r.test.streams, call = .freeStream sp false := by
    obtain ⟨position, short, rfl⟩ := List.mem_mapIdx.mp isNew
    refine ⟨_, List.getElem_mem short, ?_⟩
    rw [nobody]
    rfl
  have calls : r.safetyProc.calls = r.calls ++ r.test.streams.mapIdx fun position sp =>
      Call.freeStream sp (r.threads.contains position) := by
    unfold safetyProc
    rw [undone, if_neg Bool.false_ne_true]
    dsimp only
    rw [closed']
    unfold freeStreams
    rw [closed]
  have rest : r.safetyProc.threads = r.threads ∧ r.safetyProc.timing = r.timing
      ∧ r.safetyProc.test.state = r.test.state := by
    unfold safetyProc
    rw [undone, if_neg Bool.false_ne_true]
    dsimp only
    rw [closed']
    unfold freeStreams
    rw [closed]
    exact ⟨rfl, rfl, rfl⟩
  refine ⟨⟨?_, ?_, rest.2.1 ▸ kept.owned⟩, rest.1.trans nobody, ?_, rest.2.2⟩
  · intro sp runs isCall
    rw [calls] at isCall
    rcases List.mem_append.mp isCall with before | new
    · exact kept.frees sp runs before
    · obtain ⟨other, isOne, same⟩ := frees new
      injection same with same stopped
      exact ⟨same ▸ idle other isOne, stopped⟩
  · rw [calls]
    refine List.pairwise_append.mpr ⟨kept.order, ?_, ?_⟩
    · refine List.pairwise_of_forall_mem_list fun earlier isEarlier later _ cleans => ?_
      obtain ⟨_, -, rfl⟩ := frees isEarlier
      cases cleans
    · intro earlier _ later isLater _ position
      obtain ⟨_, -, rfl⟩ := frees isLater
      simp
  · rw [calls]
    intro isCall
    rcases List.mem_append.mp isCall with before | new
    · exact uncleaned before
    · obtain ⟨_, -, absurd⟩ := frees new
      cases absurd

/-- A timer of the test has fired. -/
theorem Tended.fired {fired : ServerRun} (kept : Kept fired)
    (uncleaned : Call.cleanupServer ∉ fired.calls)
    (running : ∀ position ∈ fired.threads, fired.flags[position]? = some true) {timing : Timing}
    (owned : timing.Owned none) (idle : fired.test.ctrlSck = -1 → timing.field .timer = none)
    (creating : fired.test.state = .createStreams →
      0 ≤ fired.test.ctrlSck ∧ timing.field .timer = none)
    (now : IperfTime) (following : Option Nat)
    : Tended { fired with timing, point := .timers now following } :=
  .active ⟨kept.frees, kept.order, owned⟩ ⟨uncleaned, running, idle, creating, nofun, nofun⟩ rfl

theorem Tended.fireOwn (tended : Tended r) (here : r.point.isOver = false) {now : IperfTime}
    {entry : Entry IperfTime TimerRecord} (isActive : entry ∈ r.timing.timers.active)
    (own : r.timing.Own entry) (reading : IperfTime) (following : Option Nat)
    (careful : entry.record.proc = .timer → r.test.done = false →
      ∀ sp ∈ r.test.streams, sp.threadCreated = false)
    : Tended {
        r.timerProc reading entry.record.proc with
        timing := r.timing.fire now entry
        point := .timers now following
      } := by
  have owned := tended.kept.owned.fire isActive now
  have active := tended.timed here isActive own
  by_cases undone : entry.record.proc = .timer ∧ r.test.done = false
  · obtain ⟨kept, nobody, uncleaned, state⟩ := safetyProc_kept tended.kept active.running undone.2
      (careful undone.1 undone.2) active.uncleaned
    have points := tended.kept.owned.owner entry isActive own nofun
    rw [undone.1] at points
    have running : r.test.state ≠ .createStreams := by
      intro creating
      rw [(active.creating creating).2] at points
      cases points
    rw [undone.1]
    refine .fired kept uncleaned (fun position lives => ?_) owned
      (fun _ => fire_timer now own (.inl undone.1))
      (fun creating => absurd (state.symm.trans creating) running) now following
    rw [nobody] at lives
    cases lives
  · have harmless : entry.record.proc = .timer → r.test.done = true := fun proc =>
      Bool.of_not_eq_false fun notDone => undone ⟨proc, notDone⟩
    obtain ⟨framed, state⟩ := timerProc_framed reading harmless
    have kept : Kept { r.timerProc reading entry.record.proc with timing := r.timing } := by
      refine ⟨?_, ?_, tended.kept.owned⟩
      · exact framed.calls ▸ tended.kept.frees
      · exact framed.calls ▸ tended.kept.order
    refine .fired kept (framed.calls ▸ active.uncleaned) (framed.running active.running) owned
      (fun free => ?_) (fun creating => ?_) now following
    · exact fire_timer now own (.inr (active.idle (framed.ctrlSck.symm.trans free)))
    · obtain ⟨connected, unset⟩ := active.creating (state.symm.trans creating)
      exact ⟨framed.ctrlSck.symm ▸ connected, fire_timer now own (.inr unset)⟩

theorem timer_tended (tended : Tended r) {now : IperfTime} {next : Option Nat}
    (here : r.point = .timers now next) (reading : IperfTime)
    (careful : r.safetyDue = true → ∀ sp ∈ r.test.streams, sp.threadCreated = false)
    : Tended (r.runTimer now next reading) := by
  have going : r.point.isOver = false := by rw [here]; rfl
  have ends : Tended { r with point := .loop } :=
    tended.keep going (steady_of_streams rfl rfl rfl rfl rfl id) rfl rfl
        ⟨by simp, by simp, by simp⟩ rfl
  unfold runTimer
  cases due : next.bind r.timing.timers.find with
  | none => exact ends
  | some entry =>
      dsimp only
      split
      · exact ends
      · next late =>
          obtain ⟨id, -, found⟩ := Option.bind_eq_some_iff.mp due
          obtain ⟨isActive, -⟩ := Timers.find_some found
          unfold fireTimer
          dsimp only
          split
          · next own =>
              refine tended.fireOwn going isActive own reading _ fun proc undone => careful ?_
              exact safetyDue_of here due late own proc undone
          · next foreign => exact tended.fireForeign going isActive foreign _

-----------------------------------------------------------------------------------------
-- The head of the loop and the workers
-----------------------------------------------------------------------------------------

theorem listen_tended (tended : Tended r) (here : r.point = .start) {announced : Option Int}
    {now : IperfTime}
    : Tended (r.serverListen announced now) := by
  have active : Active r := by
    rcases tended.alive (by rw [here]; rfl) with active | cleaned
    · exact active
    · exact absurd here cleaned.point.1
  unfold serverListen
  cases announced with
  | none => exact tended_failing (tended.kept.steady (steady_of_streams rfl rfl rfl rfl rfl id)) rfl
  | some s =>
      have steady := (steady_opens r s).trans (@steady_of_streams _ {
        r.opens s with
        test := { r.test with listener := s, state := .iperfStart }
        lastReceiveTime := now
        rcvTimeoutUs := iperfTimeInUsecs r.test.settings.rcvTimeout
        point := .loop
      } rfl rfl rfl rfl rfl id)
      refine .active (tended.kept.steady steady) ?_ rfl
      exact active.keep steady (.inr nofun) ⟨by simp, by simp⟩

theorem select_tended (tended : Tended r) (here : r.point = .loop) (io : SelectIo)
    : Tended (r.select io) := by
  have going : r.point.isOver = false := by rw [here]; rfl
  have fails (result : Int) : Tended { r with point := .failing result } :=
    tended_failing (tended.kept.steady (steady_of_streams rfl rfl rfl rfl rfl id)) rfl
  have notes (now : IperfTime) {point : Point}
      (apart : point ≠ .start ∧ point ≠ .complete ∧ point ≠ .threads)
      (isOver : point.isOver = false)
      : Tended { r.noteProgress now with point } :=
    tended.keep going (steady_of_streams rfl rfl rfl rfl rfl id) rfl rfl apart isOver
  unfold select
  split
  · exact fails (-1)
  · split
    · split
      · exact fails (-1)
      · exact notes io.now ⟨by simp, by simp, by simp⟩ rfl
    · split
      · exact fails 2
      · exact fails (-1)
      · exact notes io.later ⟨by simp, by simp, by simp⟩ rfl
    · exact notes io.now ⟨by simp, by simp, by simp⟩ rfl

theorem worker_tended (tended : Tended r) (position : Nat) (event : WorkerEvent)
    : Tended (r.work position event) := by
  have worked := work_worked r position event
  have steady := worked.steady
  have listener := congrArg Ports.listener worked.ports
  refine ⟨tended.kept.steady steady, fun going => ?_, fun result isOver => ?_⟩
  · rcases tended.alive (worked.point ▸ going) with active | cleaned
    · refine .inl ⟨steady.calls ▸ active.uncleaned, steady.running active.running, ?_, ?_, ?_, ?_⟩
      · rw [steady.ctrlSck, steady.timing]
        exact active.idle
      · rw [worked.state, steady.ctrlSck, steady.timing]
        exact active.creating
      · rw [worked.point, worked.state]
        exact active.complete
      · rw [worked.point, worked.state]
        exact active.threads
    · refine .inr ⟨cleaned.toSettled.steady steady, listener.trans cleaned.listener, ?_, ?_, ?_⟩
      · rw [steady.ctrlSck]
        exact cleaned.ctrlSck
      · rw [worked.state]
        exact cleaned.state
      · rw [worked.point]
        exact cleaned.point
  · exact (tended.returned result (worked.point.symm.trans isOver)).steady steady

-----------------------------------------------------------------------------------------
-- Runs
-----------------------------------------------------------------------------------------

/-- What must not happen: a new test while a timer of the one before is set, a failure of
`pthread_attr_init`, the safety timer while a stream has a thread, and a failure of
`iperf_json_finish`.
-/
def Considerate (r : ServerRun) : Event → Prop
  | .complete _ => ∀ field, r.timing.field field = none
  | .threads io => io.attrInit = true
  | .timer _ => r.safetyDue = true → ∀ sp ∈ r.test.streams, sp.threadCreated = false
  | .finish jsonFinished _ => jsonFinished = true
  | _ => True

instance (r : ServerRun) (event : Event) : Decidable (Considerate r event) :=
  match event with
  | .complete _ =>
      decidable_of_iff
        (r.timing.field .timer = none ∧ r.timing.field .statsTimer = none
          ∧ r.timing.field .reporterTimer = none ∧ r.timing.field .omitTimer = none)
        ⟨fun ⟨timer, stats, reporter, omit_⟩ field => by cases field <;> assumption,
          fun unset => ⟨unset _, unset _, unset _, unset _⟩⟩
  | .threads io => inferInstanceAs (Decidable (io.attrInit = true))
  | .timer _ =>
      inferInstanceAs (Decidable
        (r.safetyDue = true → ∀ sp ∈ r.test.streams, sp.threadCreated = false))
  | .finish jsonFinished _ => inferInstanceAs (Decidable (jsonFinished = true))
  | .listen .. | .select _ | .accept _ | .message _ | .stream _ | .runTimers _ | .skipTimers
  | .cleanup _ | .worker .. => isTrue trivial

/-- By cases on the step. -/
theorem Tended.step (tended : Tended r) {event : Event} (careful : Considerate r event)
    (steps : Step r event next) (issued : next.misissued = false)
    : Tended next := by
  have passes {timedOut : Bool} (here : r.point = .passed timedOut) {point : Point}
      (apart : point ≠ .start ∧ point ≠ .complete ∧ point ≠ .threads)
      (isOver : point.isOver = false)
      : Tended { r with point } :=
    tended.keep (by rw [here]; rfl) (steady_of_streams rfl rfl rfl rfl rfl id) rfl rfl apart isOver
  cases steps with
  | listen here => exact listen_tended tended here
  | select here going => exact select_tended tended here _
  | accept here => exact accept_tended tended here issued
  | message here => exact message_tended tended here _
  | stream here => exact stream_tended tended here _
  | complete here => exact complete_tended tended here careful _
  | threads here => exact threads_tended tended here careful
  | runTimers here => exact passes here ⟨by simp, by simp, by simp⟩ rfl
  | skipTimers here => exact passes here ⟨by simp, by simp, by simp⟩ rfl
  | timer here => exact timer_tended tended here _ careful
  | cleanup here => exact leave_tended tended.kept _ _
  | finish here done =>
      have finished : _ = true := careful
      unfold finish
      rw [finished, if_pos rfl]
      exact leave_tended tended.kept _ _
  | worker lives => exact worker_tended tended _ _

variable {test : Test} {reporterInterval : ℚ} {flag : Int32} {address : Nat}
  {timers : Timers IperfTime TimerRecord}

theorem tended_start (wellFormed : timers.WellFormed)
    (none_ : ∀ entry ∈ timers.active, entry.record.clientData ≠ address)
    : Tended (runServer test reporterInterval flag address timers) := by
  have owned : (runServer test reporterInterval flag address timers).timing.Owned none :=
    ⟨wellFormed, nofun, fun entry isActive own => absurd own (none_ entry isActive),
      fun entry isActive own => absurd own (none_ entry isActive)⟩
  refine ⟨⟨?_, .nil, owned⟩, fun _ => .inl ⟨?_, ?_, fun _ => rfl, nofun, nofun, nofun⟩, nofun⟩
  · exact fun _ _ isCall => (List.not_mem_nil isCall).elim
  · exact fun isCall => (List.not_mem_nil isCall).elim
  · exact fun _ lives => (List.not_mem_nil lives).elim

/-- What is left when `iperf_run_server` has returned: no stream with a thread, no timer in the
fields and none on the list.
-/
def NothingLeft (r : ServerRun) : Prop :=
  (∀ sp ∈ r.test.streams, sp.threadCreated = false)
    ∧ (∀ field, r.timing.field field = none)
    ∧ ∀ entry ∈ r.timing.timers.active, entry.record.clientData ≠ r.timing.address

theorem Tended.nothingLeft (tended : Tended r) {result : Int} (isOver : r.point = .returned result)
    : NothingLeft r := by
  have settled := tended.returned result isOver
  refine ⟨fun sp isOne => ?_, settled.unset, tended.kept.owned.gone settled.unset⟩
  refine settled.flags _ ?_
  simp only [flags, Test.ports, List.map_map]
  exact List.mem_map_of_mem (f := Prod.snd ∘ Stream.port) isOne

/-- On every considerate run a stream is freed only without a worker, no worker is created after
`cleanup_server`, and nothing is left when `iperf_run_server` returns.
-/
theorem workers_end_with_server (wellFormed : timers.WellFormed)
    (none_ : ∀ entry ∈ timers.active, entry.record.clientData ≠ address)
    (runs : Run Considerate (runServer test reporterInterval flag address timers) r)
    : (∀ sp running, Call.freeStream sp running ∈ r.calls →
        sp.threadCreated = false ∧ running = false)
      ∧ r.calls.Pairwise Follows
      ∧ ∀ result, r.point = .returned result → NothingLeft r := by
  have tended : Tended r := by
    induction runs with
    | refl => exact tended_start wellFormed none_
    | tail _ steps ih =>
        obtain ⟨event, careful, steps, issued⟩ := steps
        exact ih.step careful steps issued
  exact ⟨tended.kept.frees, tended.kept.order, fun _ => tended.nothingLeft⟩

/-- Witness: a client that closes its control connection leaves nothing behind. -/
theorem workers_end_with_server_closedRun
    : ∃ r, firstRun.follow (fun r event => decide (Considerate r event)) closedRun = some r
      ∧ r.point = .returned 0 ∧ r.calls = [.createThread 0, .cleanupServer] ∧ NothingLeft r := by
  have returns : (firstRun.follow (fun r event => decide (Considerate r event)) closedRun).any
      (fun r => decide (r.point = .returned 0)
        && decide (r.calls = [.createThread 0, .cleanupServer])) = true := by
    decide +kernel
  obtain ⟨r, follows, ends⟩ := (Option.any_eq_true _ _).mp returns
  rw [Bool.and_eq_true, decide_eq_true_iff, decide_eq_true_iff] at ends
  obtain ⟨-, -, nothing⟩ := @workers_end_with_server r _ 0 0 0 { active := [] } .nil nofun
    (follow_run follows fun _ _ => of_decide_eq_true)
  exact ⟨r, follows, ends.1, ends.2, nothing 0 ends.1⟩

/-- A client that stalls for a minute. -/
def stalledRun : List Event :=
  let late := { secs := 60, usecs := 0 }
  let stall := Event.select { now := late, select := .timedOut, later := late }
  oneStream ++ [stall, .runTimers late, .timer late, .timer late]

/-- The safety timer then frees a stream whose worker is running. -/
theorem running_stream_freed
    : ∃ r sp, Run (fun _ _ => True) firstRun r ∧ Call.freeStream sp true ∈ r.calls
      ∧ sp.threadCreated = true := by
  have frees : (firstRun.follow (fun _ _ => true) stalledRun).any
      (fun r => r.calls.any fun call =>
        match call with
        | .freeStream sp running => sp.threadCreated && running
        | _ => false) = true := by
    decide +kernel
  obtain ⟨r, follows, one⟩ := (Option.any_eq_true _ _).mp frees
  obtain ⟨call, isCall, threaded⟩ := List.any_eq_true.mp one
  cases call with
  | freeStream sp running =>
      obtain ⟨created, runs⟩ := (Bool.and_eq_true _ _).mp threaded
      exact ⟨r, sp, follow_run follows fun _ _ _ => trivial, runs ▸ isCall, created⟩
  | createThread position => cases threaded
  | cleanupServer => cases threaded

end ServerRun

end Iperf
