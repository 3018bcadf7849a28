import Iperf.Server.Resources
import Iperf.Timer.Machine
import Iperf.Timer.Pair

/-! The statistics and the reporter timer of a test whose two intervals are the same, in memory
and with the timer procedures of the client and the server.
-/

namespace Iperf

open TimerList

/-- The timers, the fields of one test that point into them, and the timer procedures that were
called, with the times they were scheduled for.
-/
structure TestHeap where
  heap : TimerHeap
  address : Nat
  field : TimerField → Option Nat := fun _ => none
  calls : List (TimerField × IperfTime) := []

namespace TestHeap

def setField (x : TestHeap) (field : TimerField) (target : Option Nat) : TestHeap :=
  { x with field := Function.update x.field field target }

-----------------------------------------------------------------------------------------
-- Creation
-----------------------------------------------------------------------------------------

/-- `tmr_create` for a field, or `none` when there is no memory for the timer. -/
def createTimer (x : TestHeap) (malloc : TimerField → Option Nat) (now : IperfTime)
    (field : TimerField) (usecs : UInt64) (periodic : Bool)
    : Option TestHeap :=
  let record := { proc := field, clientData := x.address, usecs, periodic }
  match x.heap.tmrCreate (malloc field) now record with
  | some (some t, heap) => some { (x.setField field (some t)) with heap }
  | _ => none

/-- A timer that is wanted only under a condition. -/
def createTimerIf (wanted : Bool) (x : TestHeap) (malloc : TimerField → Option Nat)
    (now : IperfTime) (field : TimerField) (usecs : UInt64) (periodic : Bool)
    : Option TestHeap :=
  if wanted then x.createTimer malloc now field usecs periodic else some x

/-- The settings that decide which timers a test has. -/
structure Settings where
  server : Bool
  duration : Int32
  omitPeriod : Int32
  statsInterval : ℚ
  reporterInterval : ℚ

/-- When the test ends; a server allows for a grace period. -/
def Settings.lastSecond (settings : Settings) : Int32 :=
  if settings.server then settings.duration + settings.omitPeriod + ServerRun.gracePeriod
  else settings.duration + settings.omitPeriod

/-- `create_client_timers` and `create_client_omit_timer`, or the two of the server. The clock is
read anew for the omit timer.
-/
def createTimers (settings : Settings) (x : TestHeap) (malloc : TimerField → Option Nat)
    (now omitNow : IperfTime)
    : Option TestHeap := do
  let x := ((x.setField .timer none).setField .statsTimer none).setField .reporterTimer none
  let x ← createTimerIf (settings.duration ≠ 0) x malloc now .timer
    (settings.lastSecond.toInt64.toUInt64 * 1000000) false
  let x ← createTimerIf (settings.statsInterval ≠ 0) x malloc now .statsTimer
    (usecsOfInterval settings.statsInterval) true
  let x ← createTimerIf (settings.reporterInterval ≠ 0) x malloc now .reporterTimer
    (usecsOfInterval settings.reporterInterval) true
  let x := x.setField .omitTimer none
  createTimerIf (settings.omitPeriod ≠ 0) x malloc omitNow .omitTimer
    (settings.omitPeriod.toInt64.toUInt64 * 1000000) false

-----------------------------------------------------------------------------------------
-- Runs
-----------------------------------------------------------------------------------------

/-- `tmr_reset` of the timer in a field, if there is one. -/
def resetTimer (x : TestHeap) (now : IperfTime) (field : TimerField) : Option TestHeap :=
  match x.field field with
  | none => some x
  | some t => (x.heap.tmrReset now t).map fun heap => { x with heap }

/-- What the timer procedures of the client and of the server do with the timers. -/
def runProc (x : TestHeap) (now : IperfTime) : TimerField → Option TestHeap
  | .timer => some (x.setField .timer none)
  | .statsTimer | .reporterTimer => some x
  | .omitTimer => do
      let x ← (x.setField .omitTimer none).resetTimer now .statsTimer
      x.resetTimer now .reporterTimer

/-- A round of `tmr_run` for a timer that is due. -/
def fire (x : TestHeap) (now : IperfTime) (t : Nat) : Option TestHeap := do
  let proc := (x.heap.record t).proc
  let x ← { x with calls := x.calls ++ [(proc, x.heap.time t)] }.runProc now proc
  let heap ← x.heap.settle t
  some { x with heap }

/-- The loop of `tmr_run` for a number of rounds, and whether it has ended by then. -/
def rounds (now : IperfTime) : Nat → Option Nat → TestHeap → Option (Bool × TestHeap)
  | 0, _, x => some (false, x)
  | _ + 1, none, x => some (true, x)
  | count + 1, some t, x =>
      let next := x.heap.next t
      if iperfTimeCompare (x.heap.time t) now > 0 then some (true, x)
      else do
        let x ← x.fire now t
        rounds now count next x

/-- Calls of `tmr_run`, each with the rounds that are looked at. -/
def runs : List (IperfTime × Nat) → TestHeap → Option (Bool × TestHeap)
  | [], x => some (true, x)
  | (now, count) :: others, x =>
      match rounds now count x.heap.timers x with
      | none => none
      | some (false, x) => some (false, x)
      | some (true, x) => runs others x

/-- The calls of the statistics and the reporter procedure. -/
def reports (x : TestHeap) : List (TimerField × IperfTime) :=
  x.calls.filter fun call => call.1 = .statsTimer ∨ call.1 = .reporterTimer

/-- A statistics call and a reporter call for each time. -/
def inPairs (times : List IperfTime) : List (TimerField × IperfTime) :=
  times.flatMap fun time => [(.statsTimer, time), (.reporterTimer, time)]

-----------------------------------------------------------------------------------------
-- The invariant
-----------------------------------------------------------------------------------------

/-- A one-shot timer of the test. -/
def Single (record : TimerRecord) : Prop :=
  (record.proc = .timer ∨ record.proc = .omitTimer) ∧ ¬ record.periodic = true

/-- The pair is the statistics and the reporter timer of the test, and the others are one-shot. -/
structure Fields (x : TestHeap) (pair : TimerPair) (timers : Timers IperfTime TimerRecord)
    : Prop where
  keeps : x.heap.Keeps timers
  stats : x.field .statsTimer = some pair.leader
  reporter : x.field .reporterTimer = some pair.follower
  statsProc : pair.leaderRecord.proc = .statsTimer
  reporterProc : pair.followerRecord.proc = .reporterTimer
  others : ∀ e ∈ timers.active, e.id ≠ pair.leader → e.id ≠ pair.follower → Single e.record

/-- Between two rounds, or with the reporter timer next after the statistics timer has fired. -/
inductive Phase (x : TestHeap) (pair : TimerPair) (timers : Timers IperfTime TimerRecord)
    (now : IperfTime) (next : Option Nat) : Prop where
  | between {time : IperfTime} (times : List IperfTime) (together : pair.Together timers time)
    (notFollower : next ≠ some pair.follower) (reports : x.reports = inPairs times)
  | inside {old : IperfTime} (times : List IperfTime)
    (ahead : pair.Ahead timers old (iperfTimeAddUsecs old pair.leaderRecord.usecs))
    (isFollower : next = some pair.follower) (due : old ≤ now)
    (reports : x.reports = inPairs times ++ [(.statsTimer, old)])

variable {x : TestHeap} {pair : TimerPair} {timers : Timers IperfTime TimerRecord}
  {now old time : IperfTime} {next : Option Nat} {e : Entry IperfTime TimerRecord}

theorem inPairs_append (times : List IperfTime) (time : IperfTime)
    : inPairs times ++ [(.statsTimer, time)] ++ [(.reporterTimer, time)]
      = inPairs (times ++ [time]) := by
  simp [inPairs]

/-- The timers of the pair keep their nodes. -/
theorem Single.of_reschedule (others : ∀ e ∈ timers.active, e.id ≠ pair.leader →
      e.id ≠ pair.follower → Single e.record)
    (wellFormed : timers.WellFormed) (isActive : e ∈ timers.active) (time : IperfTime)
    : ∀ other ∈ (timers.reschedule e.id time).active, other.id ≠ pair.leader →
      other.id ≠ pair.follower → Single other.record := by
  intro other isOther notLeader notFollower
  rcases (Timers.mem_reschedule wellFormed isActive).mp isOther with rfl | ⟨before, -⟩
  · exact others e isActive notLeader notFollower
  · exact others other before notLeader notFollower

theorem Single.of_cancel (others : ∀ e ∈ timers.active, e.id ≠ pair.leader →
      e.id ≠ pair.follower → Single e.record) (id : Nat)
    : ∀ other ∈ (timers.cancel id).active, other.id ≠ pair.leader →
      other.id ≠ pair.follower → Single other.record :=
  fun other isOther => others other (Timers.mem_cancel.mp isOther).1

-----------------------------------------------------------------------------------------
-- Firing
-----------------------------------------------------------------------------------------

theorem fire_eq {t : Nat} {proc : TimerField} (isProc : (x.heap.record t).proc = proc)
    (isTime : x.heap.time t = time) {ran : TestHeap}
    (runs : { x with calls := x.calls ++ [(proc, time)] }.runProc now proc = some ran)
    {heap' : TimerHeap} (settled : ran.heap.settle t = some heap')
    : x.fire now t = some { ran with heap := heap' } := by
  unfold fire
  rw [isProc, isTime]
  dsimp only
  rw [runs]
  change (ran.heap.settle t).bind _ = _
  rw [settled]
  rfl

/-- The statistics timer fires. -/
theorem Fields.fireLeader (fields : x.Fields pair timers) (together : pair.Together timers time)
    (now : IperfTime)
    : ∃ x' timers', x.fire now pair.leader = some x' ∧ x'.Fields pair timers'
      ∧ pair.Ahead timers' time (iperfTimeAddUsecs time pair.leaderRecord.usecs)
      ∧ x'.calls = x.calls ++ [(.statsTimer, time)] := by
  have isActive := together.leader_active
  obtain ⟨heap', settled, keeps, -⟩ := fields.keeps.settle isActive
  have isProc : (x.heap.record pair.leader).proc = .statsTimer :=
    (congrArg TimerRecord.proc (fields.keeps.holds.record isActive)).trans fields.statsProc
  have moved : settle timers (pair.leaderAt time)
      = timers.reschedule pair.leader (iperfTimeAddUsecs time pair.leaderRecord.usecs) :=
    settle_periodic pair.periodic.1
  rw [moved] at keeps
  refine ⟨_, _, fire_eq isProc (fields.keeps.holds.time isActive) rfl settled,
    ⟨keeps, fields.stats, fields.reporter, fields.statsProc, fields.reporterProc, ?_⟩,
    together.leaderMoves _, rfl⟩
  exact Single.of_reschedule fields.others fields.keeps.holds.wellFormed isActive _

/-- The reporter timer fires after the statistics timer. -/
theorem Fields.fireFollower (fields : x.Fields pair timers)
    (ahead : pair.Ahead timers old (iperfTimeAddUsecs old pair.leaderRecord.usecs))
    (now : IperfTime)
    : ∃ x' timers', x.fire now pair.follower = some x' ∧ x'.Fields pair timers'
      ∧ pair.Together timers' (iperfTimeAddUsecs old pair.leaderRecord.usecs)
      ∧ x'.calls = x.calls ++ [(.reporterTimer, old)]
      ∧ timers.active.map Entry.id ⊆ timers'.active.map Entry.id := by
  have isActive := ahead.follower
  obtain ⟨heap', settled, keeps, -⟩ := fields.keeps.settle isActive
  have isProc : (x.heap.record pair.follower).proc = .reporterTimer :=
    (congrArg TimerRecord.proc (fields.keeps.holds.record isActive)).trans fields.reporterProc
  have moved : settle timers (pair.followerAt old)
      = timers.reschedule pair.follower (iperfTimeAddUsecs old pair.leaderRecord.usecs) := by
    rw [pair.usecs]
    exact settle_periodic pair.periodic.2
  rw [moved] at keeps
  refine ⟨_, _, fire_eq isProc (fields.keeps.holds.time isActive) rfl settled,
    ⟨keeps, fields.stats, fields.reporter, fields.statsProc, fields.reporterProc, ?_⟩,
    ahead.followerMoves, rfl, Machine.ids_reschedule fields.keeps.holds.wellFormed _ _⟩
  exact Single.of_reschedule fields.others fields.keeps.holds.wellFormed isActive _

/-- The procedure of the omit timer resets the statistics timer and then the reporter timer. -/
theorem Fields.resetBoth (fields : x.Fields pair timers) (together : pair.Together timers time)
    (now : IperfTime)
    : ∃ x' timers', (x.resetTimer now .statsTimer).bind (·.resetTimer now .reporterTimer) = some x'
      ∧ x'.Fields pair timers'
      ∧ pair.Together timers' (iperfTimeAddUsecs now pair.leaderRecord.usecs)
      ∧ x'.calls = x.calls
      ∧ (∀ e ∈ timers.active, e.id ≠ pair.leader → e.id ≠ pair.follower → e ∈ timers'.active)
      ∧ timers.active.map Entry.id ⊆ timers'.active.map Entry.id := by
  have isLeader := together.leader_active
  obtain ⟨heap₁, reset₁, keeps₁, -⟩ := fields.keeps.tmrReset isLeader now
  have ahead := together.leaderMoves (iperfTimeAddUsecs now pair.leaderRecord.usecs)
  obtain ⟨heap₂, reset₂, keeps₂, -⟩ := keeps₁.tmrReset ahead.follower now
  have first : x.resetTimer now .statsTimer = some { x with heap := heap₁ } := by
    unfold resetTimer
    rw [fields.stats]
    exact congrArg (Option.map _) reset₁
  have second : { x with heap := heap₁ }.resetTimer now .reporterTimer
      = some { x with heap := heap₂ } := by
    unfold resetTimer
    dsimp only
    rw [fields.reporter]
    exact congrArg (Option.map _) reset₂
  have wellFormed := fields.keeps.holds.wellFormed
  have others₁ := Single.of_reschedule fields.others wellFormed isLeader
    (iperfTimeAddUsecs now pair.leaderRecord.usecs)
  have both : pair.Together ((timers.reschedule pair.leader
      (iperfTimeAddUsecs now pair.leaderRecord.usecs)).reschedule pair.follower
        (iperfTimeAddUsecs now pair.followerRecord.usecs))
      (iperfTimeAddUsecs now pair.leaderRecord.usecs) := by
    rw [← pair.usecs]
    exact ahead.followerMoves
  refine ⟨{ x with heap := heap₂ }, _, ?_, ⟨keeps₂, fields.stats, fields.reporter,
    fields.statsProc, fields.reporterProc, ?_⟩, both, rfl, ?_, ?_⟩
  · rw [first]
    exact second
  · exact Single.of_reschedule others₁ ahead.wellFormed ahead.follower _
  · intro e isActive notLeader notFollower
    have moved := (@Timers.mem_reschedule _ _ _ _ (iperfTimeAddUsecs now pair.leaderRecord.usecs)
      wellFormed _ isLeader e).mpr (.inr ⟨isActive, notLeader⟩)
    exact (Timers.mem_reschedule ahead.wellFormed ahead.follower).mpr (.inr ⟨moved, notFollower⟩)
  · refine List.Subset.trans (Machine.ids_reschedule wellFormed pair.leader
      (iperfTimeAddUsecs now pair.leaderRecord.usecs)) ?_
    exact Machine.ids_reschedule ahead.wellFormed _ _

/-- A one-shot timer whose procedure has returned is cancelled. -/
theorem Fields.settleOther (fields : x.Fields pair timers) (together : pair.Together timers time)
    (isActive : e ∈ timers.active) (notLeader : e.id ≠ pair.leader)
    (notFollower : e.id ≠ pair.follower)
    : ∃ heap', x.heap.settle e.id = some heap'
      ∧ { x with heap := heap' }.Fields pair (timers.cancel e.id)
      ∧ pair.Together (timers.cancel e.id) time := by
  obtain ⟨-, oneShot⟩ := fields.others e isActive notLeader notFollower
  obtain ⟨heap', settled, keeps, -⟩ := fields.keeps.settle isActive
  rw [settle_oneShot oneShot] at keeps
  exact ⟨heap', settled, ⟨keeps, fields.stats, fields.reporter, fields.statsProc,
    fields.reporterProc, Single.of_cancel fields.others e.id⟩,
    together.cancel isActive notLeader notFollower⟩

/-- The fields of the pair are not changed with another one. -/
theorem Fields.setField (fields : x.Fields pair timers) (calls : List (TimerField × IperfTime))
    {field : TimerField} (notStats : field ≠ .statsTimer) (notReporter : field ≠ .reporterTimer)
    (target : Option Nat)
    : ({ x with calls }.setField field target).Fields pair timers := by
  refine ⟨fields.keeps, ?_, ?_, fields.statsProc, fields.reporterProc, fields.others⟩
  · exact (Function.update_of_ne notStats.symm ..).trans fields.stats
  · exact (Function.update_of_ne notReporter.symm ..).trans fields.reporter

theorem reports_append_other {calls : List (TimerField × IperfTime)} {call : TimerField × IperfTime}
    (added : x.calls = calls ++ [call]) (other : call.1 = .timer ∨ call.1 = .omitTimer)
    : x.reports = { x with calls }.reports := by
  have dropped : [call].filter (fun call => call.1 = .statsTimer ∨ call.1 = .reporterTimer)
      = [] := by
    rcases other with isTimer | isOmit
    · simp [isTimer]
    · simp [isOmit]
  unfold reports
  rw [added, List.filter_append, dropped, List.append_nil]

/-- The test timer or the omit timer fires. -/
theorem Fields.fireOther (fields : x.Fields pair timers) (together : pair.Together timers time)
    (isActive : e ∈ timers.active) (notLeader : e.id ≠ pair.leader)
    (notFollower : e.id ≠ pair.follower) (now : IperfTime)
    : ∃ x' timers' time', x.fire now e.id = some x' ∧ x'.Fields pair timers'
      ∧ pair.Together timers' time' ∧ x'.reports = x.reports
      ∧ ∀ id ∈ timers.active.map Entry.id, id ≠ e.id → id ∈ timers'.active.map Entry.id := by
  have isTime := fields.keeps.holds.time isActive
  have isRecord := congrArg TimerRecord.proc (fields.keeps.holds.record isActive)
  have kept (timers : Timers IperfTime TimerRecord) {id : Nat}
      (isOne : id ∈ timers.active.map Entry.id) (different : id ≠ e.id)
      : id ∈ (timers.cancel e.id).active.map Entry.id := by
    obtain ⟨other, isOther, rfl⟩ := List.mem_map.mp isOne
    exact List.mem_map_of_mem (Timers.mem_cancel.mpr ⟨isOther, different⟩)
  obtain ⟨proc, -⟩ := fields.others e isActive notLeader notFollower
  rcases proc with isTimer | isOmit
  · have cleared := fields.setField (x.calls ++ [(.timer, e.time)])
      (show TimerField.timer ≠ .statsTimer from nofun) (by exact nofun) none
    obtain ⟨heap', settled, fields', together'⟩ :=
      cleared.settleOther together isActive notLeader notFollower
    refine ⟨_, _, time, fire_eq (isRecord.trans isTimer) isTime rfl settled, fields', together', ?_,
      fun id isOne different => kept timers isOne different⟩
    exact reports_append_other rfl (.inl rfl)
  · have cleared := fields.setField (x.calls ++ [(.omitTimer, e.time)])
      (show TimerField.omitTimer ≠ .statsTimer from nofun) (by exact nofun) none
    obtain ⟨ran, timers₁, reset, fields₁, together₁, calls, others, ids⟩ :=
      cleared.resetBoth together now
    obtain ⟨heap', settled, fields', together'⟩ :=
      fields₁.settleOther together₁ (others e isActive notLeader notFollower) notLeader notFollower
    refine ⟨_, _, _, fire_eq (isRecord.trans isOmit) isTime reset settled, fields', together', ?_,
      fun id isOne different => kept timers₁ (ids isOne) different⟩
    exact reports_append_other calls (.inr rfl)

theorem Fields.next_leader (fields : x.Fields pair timers) (together : pair.Together timers time)
    : x.heap.next pair.leader = some pair.follower := by
  obtain ⟨front, rest, parts⟩ := together.parts
  refine @TimerHeap.Linked.successor x.heap _ _ _ pair.leader fields.keeps.holds.linked
    (front.map Entry.id) (pair.follower :: rest.map Entry.id) ?_
  rw [parts, List.map_append, List.map_cons, List.map_cons]
  rfl

/-- Only the leader has the follower behind it. -/
theorem Fields.next_ne_follower (fields : x.Fields pair timers)
    (together : pair.Together timers time) (isActive : e ∈ timers.active)
    (notLeader : e.id ≠ pair.leader)
    : x.heap.next e.id ≠ some pair.follower := by
  intro isNext
  have doubly := fields.keeps.holds.linked.doubly
  have isFollower : pair.follower ∈ timers.active.map Entry.id :=
    List.mem_map_of_mem together.follower_active
  have isLeader : pair.leader ∈ timers.active.map Entry.id :=
    List.mem_map_of_mem together.leader_active
  have back := (doubly.next_eq_iff (List.mem_map_of_mem isActive) isFollower).mp isNext
  have back' := (doubly.next_eq_iff isLeader isFollower).mp (fields.next_leader together)
  exact notLeader (Option.some.inj (back.symm.trans back'))

theorem reports_append {calls : List (TimerField × IperfTime)} {call : TimerField × IperfTime}
    (added : x.calls = calls ++ [call]) (report : call.1 = .statsTimer ∨ call.1 = .reporterTimer)
    : x.reports = { x with calls }.reports ++ [call] := by
  have kept : [call].filter (fun call => call.1 = .statsTimer ∨ call.1 = .reporterTimer)
      = [call] := by
    simp [report]
  unfold reports
  rw [added, List.filter_append, kept]

-----------------------------------------------------------------------------------------
-- Rounds
-----------------------------------------------------------------------------------------

/-- The invariant of the loop: the phase, and the next node is active. -/
def LoopAt (x : TestHeap) (pair : TimerPair) (now : IperfTime) (next : Option Nat) : Prop :=
  ∃ timers, x.Fields pair timers ∧ x.Phase pair timers now next
    ∧ ∀ t ∈ next, t ∈ timers.active.map Entry.id

/-- One round that fires a timer. -/
theorem Fields.round {t : Nat} (fields : x.Fields pair timers)
    (phase : x.Phase pair timers now (some t)) (isOne : t ∈ timers.active.map Entry.id)
    (due : x.heap.time t ≤ now)
    : ∃ x', x.fire now t = some x' ∧ x'.LoopAt pair now (x.heap.next t) := by
  obtain ⟨e, isActive, rfl⟩ := List.mem_map.mp isOne
  have nextActive {other : Nat} (isNext : x.heap.next e.id = some other) :=
    fields.keeps.holds.linked.next_active isOne isNext
  cases phase with
  | between times together notFollower reports =>
      by_cases isLeader : e.id = pair.leader
      · obtain rfl := together.wellFormed.eq_of_id isActive together.leader_active isLeader
        obtain ⟨x', timers', fired, fields', ahead, calls⟩ := fields.fireLeader together now
        have isNext := fields.next_leader together
        have scheduled := fields.keeps.holds.time isActive
        refine ⟨x', fired, timers', fields',
          .inside times ahead isNext (scheduled.symm.trans_le due) ?_, ?_⟩
        · rw [reports_append calls (.inl rfl)]
          exact congrArg (· ++ _) reports
        · intro other isOther
          obtain rfl := Option.some.inj (isNext.symm.trans isOther)
          exact List.mem_map_of_mem ahead.follower
      · have isOther : e.id ≠ pair.follower := fun same => notFollower (congrArg some same)
        obtain ⟨x', timers', time', fired, fields', together', same, ids⟩ :=
          fields.fireOther together isActive isLeader isOther now
        refine ⟨x', fired, timers', fields', .between times together' ?_ (same.trans reports), ?_⟩
        · exact fields.next_ne_follower together isActive isLeader
        · exact fun other isNext => ids other (nextActive isNext).1 (nextActive isNext).2
  | @inside old times ahead isFollower notLater reports =>
      have same : e.id = pair.follower := Option.some.inj isFollower
      obtain rfl := ahead.wellFormed.eq_of_id isActive ahead.follower same
      obtain ⟨x', timers', fired, fields', together, calls, ids⟩ := fields.fireFollower ahead now
      refine ⟨x', fired, timers', fields', .between (times ++ [old]) together ?_ ?_, ?_⟩
      · exact fun isNext => (nextActive isNext).2 rfl
      · rw [reports_append calls (.inr rfl), ← inPairs_append]
        exact congrArg (· ++ _) reports
      · exact fun other isNext => ids (nextActive isNext).1

/-- What has been called when `tmr_run` is looked at after some rounds. -/
def Called (pair : TimerPair) (returned : Bool) (x : TestHeap) : Prop :=
  (∃ timers time, x.Fields pair timers ∧ pair.Together timers time
      ∧ ∃ times, x.reports = inPairs times)
  ∨ returned = false ∧ ∃ times time, x.reports = inPairs times ++ [(.statsTimer, time)]

/-- The loop lemma, by induction on the rounds. -/
theorem LoopAt.rounds (loopAt : x.LoopAt pair now next) (count : Nat)
    : ∃ returned x', TestHeap.rounds now count next x = some (returned, x')
      ∧ Called pair returned x' := by
  induction count generalizing x next with
  | zero =>
      obtain ⟨timers, fields, phase, -⟩ := loopAt
      refine ⟨false, x, rfl, ?_⟩
      cases phase with
      | between times together notFollower reports =>
          exact .inl ⟨timers, _, fields, together, times, reports⟩
      | inside times ahead isFollower notLater reports => exact .inr ⟨rfl, times, _, reports⟩
  | succ count ih =>
      obtain ⟨timers, fields, phase, isActive⟩ := loopAt
      cases next with
      | none =>
          refine ⟨true, x, rfl, ?_⟩
          cases phase with
          | between times together notFollower reports =>
              exact .inl ⟨timers, _, fields, together, times, reports⟩
          | inside times ahead isFollower notLater reports => cases isFollower
      | some t =>
          unfold TestHeap.rounds
          dsimp only
          by_cases due : x.heap.time t ≤ now
          · rw [if_neg fun later => not_lt.mpr due (iperfTimeCompare_pos.mp later)]
            obtain ⟨x', fired, loopAt'⟩ := fields.round phase (isActive t rfl) due
            rw [fired]
            exact ih loopAt'
          · rw [if_pos (iperfTimeCompare_pos.mpr (not_le.mp due))]
            refine ⟨true, x, rfl, ?_⟩
            cases phase with
            | between times together notFollower reports =>
                exact .inl ⟨timers, _, fields, together, times, reports⟩
            | inside times ahead isFollower notLater reports =>
                -- the reporter timer is as due as the statistics timer was
                have scheduled := fields.keeps.holds.time ahead.follower
                rw [Option.some.inj isFollower] at due
                exact absurd (scheduled.trans_le notLater) due

theorem Together.first_ne (together : pair.Together timers time)
    : (timers.active.map Entry.id).head? ≠ some pair.follower := by
  obtain ⟨front, rest, parts⟩ := together.parts
  intro isFirst
  cases front with
  | nil =>
      rw [parts] at isFirst
      exact pair.different (Option.some.inj isFirst)
  | cons head tail =>
      have behind : timers.active = (head :: tail ++ [pair.leaderAt time])
          ++ pair.followerAt time :: rest := by
        rw [parts, List.append_assoc]
        rfl
      have other := (together.wellFormed.others behind).1 head List.mem_cons_self
      rw [parts] at isFirst
      exact other (Option.some.inj isFirst)

/-- The run lemma, by induction on the calls of `tmr_run`. -/
theorem Called.runs (called : Called pair true x) (all : List (IperfTime × Nat))
    : ∃ returned x', TestHeap.runs all x = some (returned, x') ∧ Called pair returned x' := by
  induction all generalizing x with
  | nil => exact ⟨true, x, rfl, called⟩
  | cons call others ih =>
      obtain ⟨now, count⟩ := call
      rcases called with ⟨timers, time, fields, together, times, reports⟩ | ⟨absurd, -⟩
      · have first := fields.keeps.holds.linked.timers_eq
        have loopAt : x.LoopAt pair now x.heap.timers := by
          refine ⟨timers, fields, .between times together ?_ reports, fun t isFirst => ?_⟩
          · rw [first]
            exact Together.first_ne together
          · exact List.mem_of_mem_head? (first.symm.trans isFirst)
        obtain ⟨returned, x', run, called'⟩ := loopAt.rounds count
        unfold TestHeap.runs
        rw [run]
        cases returned with
        | false => exact ⟨false, x', rfl, called'⟩
        | true => exact ih called'
      · cases absurd

-----------------------------------------------------------------------------------------
-- The same timers on a list
-----------------------------------------------------------------------------------------

/-- The memory and the fields of a test hold its timers as the runs of the client and the server
have them.
-/
structure Refines (x : TestHeap) (t : Timing) : Prop where
  keeps : x.heap.Keeps t.timers
  address : x.address = t.address
  field : x.field = t.field

variable {t : Timing} {firing : Option Nat}

theorem Refines.setField (refines : x.Refines t) (field : TimerField) (target : Option Nat)
    : (x.setField field target).Refines (t.setField field target) := by
  refine ⟨refines.keeps, refines.address, ?_⟩
  unfold TestHeap.setField Timing.setField
  dsimp only
  rw [refines.field]

/-- Creation, if `malloc` gives the node that the list takes. -/
theorem Refines.createTimer (refines : x.Refines t) {malloc : TimerField → Option Nat}
    {field : TimerField} (node : malloc field = some t.timers.fresh) (now : IperfTime)
    (usecs : UInt64) (periodic : Bool)
    : ∃ x' t', x.createTimer malloc now field usecs periodic = some x'
        ∧ t.createTimer now field usecs periodic true = .ok t' ∧ x'.Refines t' := by
  have live := refines.keeps.holds.linked.live
  have isNew : ∀ u ∈ malloc field, u ∉ x.heap.live := by
    rintro u isOne isLive
    rw [node] at isOne
    obtain rfl := Option.some.inj isOne
    exact Timers.fresh_notMem t.timers (live.mem_iff.mp isLive)
  have first := refines.keeps.holds.linked.freeTimers_eq
  let record : TimerRecord := { proc := field, clientData := x.address, usecs, periodic }
  have same : record = { proc := field, clientData := t.address, usecs, periodic } :=
    congrArg (TimerRecord.mk field · usecs periodic) refines.address
  have made {u : Nat} (found : x.heap.nodeFor (malloc field) = some u)
      (created : t.timers.create (iperfTimeAddUsecs now usecs) record true
        = some (u, {
            active := listAdd { id := u, time := iperfTimeAddUsecs now usecs, record }
              t.timers.active
            free := t.timers.free.tail }))
      : ∃ x' t', x.createTimer malloc now field usecs periodic = some x'
          ∧ t.createTimer now field usecs periodic true = .ok t' ∧ x'.Refines t' := by
    obtain ⟨heap', allocated, -, keeps⟩ := refines.keeps.tmrCreate isNew found now record
    refine ⟨{ (x.setField field (some u)) with heap := heap' },
      { (t.setField field (some u)) with timers := _ }, ?_, ?_, keeps, refines.address,
      (refines.setField field (some u)).field⟩
    · unfold TestHeap.createTimer
      dsimp only
      rw [allocated]
    · unfold Timing.createTimer
      dsimp only
      rw [← same, created]
  cases isList : t.timers.free with
  | nil =>
      refine @made t.timers.fresh ?_ ?_
      · rw [TimerHeap.nodeFor, first, isList, node]
        rfl
      · rw [Timers.create, isList]
        rfl
  | cons head rest =>
      refine @made head ?_ ?_
      · rw [TimerHeap.nodeFor, first, isList]
        rfl
      · rw [Timers.create, isList]
        rfl

theorem Refines.resetTimer (refines : x.Refines t) (owned : t.Owned firing) (now : IperfTime)
    (field : TimerField)
    : ∃ x', x.resetTimer now field = some x' ∧ x'.Refines (t.resetTimer now field) := by
  have same := congrFun refines.field field
  unfold TestHeap.resetTimer Timing.resetTimer
  rw [same]
  cases points : t.field field with
  | none => exact ⟨x, rfl, refines⟩
  | some id =>
      obtain ⟨-, entry, isActive, rfl, -⟩ := owned.target field id points
      obtain ⟨heap', reset, keeps, -⟩ := refines.keeps.tmrReset isActive now
      rw [Option.bind_some, owned.wellFormed.find isActive]
      dsimp only
      rw [reset]
      exact ⟨{ x with heap := heap' }, rfl, keeps, refines.address, refines.field⟩

/-- The procedure of a timer leaves the timer itself as it is. -/
theorem Refines.runProc (refines : x.Refines t) (owned : t.Owned none)
    (isActive : e ∈ t.timers.active) (own : t.Own e) (now : IperfTime)
    : ∃ x', x.runProc now e.record.proc = some x' ∧ x'.Refines (t.runProc now e.record.proc)
        ∧ e ∈ (t.runProc now e.record.proc).timers.active := by
  have released := owned.release isActive own
  have kept {t : Timing} (owned : t.Owned (some e.id)) (isActive : e ∈ t.timers.active)
      (field : TimerField) : e ∈ (t.resetTimer now field).timers.active := by
    unfold Timing.resetTimer
    cases points : t.field field with
    | none => exact isActive
    | some id =>
        obtain ⟨different, entry, isEntry, rfl, -⟩ := owned.target field id points
        rw [Option.bind_some, owned.wellFormed.find isEntry]
        refine (Timers.mem_reschedule owned.wellFormed isEntry).mpr (.inr ⟨isActive, ?_⟩)
        exact fun same => different (congrArg some same.symm)
  cases proc : e.record.proc with
  | timer => exact ⟨_, rfl, refines.setField .timer none, isActive⟩
  | statsTimer => exact ⟨x, rfl, refines, isActive⟩
  | reporterTimer => exact ⟨x, rfl, refines, isActive⟩
  | omitTimer =>
      rw [proc] at released
      obtain ⟨x₁, reset₁, refines₁⟩ :=
        (refines.setField .omitTimer none).resetTimer released now .statsTimer
      have released₁ := released.resetTimer now .statsTimer
      obtain ⟨x₂, reset₂, refines₂⟩ := refines₁.resetTimer released₁ now .reporterTimer
      have isActive₁ := kept released isActive .statsTimer
      refine ⟨x₂, ?_, refines₂, kept released₁ isActive₁ .reporterTimer⟩
      unfold TestHeap.runProc
      dsimp only
      rw [reset₁]
      exact reset₂

/-- A timer of the test fires in memory as it does on the list. -/
theorem Refines.fire (refines : x.Refines t) (owned : t.Owned none)
    (isActive : e ∈ t.timers.active) (own : t.Own e) (now : IperfTime)
    : ∃ x', x.fire now e.id = some x' ∧ x'.Refines (t.fire now e) := by
  let called : TestHeap := { x with calls := x.calls ++ [(e.record.proc, e.time)] }
  have refines₀ : called.Refines t := ⟨refines.keeps, refines.address, refines.field⟩
  obtain ⟨ran, runs, refines₁, isActive₁⟩ := refines₀.runProc owned isActive own now
  obtain ⟨heap', settled, keeps, -⟩ := refines₁.keeps.settle isActive₁
  have isProc := congrArg TimerRecord.proc (refines.keeps.holds.record isActive)
  refine ⟨{ ran with heap := heap' },
    fire_eq isProc (refines.keeps.holds.time isActive) runs settled, ?_⟩
  have isOwn : e.record.clientData = t.address := own
  unfold Timing.fire
  rw [if_pos isOwn]
  exact ⟨keeps, refines₁.address, refines₁.field⟩

-----------------------------------------------------------------------------------------
-- The timers that are created
-----------------------------------------------------------------------------------------

/-- `tmr_create` with memory: the new node was not active, and is the only new one. -/
theorem createTimer_made (keeps : x.heap.Keeps timers) {malloc : TimerField → Nat}
    {field : TimerField} (isNew : malloc field ∉ x.heap.live) (now : IperfTime) (usecs : UInt64)
    (periodic : Bool)
    : ∃ t heap', x.createTimer (fun field => some (malloc field)) now field usecs periodic
        = some { (x.setField field (some t)) with heap := heap' }
      ∧ (∀ e ∈ timers.active, e.id ≠ t)
      ∧ heap'.Keeps {
          active := listAdd
            {
              id := t
              time := iperfTimeAddUsecs now usecs
              record := { proc := field, clientData := x.address, usecs, periodic }
            } timers.active
          free := timers.free.tail }
      ∧ ∀ u ∈ heap'.live, u = malloc field ∨ u ∈ x.heap.live := by
  obtain ⟨t, found⟩ : ∃ t, x.heap.nodeFor (some (malloc field)) = some t := by
    unfold TimerHeap.nodeFor
    cases x.heap.freeTimers with
    | none => exact ⟨_, rfl⟩
    | some t => exact ⟨_, rfl⟩
  obtain ⟨heap', created, notActive, keeps'⟩ := keeps.tmrCreate
    (fun u isOne => Option.some.inj isOne ▸ isNew) found now
    { proc := field, clientData := x.address, usecs, periodic }
  refine ⟨t, heap', ?_, notActive, keeps', fun u isLive => ?_⟩
  · unfold createTimer
    dsimp only
    rw [created]
  · have live := keeps.holds.linked.live
    have listed := (keeps'.holds.linked.live.mem_iff).mp isLive
    rw [List.nil_append] at listed live
    have isTaken : t = malloc field ∨ t ∈ x.heap.live := by
      have first := keeps.holds.linked.freeTimers_eq
      unfold TimerHeap.nodeFor at found
      cases isList : timers.free with
      | nil =>
          rw [first, isList] at found
          exact .inl (Option.some.inj found).symm
      | cons head rest =>
          rw [first, isList] at found
          refine .inr (live.mem_iff.mpr (List.mem_append_right _ ?_))
          rw [isList, ← Option.some.inj found]
          exact List.mem_cons_self
    rcases List.mem_append.mp listed with isActive | isFree
    · rcases List.mem_cons.mp ((map_id_listAdd _ _).mem_iff.mp isActive) with rfl | isOld
      · exact isTaken
      · exact .inr (live.mem_iff.mpr (List.mem_append_left _ isOld))
    · exact .inr (live.mem_iff.mpr (List.mem_append_right _ (List.mem_of_mem_tail isFree)))

/-- The heap while timers are created, with the fields whose turn is still to come. -/
structure Creating (x : TestHeap) (malloc : TimerField → Nat) (pending : List TimerField)
    (timers : Timers IperfTime TimerRecord) : Prop where
  keeps : x.heap.Keeps timers
  isNew : ∀ field ∈ pending, malloc field ∉ x.heap.live

variable {malloc : TimerField → Nat} {pending : List TimerField} {field : TimerField}

/-- One creation. -/
theorem Creating.createTimer (creating : x.Creating malloc (field :: pending) timers)
    (injective : Function.Injective malloc) (others : field ∉ pending) (now : IperfTime)
    (usecs : UInt64) (periodic : Bool)
    : ∃ t heap' timers',
        x.createTimer (fun field => some (malloc field)) now field usecs periodic
          = some { (x.setField field (some t)) with heap := heap' }
        ∧ (∀ e ∈ timers.active, e.id ≠ t)
        ∧ { (x.setField field (some t)) with heap := heap' }.Creating malloc pending timers'
        ∧ timers'.active = listAdd
          {
            id := t
            time := iperfTimeAddUsecs now usecs
            record := { proc := field, clientData := x.address, usecs, periodic }
          } timers.active := by
  obtain ⟨t, heap', created, notActive, keeps, live⟩ :=
    createTimer_made creating.keeps (creating.isNew field List.mem_cons_self) now usecs periodic
  refine ⟨t, heap', _, created, notActive, ⟨keeps, fun other isPending isLive => ?_⟩, rfl⟩
  rcases live _ isLive with same | before
  · exact others (injective same ▸ isPending)
  · exact creating.isNew other (List.mem_cons_of_mem _ isPending) before

/-- The test timer, if there is one. -/
theorem Creating.testTimer (creating : x.Creating malloc (.timer :: pending) timers)
    (injective : Function.Injective malloc) (others : .timer ∉ pending)
    (singles : ∀ e ∈ timers.active, Single e.record) (wanted : Bool) (now : IperfTime)
    (usecs : UInt64)
    : ∃ x' timers',
        createTimerIf wanted x (fun field => some (malloc field)) now .timer usecs false = some x'
        ∧ x'.Creating malloc pending timers' ∧ (∀ e ∈ timers'.active, Single e.record)
        ∧ x'.calls = x.calls := by
  cases wanted with
  | false =>
      refine ⟨x, timers, rfl, ⟨creating.keeps, fun field isPending => ?_⟩, singles, rfl⟩
      exact creating.isNew field (List.mem_cons_of_mem _ isPending)
  | true =>
      obtain ⟨t, heap', timers', created, -, creating', active⟩ :=
        creating.createTimer injective others now usecs false
      refine ⟨_, timers', created, creating', fun e isActive => ?_, rfl⟩
      rw [active] at isActive
      rcases mem_listAdd.mp isActive with rfl | before
      · exact ⟨.inl rfl, Bool.false_ne_true⟩
      · exact singles e before

/-- The statistics timer and right after it the reporter timer. -/
theorem Creating.reportTimers
    (creating : x.Creating malloc [.statsTimer, .reporterTimer, .omitTimer] timers)
    (injective : Function.Injective malloc) (singles : ∀ e ∈ timers.active, Single e.record)
    (now : IperfTime) (usecs : UInt64)
    : ∃ x₁ x₂ pair timers',
        x.createTimer (fun field => some (malloc field)) now .statsTimer usecs true = some x₁
        ∧ x₁.createTimer (fun field => some (malloc field)) now .reporterTimer usecs true = some x₂
        ∧ x₂.Creating malloc [.omitTimer] timers' ∧ x₂.Fields pair timers'
        ∧ pair.Together timers' (iperfTimeAddUsecs now usecs) ∧ x₂.calls = x.calls := by
  obtain ⟨s, heap₁, timers₁, created₁, notActive₁, creating₁, active₁⟩ :=
    creating.createTimer injective (by decide) now usecs true
  obtain ⟨r, heap₂, timers₂, created₂, notActive₂, creating₂, active₂⟩ :=
    creating₁.createTimer injective (by decide) now usecs true
  have isStats : _ ∈ timers₁.active := active₁ ▸ mem_listAdd.mpr (.inl rfl)
  let pair : TimerPair := {
    leader := s
    follower := r
    leaderRecord := { proc := .statsTimer, clientData := x.address, usecs, periodic := true }
    followerRecord := { proc := .reporterTimer, clientData := x.address, usecs, periodic := true }
    usecs := rfl
    periodic := ⟨rfl, rfl⟩
    different := notActive₂ _ isStats
  }
  refine ⟨_, _, pair, timers₂, created₁, created₂, creating₂, ?_, ?_, rfl⟩
  · refine ⟨creating₂.keeps, rfl, rfl, rfl, rfl, fun e isActive notLeader notFollower => ?_⟩
    rw [active₂] at isActive
    rcases mem_listAdd.mp isActive with rfl | isActive
    · exact absurd rfl notFollower
    · rw [active₁] at isActive
      rcases mem_listAdd.mp isActive with rfl | before
      · exact absurd rfl notLeader
      · exact singles e before
  · have proper : TimerPair.Proper timers :=
      ⟨creating.keeps.holds.wellFormed, creating.keeps.ordered.sorted⟩
    exact @TimerPair.together_of_added pair timers _ timers₁ timers₂ proper
      creating₂.keeps.holds.wellFormed active₁ active₂

/-- The omit timer, if there is one, never stands between the two. -/
theorem Creating.omitTimer (creating : x.Creating malloc [.omitTimer] timers)
    (injective : Function.Injective malloc) (fields : x.Fields pair timers)
    (together : pair.Together timers time) (wanted : Bool) (now : IperfTime) (usecs : UInt64)
    : ∃ x' timers',
        createTimerIf wanted x (fun field => some (malloc field)) now .omitTimer usecs false
            = some x'
        ∧ x'.Fields pair timers' ∧ pair.Together timers' time ∧ x'.calls = x.calls := by
  cases wanted with
  | false => exact ⟨x, timers, rfl, fields, together, rfl⟩
  | true =>
      obtain ⟨t, heap', timers', created, -, creating', active⟩ :=
        creating.createTimer injective (by decide) now usecs false
      have kept := fields.setField x.calls (show TimerField.omitTimer ≠ .statsTimer from nofun)
        (by exact nofun) (some t)
      refine ⟨_, timers', created, ⟨creating'.keeps, kept.stats, kept.reporter, fields.statsProc,
        fields.reporterProc, fun e isActive notLeader notFollower => ?_⟩,
        together.add creating'.keeps.holds.wellFormed active, rfl⟩
      rw [active] at isActive
      rcases mem_listAdd.mp isActive with rfl | before
      · exact ⟨.inr rfl, Bool.false_ne_true⟩
      · exact fields.others e before notLeader notFollower

/-- The timers of a test whose two intervals are the same. -/
theorem createTimers_together {free : List Nat} (keeps : x.heap.Keeps { active := [], free })
    (isNew : ∀ field, malloc field ∉ x.heap.live) (injective : Function.Injective malloc)
    {settings : Settings} (same : settings.statsInterval = settings.reporterInterval)
    (positive : 0 < settings.statsInterval) (now omitNow : IperfTime)
    : ∃ x' pair timers time,
        createTimers settings x (fun field => some (malloc field)) now omitNow = some x'
        ∧ x'.Fields pair timers ∧ pair.Together timers time ∧ x'.calls = x.calls := by
  have wanted : decide (settings.statsInterval ≠ 0) = true := decide_eq_true positive.ne'
  have creating : (((x.setField .timer none).setField .statsTimer none).setField .reporterTimer
      none).Creating malloc [.timer, .statsTimer, .reporterTimer, .omitTimer]
          { active := [], free } :=
    ⟨keeps, fun field _ => isNew field⟩
  obtain ⟨x₁, timers₁, created₁, creating₁, singles, calls₁⟩ :=
    creating.testTimer injective (by decide) (fun _ isOne => (List.not_mem_nil isOne).elim)
      (settings.duration ≠ 0) now (settings.lastSecond.toInt64.toUInt64 * 1000000)
  obtain ⟨x₂, x₃, pair, timers₃, created₂, created₃, creating₃, fields, together, calls₃⟩ :=
    creating₁.reportTimers injective singles now (usecsOfInterval settings.statsInterval)
  have cleared := fields.setField x₃.calls (show TimerField.omitTimer ≠ .statsTimer from nofun)
    (by exact nofun) none
  have creating₄ : (x₃.setField .omitTimer none).Creating malloc [.omitTimer] timers₃ :=
    ⟨creating₃.keeps, creating₃.isNew⟩
  obtain ⟨x₅, timers₅, created₅, fields₅, together₅, calls₅⟩ :=
    creating₄.omitTimer injective cleared together (settings.omitPeriod ≠ 0) omitNow
      (settings.omitPeriod.toInt64.toUInt64 * 1000000)
  refine ⟨x₅, pair, timers₅, _, ?_, fields₅, together₅, calls₅.trans (calls₃.trans calls₁)⟩
  have made₂ : createTimerIf true x₁ (fun field => some (malloc field)) now .statsTimer
      (usecsOfInterval settings.statsInterval) true = some x₂ := (if_pos rfl).trans created₂
  have made₃ : createTimerIf true x₂ (fun field => some (malloc field)) now .reporterTimer
      (usecsOfInterval settings.statsInterval) true = some x₃ := (if_pos rfl).trans created₃
  unfold createTimers
  dsimp only
  rw [← same, wanted, created₁]
  simp only [Option.bind_eq_bind]
  rw [Option.bind_some, made₂, Option.bind_some, made₃, Option.bind_some]
  exact created₅

/-- The statistics and the reporter procedure of a client or server test whose two intervals are
the same are called in turn, the statistics procedure first, and the two of a pair for the same
scheduled time. Inside of `tmr_run` the last call may be of the statistics procedure.
-/
theorem reports_inPairs {free : List Nat} (keeps : x.heap.Keeps { active := [], free })
    (fresh : x.calls = []) (isNew : ∀ field, malloc field ∉ x.heap.live)
    (injective : Function.Injective malloc) {settings : Settings}
    (same : settings.statsInterval = settings.reporterInterval)
    (positive : 0 < settings.statsInterval) (now omitNow : IperfTime)
    (calls : List (IperfTime × Nat))
    : ∃ x₁ returned x₂,
        createTimers settings x (fun field => some (malloc field)) now omitNow = some x₁
        ∧ TestHeap.runs calls x₁ = some (returned, x₂)
        ∧ ∃ times, x₂.reports = inPairs times
          ∨ returned = false ∧ ∃ time, x₂.reports = inPairs times ++ [(.statsTimer, time)] := by
  obtain ⟨x₁, pair, timers, time, created, fields, together, noCalls⟩ :=
    createTimers_together keeps isNew injective same positive now omitNow
  have called : Called pair true x₁ := by
    refine .inl ⟨timers, time, fields, together, [], ?_⟩
    unfold reports
    rw [noCalls, fresh]
    rfl
  obtain ⟨returned, x₂, run, called'⟩ := Called.runs called calls
  refine ⟨x₁, returned, x₂, created, run, ?_⟩
  rcases called' with ⟨-, -, -, -, times, reports⟩ | ⟨notReturned, times, time, reports⟩
  · exact ⟨times, .inl reports⟩
  · exact ⟨times, .inr ⟨notReturned, time, reports⟩⟩

/-- One node for each field. -/
def nodeOf : TimerField → Nat
  | .timer => 0
  | .statsTimer => 1
  | .reporterTimer => 2
  | .omitTimer => 3

/-- The omit period ends when the statistics and the reporter timer are due. -/
def oneSecondOmitted : Settings :=
  { server := false, duration := 10, omitPeriod := 1, statsInterval := 1, reporterInterval := 1 }

theorem reports_inPairs_omitted
    : ∃ x₁ returned x₂,
        createTimers oneSecondOmitted { heap := { memory := unwritten }, address := 0 }
          (fun field => some (nodeOf field)) { secs := 1, usecs := 0 } { secs := 1, usecs := 1 }
          = some x₁
        ∧ TestHeap.runs [({ secs := 3, usecs := 0 }, 20), ({ secs := 9, usecs := 0 }, 20)] x₁
          = some (returned, x₂)
        ∧ ∃ times, x₂.reports = inPairs times
          ∨ returned = false ∧ ∃ time, x₂.reports = inPairs times ++ [(.statsTimer, time)] := by
  refine @reports_inPairs { heap := { memory := unwritten }, address := 0 } nodeOf []
    (Machine.initial_sound unwritten).keeps rfl (fun _ => List.not_mem_nil) ?_ oneSecondOmitted rfl
    (by decide) _ _ _
  intro first second same
  cases first <;> cases second <;> first | rfl | cases same

end TestHeap

end Iperf
