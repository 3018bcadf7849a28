import Iperf.App.Reports
import Iperf.App.TimerOwnership

/-! The test timer and the statistics timer of a client on the list of timers: the statistics timer
stays before the test timer until both have the same deadline, and behind it then.
-/

namespace Iperf

open TimerList

namespace ClientRun

variable {r next : ClientRun}

-----------------------------------------------------------------------------------------
-- What a step does to the timers
-----------------------------------------------------------------------------------------

/-- `tmr_run` is entered at the head of the list, or it has not moved. -/
def Enters (r next : ClientRun) : Prop :=
  ∀ now id, next.point = .timers now (some id) →
    r.point = next.point ∨ r.timers.active.head?.map Entry.id = some id

/-- `tmr_run` has handled the timer it was to look at next. -/
def Fires (r next : ClientRun) : Prop :=
  ∃ now id entry, r.point = .timers now (some id) ∧ r.timers.find id = some entry
    ∧ next.timing = r.timing.fire now entry ∧ next.point = .timers now (r.timers.successor entry.id)

theorem enters_of_outside (outside : ∀ now id, next.point ≠ .timers now id) : Enters r next :=
  fun now id here => absurd here (outside now (some id))

theorem startThreads_enters (r : ClientRun) (io : ThreadsIo) : Enters r (r.startThreads io) := by
  unfold startThreads
  dsimp only
  split_ifs
  · exact enters_of_outside fun _ _ => nofun
  · exact enters_of_outside fun _ _ => nofun
  · exact enters_of_outside fun _ _ => nofun
  · intro now id here
    exact .inr (Point.timers.inj here).2
  · intro now id here
    exact .inr (Point.timers.inj here).2

theorem check_outside (r : ClientRun) (io : CheckIo) (now : IperfTime) (id : Option Nat)
    : (r.check io).point ≠ .timers now id := by
  unfold check
  split
  · split
    · nofun
    · unfold sendTestEnd
      dsimp only
      split_ifs <;> nofun
  · nofun

theorem runTimer_cases {now : IperfTime} {head : Option Nat} (here : r.point = .timers now head)
    (reading : IperfTime)
    : (r.runTimer now head reading).timing = r.timing
        ∧ (r.runTimer now head reading).point = .check
      ∨ Fires r (r.runTimer now head reading) := by
  unfold runTimer
  split
  · exact .inl ⟨rfl, rfl⟩
  · next entry found =>
      split
      · exact .inl ⟨rfl, rfl⟩
      · obtain ⟨id, rfl, isFound⟩ := Option.bind_eq_some_iff.mp found
        exact .inr ⟨now, id, entry, here, isFound, fireTimer_timing r now reading entry, rfl⟩

/-- Apart from `TEST_START` and the end of the run, a step leaves the timers alone or fires one.
-/
theorem Step.timing {event : Event} (step : Step r event next) (other : ¬ r.handlesTestStart event)
    (unfinished : next.point.isFinished = false)
    : r.point.isFinished = false
      ∧ (next.timing = r.timing ∧ Enters r next ∨ Fires r next) := by
  have going {point : Point} (here : r.point = point) (isGoing : point.isFinished = false)
      : r.point.isFinished = false := by
    rw [here]
    exact isGoing
  cases step with
  | stop running => exact ⟨running, .inl ⟨rfl, fun _ _ _ => .inl rfl⟩⟩
  | @connect io now here =>
      refine ⟨going here rfl, .inl ⟨connect_timing r io now, enters_of_outside ?_⟩⟩
      unfold ClientRun.connect
      split <;> exact fun _ _ => nofun
  | @listen io here _ =>
      refine ⟨going here rfl, .inl ⟨listen_timing other, enters_of_outside ?_⟩⟩
      unfold ClientRun.listen
      split
      · exact fun _ _ => nofun
      · dsimp only
        split <;> exact fun _ _ => nofun
  | leave here done => exact ⟨going here rfl, .inl ⟨rfl, enters_of_outside fun _ _ => nofun⟩⟩
  | threads here =>
      exact ⟨going here rfl, .inl ⟨startThreads_timing r _, startThreads_enters r _⟩⟩
  | @timer now reading head here =>
      refine ⟨going here rfl, ?_⟩
      rcases runTimer_cases here reading with ⟨same, isCheck⟩ | fires
      · refine .inl ⟨same, enters_of_outside fun _ _ => ?_⟩
        rw [isCheck]
        nofun
      · exact .inr fires
  | @check io here =>
      exact ⟨going here rfl, .inl ⟨check_timing r io, enters_of_outside (check_outside r io)⟩⟩
  | @join failure here =>
      refine ⟨going here rfl, .inl ⟨join_timing r failure, enters_of_outside ?_⟩⟩
      unfold ClientRun.join
      split <;> exact fun _ _ => nofun
  | save here => exact ⟨going here rfl, .inl ⟨rfl, enters_of_outside fun _ _ => nofun⟩⟩
  | stopAll here => exact ⟨going here rfl, .inl ⟨rfl, enters_of_outside fun _ _ => nofun⟩⟩
  | @endFailed sent saved here =>
      exact ⟨going here rfl, .inl ⟨clientEnd_timing { r with iErrno := saved } sent,
        enters_of_outside fun _ _ => nofun⟩⟩
  | finish here => cases unfinished
  | @worker position event lives direction =>
      have point := work_point r position event
      refine ⟨point ▸ unfinished, .inl ⟨work_timing r position event, fun _ _ _ => .inl ?_⟩⟩
      exact point.symm

-----------------------------------------------------------------------------------------
-- The countdown
-----------------------------------------------------------------------------------------

/-- The clock at which the timers are created and the seconds of the test, with no wrap of the
seconds word.
-/
structure Countdown where
  base : IperfTime
  duration : Nat
  normal : base.Normalised
  positive : 1 ≤ duration
  fits : base.secs.toNat + duration < 2 ^ 32

/-- The test timer on the list, with the statistics timer before it until both have the same
deadline.
-/
structure Countdown.Parts (c : Countdown) (elapsed : Nat)
    (list front : List (Entry IperfTime TimerRecord)) (timer : Entry IperfTime TimerRecord)
    (rest : List (Entry IperfTime TimerRecord)) (statsTimer : Entry IperfTime TimerRecord)
    : Prop where
  parts : list = front ++ timer :: rest
  deadline : timer.time = c.base.plusSecs c.duration
  statsDeadline : statsTimer.time = c.base.plusSecs elapsed
  placed : elapsed < c.duration ∧ statsTimer ∈ front ∨ elapsed = c.duration ∧ statsTimer ∈ rest

/-- The state of the timers of a test that has not come to its end. -/
structure Ahead (c : Countdown) (t : Timing) (elapsed : Nat)
    (front : List (Entry IperfTime TimerRecord)) (timer : Entry IperfTime TimerRecord)
    (rest : List (Entry IperfTime TimerRecord)) (statsTimer : Entry IperfTime TimerRecord)
    : Prop where
  owned : t.Owned none
  sorted : Sorted t.timers.active
  noOmit : t.field .omitTimer = none
  isTimer : t.field .timer = some timer.id
  isStats : t.field .statsTimer = some statsTimer.id
  usecs : timer.record.usecs.toNat = c.duration * 1000000
  statsUsecs : statsTimer.record.usecs.toNat = 1000000
  positive : 1 ≤ elapsed
  parts : c.Parts elapsed t.timers.active front timer rest statsTimer

variable {c : Countdown} {t : Timing} {elapsed : Nat}
  {list front rest : List (Entry IperfTime TimerRecord)}
  {timer statsTimer entry : Entry IperfTime TimerRecord}

theorem Countdown.Parts.le (parts : c.Parts elapsed list front timer rest statsTimer)
    : elapsed ≤ c.duration := by
  rcases parts.placed with ⟨less, -⟩ | ⟨same, -⟩
  · exact less.le
  · exact same.le

theorem Countdown.Parts.stats_mem (parts : c.Parts elapsed list front timer rest statsTimer)
    : statsTimer ∈ list := by
  rw [parts.parts]
  rcases parts.placed with ⟨-, isFront⟩ | ⟨-, isRest⟩
  · exact List.mem_append_left _ isFront
  · exact List.mem_append_right _ (List.mem_cons_of_mem _ isRest)

/-- Whatever is sorted in, nothing that was there changes sides. -/
theorem Countdown.Parts.listAdd (parts : c.Parts elapsed list front timer rest statsTimer)
    (sorted : Sorted list) (entry : Entry IperfTime TimerRecord)
    : ∃ front' rest', c.Parts elapsed (listAdd entry list) front' timer rest' statsTimer
      ∧ ∀ other ∈ front, other ∈ front' := by
  rw [parts.parts] at sorted ⊢
  obtain ⟨front', rest', added, isFront, isRest⟩ := @listAdd_sides _ _ _ entry _ _ _ sorted
  refine ⟨front', rest', ⟨added, parts.deadline, parts.statsDeadline, ?_⟩, ?_⟩
  · exact parts.placed.imp (fun placed => ⟨placed.1, (isFront _).mpr (.inl placed.2)⟩)
      (fun placed => ⟨placed.1, (isRest _).mpr (.inl placed.2)⟩)
  · exact fun other isOne => (isFront other).mpr (.inl isOne)

/-- The statistics timer is sorted in with a deadline that is not behind the test timer's. -/
theorem Countdown.Parts.listAddStats (split : list = front ++ timer :: rest)
    (deadline : timer.time = c.base.plusSecs c.duration)
    (statsDeadline : statsTimer.time = c.base.plusSecs elapsed) (within : elapsed ≤ c.duration)
    (sorted : Sorted list)
    : ∃ front' rest',
      c.Parts elapsed (TimerList.listAdd statsTimer list) front' timer rest' statsTimer
      ∧ ∀ other ∈ front, other ∈ front' := by
  rw [split] at sorted ⊢
  obtain ⟨front', rest', added, isFront, isRest⟩ := @listAdd_sides _ _ _ statsTimer _ _ _ sorted
  have fits := c.fits
  have fitsStats : c.base.secs.toNat + elapsed < 2 ^ 32 := by omega
  have earlier : statsTimer.time < timer.time ↔ elapsed < c.duration := by
    rw [deadline, statsDeadline]
    exact IperfTime.plusSecs_lt fitsStats fits
  refine ⟨front', rest', ⟨added, deadline, statsDeadline, ?_⟩, ?_⟩
  · rcases within.lt_or_eq with less | same
    · exact .inl ⟨less, (isFront _).mpr (.inr ⟨rfl, earlier.mpr less⟩)⟩
    · exact .inr ⟨same, (isRest _).mpr (.inr ⟨rfl, fun before => (earlier.mp before).ne same⟩)⟩
  · exact fun other isOne => (isFront other).mpr (.inl isOne)

-----------------------------------------------------------------------------------------
-- A timer fires
-----------------------------------------------------------------------------------------

theorem Ahead.timer_mem (ahead : Ahead c t elapsed front timer rest statsTimer)
    : timer ∈ t.timers.active := by
  rw [ahead.parts.parts]
  exact List.mem_append_right _ List.mem_cons_self

/-- Each field of the test stands for one timer. -/
theorem Ahead.target (ahead : Ahead c t elapsed front timer rest statsTimer) {field : TimerField}
    (points : t.field field = some entry.id) (isActive : entry ∈ t.timers.active)
    : entry.record.proc = field ∧ t.Own entry := by
  obtain ⟨-, other, isOther, same, proc, own⟩ := ahead.owned.target field entry.id points
  obtain rfl := ahead.owned.wellFormed.eq_of_id isOther isActive same
  exact ⟨proc, own⟩

/-- The procedure of a timer before the test timer leaves the timers alone. -/
theorem Ahead.fire_eq (ahead : Ahead c t elapsed front timer rest statsTimer)
    (isFront : entry ∈ front) (now : IperfTime)
    : t.fire now entry = { t with timers := settle t.timers entry } := by
  have isActive : entry ∈ t.timers.active := by
    rw [ahead.parts.parts]
    exact List.mem_append_left _ isFront
  unfold Timing.fire
  dsimp only
  by_cases own : entry.record.clientData = t.address
  · rw [if_pos own]
    have points := ahead.owned.owner entry isActive own nofun
    cases proc : entry.record.proc with
    | timer =>
        -- this would be the test timer itself
        rw [proc, ahead.isTimer] at points
        have same : timer.id = entry.id := Option.some.inj points
        exact absurd same.symm ((ahead.owned.wellFormed.others ahead.parts.parts).1 entry isFront)
    | statsTimer => rfl
    | reporterTimer => rfl
    | omitTimer =>
        rw [proc, ahead.noOmit] at points
        cases points
  · rw [if_neg own]

/-- The statistics timer is one second further, and not behind the test timer's deadline. -/
theorem Ahead.rescheduleStats (ahead : Ahead c t elapsed front timer rest statsTimer)
    (isFront : statsTimer ∈ front) {before after : List (Entry IperfTime TimerRecord)}
    (split : front = before ++ statsTimer :: after)
    : ∃ front' rest', c.Parts (elapsed + 1)
        (t.timers.reschedule statsTimer.id
          (iperfTimeAddUsecs statsTimer.time statsTimer.record.usecs)).active
        front' timer rest'
        { statsTimer with time := iperfTimeAddUsecs statsTimer.time statsTimer.record.usecs }
      ∧ ∀ other ∈ before ++ after, other ∈ front' := by
  have wellFormed := ahead.owned.wellFormed
  have whole : t.timers.active = before ++ statsTimer :: (after ++ timer :: rest) := by
    rw [ahead.parts.parts, split]
    simp
  have isActive := ahead.parts.stats_mem
  have fits := c.fits
  have within : elapsed + 1 ≤ c.duration := by
    rcases ahead.parts.placed with ⟨less, -⟩ | ⟨-, isRest⟩
    · exact less
    · -- it would stand on both sides of the test timer
      have nodup := List.Nodup.of_map _ (List.nodup_append.mp wellFormed).1
      rw [ahead.parts.parts] at nodup
      have apart := (List.nodup_append.mp nodup).2.2 _ isFront _ (List.mem_cons_of_mem _ isRest)
      exact absurd rfl apart
  have next : iperfTimeAddUsecs statsTimer.time statsTimer.record.usecs
      = c.base.plusSecs (elapsed + 1) := by
    have normal : (c.base.plusSecs elapsed).Normalised := c.normal
    rw [ahead.parts.statsDeadline, ← IperfTime.plusSecs_plusSecs]
    exact iperfTimeAddUsecs_plusSecs normal (by rw [ahead.statsUsecs]) (by decide)
  have sorted : Sorted ((before ++ after) ++ timer :: rest) := by
    have removed := ahead.sorted.listRemove statsTimer.id
    rw [wellFormed.listRemove_eq whole, ← List.append_assoc] at removed
    exact removed
  rw [wellFormed.reschedule_active isActive, wellFormed.listRemove_eq whole, ← List.append_assoc]
  exact Countdown.Parts.listAddStats rfl ahead.parts.deadline next within sorted

/-- A timer before the test timer fires: the next timer is still not behind the test timer. -/
theorem Ahead.fire (ahead : Ahead c t elapsed front timer rest statsTimer)
    (isFront : entry ∈ front) (now : IperfTime)
    : ∃ elapsed' front' rest' statsTimer',
        Ahead c (t.fire now entry) elapsed' front' timer rest' statsTimer' ∧ elapsed ≤ elapsed'
        ∧ ∀ id, t.timers.successor entry.id = some id → id ∈ (front' ++ [timer]).map Entry.id := by
  have wellFormed := ahead.owned.wellFormed
  obtain ⟨before, after, split⟩ := List.append_of_mem isFront
  have whole : t.timers.active = before ++ entry :: (after ++ timer :: rest) := by
    rw [ahead.parts.parts, split]
    simp
  have isActive : entry ∈ t.timers.active := by
    rw [whole]
    exact List.mem_append_right _ List.mem_cons_self
  have owned := ahead.owned.fire isActive now
  have fires := ahead.fire_eq isFront now
  have nextId {front' : List (Entry IperfTime TimerRecord)}
      (kept : ∀ other ∈ before ++ after, other ∈ front')
      : ∀ id, t.timers.successor entry.id = some id → id ∈ (front' ++ [timer]).map Entry.id := by
    intro id successor
    rw [wellFormed.successor_eq whole] at successor
    obtain ⟨other, isHead, rfl⟩ := Option.map_eq_some_iff.mp successor
    refine List.mem_map_of_mem (List.mem_append.mpr ?_)
    cases after with
    | nil =>
        cases isHead
        exact .inr (List.mem_singleton.mpr rfl)
    | cons head tail =>
        cases isHead
        exact .inl (kept _ (List.mem_append_right _ List.mem_cons_self))
  have removed : TimerList.listRemove entry.id t.timers.active
      = (before ++ after) ++ timer :: rest := by
    rw [wellFormed.listRemove_eq whole, List.append_assoc]
  have sortedRest : Sorted ((before ++ after) ++ timer :: rest) := by
    rw [← removed]
    exact ahead.sorted.listRemove entry.id
  by_cases isStats : entry = statsTimer
  · subst isStats
    have periodic : entry.record.periodic = true := by
      obtain ⟨proc, own⟩ := ahead.target ahead.isStats isActive
      exact (ahead.owned.periodic entry isActive own).mpr (.inl proc)
    rw [settle_periodic periodic] at fires
    obtain ⟨front', rest', parts, kept⟩ := ahead.rescheduleStats isFront split
    refine ⟨elapsed + 1, front', rest',
      { entry with time := iperfTimeAddUsecs entry.time entry.record.usecs }, ?_, Nat.le_succ _,
      nextId kept⟩
    rw [fires] at owned ⊢
    refine ⟨owned, ?_, ahead.noOmit, ahead.isTimer, ahead.isStats, ahead.usecs, ahead.statsUsecs,
      Nat.le_add_left 1 elapsed, parts⟩
    dsimp only
    rw [wellFormed.reschedule_active isActive, removed]
    exact sortedRest.listAdd _
  · have left : c.Parts elapsed ((before ++ after) ++ timer :: rest) (before ++ after) timer rest
        statsTimer := by
      refine ⟨rfl, ahead.parts.deadline, ahead.parts.statsDeadline, ?_⟩
      refine ahead.parts.placed.imp (fun placed => ⟨placed.1, ?_⟩) id
      have isOne := placed.2
      rw [split] at isOne
      rcases List.mem_append.mp isOne with isBefore | isAfter
      · exact List.mem_append_left _ isBefore
      · rcases List.mem_cons.mp isAfter with same | isAfter
        · exact absurd same.symm isStats
        · exact List.mem_append_right _ isAfter
    by_cases periodic : entry.record.periodic = true
    · rw [settle_periodic periodic] at fires
      have active := wellFormed.reschedule_active isActive
        (iperfTimeAddUsecs entry.time entry.record.usecs)
      rw [removed] at active
      obtain ⟨front', rest', parts, kept⟩ := left.listAdd sortedRest
        { entry with time := iperfTimeAddUsecs entry.time entry.record.usecs }
      refine ⟨elapsed, front', rest', statsTimer, ?_, le_rfl, nextId kept⟩
      rw [fires] at owned ⊢
      refine ⟨owned, ?_, ahead.noOmit, ahead.isTimer, ahead.isStats, ahead.usecs, ahead.statsUsecs,
        ahead.positive, ?_⟩
      · dsimp only
        rw [active]
        exact sortedRest.listAdd _
      · dsimp only
        rw [active]
        exact parts
    · rw [settle_oneShot periodic] at fires
      refine ⟨elapsed, before ++ after, rest, statsTimer, ?_, le_rfl, nextId fun _ isOne => isOne⟩
      have active : (t.timers.cancel entry.id).active = (before ++ after) ++ timer :: rest :=
        removed
      rw [fires] at owned ⊢
      refine ⟨owned, ?_, ahead.noOmit, ahead.isTimer, ahead.isStats, ahead.usecs, ahead.statsUsecs,
        ahead.positive, ?_⟩
      · dsimp only
        rw [active]
        exact sortedRest
      · dsimp only
        rw [active]
        exact left

/-- The test timer fires. -/
theorem Ahead.expire (ahead : Ahead c t elapsed front timer rest statsTimer) (now : IperfTime)
    : (t.fire now timer).field .timer = none := by
  obtain ⟨proc, own⟩ := ahead.target ahead.isTimer ahead.timer_mem
  have ownTest : timer.record.clientData = t.address := own
  unfold Timing.fire
  dsimp only
  rw [if_pos ownTest, proc]
  exact Function.update_self TimerField.timer none t.field

/-- No procedure sets the field again. -/
theorem fire_expired (expired : t.field .timer = none) (now : IperfTime)
    (entry : Entry IperfTime TimerRecord)
    : (t.fire now entry).field .timer = none := by
  unfold Timing.fire
  dsimp only
  split
  · by_cases isTimer : entry.record.proc = .timer
    · rw [isTimer]
      exact Function.update_self TimerField.timer none t.field
    · rw [Timing.runProc_field t now isTimer]
      exact expired
  · exact expired

-----------------------------------------------------------------------------------------
-- Before `TEST_START`
-----------------------------------------------------------------------------------------

/-- The process has no timer of the test, and no field points to one. -/
structure Waiting (r : ClientRun) : Prop where
  idle : Idle r.address r.timers
  unset : ∀ field, r.field field = none

theorem appStart_waiting (configuration : Configuration) {address : Nat}
    {timers : Timers IperfTime TimerRecord} (idle : Idle address timers)
    : Waiting (appStart configuration address timers) :=
  ⟨idle, fun _ => rfl⟩

theorem Waiting.owned (waiting : Waiting r) : r.timing.Owned none := by
  refine ⟨waiting.idle.wellFormed, fun field id points => ?_, fun entry isActive own => ?_,
    fun entry isActive own => ?_⟩
  · have unset : r.timing.field field = none := waiting.unset field
    rw [unset] at points
    cases points
  · exact absurd own (waiting.idle.foreign entry isActive)
  · exact absurd own (waiting.idle.foreign entry isActive)

theorem Waiting.of_timing (waiting : Waiting r) (same : next.timing = r.timing) : Waiting next := by
  have address : next.address = r.address := congrArg Timing.address same
  have timers : next.timers = r.timers := congrArg Timing.timers same
  have field : next.field = r.field := congrArg Timing.field same
  constructor
  · rw [address, timers]
    exact waiting.idle
  · rw [field]
    exact waiting.unset

/-- Timers of other tests fire. -/
theorem Idle.settle {address : Nat} {timers : Timers IperfTime TimerRecord}
    (idle : Idle address timers) (isActive : entry ∈ timers.active)
    : Idle address (settle timers entry) := by
  by_cases periodic : entry.record.periodic = true
  · rw [settle_periodic periodic]
    refine ⟨idle.wellFormed.reschedule .., ?_, fun other isOther => ?_⟩
    · rw [idle.wellFormed.reschedule_active isActive]
      exact (idle.sorted.listRemove entry.id).listAdd _
    · rcases (Timers.mem_reschedule idle.wellFormed isActive).mp isOther with rfl | ⟨before, -⟩
      · exact idle.foreign entry isActive
      · exact idle.foreign other before
  · rw [settle_oneShot periodic]
    refine ⟨idle.wellFormed.cancel isActive, idle.sorted.listRemove entry.id,
      fun other isOther => ?_⟩
    exact idle.foreign other (Timers.mem_cancel.mp isOther).1

theorem Step.waiting {event : Event} (step : Step r event next) (other : ¬ r.handlesTestStart event)
    (unfinished : next.point.isFinished = false) (waiting : Waiting r)
    : Waiting next := by
  obtain ⟨-, ⟨same, -⟩ | ⟨now, id, entry, -, found, fires, -⟩⟩ := step.timing other unfinished
  · exact waiting.of_timing same
  · obtain ⟨isActive, -⟩ := Timers.find_some found
    have foreign : ¬ entry.record.clientData = r.timing.address :=
      waiting.idle.foreign entry isActive
    unfold Timing.fire at fires
    dsimp only at fires
    rw [if_neg foreign] at fires
    have address : next.address = r.address := congrArg Timing.address fires
    have timers : next.timers = settle r.timers entry := congrArg Timing.timers fires
    have field : next.field = r.field := congrArg Timing.field fires
    constructor
    · rw [address, timers]
      exact waiting.idle.settle isActive
    · rw [field]
      exact waiting.unset

/-- By induction on the run, backwards from a state in which it has not ended. -/
theorem Run.waiting {start : ClientRun}
    (run : Run (fun r event => ¬ r.handlesTestStart event) start r)
    (unfinished : r.point.isFinished = false) (waiting : Waiting start)
    : Waiting r := by
  induction run with
  | refl => exact waiting
  | tail _ last ih =>
      obtain ⟨event, other, step⟩ := last
      exact step.waiting other unfinished (ih (step.timing other unfinished).1)

-----------------------------------------------------------------------------------------
-- Creation
-----------------------------------------------------------------------------------------

theorem usecsOfInterval_one : (usecsOfInterval 1).toNat = 1000000 := by
  decide +kernel

theorem toNat_usecs_of_secs {secs : Int32} {count : Nat} (same : secs.toInt = count)
    : (secs.toInt64.toUInt64 * 1000000).toNat = count * 1000000 := by
  have bound := secs.toInt_lt
  have wide : secs.toInt64.toInt = count := (Int32.toInt_toInt64 secs).trans same
  have positive : (0 : Int64) ≤ secs.toInt64 := Int64.le_iff_toInt_le.mpr (by rw [wide]; simp)
  have word : secs.toInt64.toUInt64.toNat = count := by
    rw [Int64.toNat_toUInt64_of_le positive]
    exact congrArg Int.toNat wide
  rw [UInt64.toNat_mul, word]
  simp only [UInt64.reduceToNat]
  omega

/-- The reporter timer changes nothing about the other two. -/
theorem createReporterTimer_parts (wellFormed : r.timers.WellFormed)
    (sorted : Sorted r.timers.active)
    (parts : c.Parts elapsed r.timers.active front timer rest statsTimer) {wanted : Bool}
    {now : IperfTime} {usecs : UInt64} {allocated : Bool}
    (made : createTimerIf wanted r now .reporterTimer usecs true allocated = .ok next)
    : Sorted next.timers.active ∧ next.test = r.test
      ∧ (∃ front' rest', c.Parts elapsed next.timers.active front' timer rest' statsTimer)
      ∧ ∀ field, field ≠ .reporterTimer → next.field field = r.field field := by
  rcases createTimerIf_cases wellFormed wanted now .reporterTimer usecs true allocated
    with ⟨none_, -⟩ | failed | ⟨id, timers, created, some_⟩
  · obtain rfl := Except.ok.inj (none_.symm.trans made)
    exact ⟨sorted, rfl, ⟨front, rest, parts⟩, fun _ _ => rfl⟩
  · cases failed.symm.trans made
  · obtain rfl := Except.ok.inj (some_.symm.trans made)
    dsimp only [setField]
    rw [created.active]
    obtain ⟨front', rest', parts', -⟩ := parts.listAdd sorted
      { id, time := iperfTimeAddUsecs now usecs,
        record := { proc := .reporterTimer, clientData := r.address, usecs, periodic := true } }
    refine ⟨sorted.listAdd _, rfl, ⟨front', rest', parts'⟩, fun field other => ?_⟩
    exact Function.update_of_ne other ..

/-- The statistics timer has its first deadline after one second. -/
theorem createReportTimers_parts {io : TimersIo} (wellFormed : r.timers.WellFormed)
    (sorted : Sorted r.timers.active) (split : r.timers.active = front ++ timer :: rest)
    (deadline : timer.time = c.base.plusSecs c.duration) (stats : r.test.statsInterval = 1)
    (made : r.createReportTimers c.base io = .ok next)
    : Sorted next.timers.active ∧ next.test = r.test ∧ next.field .timer = r.field .timer
      ∧ ∃ front' rest' statsTimer, c.Parts 1 next.timers.active front' timer rest' statsTimer
        ∧ next.field .statsTimer = some statsTimer.id
        ∧ statsTimer.record.usecs.toNat = 1000000 := by
  have usecs := usecsOfInterval_one
  have statsDeadline := @iperfTimeAddUsecs_plusSecs _ c.normal (usecsOfInterval 1) 1 usecs
    (by decide)
  unfold createReportTimers at made
  rw [stats] at made
  rcases createTimerIf_cases wellFormed (decide ((1 : ℚ) ≠ 0)) c.base .statsTimer
    (usecsOfInterval 1) true (io.allocated .statsTimer)
    with ⟨-, unwanted⟩ | failed | ⟨id, timers, created, some_⟩
  · exact absurd one_ne_zero (of_decide_eq_false unwanted)
  · rw [failed] at made
    cases made
  · rw [some_, Checked.ok_bind] at made
    obtain ⟨front', rest', parts, -⟩ := @Countdown.Parts.listAddStats c 1 _ _ _ _
      {
        id
        time := iperfTimeAddUsecs c.base (usecsOfInterval 1)
        record := {
          proc := .statsTimer
          clientData := r.address
          usecs := usecsOfInterval 1
          periodic := true
        }
      } split deadline statsDeadline c.positive sorted
    rw [← created.active] at parts
    have sorted' : Sorted timers.active := by
      rw [created.active]
      exact sorted.listAdd _
    obtain ⟨sorted'', test, ⟨front'', rest'', parts'⟩, fields⟩ :=
      createReporterTimer_parts created.wellFormed sorted' parts made
    refine ⟨sorted'', test, ?_, front'', rest'', _, parts', ?_, usecs⟩
    · have other : TimerField.timer ≠ .statsTimer := by decide
      exact (fields .timer (by decide)).trans (Function.update_of_ne other (some id) r.field)
    · have points := Function.update_self TimerField.statsTimer (some id) r.field
      exact (fields .statsTimer (by decide)).trans points

/-- The test timer is created first. -/
theorem createClientTimers_parts {io : TimersIo} (waiting : Waiting r)
    (clock : io.clock = some c.base) (stats : r.test.statsInterval = 1)
    (noOmit : r.test.omitPeriod = 0) (duration : r.test.duration.toInt = c.duration)
    (made : r.createClientTimers io = .ok next)
    : Sorted next.timers.active ∧ next.test.omitPeriod = 0
      ∧ ∃ front timer rest statsTimer, c.Parts 1 next.timers.active front timer rest statsTimer
        ∧ next.field .timer = some timer.id ∧ next.field .statsTimer = some statsTimer.id
        ∧ timer.record.usecs.toNat = c.duration * 1000000
        ∧ statsTimer.record.usecs.toNat = 1000000 := by
  have positive := c.positive
  have fits := c.fits
  have isSet : r.test.duration ≠ 0 := by
    intro zero
    rw [zero] at duration
    have none_ : (0 : Int32).toInt = 0 := rfl
    omega
  have usecs : ((r.test.duration + r.test.omitPeriod).toInt64.toUInt64 * 1000000).toNat
      = c.duration * 1000000 := by
    rw [noOmit, Int32.add_zero]
    exact toNat_usecs_of_secs duration
  have deadline := iperfTimeAddUsecs_plusSecs c.normal usecs (by omega)
  unfold createClientTimers at made
  rw [clock] at made
  dsimp only at made
  rcases @createTimerIf_cases r.clearTimers waiting.idle.wellFormed
    (r.clearTimers.test.duration ≠ 0) c.base .timer
    ((r.clearTimers.test.duration + r.clearTimers.test.omitPeriod).toInt64.toUInt64 * 1000000)
    false (io.allocated .timer) with ⟨-, unwanted⟩ | failed | ⟨id, timers, created, some_⟩
  · exact absurd isSet (of_decide_eq_false unwanted)
  · rw [failed] at made
    cases made
  · rw [some_, Checked.ok_bind] at made
    obtain ⟨front, rest, -, added, -⟩ := listAdd_split
      {
        id
        time := iperfTimeAddUsecs c.base
          ((r.test.duration + r.test.omitPeriod).toInt64.toUInt64 * 1000000)
        record := {
          proc := .timer
          clientData := r.address
          usecs := (r.test.duration + r.test.omitPeriod).toInt64.toUInt64 * 1000000
          periodic := false
        }
      } waiting.idle.sorted
    have sorted : Sorted timers.active := by
      rw [created.active]
      exact waiting.idle.sorted.listAdd _
    obtain ⟨sorted', test, field, front', rest', statsTimer, parts, isStats, statsUsecs⟩ :=
      @createReportTimers_parts { (r.clearTimers.setField .timer (some id)) with timers } next c _ _
        _ io created.wellFormed sorted (created.active.trans added) deadline stats made
    refine ⟨sorted', ?_, front', _, rest', statsTimer, parts, ?_, isStats, usecs, statsUsecs⟩
    · rw [test]
      exact noOmit
    · have points := Function.update_self TimerField.timer (some id) r.clearTimers.field
      exact field.trans points

end ClientRun

end Iperf
