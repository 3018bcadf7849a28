import Iperf.App.IntervalRecords
import Iperf.Library.TimerPairs

/-! The statistics timer and the reporter timer of a test are created together and with the same
interval. They stay together on the list of timers, so that the reporter timer always fires right
after the statistics timer.
-/

namespace Iperf

open TimerList

namespace ClientRun

-----------------------------------------------------------------------------------------
-- Pairs of timers
-----------------------------------------------------------------------------------------

section

variable (address : Nat)

def IsStats (entry : Entry IperfTime TimerRecord) : Prop :=
  entry.record.clientData = address ∧ entry.record.proc = .statsTimer

def IsReporter (entry : Entry IperfTime TimerRecord) : Prop :=
  entry.record.clientData = address ∧ entry.record.proc = .reporterTimer

/-- A statistics timer that will fire again whenever the other does. -/
def Leads (leader entry : Entry IperfTime TimerRecord) : Prop :=
  IsStats address leader ∧ leader.time = entry.time
    ∧ leader.record.usecs = entry.record.usecs

/-- A test without an omit period has one-shot test timers and periodic others. -/
def Kind (entry : Entry IperfTime TimerRecord) : Prop :=
  entry.record.clientData = address →
    entry.record.proc = .timer ∧ entry.record.periodic = false
    ∨ (entry.record.proc = .statsTimer ∨ entry.record.proc = .reporterTimer)
      ∧ entry.record.periodic = true

structure OwnTimers (timers : Timers IperfTime TimerRecord) : Prop where
  wellFormed : timers.WellFormed
  sorted : Sorted timers.active
  kinds : ∀ entry ∈ timers.active, Kind address entry

/-- Every reporter timer stands right behind a statistics timer with the same times. -/
structure Aligned (timers : Timers IperfTime TimerRecord) : Prop extends OwnTimers address timers
    where
  chained : Chained (Leads address) (IsReporter address) none timers.active

/-- A statistics timer at its place in the order. -/
structure Placed (list : List (Entry IperfTime TimerRecord)) (time : IperfTime)
    (usecs : UInt64) (front : List (Entry IperfTime TimerRecord))
    (leader : Entry IperfTime TimerRecord) (rest : List (Entry IperfTime TimerRecord))
    : Prop where
  parts : list = front ++ leader :: rest
  isStats : IsStats address leader
  time_eq : leader.time = time
  usecs_eq : leader.record.usecs = usecs
  before : ∀ other ∈ front, other.time ≤ leader.time
  behind : ∀ other ∈ rest, leader.time < other.time

/-- The reporter timer is looked at next: its statistics timer has just fired. -/
structure InFlight (timers : Timers IperfTime TimerRecord) (now : IperfTime)
    (entry : Entry IperfTime TimerRecord)
    : Prop extends OwnTimers address timers where
  isActive : entry ∈ timers.active
  isReporter : IsReporter address entry
  due : entry.time ≤ now
  chained : Chained (Leads address)
    (fun other => IsReporter address other ∧ some entry.id ≠ some other.id) none timers.active
  placed : ∃ front leader rest, Placed address (listRemove entry.id timers.active)
    (iperfTimeAddUsecs entry.time entry.record.usecs) entry.record.usecs front leader rest

end

variable {address : Nat} {timers : Timers IperfTime TimerRecord}
  {entry : Entry IperfTime TimerRecord}

theorem leads_time {leader entry : Entry IperfTime TimerRecord} (leads : Leads address leader entry)
    : leader.time = entry.time :=
  leads.2.1

theorem leads_none (single : ¬ IsStats address entry) (other : Entry IperfTime TimerRecord)
    : ¬ Leads address entry other :=
  fun leads => single leads.1

theorem IsReporter.not_stats (isReporter : IsReporter address entry)
    : ¬ IsStats address entry := by
  intro isStats
  have := isReporter.2.symm.trans isStats.2
  cases this

/-- A reporter timer goes right behind the statistics timer it belongs to. -/
theorem Placed.listAdd {list front rest : List (Entry IperfTime TimerRecord)} {time : IperfTime}
    {usecs : UInt64} {leader : Entry IperfTime TimerRecord}
    (placed : Placed address list time usecs front leader rest) (sameTime : entry.time = time)
    (sameUsecs : entry.record.usecs = usecs)
    {previous : Option (Entry IperfTime TimerRecord)}
    (chained : Chained (Leads address) (IsReporter address) previous list)
    : Chained (Leads address) (IsReporter address) previous (listAdd entry list) := by
  have time_ : entry.time = leader.time := sameTime.trans placed.time_eq.symm
  rw [placed.parts] at chained ⊢
  rw [listAdd_behind time_ placed.before placed.behind]
  have leads : Leads address leader entry :=
    ⟨placed.isStats, time_.symm, placed.usecs_eq.trans sameUsecs.symm⟩
  refine chained.addFollower leads ?_
  intro other isOne leadsOther
  exact absurd (placed.behind other isOne) leadsOther.2.1.not_lt

-----------------------------------------------------------------------------------------
-- Creation
-----------------------------------------------------------------------------------------

theorem OwnTimers.listAdd (own : OwnTimers address timers) {next : Timers IperfTime TimerRecord}
    (wellFormed : next.WellFormed) (kind : Kind address entry)
    {list : List (Entry IperfTime TimerRecord)} (sublist : list.Sublist timers.active)
    (active : next.active = TimerList.listAdd entry list)
    : OwnTimers address next := by
  refine ⟨wellFormed, ?_, ?_⟩
  · rw [active]
    exact Sorted.listAdd entry (List.Pairwise.sublist sublist own.sorted)
  · rw [active]
    intro other isOne
    rcases mem_listAdd.mp isOne with rfl | before
    · exact kind
    · exact own.kinds other (sublist.subset before)

/-- A timer that is not a reporter timer is created. -/
theorem Aligned.created (aligned : Aligned address timers) {next : Timers IperfTime TimerRecord}
    {id : Nat} {time : IperfTime} {record : TimerRecord}
    (created : Timers.Created timers next id time record)
    (kind : Kind address { id, time, record }) (single : ¬ IsReporter address { id, time, record })
    : Aligned address next := by
  refine ⟨aligned.toOwnTimers.listAdd created.wellFormed kind (List.Sublist.refl _) created.active,
    ?_⟩
  rw [created.active]
  exact aligned.chained.listAdd (fun _ _ leads => leads_time leads) single

/-- The statistics timer that was just created. -/
theorem OwnTimers.placed (own : OwnTimers address timers) {next : Timers IperfTime TimerRecord}
    {id : Nat} {time : IperfTime} {record : TimerRecord}
    (created : Timers.Created timers next id time record)
    (isStats : IsStats address { id, time, record })
    : ∃ front rest,
      Placed address next.active time record.usecs front { id, time, record } rest := by
  obtain ⟨front, rest, -, added, before, behind⟩ := listAdd_split { id, time, record } own.sorted
  exact ⟨front, rest, created.active.trans added, isStats, rfl, rfl, before, behind⟩

/-- The reporter timer is created right after the statistics timer. -/
theorem Aligned.createdBehind (aligned : Aligned address timers)
    {next : Timers IperfTime TimerRecord} {id : Nat} {time : IperfTime} {record : TimerRecord}
    (created : Timers.Created timers next id time record)
    (kind : Kind address { id, time, record })
    {front rest : List (Entry IperfTime TimerRecord)} {leader : Entry IperfTime TimerRecord}
    (placed : Placed address timers.active time record.usecs front leader rest)
    : Aligned address next := by
  refine ⟨aligned.toOwnTimers.listAdd created.wellFormed kind (List.Sublist.refl _) created.active,
    ?_⟩
  rw [created.active]
  exact placed.listAdd rfl rfl aligned.chained

variable {r : ClientRun}

theorem kind_own (address : Nat) (id : Nat) (time : IperfTime) (field : TimerField)
    (usecs : UInt64) {periodic : Bool}
    (kind : field = .timer ∧ periodic = false
      ∨ (field = .statsTimer ∨ field = .reporterTimer) ∧ periodic = true)
    : Kind address
        { id, time, record := { proc := field, clientData := address, usecs, periodic } } :=
  fun _ => kind

/-- What one `tmr_create` does: nothing, nothing but an error, or a new timer. -/
theorem createTimerIf_cases (wellFormed : r.timers.WellFormed) (wanted : Bool) (now : IperfTime)
    (field : TimerField) (usecs : UInt64) (periodic allocated : Bool)
    : (createTimerIf wanted r now field usecs periodic allocated = .ok r ∧ wanted = false)
      ∨ createTimerIf wanted r now field usecs periodic allocated
        = .error ((r.setField field none).errno .ieinittest)
      ∨ ∃ id timers, Timers.Created r.timers timers id (iperfTimeAddUsecs now usecs)
          { proc := field, clientData := r.address, usecs, periodic }
        ∧ createTimerIf wanted r now field usecs periodic allocated
          = .ok { (r.setField field (some id)) with timers } := by
  unfold createTimerIf
  cases wanted with
  | false => exact .inl ⟨rfl, rfl⟩
  | true =>
      rw [Timing.createTimerIf, if_pos rfl, Timing.createTimer]
      dsimp only
      split
      · exact .inr (.inl rfl)
      · next id timers created =>
          exact .inr (.inr ⟨id, timers, Timers.create_created wellFormed created, rfl⟩)

/-- The two timers of a test whose two intervals are the same. -/
theorem createReportTimers_aligned (aligned : Aligned r.address r.timers)
    (intervals : r.test.statsInterval = r.reporterInterval) (now : IperfTime) (io : TimersIo)
    : Aligned r.address (left (r.createReportTimers now io)).timers := by
  have kindStats (id : Nat) (time : IperfTime) (usecs : UInt64) :=
    kind_own r.address id time .statsTimer usecs (.inr ⟨.inl rfl, rfl⟩)
  have kindReporter (id : Nat) (time : IperfTime) (usecs : UInt64) :=
    kind_own r.address id time .reporterTimer usecs (.inr ⟨.inr rfl, rfl⟩)
  unfold createReportTimers
  rcases createTimerIf_cases aligned.wellFormed (r.test.statsInterval ≠ 0) now .statsTimer
    (usecsOfInterval r.test.statsInterval) true (io.allocated .statsTimer)
    with ⟨none_, unwanted⟩ | failed | ⟨id, timers, created, made⟩
  · -- without a statistics timer there is no reporter timer
    have unwanted' : decide (r.reporterInterval ≠ 0) = false := intervals ▸ unwanted
    rw [none_, Checked.ok_bind, unwanted']
    exact aligned
  · rw [failed]
    exact aligned
  · rw [made, Checked.ok_bind]
    have aligned' :=
      aligned.created created (kindStats _ _ _) (fun isReporter => nomatch isReporter.2)
    obtain ⟨front, rest, placed⟩ := aligned.toOwnTimers.placed created ⟨rfl, rfl⟩
    rcases @createTimerIf_cases { (r.setField .statsTimer (some id)) with timers }
      aligned'.wellFormed (r.reporterInterval ≠ 0) now .reporterTimer
      (usecsOfInterval r.reporterInterval) true (io.allocated .reporterTimer)
      with ⟨none_, -⟩ | failed | ⟨id', timers', created', made'⟩
    · exact (congrArg (fun x => Aligned r.address (left x).timers) none_).mpr aligned'
    · exact (congrArg (fun x => Aligned r.address (left x).timers) failed).mpr aligned'
    · refine (congrArg (fun x => Aligned r.address (left x).timers) made').mpr ?_
      rw [intervals] at placed
      exact aligned'.createdBehind created' (kindReporter _ _ _) placed

/-- `create_client_timers` of a test whose two intervals are the same. -/
theorem createClientTimers_aligned (aligned : Aligned r.address r.timers)
    (intervals : r.test.statsInterval = r.reporterInterval) (io : TimersIo)
    : Aligned r.address (left (r.createClientTimers io)).timers := by
  unfold createClientTimers
  split
  · exact aligned
  · next now clock =>
      have cleared : Aligned r.clearTimers.address r.clearTimers.timers := aligned
      have same : r.clearTimers.test.statsInterval = r.clearTimers.reporterInterval := intervals
      dsimp only
      rcases createTimerIf_cases cleared.wellFormed (r.clearTimers.test.duration ≠ 0) now .timer
        ((r.clearTimers.test.duration + r.clearTimers.test.omitPeriod).toInt64.toUInt64 * 1000000)
        false (io.allocated .timer)
        with ⟨none_, -⟩ | failed | ⟨id, timers, created, made⟩
      · rw [none_]
        exact createReportTimers_aligned cleared same now io
      · rw [failed]
        exact aligned
      · rw [made]
        have aligned' := cleared.created created (kind_own _ _ _ _ _ (.inl ⟨rfl, rfl⟩))
          (fun isReporter => nomatch isReporter.2)
        exact @createReportTimers_aligned { (r.clearTimers.setField .timer (some id)) with timers }
          aligned' same now io

/-- `TEST_START` in a test without an omit period. -/
theorem startTimers_aligned (aligned : Aligned r.address r.timers)
    (intervals : r.test.statsInterval = r.reporterInterval) (noOmit : r.test.omitPeriod = 0)
    (io : RunMessageIo)
    : Aligned r.address (left (r.startTimers io)).timers := by
  unfold startTimers
  split
  · exact aligned
  · next now clock =>
      have armed := @createClientTimers_aligned (r.initTest now) aligned intervals io.timers
      have same := createClientTimers_ledger (r.initTest now) io.timers
      cases result : (r.initTest now).createClientTimers io.timers with
      | error next =>
          rw [result] at armed
          exact armed
      | ok next =>
          rw [result] at armed same
          have noOmit' : next.test.omitPeriod = 0 := (congrArg Ledger.omitPeriod same).trans noOmit
          rw [Checked.ok_bind]
          unfold createClientOmitTimer
          rw [if_pos noOmit']
          exact armed

-----------------------------------------------------------------------------------------
-- One turn of `tmr_run`
-----------------------------------------------------------------------------------------

/-- What the list of timers is like where the main thread stands. -/
def PairedAt (address : Nat) (timers : Timers IperfTime TimerRecord) (ready : Prop)
    : Point → Prop
  | .timers now next =>
      (Aligned address timers
          ∧ ∀ entry ∈ timers.active, next = some entry.id → ¬ IsReporter address entry)
      ∨ ∃ entry, next = some entry.id ∧ InFlight address timers now entry ∧ ready
  | _ => Aligned address timers

/-- The entry behind one that is not a statistics timer is not a reporter timer. -/
theorem next_single {follows : Entry IperfTime TimerRecord → Prop}
    {front rest : List (Entry IperfTime TimerRecord)}
    (chained : Chained (Leads address) follows none (front ++ entry :: rest))
    (single : ¬ IsStats address entry)
    : ∀ next ∈ rest.head?, ¬ follows next := by
  intro next isNext isFollower
  cases rest with
  | nil => cases isNext
  | cons head tail =>
      cases isNext
      exact single (chained.behind isFollower).1

/-- The next timer is still the same entry after others have moved. -/
theorem next_unmoved {next : Timers IperfTime TimerRecord}
    {rest : List (Entry IperfTime TimerRecord)} (wellFormed : next.WellFormed)
    (subset : ∀ other ∈ rest, other ∈ next.active) {p : Entry IperfTime TimerRecord → Prop}
    (single : ∀ other ∈ rest.head?, p other)
    : ∀ other ∈ next.active, rest.head?.map Entry.id = some other.id → p other := by
  intro other isActive isNext
  obtain ⟨head, isHead, same⟩ := Option.map_eq_some_iff.mp isNext
  have isOne : head ∈ rest := List.mem_of_mem_head? isHead
  rw [← wellFormed.eq_of_id (subset head isOne) isActive same]
  exact single head isHead

/-- A timer of another test, or the test timer, fires. -/
theorem Aligned.settleSingle (aligned : Aligned address timers) (isActive : entry ∈ timers.active)
    (single : ¬ IsStats address entry) (noReporter : ¬ IsReporter address entry)
    : Aligned address (settle timers entry)
      ∧ ∀ other ∈ (settle timers entry).active,
        timers.successor entry.id = some other.id → ¬ IsReporter address other := by
  obtain ⟨front, rest, parts, removed, successor⟩ := aligned.wellFormed.split isActive
  have chained := aligned.chained
  rw [parts] at chained
  have without := chained.remove (leads_none single)
  have sublist : (front ++ rest).Sublist timers.active := removed ▸ List.filter_sublist
  rw [successor]
  have behind := next_single chained single
  by_cases again : entry.record.periodic = true
  · rw [settle_periodic again]
    generalize iperfTimeAddUsecs entry.time entry.record.usecs = time
    have active := aligned.wellFormed.reschedule_active isActive time
    rw [removed] at active
    have wellFormed := aligned.wellFormed.reschedule entry.id time
    have kind : Kind address { entry with time } := aligned.kinds entry isActive
    have own := aligned.toOwnTimers.listAdd wellFormed kind sublist active
    refine ⟨⟨own, ?_⟩, next_unmoved wellFormed (fun other isOne => ?_) behind⟩
    · have single' : ¬ IsReporter address { entry with time } := noReporter
      rw [active]
      exact without.listAdd (fun _ _ leads => leads_time leads) single'
    · rw [active]
      exact mem_listAdd.mpr (.inr (List.mem_append_right _ isOne))
  · rw [settle_oneShot again]
    have active : (timers.cancel entry.id).active = front ++ rest := removed
    have wellFormed := aligned.wellFormed.cancel isActive
    refine ⟨⟨⟨wellFormed, ?_, ?_⟩, ?_⟩, next_unmoved wellFormed (fun other isOne => ?_) behind⟩
    · rw [active]
      exact List.Pairwise.sublist sublist aligned.sorted
    · rw [active]
      exact fun other isOne => aligned.kinds other (sublist.subset isOne)
    · rw [active]
      exact without
    · rw [active]
      exact List.mem_append_right _ isOne

/-- A statistics timer fires: the reporter timer behind it, if there is one, is next. -/
theorem Aligned.settleStats (aligned : Aligned address timers) (isActive : entry ∈ timers.active)
    (isStats : IsStats address entry) {now : IperfTime} (due : ¬ now < entry.time)
    {ready : Prop} (isReady : ready)
    : PairedAt address (settle timers entry) ready (.timers now (timers.successor entry.id)) := by
  obtain ⟨front, rest, parts, removed, successor⟩ := aligned.wellFormed.split isActive
  have chained := aligned.chained
  rw [parts] at chained
  have sublist : (front ++ rest).Sublist timers.active := removed ▸ List.filter_sublist
  have again : entry.record.periodic = true := by
    rcases aligned.kinds entry isActive isStats.1 with ⟨other, -⟩ | ⟨-, again⟩
    · cases other.symm.trans isStats.2
    · exact again
  rw [successor, settle_periodic again]
  generalize isTime : iperfTimeAddUsecs entry.time entry.record.usecs = time
  have active := aligned.wellFormed.reschedule_active isActive time
  rw [removed] at active
  have wellFormed := aligned.wellFormed.reschedule entry.id time
  have kind : Kind address { entry with time } := aligned.kinds entry isActive
  have own := aligned.toOwnTimers.listAdd wellFormed kind sublist active
  have single : ¬ IsReporter address { entry with time } := by
    intro isReporter
    cases isReporter.2.symm.trans isStats.2
  have unmoved : ∀ other ∈ front ++ rest, other ∈ (timers.reschedule entry.id time).active := by
    intro other isOne
    rw [active]
    exact mem_listAdd.mpr (.inr isOne)
  have without := chained.removeLeader.listAdd (fun _ _ leads => leads_time leads)
    (fun isOne => single isOne.1)
  rw [← active] at without
  by_cases behind : ∃ next, rest.head? = some next ∧ IsReporter address next
  · -- the reporter timer is in flight
    obtain ⟨next, isNext, isReporter⟩ := behind
    have isRest : next ∈ rest := List.mem_of_mem_head? isNext
    obtain ⟨tail, rfl⟩ : ∃ tail, rest = next :: tail := by
      cases rest with
      | nil => cases isNext
      | cons head tail =>
          cases isNext
          exact ⟨tail, rfl⟩
    have leads : Leads address entry next := chained.behind isReporter
    refine .inr ⟨next, rfl, ⟨own, unmoved next (by simp), isReporter, ?_, ?_, ?_⟩, isReady⟩
    · rw [← leads.2.1]
      exact not_lt.mp due
    · exact without
    · obtain ⟨front', rest', -, added, before, later⟩ := listAdd_split { entry with time }
        (List.Pairwise.sublist sublist aligned.sorted)
      have different : entry.id ≠ next.id := by
        intro same
        have isNextActive : next ∈ timers.active := sublist.subset (List.mem_append_right _ isRest)
        rw [aligned.wellFormed.eq_of_id isActive isNextActive same] at isStats
        exact isReporter.not_stats isStats
      refine ⟨listRemove next.id front', { entry with time }, listRemove next.id rest',
        ⟨?_, isStats, ?_, leads.2.2, ?_, ?_⟩⟩
      · rw [active, added]
        exact @listRemove_around _ _ { entry with time } _ different front' rest'
      · rw [← leads.2.1, ← leads.2.2, isTime]
      · exact fun other isOne => before other (mem_listRemove.mp isOne).1
      · exact fun other isOne => later other (mem_listRemove.mp isOne).1
  · refine .inl ⟨⟨own, ?_⟩, next_unmoved wellFormed (fun other isOne => ?_) ?_⟩
    · refine without.mono fun other isOne isReporter => ⟨isReporter, fun same => behind ?_⟩
      obtain ⟨head, isHead, sameId⟩ := Option.map_eq_some_iff.mp same
      have isRest : head ∈ rest := List.mem_of_mem_head? isHead
      rw [← wellFormed.eq_of_id (unmoved head (List.mem_append_right _ isRest)) isOne sameId]
        at isReporter
      exact ⟨head, isHead, isReporter⟩
    · exact unmoved other (List.mem_append_right _ isOne)
    · exact fun next isNext isReporter => behind ⟨next, isNext, isReporter⟩

/-- A reporter timer that is in flight fires and is right behind its statistics timer again. -/
theorem InFlight.settleReporter {now : IperfTime} (flight : InFlight address timers now entry)
    : Aligned address (settle timers entry)
      ∧ ∀ other ∈ (settle timers entry).active,
        timers.successor entry.id = some other.id → ¬ IsReporter address other := by
  obtain ⟨front, rest, parts, removed, successor⟩ := flight.wellFormed.split flight.isActive
  have chained := flight.chained
  rw [parts] at chained
  have sublist : (front ++ rest).Sublist timers.active := removed ▸ List.filter_sublist
  have again : entry.record.periodic = true := by
    rcases flight.kinds entry flight.isActive flight.isReporter.1 with ⟨other, -⟩ | ⟨-, again⟩
    · cases other.symm.trans flight.isReporter.2
    · exact again
  have notSelf : ∀ other ∈ front ++ rest, entry.id ≠ other.id := by
    intro other isOne same
    rw [← removed] at isOne
    exact (mem_listRemove.mp isOne).2 same.symm
  have without : Chained (Leads address) (IsReporter address) none (front ++ rest) :=
    (chained.remove (leads_none flight.isReporter.not_stats)).mono fun other isOne isReporter =>
      ⟨isReporter, fun same => notSelf other isOne (Option.some.inj same)⟩
  have behind := next_single chained flight.isReporter.not_stats
  rw [successor, settle_periodic again]
  obtain ⟨front', leader, rest', placed⟩ := flight.placed
  rw [removed] at placed
  generalize iperfTimeAddUsecs entry.time entry.record.usecs = time at placed ⊢
  have active := flight.wellFormed.reschedule_active flight.isActive time
  rw [removed] at active
  have wellFormed := flight.wellFormed.reschedule entry.id time
  have kind : Kind address { entry with time } := flight.kinds entry flight.isActive
  have own := flight.toOwnTimers.listAdd wellFormed kind sublist active
  refine ⟨⟨own, ?_⟩, next_unmoved wellFormed (fun other isOne => ?_) ?_⟩
  · rw [active]
    exact @Placed.listAdd address { entry with time } _ _ _ _ _ _ placed rfl rfl none without
  · rw [active]
    exact mem_listAdd.mpr (.inr (List.mem_append_right _ isOne))
  · intro other isHead isReporter
    refine behind other isHead ⟨isReporter, fun same => ?_⟩
    have isRest : other ∈ rest := List.mem_of_mem_head? isHead
    exact notSelf other (List.mem_append_right _ isRest) (Option.some.inj same)

end ClientRun

end Iperf
