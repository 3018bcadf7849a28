import Mathlib.Data.List.TakeWhile
import Iperf.Timer.Machine
import Iperf.Timer.Run

/-! `tmr_run` when the procedures reset and cancel other timers. The successor of a timer is read
before its procedure is called, and the procedure may move it or take it away.
-/

namespace Iperf

open LinkedList TimerList

/-- What happens to timers during a run. A procedure resets or cancels, `tmr_run` fires and, after
a one-shot timer has fired, retires it.
-/
inductive TimerEvent where
  | fired (t : Nat)
  | reset (t : Nat)
  | cancelled (t : Nat)
  | retired (t : Nat)
deriving DecidableEq, Repr

/-- A run with the events so far. -/
structure Observed where
  machine : Machine
  log : List TimerEvent := []

namespace Machine

/-- What happens in a call. -/
def events (m : Machine) : TimerCall → List TimerEvent
  | .reset _ t => [.reset t]
  | .cancel t => [.cancelled t]
  | .round =>
      match m.place with
      | .loop now (some t) => if iperfTimeCompare (m.heap.time t) now > 0 then [] else [.fired t]
      | _ => []
  | .finish =>
      match m.place with
      | .proc _ t _ => if (m.heap.record t).periodic then [] else [.retired t]
      | _ => []
  | _ => []

/-- What `tmr_run` and procedures do that only reset and cancel other timers. -/
def ProcAllowed (m : Machine) : TimerCall → Prop
  | .reset _ t | .cancel t => m.heap.Active t ∧ m.place.Frees t ∧ m.place.isProc = true
  | .round => m.place.isLoop = true
  | .finish => m.place.isProc = true
  | _ => False

instance (m : Machine) (call : TimerCall) : Decidable (m.ProcAllowed call) :=
  match call with
  | .reset _ _ | .cancel _ => inferInstanceAs (Decidable (_ ∧ _))
  | .round | .finish => inferInstanceAs (Decidable (_ = _))
  | .create _ _ _ | .cleanup | .destroy | .run _ => .isFalse id

end Machine

/-- The nodes of a list that stand before the one that a pointer is to. -/
def passed (ids : List Nat) (next : Option Nat) : List Nat :=
  ids.takeWhile fun t => some t ≠ next

namespace Observed

def perform (o : Observed) (call : TimerCall) : Option Observed :=
  (o.machine.perform call).map fun machine => { machine, log := o.log ++ o.machine.events call }

def performAll (o : Observed) (calls : List TimerCall) : Option Observed := calls.foldlM perform o

/-- `tmr_run` before its first round. -/
def start (heap : TimerHeap) (now : IperfTime) : Observed :=
  { machine := { heap, place := .loop now heap.timers } }

/-- Every call is one of those above, and `Fit` holds when a procedure returns. -/
def ProcRun (Fit : Observed → Prop) (o : Observed) : List TimerCall → Prop
  | [] => True
  | call :: calls =>
      o.machine.ProcAllowed call
      ∧ (call = .finish → Fit o)
      ∧ match o.perform call with
        | none => True
        | some o' => o'.ProcRun Fit calls

/-- The timer was due when `tmr_run` was called and nothing has happened to it. -/
structure Waiting (heap : TimerHeap) (now : IperfTime) (log : List TimerEvent) (t : Nat)
    : Prop where
  active : heap.Active t
  due : heap.time t ≤ now
  notFired : .fired t ∉ log
  notReset : .reset t ∉ log
  notCancelled : .cancelled t ∉ log

/-- The successor that was read before the procedure was called is still active or not due, and no
timer that waits stands before it.
-/
def SuccessorFit (heap : TimerHeap) (o : Observed) : Prop :=
  match o.machine.place with
  | .proc now _ next =>
      (∀ t ∈ next, o.machine.heap.Active t ∨ now < o.machine.heap.time t)
      ∧ ∀ t ∈ passed o.machine.heap.activeList next, ¬ Waiting heap now o.log t
  | _ => True

/-- No timer is fired after it was cancelled, the lists are well formed, and when `tmr_run` has
returned it has fired every timer that was due and that no procedure has changed.
-/
structure Undisturbed (heap : TimerHeap) (now : IperfTime) (o : Observed) : Prop where
  noLateFiring : o.log.Pairwise fun earlier later =>
    ∀ t, earlier = .cancelled t ∨ earlier = .retired t → later ≠ .fired t
  lists : ∃ timers, o.machine.heap.Keeps timers
  allDue : o.machine.place = .outside → ∀ t, heap.Active t → heap.time t ≤ now →
    .reset t ∉ o.log → .cancelled t ∉ o.log → .fired t ∈ o.log

-----------------------------------------------------------------------------------------
-- The nodes before a pointer
-----------------------------------------------------------------------------------------

theorem passed_none (ids : List Nat) : passed ids none = ids :=
  List.takeWhile_eq_self_iff.mpr fun _ _ => rfl

theorem passed_notMem {ids : List Nat} {t : Nat} (notOne : t ∉ ids)
    : passed ids (some t) = ids := by
  refine List.takeWhile_eq_self_iff.mpr fun other isOther => decide_eq_true fun same => notOne ?_
  exact Option.some.inj same ▸ isOther

theorem passed_head (ids : List Nat) : passed ids ids.head? = [] := by
  unfold passed
  cases ids with
  | nil => rfl
  | cons head tail => simp

theorem passed_append {front : List Nat} {t : Nat} (others : ∀ other ∈ front, other ≠ t)
    (rest : List Nat)
    : passed (front ++ t :: rest) (some t) = front := by
  have isFront : ∀ other ∈ front, decide (some other ≠ some t) = true := fun other isOne =>
    decide_eq_true fun same => others other isOne (Option.some.inj same)
  unfold passed
  rw [List.takeWhile_append_of_pos isFront, List.takeWhile_cons_of_neg (by simp), List.append_nil]

-----------------------------------------------------------------------------------------
-- The invariant
-----------------------------------------------------------------------------------------

/-- What holds of the pointers of `tmr_run`; the nodes that they have passed do not wait. -/
def PlaceFit (heap : TimerHeap) (now : IperfTime) (o : Observed) (ids : List Nat) : Prop :=
  match o.machine.place with
  | .outside => ∀ t, ¬ Waiting heap now o.log t
  | .loop now' next =>
      now' = now ∧ (∀ t ∈ next, t ∈ ids ∨ now < o.machine.heap.time t)
      ∧ ∀ t ∈ passed ids next, ¬ Waiting heap now o.log t
  | .proc now' t next => now' = now ∧ t ∈ ids ∧ .fired t ∈ o.log ∧ ∀ other ∈ next, other ≠ t

structure Sound (heap : TimerHeap) (now : IperfTime) (o : Observed)
    (timers : Timers IperfTime TimerRecord) : Prop where
  keeps : o.machine.heap.Keeps timers
  noLateFiring : o.log.Pairwise fun earlier later =>
    ∀ t, earlier = .cancelled t ∨ earlier = .retired t → later ≠ .fired t
  gone : ∀ t, .cancelled t ∈ o.log ∨ .retired t ∈ o.log → t ∉ timers.active.map Entry.id
  waiting : ∀ t, Waiting heap now o.log t → ∃ e ∈ timers.active, e.id = t ∧ e.time ≤ now
  place : o.PlaceFit heap now (timers.active.map Entry.id)

variable {heap : TimerHeap} {now : IperfTime} {timers : Timers IperfTime TimerRecord}
  {machine : Machine} {log log' : List TimerEvent} {t : Nat}

theorem Waiting.mono (waiting : Waiting heap now log' t) (more : log ⊆ log')
    : Waiting heap now log t :=
  ⟨waiting.active, waiting.due, fun isOne => waiting.notFired (more isOne),
    fun isOne => waiting.notReset (more isOne), fun isOne => waiting.notCancelled (more isOne)⟩

/-- An event other than a firing never comes too late. -/
theorem noLateFiring_append {event : TimerEvent}
    (before : log.Pairwise fun earlier later =>
      ∀ t, earlier = .cancelled t ∨ earlier = .retired t → later ≠ .fired t)
    (timely : ∀ t, event = .fired t → .cancelled t ∉ log ∧ .retired t ∉ log)
    : (log ++ [event]).Pairwise fun earlier later =>
        ∀ t, earlier = .cancelled t ∨ earlier = .retired t → later ≠ .fired t := by
  refine List.pairwise_append.mpr ⟨before, List.pairwise_singleton _ _, ?_⟩
  intro earlier isEarlier later isLater t ended isFired
  obtain ⟨notCancelled, notRetired⟩ := timely t ((List.mem_singleton.mp isLater).symm.trans isFired)
  rcases ended with rfl | rfl
  · exact notCancelled isEarlier
  · exact notRetired isEarlier

/-- `tmr_run` before its first round has passed nothing. -/
theorem start_sound (keeps : heap.Keeps timers) (now : IperfTime)
    : Sound heap now (start heap now) timers := by
  have linked := keeps.holds.linked
  refine ⟨keeps, .nil, ?_, ?_, rfl, ?_, ?_⟩
  · rintro t (isOne | isOne) <;> exact (List.not_mem_nil isOne).elim
  · intro t waiting
    obtain ⟨e, isActive, rfl⟩ := List.mem_map.mp (linked.active_iff.mp waiting.active)
    exact ⟨e, isActive, rfl, keeps.holds.time isActive ▸ waiting.due⟩
  · intro t isFirst
    have isHead := linked.timers_eq.symm.trans isFirst
    exact .inl (List.mem_of_mem_head? isHead)
  · intro t isPassed
    have first := linked.timers_eq
    rw [show heap.timers = _ from first, passed_head] at isPassed
    exact (List.not_mem_nil isPassed).elim

-----------------------------------------------------------------------------------------
-- The steps
-----------------------------------------------------------------------------------------

/-- Where the loop ends nothing waits: what it has not passed is later. -/
theorem Sound.none_waiting {y : Option Nat} (keeps : machine.heap.Keeps timers)
    (waiting : ∀ t, Waiting heap now log t → ∃ e ∈ timers.active, e.id = t ∧ e.time ≤ now)
    (isPassed : ∀ t ∈ passed (timers.active.map Entry.id) y, ¬ Waiting heap now log t)
    (notDue : ∀ t ∈ y, now < machine.heap.time t)
    : ∀ t, ¬ Waiting heap now log t := by
  intro t isWaiting
  obtain ⟨e, isActive, rfl, due⟩ := waiting t isWaiting
  have isOne : e.id ∈ timers.active.map Entry.id := List.mem_map_of_mem isActive
  cases y with
  | none =>
      rw [passed_none] at isPassed
      exact isPassed e.id isOne isWaiting
  | some y =>
      by_cases isListed : y ∈ timers.active.map Entry.id
      · obtain ⟨next, isNext, rfl⟩ := List.mem_map.mp isListed
        obtain ⟨front, rest, parts⟩ := List.append_of_mem isNext
        have later := notDue next.id rfl
        rw [keeps.holds.time isNext] at later
        have sorted := keeps.ordered.sorted
        obtain ⟨isFront, -⟩ := keeps.holds.wellFormed.others parts
        rw [parts] at isActive sorted isPassed
        rw [List.map_append, List.map_cons, passed_append] at isPassed
        · rcases List.mem_append.mp isActive with before | behind
          · exact isPassed e.id (List.mem_map_of_mem before) isWaiting
          · have first := (List.pairwise_append.mp sorted).2.1
            rcases List.mem_cons.mp behind with rfl | isRest
            · exact not_lt.mpr due later
            · exact not_lt.mpr due (later.trans_le ((List.pairwise_cons.mp first).1 e isRest))
        · intro other isOther
          obtain ⟨entry, isEntry, rfl⟩ := List.mem_map.mp isOther
          exact isFront entry isEntry
      · rw [passed_notMem isListed] at isPassed
        exact isPassed e.id isOne isWaiting

/-- A round ends the run, after which nothing waits, or fires the next timer. -/
theorem Sound.round (sound : Sound heap now { machine, log } timers)
    (isLoop : machine.place.isLoop = true)
    : ∃ o', perform { machine, log } .round = some o' ∧ Sound heap now o' timers := by
  obtain ⟨heap', place⟩ := machine
  obtain ⟨keeps, noLate, gone, waiting, placeFit⟩ := sound
  cases place with
  | outside => cases isLoop
  | proc now' t next => cases isLoop
  | loop now' next =>
      obtain ⟨rfl, isNext, isPassed⟩ := placeFit
      have ends (notDue : ∀ t ∈ next, now' < heap'.time t)
          : Sound heap now' { machine := { heap := heap', place := .outside }, log } timers :=
        ⟨keeps, noLate, gone, waiting, none_waiting keeps waiting isPassed notDue⟩
      unfold perform Machine.perform Machine.events
      dsimp only
      cases next with
      | none =>
          refine ⟨_, rfl, ?_⟩
          rw [List.append_nil]
          exact ends (fun t absurd => by cases absurd)
      | some y =>
          dsimp only
          by_cases later : now' < heap'.time y
          · rw [if_pos (iperfTimeCompare_pos.mpr later), if_pos (iperfTimeCompare_pos.mpr later)]
            refine ⟨_, rfl, ?_⟩
            rw [List.append_nil]
            refine ends fun t isOne => ?_
            cases isOne
            exact later
          · have due : ¬ iperfTimeCompare (heap'.time y) now' > 0 := fun compared =>
              later (iperfTimeCompare_pos.mp compared)
            rw [if_neg due, if_neg due]
            have isActive := (isNext y rfl).resolve_right later
            refine ⟨_, rfl, keeps, ?_, ?_, ?_, rfl, isActive, ?_, ?_⟩
            · refine noLateFiring_append noLate fun t same => ?_
              obtain rfl := TimerEvent.fired.inj same
              exact ⟨fun isOne => gone y (.inl isOne) isActive,
                fun isOne => gone y (.inr isOne) isActive⟩
            · intro t ended
              refine gone t (ended.imp (fun isOne => ?_) fun isOne => ?_)
              · simpa using isOne
              · simpa using isOne
            · exact fun t isWaiting => waiting t (isWaiting.mono (List.subset_append_left _ _))
            · exact List.mem_append_right _ (List.mem_singleton_self _)
            · exact fun other isOther => (keeps.holds.linked.next_active isActive isOther).2

/-- A procedure has changed one timer, which waits no more. The others stay where they are. -/
theorem Sound.changed {timers' : Timers IperfTime TimerRecord} {machine' : Machine}
    {event : TimerEvent}
    {e : Entry IperfTime TimerRecord} (sound : Sound heap now { machine, log } timers)
    (isProc : machine.place.isProc = true) (free : machine.place.Frees e.id)
    (keeps : machine'.heap.Keeps timers') (place : machine'.place = machine.place)
    (others : ∀ other ∈ timers.active, other.id ≠ e.id → other ∈ timers'.active)
    (fewer : timers'.active.map Entry.id ⊆ timers.active.map Entry.id)
    (isEvent : event = .reset e.id
      ∨ event = .cancelled e.id ∧ e.id ∉ timers'.active.map Entry.id)
    : Sound heap now { machine := machine', log := log ++ [event] } timers' := by
  obtain ⟨-, noLate, gone, waiting, placeFit⟩ := sound
  have notWaiting : ¬ Waiting heap now (log ++ [event]) e.id := by
    intro isWaiting
    have isLast : event ∈ log ++ [event] := List.mem_append_right _ (List.mem_singleton_self _)
    rcases isEvent with rfl | ⟨rfl, -⟩
    · exact isWaiting.notReset isLast
    · exact isWaiting.notCancelled isLast
  refine ⟨keeps, noLateFiring_append noLate ?_, ?_, ?_, ?_⟩
  · rintro t rfl
    rcases isEvent with absurd | ⟨absurd, -⟩ <;> cases absurd
  · intro t ended isActive
    have before := fewer isActive
    rcases isEvent with rfl | ⟨rfl, notListed⟩
    · refine gone t (ended.imp (fun isOne => ?_) fun isOne => ?_) before
      · simpa using isOne
      · simpa using isOne
    · by_cases same : t = e.id
      · exact notListed (same ▸ isActive)
      · refine gone t (ended.imp (fun isOne => ?_) fun isOne => ?_) before
        · simpa [same] using isOne
        · simpa using isOne
  · intro t isWaiting
    obtain ⟨other, isOther, rfl, due⟩ := waiting t (isWaiting.mono (List.subset_append_left _ _))
    exact ⟨other, others other isOther fun same => notWaiting (same ▸ isWaiting), rfl, due⟩
  · obtain ⟨heap', current⟩ := machine
    cases current with
    | outside => cases isProc
    | loop now' next => cases isProc
    | proc now' t next =>
        obtain ⟨isNow, isFired, fired, different⟩ := placeFit
        unfold PlaceFit
        rw [show machine'.place = .proc now' t next from place]
        obtain ⟨other, isOther, rfl⟩ := List.mem_map.mp isFired
        refine ⟨isNow, ?_, List.mem_append_left _ fired, different⟩
        exact List.mem_map_of_mem (others other isOther fun same => free same.symm)

theorem Sound.entry_of_active (sound : Sound heap now { machine, log } timers)
    (isActive : machine.heap.Active t)
    : ∃ e ∈ timers.active, e.id = t :=
  List.mem_map.mp (sound.keeps.holds.linked.active_iff.mp isActive)

/-- A procedure resets a timer. -/
theorem Sound.reset (sound : Sound heap now { machine, log } timers) {time : IperfTime}
    (allowed : machine.ProcAllowed (.reset time t))
    : ∃ o' timers', perform { machine, log } (.reset time t) = some o'
      ∧ Sound heap now o' timers' := by
  obtain ⟨isActive, free, isProc⟩ := allowed
  obtain ⟨e, isOne, rfl⟩ := sound.entry_of_active isActive
  obtain ⟨heap', done, keeps, -⟩ := sound.keeps.tmrReset isOne time
  have mem {other : Entry IperfTime TimerRecord} := @Timers.mem_reschedule _ _ _ _
    (iperfTimeAddUsecs time e.record.usecs) sound.keeps.holds.wellFormed e isOne other
  unfold perform Machine.perform
  dsimp only
  rw [done]
  refine ⟨_, _, rfl, sound.changed isProc free keeps rfl ?_ ?_ (.inl rfl)⟩
  · exact fun other isOther different => mem.mpr (.inr ⟨isOther, different⟩)
  · intro id isId
    obtain ⟨other, isOther, rfl⟩ := List.mem_map.mp isId
    rcases mem.mp isOther with rfl | ⟨before, -⟩
    · exact (List.mem_map_of_mem isOne : e.id ∈ _)
    · exact List.mem_map_of_mem before

/-- A procedure cancels a timer. -/
theorem Sound.cancel (sound : Sound heap now { machine, log } timers)
    (allowed : machine.ProcAllowed (.cancel t))
    : ∃ o' timers', perform { machine, log } (.cancel t) = some o' ∧ Sound heap now o' timers' := by
  obtain ⟨isActive, free, isProc⟩ := allowed
  obtain ⟨e, isOne, rfl⟩ := sound.entry_of_active isActive
  obtain ⟨keeps, -, -⟩ := sound.keeps.tmrCancel isOne
  refine ⟨_, _, rfl, sound.changed isProc free keeps rfl ?_ ?_ (.inr ⟨rfl, ?_⟩)⟩
  · exact fun other isOther different => Timers.mem_cancel.mpr ⟨isOther, different⟩
  · intro id isId
    obtain ⟨other, isOther, rfl⟩ := List.mem_map.mp isId
    exact List.mem_map_of_mem (Timers.mem_cancel.mp isOther).1
  · intro isId
    obtain ⟨other, isOther, same⟩ := List.mem_map.mp isId
    exact (Timers.mem_cancel.mp isOther).2 same

/-- A fired timer leaves the order of the others as it was. -/
theorem settle_around (wellFormed : timers.WellFormed) {e other : Entry IperfTime TimerRecord}
    (isActive : e ∈ timers.active) {front rest : List (Entry IperfTime TimerRecord)}
    (parts : timers.active = front ++ other :: rest) (different : other.id ≠ e.id)
    : ∃ front' rest', (settle timers e).active = front' ++ other :: rest'
      ∧ ∀ before ∈ front', before.id = e.id ∨ before ∈ front := by
  have removed : listRemove e.id timers.active
      = listRemove e.id front ++ other :: listRemove e.id rest := by
    rw [parts]
    exact listRemove_around different front rest
  by_cases again : e.record.periodic = true
  · obtain ⟨front', rest', added, before⟩ :=
      listAdd_around (rescheduled e) other (listRemove e.id front) (listRemove e.id rest)
    rw [settle_periodic again, wellFormed.reschedule_active isActive, removed]
    refine ⟨front', rest', added, fun one isOne => ?_⟩
    rcases before one isOne with rfl | isFront
    · exact .inl rfl
    · exact .inr (mem_listRemove.mp isFront).1
  · rw [settle_oneShot again]
    exact ⟨_, _, removed, fun one isOne => .inr (mem_listRemove.mp isOne).1⟩

theorem passed_active (wellFormed : timers.WellFormed) {other : Entry IperfTime TimerRecord}
    {front rest : List (Entry IperfTime TimerRecord)}
    (parts : timers.active = front ++ other :: rest)
    : passed (timers.active.map Entry.id) (some other.id) = front.map Entry.id := by
  rw [parts, List.map_append, List.map_cons]
  refine passed_append (fun id isId => ?_) _
  obtain ⟨entry, isEntry, rfl⟩ := List.mem_map.mp isId
  exact (wellFormed.others parts).1 entry isEntry

theorem ids_of_settle (wellFormed : timers.WellFormed) {e : Entry IperfTime TimerRecord}
    (isActive : e ∈ timers.active)
    : (settle timers e).active.map Entry.id ⊆ timers.active.map Entry.id := by
  intro id isId
  obtain ⟨other, isOther, rfl⟩ := List.mem_map.mp isId
  rcases (mem_settle wellFormed isActive).mp isOther with ⟨-, rfl⟩ | ⟨before, -⟩
  · exact (List.mem_map_of_mem isActive : e.id ∈ _)
  · exact List.mem_map_of_mem before

/-- Only the fired timer itself can come to stand before the successor. -/
theorem mem_passed_settle (wellFormed : timers.WellFormed) {e : Entry IperfTime TimerRecord}
    (isActive : e ∈ timers.active) (wellFormed' : (settle timers e).WellFormed) {next : Option Nat}
    (different : ∀ other ∈ next, other ≠ e.id)
    (isPassed : t ∈ passed ((settle timers e).active.map Entry.id) next)
    : t = e.id ∨ t ∈ passed (timers.active.map Entry.id) next := by
  have isOld := ids_of_settle wellFormed isActive (List.takeWhile_subset _ isPassed)
  cases next with
  | none =>
      rw [passed_none]
      exact .inr isOld
  | some y =>
      by_cases isListed : y ∈ timers.active.map Entry.id
      · obtain ⟨other, isOther, rfl⟩ := List.mem_map.mp isListed
        obtain ⟨front, rest, parts⟩ := List.append_of_mem isOther
        obtain ⟨front', rest', parts', order⟩ :=
          settle_around wellFormed isActive parts (different _ rfl)
        rw [passed_active wellFormed' parts'] at isPassed
        rw [passed_active wellFormed parts]
        obtain ⟨one, isOne, rfl⟩ := List.mem_map.mp isPassed
        exact (order one isOne).imp_right List.mem_map_of_mem
      · rw [passed_notMem isListed]
        exact .inr isOld

/-- A procedure has returned, and the successor still leads to all that wait. -/
theorem Sound.finish (sound : Sound heap now { machine, log } timers)
    (isProc : machine.place.isProc = true) (fit : SuccessorFit heap { machine, log })
    : ∃ o' timers', perform { machine, log } .finish = some o' ∧ Sound heap now o' timers' := by
  obtain ⟨heap', place⟩ := machine
  obtain ⟨keeps, noLate, gone, waiting, placeFit⟩ := sound
  cases place with
  | outside => cases isProc
  | loop now' next => cases isProc
  | proc now' t next =>
      obtain ⟨rfl, isFired, fired, different⟩ := placeFit
      obtain ⟨e, isActive, rfl⟩ := List.mem_map.mp isFired
      obtain ⟨heap'', settled, keeps', touches⟩ := keeps.settle isActive
      obtain ⟨successor, before⟩ := fit
      have wellFormed := keeps.holds.wellFormed
      have linked := keeps.holds.linked
      have fewer := ids_of_settle wellFormed isActive
      have notFired : ∀ t, Waiting heap now' log t → t ≠ e.id := fun t isWaiting same =>
        isWaiting.notFired (same ▸ fired)
      rw [linked.activeList_eq] at before
      have after (log' : List TimerEvent) (more : log ⊆ log')
          (noLate' : log'.Pairwise fun earlier later =>
            ∀ t, earlier = .cancelled t ∨ earlier = .retired t → later ≠ .fired t)
          (gone' : ∀ t, .cancelled t ∈ log' ∨ .retired t ∈ log' →
            t ∉ (settle timers e).active.map Entry.id)
          : Sound heap now' { machine := { heap := heap'', place := .loop now' next }, log := log' }
              (settle timers e) := by
        refine ⟨keeps', noLate', gone', ?_, rfl, ?_, ?_⟩
        · intro t isWaiting
          have isBefore := isWaiting.mono more
          obtain ⟨other, isOther, rfl, due⟩ := waiting t isBefore
          refine ⟨other, ?_, rfl, due⟩
          exact (mem_settle wellFormed isActive).mpr (.inr ⟨isOther, notFired _ isBefore⟩)
        · intro y isNext
          have notSame := different y isNext
          rcases successor y isNext with stillActive | later
          · exact .inl (Machine.ids_settle wellFormed (linked.active_iff.mp stillActive) notSame)
          · have sameTime : heap''.time y = heap'.time y :=
              congrArg Entry.time (touches.entry y notSame)
            exact .inr (sameTime ▸ later)
        · intro t isPassed isWaiting
          have isBefore := isWaiting.mono more
          rcases mem_passed_settle wellFormed isActive keeps'.holds.wellFormed different isPassed
            with
            same | isOld
          · exact notFired t isBefore same
          · exact before t isOld isBefore
      unfold perform Machine.perform Machine.events
      dsimp only
      rw [settled, keeps.holds.record isActive]
      refine ⟨_, settle timers e, rfl, ?_⟩
      by_cases again : e.record.periodic = true
      · rw [if_pos again, List.append_nil]
        exact after log (List.Subset.refl _) noLate fun t ended isId => gone t ended (fewer isId)
      · rw [if_neg again]
        refine after _ (List.subset_append_left _ _) (noLateFiring_append noLate nofun) ?_
        intro t ended isId
        by_cases same : t = e.id
        · obtain ⟨other, isOther, rfl⟩ := List.mem_map.mp isId
          rcases (mem_settle wellFormed isActive).mp isOther with ⟨periodic, -⟩ | ⟨-, notSame⟩
          · exact again periodic
          · exact notSame same
        · refine gone t (ended.imp (fun isOne => ?_) fun isOne => ?_) (fewer isId)
          · simpa using isOne
          · simpa [same] using isOne

-----------------------------------------------------------------------------------------
-- Whole runs
-----------------------------------------------------------------------------------------

theorem Sound.perform (sound : Sound heap now { machine, log } timers) {call : TimerCall}
    (allowed : machine.ProcAllowed call)
    (fit : call = .finish → SuccessorFit heap { machine, log })
    : ∃ o' timers', Observed.perform { machine, log } call = some o'
      ∧ Sound heap now o' timers' := by
  cases call with
  | reset time t => exact sound.reset allowed
  | cancel t => exact sound.cancel allowed
  | finish => exact sound.finish allowed (fit rfl)
  | round =>
      obtain ⟨o', done, sound'⟩ := sound.round allowed
      exact ⟨o', timers, done, sound'⟩
  | create malloc time record => exact allowed.elim
  | cleanup => exact allowed.elim
  | destroy => exact allowed.elim
  | run time => exact allowed.elim

theorem Sound.performAll {o : Observed} (sound : Sound heap now o timers) {calls : List TimerCall}
    (run : o.ProcRun (SuccessorFit heap) calls)
    : ∃ o' timers', o.performAll calls = some o' ∧ Sound heap now o' timers' := by
  induction calls generalizing o timers with
  | nil => exact ⟨o, timers, rfl, sound⟩
  | cons call calls ih =>
      obtain ⟨allowed, fit, others⟩ := run
      obtain ⟨o', timers', done, sound'⟩ := sound.perform allowed fit
      rw [done] at others
      obtain ⟨o'', timers'', rest, sound''⟩ := ih sound' others
      refine ⟨o'', timers'', ?_, sound''⟩
      unfold Observed.performAll
      rw [List.foldlM_cons, done]
      exact rest

theorem Sound.undisturbed {o : Observed} (sound : Sound heap now o timers)
    : Undisturbed heap now o := by
  refine ⟨sound.noLateFiring, ⟨timers, sound.keeps⟩, ?_⟩
  intro returned t active due notReset notCancelled
  have place := sound.place
  unfold PlaceFit at place
  rw [returned] at place
  by_contra notFired
  exact place t ⟨active, due, notFired, notReset, notCancelled⟩

/-- As long as the successor that `tmr_run` has read leads to all timers that wait whenever a
procedure returns, no cancelled timer is fired, no list is broken and no timer is left out.
-/
theorem tmrRun_undisturbed (keeps : heap.Keeps timers) (now : IperfTime) {calls : List TimerCall}
    (run : (start heap now).ProcRun (SuccessorFit heap) calls)
    : ∃ o, (start heap now).performAll calls = some o ∧ Undisturbed heap now o := by
  obtain ⟨o, timers', done, sound⟩ := (start_sound keeps now).performAll run
  exact ⟨o, done, sound.undisturbed⟩

-----------------------------------------------------------------------------------------
-- Runs on three timers that are due
-----------------------------------------------------------------------------------------

instance (heap : TimerHeap) (now : IperfTime) (log : List TimerEvent) (t : Nat)
    : Decidable (Waiting heap now log t) :=
  decidable_of_iff
    (heap.Active t ∧ heap.time t ≤ now ∧ .fired t ∉ log ∧ .reset t ∉ log ∧ .cancelled t ∉ log)
    ⟨fun ⟨active, due, fired, reset, cancelled⟩ => ⟨active, due, fired, reset, cancelled⟩,
      fun ⟨active, due, fired, reset, cancelled⟩ => ⟨active, due, fired, reset, cancelled⟩⟩

instance (heap : TimerHeap) (o : Observed) : Decidable (SuccessorFit heap o) :=
  match same : o.machine.place with
  | .outside => .isTrue (by rw [SuccessorFit, same]; trivial)
  | .loop _ _ => .isTrue (by rw [SuccessorFit, same]; trivial)
  | .proc now _ next =>
      decidable_of_iff
        ((∀ t ∈ next, o.machine.heap.Active t ∨ now < o.machine.heap.time t)
          ∧ ∀ t ∈ passed o.machine.heap.activeList next, ¬ Waiting heap now o.log t)
        (by rw [SuccessorFit, same])

instance decidableProcRun (Fit : Observed → Prop) [DecidablePred Fit] (o : Observed)
    : (calls : List TimerCall) → Decidable (o.ProcRun Fit calls)
  | [] => .isTrue trivial
  | call :: calls =>
      have : Decidable (match o.perform call with
          | none => True
          | some o' => o'.ProcRun Fit calls) :=
        match o.perform call with
        | none => .isTrue trivial
        | some o' => o'.decidableProcRun Fit calls
      have : Decidable (call = .finish → Fit o) :=
        match call with
        | .finish => decidable_of_iff (Fit o) ⟨fun fit _ => fit, fun all => all rfl⟩
        | .create _ _ _ | .reset _ _ | .cancel _ | .cleanup | .destroy | .run _ | .round =>
            .isTrue nofun
      inferInstanceAs (Decidable (_ ∧ _ ∧ _))

/-- A one-shot timer and a periodic one for the second second, and a one-shot one for the third. -/
def dueCalls : List TimerCall :=
  let second (secs : UInt32) : IperfTime := { secs, usecs := 0 }
  let timer (proc : TimerField) (periodic : Bool) : TimerRecord :=
    { proc, clientData := 0, usecs := 1000000, periodic }
  [.create (some 0) (second 1) (timer .omitTimer false),
    .create (some 1) (second 1) (timer .statsTimer true),
    .create (some 2) (second 2) (timer .timer false)]

def dueHeap : TimerHeap :=
  (((Machine.initial unwritten).performAll dueCalls).map Machine.heap).getD { memory := unwritten }

theorem dueHeap_keeps : ∃ timers, dueHeap.Keeps timers := by
  have allowed : (Machine.initial unwritten).AllowedRun dueCalls := by decide +kernel
  obtain ⟨m, timers, done, sound⟩ := (Machine.initial_sound unwritten).performAll allowed
  refine ⟨timers, ?_⟩
  unfold dueHeap
  rw [done]
  exact sound.keeps

theorem tmrRun_undisturbed_reset
    : ∃ o, (start dueHeap { secs := 4, usecs := 0 }).performAll
          [.round, .reset { secs := 4, usecs := 0 } 2, .finish, .round, .finish, .round] = some o
        ∧ Undisturbed dueHeap { secs := 4, usecs := 0 } o := by
  obtain ⟨timers, keeps⟩ := dueHeap_keeps
  exact tmrRun_undisturbed keeps _ (by decide +kernel)

/-- A procedure that cancels the successor has it fired all the same; one that resets it to a time
that has not come hides the timer behind it.
-/
theorem tmrRun_disturbs
    : (∃ timers, dueHeap.Keeps timers)
      ∧ (∃ calls o, (start dueHeap { secs := 4, usecs := 0 }).ProcRun (fun _ => True) calls
        ∧ (start dueHeap { secs := 4, usecs := 0 }).performAll calls = some o
        ∧ o.log = [.fired 0, .cancelled 1, .retired 0, .fired 1]
        ∧ ¬ Undisturbed dueHeap { secs := 4, usecs := 0 } o)
      ∧ ∃ calls o, (start dueHeap { secs := 4, usecs := 0 }).ProcRun (fun _ => True) calls
        ∧ (start dueHeap { secs := 4, usecs := 0 }).performAll calls = some o
        ∧ o.log = [.fired 0, .reset 1, .retired 0] ∧ o.machine.place = .outside
        ∧ dueHeap.Active 2 ∧ dueHeap.time 2 ≤ { secs := 4, usecs := 0 }
        ∧ ¬ Undisturbed dueHeap { secs := 4, usecs := 0 } o := by
  have observed (calls : List TimerCall) (log : List TimerEvent) (place : Place)
      (same : ((start dueHeap { secs := 4, usecs := 0 }).performAll calls).map
        (fun o => (o.log, o.machine.place)) = some (log, place))
      : ∃ o, (start dueHeap { secs := 4, usecs := 0 }).performAll calls = some o ∧ o.log = log
        ∧ o.machine.place = place := by
    obtain ⟨o, done, both⟩ := Option.map_eq_some_iff.mp same
    exact ⟨o, done, congrArg Prod.fst both, congrArg Prod.snd both⟩
  refine ⟨dueHeap_keeps, ?_, ?_⟩
  · obtain ⟨o, done, log, -⟩ := observed [.round, .cancel 1, .finish, .round]
      [.fired 0, .cancelled 1, .retired 0, .fired 1] (.proc { secs := 4, usecs := 0 } 1 none)
      (by decide +kernel)
    refine ⟨_, o, by decide +kernel, done, log, fun undisturbed => ?_⟩
    have late := undisturbed.noLateFiring
    rw [log] at late
    have after := (List.pairwise_cons.mp (List.pairwise_cons.mp late).2).1 (.fired 1) (by decide)
    exact after 1 (.inl rfl) rfl
  · obtain ⟨o, done, log, place⟩ := observed
      [.round, .reset { secs := 4, usecs := 0 } 1, .finish, .round]
      [.fired 0, .reset 1, .retired 0] .outside (by decide +kernel)
    have active : dueHeap.Active 2 := by decide +kernel
    have due : dueHeap.time 2 ≤ { secs := 4, usecs := 0 } := by decide +kernel
    refine ⟨_, o, by decide +kernel, done, log, place, active, due, fun undisturbed => ?_⟩
    have fired := undisturbed.allDue place 2 active due
    rw [log] at fired
    exact absurd (fired (by decide) (by decide)) (by decide)

end Observed

end Iperf
