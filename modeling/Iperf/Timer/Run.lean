import Mathlib.Tactic.Ring
import Iperf.Timer.Refinement

/-! `tmr_run` when the procedures leave the timers alone: it ends, and it has fired every timer
that was due.
-/

namespace Iperf

open LinkedList TimerList

/-- A procedure was called: for which timer, and when that was scheduled. -/
structure Firing where
  t : Nat
  time : IperfTime
deriving DecidableEq

namespace TimerHeap

/-- The loop of `tmr_run` from a node on, with the timers that it fires, or `none` when it goes
round more often than that.
-/
def tmrRunFrom (now : IperfTime) : Nat → Option Nat → TimerHeap → Option (TimerHeap × List Firing)
  | _, none, heap => some (heap, [])
  | 0, some _, _ => none
  | rounds + 1, some t, heap =>
      let next := heap.next t
      if iperfTimeCompare (heap.time t) now > 0 then some (heap, [])
      else do
        let settled ← heap.settle t
        let (heap', fired) ← tmrRunFrom now rounds next settled
        some (heap', { t, time := heap.time t } :: fired)

/-- `tmr_run`, with procedures that do not change the timers. -/
def tmrRun (heap : TimerHeap) (now : IperfTime) (rounds : Nat) : Option (TimerHeap × List Firing) :=
  tmrRunFrom now rounds heap.timers heap

end TimerHeap

-----------------------------------------------------------------------------------------
-- One firing
-----------------------------------------------------------------------------------------

/-- How often a timer was fired. -/
def timesFired (fired : List Firing) (t : Nat) : Nat := (fired.map Firing.t).count t

/-- The periods are positive, and no timer is scheduled past the last second that can be written
while it catches up.
-/
structure CanCatchUp (now : IperfTime) (e : Entry IperfTime TimerRecord) : Prop where
  positive : e.record.periodic = true → 0 < e.record.usecs.toInt64
  fits : e.record.periodic = true →
    ∀ k, iperfTimeInUsecs e.time + k * e.record.usecs.toNat ≤ iperfTimeInUsecs now →
      iperfTimeInUsecs e.time + (k + 1) * e.record.usecs.toNat < 2 ^ 32 * 1000000

/-- The timer as it is scheduled after it was fired. -/
def rescheduled (e : Entry IperfTime TimerRecord) : Entry IperfTime TimerRecord :=
  { e with time := iperfTimeAddUsecs e.time e.record.usecs }

/-- How far a timer is behind, in microseconds that are counted from one. -/
def lag (now : IperfTime) (e : Entry IperfTime TimerRecord) : Nat :=
  iperfTimeInUsecs now + 1 - iperfTimeInUsecs e.time

variable {now : IperfTime} {e : Entry IperfTime TimerRecord}

theorem CanCatchUp.inUsecs_rescheduled (able : CanCatchUp now e) (normal : e.time.Normalised)
    (again : e.record.periodic = true) (due : iperfTimeInUsecs e.time ≤ iperfTimeInUsecs now)
    : iperfTimeInUsecs (rescheduled e).time = iperfTimeInUsecs e.time + e.record.usecs.toNat := by
  have fits := able.fits again 0 (by omega)
  refine iperfTimeAddUsecs_inUsecs normal ?_
  omega

theorem CanCatchUp.rescheduled (able : CanCatchUp now e) (normal : e.time.Normalised)
    (due : iperfTimeInUsecs e.time ≤ iperfTimeInUsecs now)
    : CanCatchUp now (rescheduled e) := by
  refine ⟨able.positive, fun again k notYet => ?_⟩
  have moved := able.inUsecs_rescheduled normal again due
  have fits := able.fits again (k + 1)
  rw [moved] at notYet ⊢
  have isSame : (Iperf.rescheduled e).record.usecs = e.record.usecs := rfl
  rw [isSame] at notYet ⊢
  have first : iperfTimeInUsecs e.time + e.record.usecs.toNat + k * e.record.usecs.toNat
      = iperfTimeInUsecs e.time + (k + 1) * e.record.usecs.toNat := by ring
  have second : iperfTimeInUsecs e.time + e.record.usecs.toNat + (k + 1) * e.record.usecs.toNat
      = iperfTimeInUsecs e.time + (k + 1 + 1) * e.record.usecs.toNat := by ring
  rw [first] at notYet
  rw [second]
  exact fits notYet

theorem usecs_pos {usecs : UInt64} (positive : 0 < usecs.toInt64) : 0 < usecs.toNat := by
  rcases Nat.eq_zero_or_pos usecs.toNat with zero | some
  · have : usecs = 0 := UInt64.toNat_inj.mp zero
    subst this
    exact absurd positive (by decide)
  · exact some

theorem CanCatchUp.later (able : CanCatchUp now e) (normal : e.time.Normalised)
    (again : e.record.periodic = true) (due : iperfTimeInUsecs e.time ≤ iperfTimeInUsecs now)
    : iperfTimeInUsecs e.time < iperfTimeInUsecs (Iperf.rescheduled e).time := by
  have moved := able.inUsecs_rescheduled normal again due
  have positive := usecs_pos (able.positive again)
  omega

-----------------------------------------------------------------------------------------
-- The list after a firing
-----------------------------------------------------------------------------------------

variable {timers timers' : Timers IperfTime TimerRecord}
  {front rest : List (Entry IperfTime TimerRecord)}

theorem mem_settle (wellFormed : timers.WellFormed) (isActive : e ∈ timers.active)
    {other : Entry IperfTime TimerRecord}
    : other ∈ (settle timers e).active
      ↔ (e.record.periodic = true ∧ other = rescheduled e)
        ∨ (other ∈ timers.active ∧ other.id ≠ e.id) := by
  by_cases again : e.record.periodic = true
  · rw [settle_periodic again, Timers.mem_reschedule wellFormed isActive]
    exact or_congr_left ⟨fun same => ⟨again, same⟩, And.right⟩
  · rw [settle_oneShot again, Timers.mem_cancel]
    exact ⟨.inr, fun either => either.resolve_left fun both => again both.1⟩

theorem free_settle (timers : Timers IperfTime TimerRecord) (e : Entry IperfTime TimerRecord)
    : timers.free ⊆ (settle timers e).free
      ∧ (¬ e.record.periodic = true → e.id ∈ (settle timers e).free) := by
  by_cases again : e.record.periodic = true
  · rw [settle_periodic again]
    refine ⟨?_, fun oneShot => absurd again oneShot⟩
    unfold Timers.reschedule
    split <;> exact List.Subset.refl _
  · rw [settle_oneShot again]
    exact ⟨List.subset_cons_self _ _, fun _ => List.mem_cons_self⟩

/-- What the loop has passed and what it still comes to. The next node is the one that was next,
also when the fired timer is put right before it.
-/
theorem settle_split (wellFormed : timers.WellFormed) (sorted : Sorted timers.active)
    (parts : timers.active = front ++ e :: rest)
    (later : e.record.periodic = true → e.time ≤ (rescheduled e).time)
    : ∃ front' rest', (settle timers e).active = front' ++ rest' ∧ rest'.head? = rest.head?
      ∧ rest ⊆ rest' := by
  have isActive : e ∈ timers.active := parts ▸ List.mem_append_right _ List.mem_cons_self
  have removed := wellFormed.listRemove_eq parts
  by_cases again : e.record.periodic = true
  · rw [settle_periodic again, wellFormed.reschedule_active isActive, removed]
    have notLater : ∀ other ∈ front, other.time ≤ (rescheduled e).time := by
      intro other isFront
      rw [parts] at sorted
      have before := (List.pairwise_append.mp sorted).2.2 other isFront e List.mem_cons_self
      exact before.trans (later again)
    have added : listAdd (rescheduled e) (front ++ rest) = front ++ listAdd (rescheduled e) rest :=
      listAdd_append notLater rest
    change ∃ front' rest', listAdd (rescheduled e) (front ++ rest) = front' ++ rest' ∧ _
    rw [added]
    cases rest with
    | nil =>
        exact ⟨front ++ [rescheduled e], [], by rw [List.append_nil]; rfl, rfl, List.Subset.refl _⟩
    | cons next tail =>
        by_cases isBefore : (rescheduled e).time < next.time
        · refine ⟨front ++ [rescheduled e], next :: tail, ?_, rfl, List.Subset.refl _⟩
          rw [List.append_assoc]
          exact congrArg (front ++ ·) (if_pos isBefore)
        · refine ⟨front, next :: listAdd (rescheduled e) tail, ?_, rfl, ?_⟩
          · exact congrArg (front ++ ·) (if_neg isBefore)
          · intro other isOne
            rcases List.mem_cons.mp isOne with rfl | isTail
            · exact List.mem_cons_self
            · exact List.mem_cons_of_mem _ (mem_listAdd.mpr (.inr isTail))
  · rw [settle_oneShot again]
    exact ⟨front, rest, removed, rfl, List.Subset.refl _⟩

-----------------------------------------------------------------------------------------
-- A whole run
-----------------------------------------------------------------------------------------

/-- What the loop has done from the point on where `rest` was still before it. -/
structure Ran (now : IperfTime) (timers : Timers IperfTime TimerRecord)
    (rest : List (Entry IperfTime TimerRecord)) (timers' : Timers IperfTime TimerRecord)
    (fired : List Firing) : Prop where
  all : ∀ e ∈ rest, e.time ≤ now → e.id ∈ fired.map Firing.t
  sorted : fired.Pairwise fun first later => first.time ≤ later.time
  start : ∀ firing ∈ fired, ∃ next ∈ rest.head?, next.time ≤ firing.time
  due : ∀ firing ∈ fired, firing.time ≤ now
  known : ∀ firing ∈ fired, firing.t ∈ timers.active.map Entry.id
  free : timers.free ⊆ timers'.free
  oneShot : ∀ e ∈ timers.active, ¬ e.record.periodic = true → e.id ∈ fired.map Firing.t →
    timesFired fired e.id = 1 ∧ e.id ∈ timers'.free
  periodic : ∀ e ∈ timers.active, e.record.periodic = true →
    ∃ e' ∈ timers'.active, e'.id = e.id ∧ e'.record = e.record
      ∧ iperfTimeInUsecs e'.time
        = iperfTimeInUsecs e.time + timesFired fired e.id * e.record.usecs.toNat

variable {fired : List Firing}

/-- A loop that ends here has fired nothing more. -/
theorem Ran.nil (notDue : ∀ e ∈ rest, ¬ e.time ≤ now) : Ran now timers rest timers [] := by
  refine ⟨fun e isOne due => absurd due (notDue e isOne), .nil, ?_, ?_, ?_, List.Subset.refl _, ?_,
    ?_⟩
  · exact fun _ isOne => (List.not_mem_nil isOne).elim
  · exact fun _ isOne => (List.not_mem_nil isOne).elim
  · exact fun _ isOne => (List.not_mem_nil isOne).elim
  · exact fun _ _ _ isOne => (List.not_mem_nil isOne).elim
  · intro e isActive _
    refine ⟨e, isActive, rfl, rfl, ?_⟩
    simp [timesFired]

theorem timesFired_self (fired : List Firing) (t : Nat) (time : IperfTime)
    : timesFired ({ t, time } :: fired) t = timesFired fired t + 1 :=
  List.count_cons_self

theorem timesFired_of_ne (fired : List Firing) {t other : Nat} (different : other ≠ t)
    (time : IperfTime)
    : timesFired ({ t, time } :: fired) other = timesFired fired other :=
  List.count_cons_of_ne different.symm

/-- One firing before a run. -/
theorem Ran.fire {rest' : List (Entry IperfTime TimerRecord)} (wellFormed : timers.WellFormed)
    (sorted : Sorted timers.active) (parts : timers.active = front ++ e :: rest)
    (normal : e.time.Normalised) (able : CanCatchUp now e) (due : e.time ≤ now)
    (inUsecs : iperfTimeInUsecs e.time ≤ iperfTimeInUsecs now)
    (sameNext : rest'.head? = rest.head?) (more : rest ⊆ rest')
    (ran : Ran now (settle timers e) rest' timers' fired)
    : Ran now timers (e :: rest) timers' ({ t := e.id, time := e.time } :: fired) := by
  have isActive : e ∈ timers.active := parts ▸ List.mem_append_right _ List.mem_cons_self
  have mem {other : Entry IperfTime TimerRecord} := @mem_settle e timers wellFormed isActive other
  obtain ⟨moreFree, isFree⟩ := free_settle timers e
  have first : ∀ firing ∈ fired, e.time ≤ firing.time := by
    intro firing isOne
    obtain ⟨next, isNext, before⟩ := ran.start firing isOne
    rw [sameNext] at isNext
    rw [parts] at sorted
    have behind := (List.pairwise_cons.mp (List.pairwise_append.mp sorted).2.1).1
    exact (behind next (List.mem_of_mem_head? isNext)).trans before
  refine ⟨?_, List.pairwise_cons.mpr ⟨first, ran.sorted⟩, ?_, ?_, ?_,
    List.Subset.trans moreFree ran.free,
    ?_, ?_⟩
  · intro other isOne isDue
    rcases List.mem_cons.mp isOne with rfl | isRest
    · exact List.mem_cons_self
    · exact List.mem_cons_of_mem _ (ran.all other (more isRest) isDue)
  · intro firing isOne
    refine ⟨e, rfl, ?_⟩
    rcases List.mem_cons.mp isOne with rfl | later
    · exact le_refl _
    · exact first firing later
  · intro firing isOne
    rcases List.mem_cons.mp isOne with rfl | later
    · exact due
    · exact ran.due firing later
  · intro firing isOne
    rcases List.mem_cons.mp isOne with rfl | later
    · exact List.mem_map_of_mem isActive
    · obtain ⟨other, isOther, same⟩ := List.mem_map.mp (ran.known firing later)
      rw [← same]
      rcases mem.mp isOther with ⟨-, rfl⟩ | ⟨before, -⟩
      · exact (List.mem_map_of_mem isActive : e.id ∈ _)
      · exact List.mem_map_of_mem before
  · intro other isOther single isFired
    by_cases same : other.id = e.id
    · obtain rfl := wellFormed.eq_of_id isOther isActive same
      have gone : timesFired fired other.id = 0 := by
        refine List.count_eq_zero.mpr fun again => ?_
        obtain ⟨firing, isOne, isIt⟩ := List.mem_map.mp again
        obtain ⟨node, isNode, sameNode⟩ := List.mem_map.mp (ran.known firing isOne)
        rcases mem.mp isNode with ⟨again, -⟩ | ⟨-, different⟩
        · exact single again
        · exact different (sameNode.trans isIt)
      rw [timesFired_self, gone]
      exact ⟨rfl, ran.free (isFree single)⟩
    · rw [timesFired_of_ne _ same]
      refine ran.oneShot other (mem.mpr (.inr ⟨isOther, same⟩)) single ?_
      exact (List.mem_cons.mp isFired).resolve_left same
  · intro other isOther again
    by_cases same : other.id = e.id
    · obtain rfl := wellFormed.eq_of_id isOther isActive same
      obtain ⟨last, isLast, sameId, record, time⟩ :=
        ran.periodic (rescheduled other) (mem.mpr (.inl ⟨again, rfl⟩)) again
      refine ⟨last, isLast, sameId, record, ?_⟩
      have moved := able.inUsecs_rescheduled normal again inUsecs
      have sameUsecs : (rescheduled other).record.usecs = other.record.usecs := rfl
      have sameT : (rescheduled other).id = other.id := rfl
      rw [time, moved, timesFired_self, sameUsecs, sameT]
      ring
    · rw [timesFired_of_ne _ same]
      exact ran.periodic other (mem.mpr (.inr ⟨isOther, same⟩)) again

/-- What all timers together are behind gets less with every firing. -/
theorem lag_settle (wellFormed : timers.WellFormed) (parts : timers.active = front ++ e :: rest)
    (able : CanCatchUp now e) (normal : e.time.Normalised)
    (due : iperfTimeInUsecs e.time ≤ iperfTimeInUsecs now)
    : ((settle timers e).active.map (lag now)).sum < (timers.active.map (lag now)).sum := by
  have isActive : e ∈ timers.active := parts ▸ List.mem_append_right _ List.mem_cons_self
  have removed := wellFormed.listRemove_eq parts
  have before : (timers.active.map (lag now)).sum
      = lag now e + ((front ++ rest).map (lag now)).sum := by
    rw [parts, (List.perm_middle.map (lag now)).sum_nat, List.map_cons, List.sum_cons]
  rw [before]
  by_cases again : e.record.periodic = true
  · have added : ((settle timers e).active.map (lag now)).sum
        = lag now (rescheduled e) + ((front ++ rest).map (lag now)).sum := by
      rw [settle_periodic again, wellFormed.reschedule_active isActive, removed]
      exact ((List.perm_orderedInsert _ (rescheduled e) _).map (lag now)).sum_nat
    rw [added]
    have later := able.later normal again due
    have less : lag now (rescheduled e) < lag now e := by
      unfold lag
      omega
    omega
  · rw [settle_oneShot again]
    have left : (timers.cancel e.id).active = front ++ rest := removed
    have some : 0 < lag now e := by
      unfold lag
      omega
    rw [left]
    omega

theorem CanCatchUp.settle (wellFormed : timers.WellFormed) (isActive : e ∈ timers.active)
    (normal : e.time.Normalised) (due : iperfTimeInUsecs e.time ≤ iperfTimeInUsecs now)
    (able : ∀ other ∈ timers.active, CanCatchUp now other)
    : ∀ other ∈ (Iperf.settle timers e).active, CanCatchUp now other := by
  intro other isOther
  rcases (mem_settle wellFormed isActive).mp isOther with ⟨-, rfl⟩ | ⟨before, -⟩
  · exact (able e isActive).rescheduled normal due
  · exact able other before

/-- The loop ends within as many rounds as the timers are microseconds behind, by induction on
that number.
-/
theorem TimerHeap.Keeps.tmrRunFrom {heap : TimerHeap} (keeps : heap.Keeps timers)
    (normalNow : now.Normalised) (able : ∀ e ∈ timers.active, CanCatchUp now e)
    (parts : timers.active = front ++ rest) {rounds : Nat}
    (enough : (timers.active.map (lag now)).sum < rounds)
    : ∃ heap' timers' fired,
        TimerHeap.tmrRunFrom now rounds (rest.head?.map Entry.id) heap = some (heap', fired)
        ∧ heap'.Keeps timers' ∧ Ran now timers rest timers' fired := by
  induction rounds generalizing heap timers front rest with
  | zero => cases enough
  | succ rounds ih =>
      cases rest with
      | nil =>
          refine ⟨heap, timers, [], rfl, keeps, Ran.nil ?_⟩
          exact fun _ isOne => (List.not_mem_nil isOne).elim
      | cons e rest =>
          have isActive : e ∈ timers.active := parts ▸ List.mem_append_right _ List.mem_cons_self
          have normal := keeps.normal e isActive
          have wellFormed := keeps.holds.wellFormed
          have sorted := keeps.ordered.sorted
          rw [List.head?_cons, Option.map_some]
          unfold TimerHeap.tmrRunFrom
          dsimp only
          rw [keeps.holds.time isActive]
          by_cases due : e.time ≤ now
          · -- the timer is fired, and the loop goes on behind it
            rw [if_neg fun later => not_lt.mpr due (iperfTimeCompare_pos.mp later)]
            have inUsecs := (IperfTime.le_iff_inUsecs normal normalNow).mp due
            have can := able e isActive
            have later (again : e.record.periodic = true) : e.time ≤ (rescheduled e).time :=
              (IperfTime.le_iff_inUsecs normal (iperfTimeAddUsecs_normalised _ _)).mpr
                (can.later normal again inUsecs).le
            obtain ⟨settled, isSettled, keeps', -⟩ := keeps.settle isActive
            obtain ⟨front', rest', parts', sameNext, more⟩ :=
              settle_split wellFormed sorted parts later
            have less := lag_settle wellFormed parts can normal inUsecs
            obtain ⟨heap', timers', fired, run, keeps'', ran⟩ :=
              ih keeps' (CanCatchUp.settle wellFormed isActive normal inUsecs able) parts'
                  (by omega)
            have next : heap.next e.id = rest'.head?.map Entry.id := by
              have linked := keeps.holds.linked
              rw [sameNext, ← List.head?_map]
              refine @TimerHeap.Linked.successor heap _ _ _ e.id linked (front.map Entry.id) _ ?_
              rw [parts, List.map_append, List.map_cons]
            refine ⟨heap', timers', { t := e.id, time := e.time } :: fired, ?_, keeps'', ?_⟩
            · rw [isSettled, next]
              exact congrArg (Option.bind · _) run
            · exact ran.fire wellFormed sorted parts normal can due inUsecs sameNext more
          · rw [if_pos (iperfTimeCompare_pos.mpr (not_le.mp due))]
            refine ⟨heap, timers, [], rfl, keeps, Ran.nil ?_⟩
            intro other isOther isDue
            rw [parts] at sorted
            have behind := (List.pairwise_append.mp sorted).2.1
            rcases List.mem_cons.mp isOther with rfl | isRest
            · exact due isDue
            · exact due (((List.pairwise_cons.mp behind).1 other isRest).trans isDue)

/-- `tmr_run` ends. Every timer that was due is fired, in the order of the scheduled times, none
before its time; a one-shot timer once, after which it is free, and a periodic one as often as its
time has moved on by its period.
-/
theorem TimerHeap.tmrRun_catchesUp {heap : TimerHeap} (keeps : heap.Keeps timers)
    (normal : now.Normalised) (able : ∀ e ∈ timers.active, CanCatchUp now e)
    : ∃ rounds heap' timers' fired,
        heap.tmrRun now rounds = some (heap', fired) ∧ heap'.Keeps timers'
        ∧ (∀ e ∈ timers.active, e.time ≤ now → e.id ∈ fired.map Firing.t)
        ∧ fired.Pairwise (fun first later => first.time ≤ later.time)
        ∧ (∀ firing ∈ fired, firing.time ≤ now)
        ∧ (∀ e ∈ timers.active, e.time ≤ now → ¬ e.record.periodic = true →
          timesFired fired e.id = 1 ∧ e.id ∈ timers'.free)
        ∧ ∀ e ∈ timers.active, e.record.periodic = true →
          ∃ e' ∈ timers'.active, e'.id = e.id ∧ e'.record = e.record
            ∧ iperfTimeInUsecs e'.time
              = iperfTimeInUsecs e.time + timesFired fired e.id * e.record.usecs.toNat := by
  obtain ⟨heap', timers', fired, run, keeps', ran⟩ :=
    @TimerHeap.Keeps.tmrRunFrom now timers [] timers.active heap keeps normal able rfl _
      (Nat.lt_succ_self _)
  rw [← List.head?_map, ← keeps.holds.linked.timers_eq] at run
  refine ⟨_, heap', timers', fired, run, keeps', ran.all, ran.sorted, ran.due, ?_, ran.periodic⟩
  exact fun e isActive due single => ran.oneShot e isActive single (ran.all e isActive due)

/-- Three timers that are due after a second, two of them periodic, and one after two seconds. -/
def lateTimer (id : Nat) : Entry IperfTime TimerRecord :=
  let (secs, proc, periodic) : UInt32 × TimerField × Bool :=
    match id with
    | 0 => (1, .omitTimer, false)
    | 1 => (1, .statsTimer, true)
    | 2 => (1, .reporterTimer, true)
    | _ => (2, .timer, false)
  {
    id
    time := { secs, usecs := 0 }
    record := { proc, clientData := 0, usecs := 1000000, periodic }
  }

def lateHeap : TimerHeap :=
  {
    timers := some 0
    memory := fun t =>
      {
        record := (lateTimer t).record
        time := (lateTimer t).time
        prev := if t = 0 then none else some (t - 1)
        next := if t = 3 then none else some (t + 1)
      }
    live := [0, 1, 2, 3]
    turn := id
    turns := 4
  }

theorem lateHeap_keeps : lateHeap.Keeps { active := [0, 1, 2, 3].map lateTimer } := by
  have before : ([0, 1, 2, 3].map lateTimer).Pairwise fun entry other =>
      entry.time < other.time ∨ entry.time = other.time ∧ entry.id < other.id := by decide
  have turns : ∀ e ∈ [0, 1, 2, 3].map lateTimer, e.id < 4 := by decide
  have normal : ∀ e ∈ [0, 1, 2, 3].map lateTimer, e.time.usecs < 1000000 := by decide
  have doubly : Doubly lateHeap.prev lateHeap.next (some 0) [0, 1, 2, 3] :=
    ⟨some 3, rfl, rfl, rfl, rfl, rfl, rfl, rfl, rfl, rfl, rfl⟩
  exact ⟨⟨⟨doubly, rfl, .refl _, by decide⟩, rfl⟩, ⟨before, turns⟩, normal⟩

/-- Witness: the four timers in the middle of the fourth second. -/
theorem TimerHeap.tmrRun_catchesUp_late
    : ∃ rounds heap' timers' fired,
        lateHeap.tmrRun { secs := 3, usecs := 500000 } rounds = some (heap', fired)
        ∧ heap'.Keeps timers'
        ∧ (∀ t ∈ [0, 3], timesFired fired t = 1 ∧ t ∈ timers'.free)
        ∧ ∀ t ∈ [1, 2], t ∈ fired.map Firing.t ∧ ∃ e ∈ timers'.active, e.id = t
          ∧ iperfTimeInUsecs e.time = 1000000 + timesFired fired t * 1000000 := by
  have normal : IperfTime.Normalised { secs := 3, usecs := 500000 } :=
    show 500000 < 1000000 by decide
  have able : ∀ e ∈ [0, 1, 2, 3].map lateTimer, CanCatchUp { secs := 3, usecs := 500000 } e := by
    intro e isOne
    obtain ⟨t, -, rfl⟩ := List.mem_map.mp isOne
    have period : (lateTimer t).record.usecs = 1000000 := rfl
    have usecs : (lateTimer t).record.usecs.toNat = 1000000 := rfl
    refine ⟨fun _ => period ▸ by decide, fun _ k notYet => ?_⟩
    have now : iperfTimeInUsecs { secs := 3, usecs := 500000 } = 3500000 := rfl
    rw [now, usecs] at notYet
    rw [usecs]
    omega
  obtain ⟨rounds, heap', timers', fired, run, keeps, all, -, -, single, periodic⟩ :=
    tmrRun_catchesUp lateHeap_keeps normal able
  refine ⟨rounds, heap', timers', fired, run, keeps, fun t isOne => ?_, fun t isOne => ?_⟩
  · have both : t = 0 ∨ t = 3 := by simpa using isOne
    rcases both with rfl | rfl
    · exact single (lateTimer 0) (by decide) (by decide) (by decide)
    · exact single (lateTimer 3) (by decide) (by decide) (by decide)
  · have both : t = 1 ∨ t = 2 := by simpa using isOne
    rcases both with rfl | rfl
    · obtain ⟨e, isActive, same, -, moved⟩ := periodic (lateTimer 1) (by decide) rfl
      exact ⟨all (lateTimer 1) (by decide) (by decide), e, isActive, same, moved⟩
    · obtain ⟨e, isActive, same, -, moved⟩ := periodic (lateTimer 2) (by decide) rfl
      exact ⟨all (lateTimer 2) (by decide) (by decide), e, isActive, same, moved⟩

end Iperf
