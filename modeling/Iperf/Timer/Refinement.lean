import Iperf.Timer.Links
import Iperf.Library.TimerPairs

/-! The nodes in memory hold an abstract list of timers, and every function of `timer.c` does to
it what its abstract counterpart does.
-/

namespace Iperf

open LinkedList TimerList

namespace TimerHeap

/-- The active nodes, with what they contain, and the free nodes. -/
structure Holds (heap : TimerHeap) (timers : Timers IperfTime TimerRecord) : Prop where
  linked : heap.Linked (timers.active.map Entry.id) timers.free []
  entries : (timers.active.map Entry.id).map heap.entry = timers.active

/-- `entry` stands before `other`: it is earlier, or was put on the list before it. -/
def Before (heap : TimerHeap) (entry other : Entry IperfTime TimerRecord) : Prop :=
  entry.time < other.time
  ∨ entry.time = other.time ∧ heap.turn entry.id < heap.turn other.id

/-- The list is sorted by time, with equal times in the order of insertion. -/
structure Ordered (heap : TimerHeap) (list : List (Entry IperfTime TimerRecord)) : Prop where
  before : list.Pairwise heap.Before
  turns : ∀ entry ∈ list, heap.turn entry.id < heap.turns

variable {heap heap' : TimerHeap} {timers : Timers IperfTime TimerRecord}
  {list : List (Entry IperfTime TimerRecord)} {e : Entry IperfTime TimerRecord}
  {active free loose : List Nat} {t : Nat}

theorem Linked.holds (linked : heap.Linked active free [])
    : heap.Holds { active := active.map heap.entry, free } := by
  have ids : (active.map heap.entry).map Entry.id = active := by
    rw [List.map_map]
    exact List.map_id active
  refine ⟨?_, ?_⟩
  · dsimp only
    rw [ids]
    exact linked
  · dsimp only
    rw [ids]

theorem Holds.wellFormed (holds : heap.Holds timers) : timers.WellFormed := holds.linked.nodup

theorem Holds.entry (holds : heap.Holds timers) (isActive : e ∈ timers.active)
    : heap.entry e.id = e := by
  have same := holds.entries
  rw [List.map_map] at same
  exact List.map_inj_left.mp (same.trans (List.map_id timers.active).symm) e isActive

theorem Holds.time (holds : heap.Holds timers) (isActive : e ∈ timers.active)
    : heap.time e.id = e.time :=
  congrArg Entry.time (holds.entry isActive)

theorem Holds.record (holds : heap.Holds timers) (isActive : e ∈ timers.active)
    : heap.record e.id = e.record :=
  congrArg Entry.record (holds.entry isActive)

-----------------------------------------------------------------------------------------
-- The order of the list
-----------------------------------------------------------------------------------------

theorem Ordered.sorted (ordered : heap.Ordered list) : Sorted list :=
  ordered.before.imp fun before => before.elim le_of_lt fun same => same.1.le

/-- Fewer nodes, none of which was inserted again. -/
theorem Ordered.sublist {fewer : List (Entry IperfTime TimerRecord)} (ordered : heap.Ordered list)
    (less : fewer.Sublist list) (turn : heap'.turn = heap.turn) (turns : heap'.turns = heap.turns)
    : heap'.Ordered fewer := by
  refine ⟨?_, fun entry isOne => ?_⟩
  · refine (ordered.before.sublist less).imp fun before => ?_
    unfold Before
    rw [turn]
    exact before
  · rw [turn, turns]
    exact ordered.turns entry (less.subset isOne)

/-- The node that `list_add` puts on the list comes behind all that are not later. -/
theorem Ordered.listAdd (ordered : heap.Ordered list) (isNew : ∀ other ∈ list, other.id ≠ e.id)
    (turn : heap'.turn = Function.update heap.turn e.id heap.turns)
    (turns : heap'.turns = heap.turns + 1)
    : heap'.Ordered (TimerList.listAdd e list) := by
  have kept : ∀ other ∈ list, heap'.turn other.id = heap.turn other.id := fun other isOne => by
    rw [turn, Function.update_of_ne (isNew other isOne)]
  have latest : heap'.turn e.id = heap.turns := by rw [turn, Function.update_self]
  have before : list.Pairwise heap'.Before :=
    ordered.before.imp_of_mem fun {first second} isFirst isSecond before => by
      unfold Before
      rw [kept first isFirst, kept second isSecond]
      exact before
  refine ⟨?_, fun other isOne => ?_⟩
  · obtain ⟨front, rest, rfl, added, earlier, later⟩ := listAdd_split e ordered.sorted
    obtain ⟨first, second, across⟩ := List.pairwise_append.mp before
    rw [added]
    refine List.pairwise_append.mpr ⟨first, List.pairwise_cons.mpr ⟨?_, second⟩, ?_⟩
    · exact fun other isOne => .inl (later other isOne)
    · intro other isFront next isNext
      rcases List.mem_cons.mp isNext with rfl | isRest
      · rcases (earlier other isFront).lt_or_eq with less | same
        · exact .inl less
        · refine .inr ⟨same, ?_⟩
          rw [kept other (List.mem_append_left _ isFront), latest]
          exact ordered.turns other (List.mem_append_left _ isFront)
      · exact across other isFront next isRest
  · rw [turns]
    rcases mem_listAdd.mp isOne with rfl | isOther
    · rw [latest]
      exact Nat.lt_succ_self _
    · rw [kept other isOther]
      exact (ordered.turns other isOther).trans (Nat.lt_succ_self _)

-----------------------------------------------------------------------------------------
-- Insertion and removal
-----------------------------------------------------------------------------------------

/-- What one call of `list_add` leaves in memory. -/
structure Added (heap heap' : TimerHeap) (t : Nat) : Prop where
  aside : heap.Aside heap'
  turn : heap'.turn = Function.update heap.turn t heap.turns
  turns : heap'.turns = heap.turns + 1

theorem Linked.holds_listAdd (linked : heap.Linked active free [t])
    : ∃ heap', heap.listAdd t = some heap' ∧ heap.Added heap' t
      ∧ heap'.Holds
          { active := TimerList.listAdd (heap.entry t) (active.map heap.entry), free } := by
  obtain ⟨heap', added, linked', aside, turn, turns⟩ := linked.listAdd
  refine ⟨heap', added, ⟨aside, turn, turns⟩, ?_⟩
  have holds := linked'.holds
  rw [funext aside.entry] at holds
  have inserted : (heap.insertOrdered t active).map heap.entry
      = TimerList.listAdd (heap.entry t) (active.map heap.entry) :=
    List.map_orderedInsert _ _ _ _ _ (fun _ _ => Iff.rfl) fun _ _ => Iff.rfl
  rw [inserted] at holds
  exact holds

/-- Without a node that is on it, the list in memory is the abstract one without it. -/
theorem Holds.listRemove (holds : heap.Holds timers) (isActive : e ∈ timers.active)
    : (heap.listRemove e.id).Linked ((TimerList.listRemove e.id timers.active).map Entry.id)
        timers.free [e.id] := by
  obtain ⟨front, rest, parts, removed, -⟩ := holds.wellFormed.split isActive
  have linked := holds.linked
  rw [parts, List.map_append, List.map_cons] at linked
  rw [removed, List.map_append]
  exact linked.listRemove

-----------------------------------------------------------------------------------------
-- The functions of the source
-----------------------------------------------------------------------------------------

/-- The invariant: the nodes hold the abstract list, in its order, with normalised times. -/
structure Keeps (heap : TimerHeap) (timers : Timers IperfTime TimerRecord) : Prop where
  holds : heap.Holds timers
  ordered : heap.Ordered timers.active
  normal : ∀ entry ∈ timers.active, entry.time.Normalised

/-- A function that changes no other node than `t`. -/
structure Touches (heap heap' : TimerHeap) (t : Nat) : Prop where
  entry : ∀ n, n ≠ t → heap'.entry n = heap.entry n
  live : heap'.live = heap.live

theorem entry_setTime_of_ne {n : Nat} (other : n ≠ t) (time : IperfTime)
    : (heap.setTime t time).entry n = heap.entry n := by
  simp [TimerHeap.entry, TimerHeap.time, TimerHeap.record, setTime, modify, other]

theorem entry_setTime (holds : heap.Holds timers) (isActive : e ∈ timers.active) (time : IperfTime)
    : (heap.setTime e.id time).entry e.id = { e with time } := by
  have record : (heap.setTime e.id time).record e.id = e.record :=
    (record_setTime heap e.id e.id time).trans (holds.record isActive)
  have isTime : (heap.setTime e.id time).time e.id = time :=
    (time_setTime heap e.id e.id time).trans (if_pos rfl)
  unfold TimerHeap.entry
  rw [record, isTime]

/-- A node on the active list gets another time and is sorted in again. -/
theorem Keeps.resort (keeps : heap.Keeps timers) (isActive : e ∈ timers.active) {time : IperfTime}
    (normal : time.Normalised)
    : ∃ heap', (heap.setTime e.id time).listResort e.id = some heap'
      ∧ heap'.Keeps (timers.reschedule e.id time) ∧ heap.Touches heap' e.id := by
  have wellFormed := keeps.holds.wellFormed
  obtain ⟨front, rest, parts, removed, -⟩ := wellFormed.split isActive
  have others : ∀ other ∈ front ++ rest, other ∈ timers.active ∧ other.id ≠ e.id :=
    fun other isOther => mem_listRemove.mp (removed ▸ isOther)
  have linked := keeps.holds.linked
  rw [parts, List.map_append, List.map_cons] at linked
  have loose := (linked.setTime e.id time).listRemove
  rw [← List.map_append] at loose
  obtain ⟨heap', added, ⟨aside, turn, turns⟩, holds⟩ := loose.holds_listAdd
  have before := (heap.setTime e.id time).listRemove_aside e.id
  have moved : ((heap.setTime e.id time).listRemove e.id).entry e.id = { e with time } :=
    (before.entry e.id).trans (entry_setTime keeps.holds isActive time)
  have kept : ((front ++ rest).map Entry.id).map ((heap.setTime e.id time).listRemove e.id).entry
      = front ++ rest := by
    rw [List.map_map]
    refine (List.map_congr_left fun other isOther => ?_).trans (List.map_id _)
    obtain ⟨isActive', different⟩ := others other isOther
    exact ((before.entry _).trans (entry_setTime_of_ne different time)).trans
      (keeps.holds.entry isActive')
  rw [moved, kept] at holds
  have rescheduled : timers.reschedule e.id time
      = { active := TimerList.listAdd { e with time } (front ++ rest), free := timers.free } := by
    unfold Timers.reschedule
    rw [wellFormed.find isActive, removed]
  rw [rescheduled]
  obtain ⟨sameTurn, sameTurns⟩ := (heap.setTime e.id time).listRemove_turn e.id
  rw [sameTurn] at turn
  rw [sameTurns] at turn turns
  have fewer : (front ++ rest).Sublist timers.active := by
    rw [parts]
    exact (List.Sublist.refl front).append (List.sublist_cons_self e rest)
  have ordered : heap.Ordered (front ++ rest) := keeps.ordered.sublist fewer rfl rfl
  refine ⟨heap', added, ⟨holds, ?_, ?_⟩, ?_, ?_⟩
  · exact @Ordered.listAdd heap heap' _ { e with time } ordered
      (fun other isOther => (others other isOther).2) turn turns
  · intro entry isActive
    rcases mem_listAdd.mp isActive with rfl | isOther
    · exact normal
    · exact keeps.normal entry (others entry isOther).1
  · intro n different
    exact ((aside.entry n).trans (before.entry n)).trans (entry_setTime_of_ne different time)
  · exact aside.live.trans before.live

/-- `tmr_reset` of an active timer returns. -/
theorem Keeps.tmrReset (keeps : heap.Keeps timers) (isActive : e ∈ timers.active) (now : IperfTime)
    : ∃ heap', heap.tmrReset now e.id = some heap'
      ∧ heap'.Keeps (timers.reschedule e.id (iperfTimeAddUsecs now e.record.usecs))
      ∧ heap.Touches heap' e.id := by
  have twice (time : IperfTime) : (heap.setTime e.id now).setTime e.id time
      = heap.setTime e.id time := by
    simp [setTime, modify]
  have isTime : (heap.setTime e.id now).time e.id = now :=
    (time_setTime heap e.id e.id now).trans (if_pos rfl)
  have isRecord : (heap.setTime e.id now).record e.id = e.record :=
    (record_setTime heap e.id e.id now).trans (keeps.holds.record isActive)
  unfold TimerHeap.tmrReset
  dsimp only
  rw [twice, isTime, isRecord]
  exact keeps.resort isActive (iperfTimeAddUsecs_normalised now e.record.usecs)

/-- `tmr_cancel` of an active timer. -/
theorem Keeps.tmrCancel (keeps : heap.Keeps timers) (isActive : e ∈ timers.active)
    : (heap.tmrCancel e.id).Keeps (timers.cancel e.id)
      ∧ (∀ n, (heap.tmrCancel e.id).entry n = heap.entry n)
      ∧ (heap.tmrCancel e.id).live = heap.live := by
  have loose := keeps.holds.listRemove isActive
  have aside := heap.listRemove_aside e.id
  obtain ⟨notActive, notFree⟩ := loose.not_listed
  obtain ⟨sameTurn, sameTurns⟩ := heap.listRemove_turn e.id
  have entry (n : Nat) : (heap.tmrCancel e.id).entry n = heap.entry n :=
    ((entry_setPrev _ _ _ _).trans (entry_setNext _ _ _ _)).trans (aside.entry n)
  have next (n : Nat) : (heap.tmrCancel e.id).next n
      = if n = e.id then heap.freeTimers else (heap.listRemove e.id).next n := by
    rw [← aside.freeTimers]
    exact (next_setPrev _ _ _ _).trans (next_setNext _ _ _ _)
  have prev (n : Nat) : (heap.tmrCancel e.id).prev n
      = if n = e.id then none else (heap.listRemove e.id).prev n :=
    (prev_setPrev _ _ _ _).trans (if_congr Iff.rfl rfl (prev_setNext _ _ _ _))
  have different {n : Nat} {list : List Nat} (isOne : n ∈ list) (outside : e.id ∉ list)
      : n ≠ e.id := fun same => outside (same ▸ isOne)
  have perm : ([e.id]
      ++ ((TimerList.listRemove e.id timers.active).map Entry.id ++ timers.free)).Perm
      ([] ++ ((TimerList.listRemove e.id timers.active).map Entry.id ++ e.id :: timers.free)) := by
    rw [List.singleton_append, List.nil_append]
    exact List.perm_middle.symm
  have linked : (heap.tmrCancel e.id).Linked ((timers.cancel e.id).active.map Entry.id)
      (timers.cancel e.id).free [] := by
    obtain ⟨last, segment⟩ := loose.doubly
    refine ⟨⟨last, ?_⟩, ⟨rfl, ?_⟩, ?_, perm.nodup_iff.mp loose.nodup⟩
    · refine segment.congr (fun n isOne => ?_) fun n isOne => ?_
      · rw [prev, if_neg (different isOne notActive)]
      · rw [next, if_neg (different isOne notActive)]
    · rw [next, if_pos rfl, ← aside.freeTimers]
      refine loose.singly.congr fun n isOne => ?_
      rw [next, if_neg (different isOne notFree)]
    · exact loose.live.trans perm
  refine ⟨⟨⟨linked, ?_⟩, ?_, ?_⟩, entry, aside.live⟩
  · rw [funext entry, List.map_map]
    refine (List.map_congr_left fun other isOther => ?_).trans (List.map_id _)
    exact keeps.holds.entry (mem_listRemove.mp isOther).1
  · exact keeps.ordered.sublist List.filter_sublist sameTurn sameTurns
  · exact fun other isOther => keeps.normal other (mem_listRemove.mp isOther).1

/-- What `tmr_run` does with a fired timer that is still active returns. -/
theorem Keeps.settle (keeps : heap.Keeps timers) (isActive : e ∈ timers.active)
    : ∃ heap', heap.settle e.id = some heap' ∧ heap'.Keeps (Iperf.settle timers e)
      ∧ heap.Touches heap' e.id := by
  unfold TimerHeap.settle
  rw [keeps.holds.record isActive, keeps.holds.time isActive]
  by_cases again : e.record.periodic = true
  · rw [if_pos again, settle_periodic again]
    exact keeps.resort isActive (iperfTimeAddUsecs_normalised _ _)
  · obtain ⟨cancelled, entry, live⟩ := keeps.tmrCancel isActive
    rw [if_neg again, settle_oneShot again]
    exact ⟨_, rfl, cancelled, fun n _ => entry n, live⟩

/-- The node that `tmr_create` uses: a free one, or the one that `malloc` returns. -/
def nodeFor (heap : TimerHeap) (malloc : Option Nat) : Option Nat := heap.freeTimers.or malloc

/-- `tmr_create` fails without a node. -/
theorem tmrCreate_none {malloc : Option Nat} (no : heap.nodeFor malloc = none) (now : IperfTime)
    (record : TimerRecord)
    : heap.tmrCreate malloc now record = some (none, heap) := by
  obtain ⟨noFree, rfl⟩ := Option.or_eq_none_iff.mp no
  unfold tmrCreate
  rw [noFree]

/-- The head of the free list is taken from it. -/
theorem Linked.takeFree (linked : heap.Linked active free []) (isFree : heap.freeTimers = some t)
    : ({ heap with freeTimers := heap.next t } : TimerHeap).Linked active free.tail [t] := by
  cases free with
  | nil => cases isFree.symm.trans linked.singly
  | cons head rest =>
      obtain ⟨isHead, others⟩ := linked.singly
      obtain rfl : t = head := Option.some.inj (isFree.symm.trans isHead)
      have perm : ([] ++ (active ++ t :: rest)).Perm ([t] ++ (active ++ rest)) := by
        rw [List.singleton_append, List.nil_append]
        exact List.perm_middle
      exact ⟨linked.doubly, others, linked.live.trans perm, perm.nodup_iff.mp linked.nodup⟩

/-- A node that `malloc` returned. -/
theorem Linked.takeNew (linked : heap.Linked active free []) (isNew : t ∉ heap.live)
    : ({ heap with live := t :: heap.live } : TimerHeap).Linked active free [t] := by
  refine ⟨linked.doubly, linked.singly, linked.live.cons t, List.nodup_cons.mpr ⟨?_, linked.nodup⟩⟩
  exact fun isOne => isNew (linked.live.mem_iff.mpr isOne)

/-- A node that is filled in, with the pointers it has. -/
def fill (heap : TimerHeap) (t : Nat) (time : IperfTime) (record : TimerRecord) : TimerHeap :=
  heap.modify t fun timer => { timer with record, time }

theorem Linked.fill (linked : heap.Linked active free loose) (t : Nat) (time : IperfTime)
    (record : TimerRecord)
    : (heap.fill t time record).Linked active free loose := by
  refine linked.congr (funext fun n => ?_) (funext fun n => ?_) rfl rfl rfl
  · by_cases same : n = t <;> simp [next, TimerHeap.fill, modify, same]
  · by_cases same : n = t <;> simp [prev, TimerHeap.fill, modify, same]

theorem entry_fill (time : IperfTime) (record : TimerRecord)
    : (heap.fill t time record).entry t = { id := t, time, record } := by
  simp [TimerHeap.entry, TimerHeap.time, TimerHeap.record, fill, modify]

theorem entry_fill_of_ne {n : Nat} (other : n ≠ t) (time : IperfTime) (record : TimerRecord)
    : (heap.fill t time record).entry n = heap.entry n := by
  simp [TimerHeap.entry, TimerHeap.time, TimerHeap.record, fill, modify, other]

/-- A loose node is filled in and put on the active list. -/
theorem Linked.addFilled {time : IperfTime} {record : TimerRecord}
    (linked : heap.Linked (list.map Entry.id) free [t])
    (entries : (list.map Entry.id).map heap.entry = list) (ordered : heap.Ordered list)
    (normal : ∀ entry ∈ list, entry.time.Normalised) (normalTime : time.Normalised)
    : ∃ heap', (heap.fill t time record).listAdd t = some heap'
      ∧ heap'.Keeps { active := TimerList.listAdd { id := t, time, record } list, free } := by
  obtain ⟨heap', added, ⟨-, turn, turns⟩, holds⟩ := (linked.fill t time record).holds_listAdd
  have isNew : ∀ other ∈ list, other.id ≠ t := fun other isOther same =>
    linked.not_listed.1 (same ▸ List.mem_map_of_mem isOther)
  have kept : (list.map Entry.id).map (heap.fill t time record).entry = list := by
    refine Eq.trans (List.map_congr_left fun n isOne => ?_) entries
    obtain ⟨other, isOther, rfl⟩ := List.mem_map.mp isOne
    exact entry_fill_of_ne (isNew other isOther) time record
  rw [entry_fill, kept] at holds
  refine ⟨heap', added, holds, ?_, ?_⟩
  · exact @Ordered.listAdd heap heap' list { id := t, time, record } ordered isNew turn turns
  · intro entry isActive
    rcases mem_listAdd.mp isActive with rfl | isOther
    · exact normalTime
    · exact normal entry isOther

/-- `tmr_create` returns the node, which was not active before. -/
theorem Keeps.tmrCreate (keeps : heap.Keeps timers) {malloc : Option Nat}
    (isNew : ∀ t ∈ malloc, t ∉ heap.live) (found : heap.nodeFor malloc = some t) (now : IperfTime)
    (record : TimerRecord)
    : ∃ heap', heap.tmrCreate malloc now record = some (some t, heap')
      ∧ (∀ entry ∈ timers.active, entry.id ≠ t)
      ∧ heap'.Keeps {
          active := TimerList.listAdd
            { id := t, time := iperfTimeAddUsecs now record.usecs, record } timers.active,
          free := timers.free.tail } := by
  have filled (heap : TimerHeap) :
      ((heap.modify t fun timer => { timer with record, time := now }).setTime t
        (iperfTimeAddUsecs
          ((heap.modify t fun timer => { timer with record, time := now }).time t) record.usecs))
      = heap.fill t (iperfTimeAddUsecs now record.usecs) record := by
    simp [fill, setTime, modify, TimerHeap.time]
  have normal := iperfTimeAddUsecs_normalised now record.usecs
  have linked := keeps.holds.linked
  unfold TimerHeap.tmrCreate
  unfold nodeFor at found
  cases isFree : heap.freeTimers with
  | some first =>
      rw [isFree] at found
      obtain rfl : first = t := Option.some.inj found
      have taken := linked.takeFree isFree
      obtain ⟨heap', added, keeps'⟩ :=
        taken.addFilled keeps.holds.entries
            (keeps.ordered.sublist (.refl _) rfl rfl) keeps.normal normal
      refine ⟨heap', ?_, fun entry isActive same => ?_, keeps'⟩
      · dsimp only
        rw [filled, added]
        rfl
      · exact taken.not_listed.1 (same ▸ List.mem_map_of_mem isActive)
  | none =>
      rw [isFree] at found
      obtain rfl : malloc = some t := found
      have taken := linked.takeNew (isNew t rfl)
      obtain ⟨heap', added, keeps'⟩ :=
        @Linked.addFilled _ _ _ t _ record taken keeps.holds.entries
          (keeps.ordered.sublist (.refl _) rfl rfl) keeps.normal normal
      have empty : timers.free = [] := linked.singly.none_iff.mp isFree
      refine ⟨heap', ?_, fun entry isActive same => ?_, ?_⟩
      · rw [isFree] at added
        dsimp only
        rw [filled, added]
        rfl
      · exact taken.not_listed.1 (same ▸ List.mem_map_of_mem isActive)
      · rw [empty] at keeps' ⊢
        exact keeps'

/-- Each round of `tmr_cleanup` frees the head of the free list, by induction on that list. -/
theorem Linked.freeAll (linked : heap.Linked active free []) {fuel : Nat}
    (enough : free.length ≤ fuel)
    : ∃ heap', TimerHeap.freeAll fuel heap = some heap' ∧ heap'.Linked active [] []
      ∧ heap'.memory = heap.memory ∧ heap'.turn = heap.turn ∧ heap'.turns = heap.turns := by
  induction free generalizing heap fuel with
  | nil =>
      have isFree : heap.freeTimers = none := linked.singly
      refine ⟨heap, ?_, linked, rfl, rfl, rfl⟩
      cases fuel with
      | zero => exact if_pos isFree
      | succ fuel =>
          unfold TimerHeap.freeAll
          rw [isFree]
  | cons head rest ih =>
      cases fuel with
      | zero => cases enough
      | succ fuel =>
          obtain ⟨isHead, -⟩ := linked.singly
          obtain ⟨doubly, singly, live, nodup⟩ := linked.takeFree isHead
          have fewer : (heap.live.erase head).Perm (active ++ rest) := by
            refine (live.erase head).trans ?_
            rw [List.singleton_append, List.erase_cons_head]
            exact .refl _
          obtain ⟨heap', freed, linked', memory, turn, turns⟩ :=
            @ih { heap with freeTimers := heap.next head, live := heap.live.erase head }
              ⟨doubly, singly, fewer, (List.nodup_cons.mp nodup).2⟩ fuel
              (Nat.le_of_succ_le_succ enough)
          refine ⟨heap', ?_, linked', memory, turn, turns⟩
          unfold TimerHeap.freeAll
          rw [isHead]
          exact freed

/-- `tmr_cleanup` returns and frees the nodes that are not active. -/
theorem Keeps.tmrCleanup (keeps : heap.Keeps timers)
    : ∃ heap', heap.tmrCleanup = some heap' ∧ heap'.Keeps { timers with free := [] } := by
  obtain ⟨heap', freed, linked, memory, turn, turns⟩ :=
    keeps.holds.linked.freeAll keeps.holds.linked.free_live
  refine ⟨heap', freed, ⟨linked, ?_⟩, keeps.ordered.sublist (.refl _) turn turns, keeps.normal⟩
  have entry : heap'.entry = heap.entry := by
    unfold TimerHeap.entry TimerHeap.time TimerHeap.record
    rw [memory]
  rw [entry]
  exact keeps.holds.entries

/-- Each round of `tmr_destroy` cancels the first timer, by induction on the active list. -/
theorem Keeps.cancelAll (keeps : heap.Keeps timers) {fuel : Nat}
    (enough : timers.active.length ≤ fuel)
    : ∃ heap' free, TimerHeap.cancelAll fuel heap = some heap'
      ∧ heap'.Keeps { active := [], free } := by
  obtain ⟨list, free⟩ := timers
  induction list generalizing heap free fuel with
  | nil =>
      have empty := keeps.holds.linked.timers_none_iff.mpr rfl
      refine ⟨heap, free, ?_, keeps⟩
      cases fuel with
      | zero => exact if_pos empty
      | succ fuel =>
          unfold TimerHeap.cancelAll
          rw [empty]
  | cons head rest ih =>
      cases fuel with
      | zero => cases enough
      | succ fuel =>
          have isHead := keeps.holds.linked.timers_eq
          obtain ⟨cancelled, -, -⟩ := keeps.tmrCancel List.mem_cons_self
          have without : Timers.cancel { active := head :: rest, free } head.id
              = { active := rest, free := head.id :: free } := by
            have removed : TimerList.listRemove head.id (head :: rest) = [] ++ rest :=
              keeps.holds.wellFormed.listRemove_eq rfl
            unfold Timers.cancel
            rw [removed]
            rfl
          rw [without] at cancelled
          obtain ⟨heap', free', done, keeps'⟩ := ih _ cancelled (Nat.le_of_succ_le_succ enough)
          refine ⟨heap', free', ?_, keeps'⟩
          unfold TimerHeap.cancelAll
          rw [isHead]
          exact done

/-- `tmr_destroy` returns and leaves no node. -/
theorem Keeps.tmrDestroy (keeps : heap.Keeps timers)
    : ∃ heap', heap.tmrDestroy = some heap' ∧ heap'.Keeps { active := [], free := [] } := by
  have enough := keeps.holds.linked.active_live
  rw [List.length_map] at enough
  obtain ⟨cancelled, free, done, keeps'⟩ := keeps.cancelAll enough
  obtain ⟨heap', freed, keeps''⟩ := keeps'.tmrCleanup
  refine ⟨heap', ?_, keeps''⟩
  unfold TimerHeap.tmrDestroy
  rw [done]
  exact freed

end TimerHeap

end Iperf
