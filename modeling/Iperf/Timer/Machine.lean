import Iperf.Timer.Refinement

/-! The timers in use: calls of the functions of `timer.c` in any order, with `tmr_run` taken
apart into the rounds of its loop and what the procedures of the fired timers call.
-/

namespace Iperf

open LinkedList TimerList

/-- Where the program is: not in `tmr_run`, at the head of its loop, or in the procedure of the
timer `t` that it has fired.
-/
inductive Place where
  | outside
  | loop (now : IperfTime) (t : Option Nat)
  | proc (now : IperfTime) (t : Nat) (next : Option Nat)
deriving DecidableEq

/-- A call, or the next thing that `tmr_run` does. `malloc` is the address that it returns. -/
inductive TimerCall where
  | create (malloc : Option Nat) (now : IperfTime) (record : TimerRecord)
  | reset (now : IperfTime) (t : Nat)
  | cancel (t : Nat)
  | cleanup
  | destroy
  | run (now : IperfTime)
  | round
  | finish

structure Machine where
  heap : TimerHeap
  place : Place

namespace Machine

/-- A call, or `none` when it does not return. -/
def perform (m : Machine) : TimerCall → Option Machine
  | .create malloc now record =>
      (m.heap.tmrCreate malloc now record).map fun (_, heap) => { m with heap }
  | .reset now t => (m.heap.tmrReset now t).map fun heap => { m with heap }
  | .cancel t => some { m with heap := m.heap.tmrCancel t }
  | .cleanup => m.heap.tmrCleanup.map fun heap => { m with heap }
  | .destroy => m.heap.tmrDestroy.map fun heap => { m with heap }
  | .run now => some { m with place := .loop now m.heap.timers }
  | .round =>
      match m.place with
      | .loop now (some t) =>
          if iperfTimeCompare (m.heap.time t) now > 0 then some { m with place := .outside }
          else some { m with place := .proc now t (m.heap.next t) }
      | .loop _ none => some { m with place := .outside }
      | _ => some m
  | .finish =>
      match m.place with
      | .proc now t next => (m.heap.settle t).map fun heap => { heap, place := .loop now next }
      | _ => some m

def performAll (m : Machine) (calls : List TimerCall) : Option Machine := calls.foldlM perform m

end Machine

-----------------------------------------------------------------------------------------
-- The calls that are allowed
-----------------------------------------------------------------------------------------

/-- The nodes from a pointer on, at most as many as the fuel. -/
def TimerHeap.follow (heap : TimerHeap) : Nat → Option Nat → List Nat
  | fuel + 1, some t => t :: heap.follow fuel (heap.next t)
  | _, _ => []

/-- The nodes that can be reached from `timers`. -/
def TimerHeap.activeList (heap : TimerHeap) : List Nat :=
  heap.follow heap.live.length heap.timers

def TimerHeap.Active (heap : TimerHeap) (t : Nat) : Prop := t ∈ heap.activeList

instance (heap : TimerHeap) (t : Nat) : Decidable (heap.Active t) :=
  inferInstanceAs (Decidable (t ∈ heap.activeList))

/-- A procedure may change any timer but its own. -/
def Place.Frees (place : Place) (t : Nat) : Prop :=
  match place with
  | .outside => True
  | .loop _ _ => False
  | .proc _ fired _ => t ≠ fired

instance (place : Place) (t : Nat) : Decidable (place.Frees t) :=
  match place with
  | .outside => .isTrue trivial
  | .loop _ _ => .isFalse id
  | .proc _ fired _ => inferInstanceAs (Decidable (t ≠ fired))

def Place.isLoop : Place → Bool
  | .loop _ _ => true
  | _ => false

def Place.isProc : Place → Bool
  | .proc _ _ _ => true
  | _ => false

/-- Timers are reset and cancelled while they are active; a procedure creates timers and resets
others than its own. `malloc` returns no node that is in use.
-/
def Machine.Allowed (m : Machine) : TimerCall → Prop
  | .create malloc _ _ => (∀ t ∈ malloc, t ∉ m.heap.live) ∧ m.place.isLoop = false
  | .reset _ t => m.heap.Active t ∧ m.place.Frees t
  | .cancel t => m.heap.Active t ∧ m.place = .outside
  | .cleanup | .destroy | .run _ => m.place = .outside
  | .round => m.place.isLoop = true
  | .finish => m.place.isProc = true

instance (m : Machine) (call : TimerCall) : Decidable (m.Allowed call) :=
  match call with
  | .create _ _ _ => inferInstanceAs (Decidable (_ ∧ _))
  | .reset _ _ | .cancel _ => inferInstanceAs (Decidable (_ ∧ _))
  | .cleanup | .destroy | .run _ | .round | .finish => inferInstanceAs (Decidable (_ = _))

def Machine.AllowedRun (m : Machine) : List TimerCall → Prop
  | [] => True
  | call :: calls =>
      m.Allowed call
      ∧ match m.perform call with
        | none => True
        | some m' => m'.AllowedRun calls

instance Machine.decidableAllowedRun (m : Machine)
    : (calls : List TimerCall) → Decidable (m.AllowedRun calls)
  | [] => .isTrue trivial
  | call :: calls =>
      have : Decidable (match m.perform call with
          | none => True
          | some m' => m'.AllowedRun calls) :=
        match m.perform call with
        | none => .isTrue trivial
        | some m' => m'.decidableAllowedRun calls
      inferInstanceAs (Decidable (_ ∧ _))

theorem TimerHeap.follow_eq {heap : TimerHeap} {before first last : Option Nat}
    {list : List Nat} {fuel : Nat}
    (segment : Segment heap.prev heap.next before first list last none)
    (enough : list.length ≤ fuel)
    : heap.follow fuel first = list := by
  induction list generalizing before first fuel with
  | nil =>
      obtain ⟨-, rfl⟩ := segment
      cases fuel <;> rfl
  | cons head tail ih =>
      obtain ⟨rfl, -, others⟩ := segment
      cases fuel with
      | zero => cases enough
      | succ fuel => exact congrArg (head :: ·) (ih others (Nat.le_of_succ_le_succ enough))

/-- The nodes that can be reached are those of the list. -/
theorem TimerHeap.Linked.activeList_eq {heap : TimerHeap} {active free loose : List Nat}
    (linked : heap.Linked active free loose)
    : heap.activeList = active := by
  obtain ⟨last, segment⟩ := linked.doubly
  exact follow_eq segment linked.active_live

theorem TimerHeap.Linked.active_iff {heap : TimerHeap} {active free loose : List Nat} {t : Nat}
    (linked : heap.Linked active free loose)
    : heap.Active t ↔ t ∈ active := by
  unfold TimerHeap.Active
  rw [linked.activeList_eq]

-----------------------------------------------------------------------------------------
-- The invariant
-----------------------------------------------------------------------------------------

/-- The pointers that `tmr_run` holds are to active nodes, and its two are different. -/
def Place.Within (ids : List Nat) : Place → Prop
  | .outside => True
  | .loop _ t => ∀ id ∈ t, id ∈ ids
  | .proc _ t next => t ∈ ids ∧ ∀ id ∈ next, id ∈ ids ∧ id ≠ t

structure Machine.Sound (m : Machine) (timers : Timers IperfTime TimerRecord) : Prop where
  keeps : m.heap.Keeps timers
  within : m.place.Within (timers.active.map Entry.id)

theorem Place.Within.mono {place : Place} {ids more : List Nat} (within : place.Within ids)
    (subset : ids ⊆ more)
    : place.Within more := by
  cases place with
  | outside => trivial
  | loop now t => exact fun id isOne => subset (within id isOne)
  | proc now t next =>
      exact ⟨subset within.1, fun id isOne => ⟨subset (within.2 id isOne).1, (within.2 id isOne).2⟩⟩

namespace Machine

variable {m : Machine} {timers : Timers IperfTime TimerRecord}

/-- An active node is one of the abstract list. -/
theorem Sound.entry_of_active (sound : m.Sound timers) {t : Nat} (isActive : m.heap.Active t)
    : ∃ e ∈ timers.active, e.id = t :=
  List.mem_map.mp (sound.keeps.holds.linked.active_iff.mp isActive)

/-- A timer that is sorted in again is on the list as before. -/
theorem ids_reschedule (wellFormed : timers.WellFormed) (id : Nat) (time : IperfTime)
    : timers.active.map Entry.id ⊆ (timers.reschedule id time).active.map Entry.id := by
  intro other isOne
  obtain ⟨entry, isActive, rfl⟩ := List.mem_map.mp isOne
  obtain ⟨entry', isActive', same⟩ := wellFormed.reschedule_present id time isActive
  exact List.mem_map.mpr ⟨entry', isActive', same⟩

/-- The timers other than the fired one stay active. -/
theorem ids_settle (wellFormed : timers.WellFormed) {e : Entry IperfTime TimerRecord} {id : Nat}
    (isOne : id ∈ timers.active.map Entry.id) (other : id ≠ e.id)
    : id ∈ (settle timers e).active.map Entry.id := by
  by_cases again : e.record.periodic = true
  · rw [settle_periodic again]
    exact ids_reschedule wellFormed _ _ isOne
  · rw [settle_oneShot again]
    obtain ⟨entry, isActive, rfl⟩ := List.mem_map.mp isOne
    exact List.mem_map_of_mem (Timers.mem_cancel.mpr ⟨isActive, other⟩)

theorem Sound.create (sound : m.Sound timers) {malloc : Option Nat}
    (isNew : ∀ t ∈ malloc, t ∉ m.heap.live) (now : IperfTime) (record : TimerRecord)
    : ∃ m' timers', m.perform (.create malloc now record) = some m' ∧ m'.Sound timers' := by
  unfold perform
  dsimp only
  cases found : m.heap.nodeFor malloc with
  | none =>
      rw [TimerHeap.tmrCreate_none found]
      exact ⟨m, timers, rfl, sound⟩
  | some t =>
      obtain ⟨heap', created, -, keeps⟩ := sound.keeps.tmrCreate isNew found now record
      rw [created]
      refine ⟨_, _, rfl, keeps, sound.within.mono ?_⟩
      intro id isOne
      exact (map_id_listAdd _ _).mem_iff.mpr (List.mem_cons_of_mem _ isOne)

theorem Sound.reset (sound : m.Sound timers) {t : Nat} (isActive : m.heap.Active t)
    (now : IperfTime)
    : ∃ m' timers', m.perform (.reset now t) = some m' ∧ m'.Sound timers' := by
  obtain ⟨e, isOne, rfl⟩ := sound.entry_of_active isActive
  obtain ⟨heap', reset, keeps, -⟩ := sound.keeps.tmrReset isOne now
  unfold perform
  dsimp only
  rw [reset]
  exact ⟨_, _, rfl, keeps, sound.within.mono (ids_reschedule sound.keeps.holds.wellFormed _ _)⟩

/-- Outside of `tmr_run` the lists are all there is. -/
theorem sound_outside {heap : TimerHeap} {timers : Timers IperfTime TimerRecord}
    (keeps : heap.Keeps timers)
    : Sound { heap, place := .outside } timers :=
  ⟨keeps, trivial⟩

/-- A round ends the loop or fires a timer; the next one is behind it. -/
theorem Sound.round (sound : m.Sound timers)
    : ∃ m', m.perform .round = some m' ∧ m'.Sound timers := by
  obtain ⟨heap, place⟩ := m
  obtain ⟨keeps, within⟩ := sound
  cases place with
  | outside => exact ⟨_, rfl, keeps, within⟩
  | proc now t next => exact ⟨_, rfl, keeps, within⟩
  | loop now t =>
      cases t with
      | none => exact ⟨_, rfl, keeps, trivial⟩
      | some t =>
          unfold perform
          dsimp only
          split
          · exact ⟨_, rfl, keeps, trivial⟩
          · have isActive := within t rfl
            refine ⟨_, rfl, keeps, isActive, fun id isNext => ?_⟩
            exact keeps.holds.linked.next_active isActive isNext

/-- When a procedure has returned its timer is scheduled again or cancelled. -/
theorem Sound.finish (sound : m.Sound timers)
    : ∃ m' timers', m.perform .finish = some m' ∧ m'.Sound timers' := by
  obtain ⟨heap, place⟩ := m
  obtain ⟨keeps, within⟩ := sound
  cases place with
  | outside => exact ⟨_, _, rfl, keeps, within⟩
  | loop now t => exact ⟨_, _, rfl, keeps, within⟩
  | proc now t next =>
      obtain ⟨isFired, others⟩ := within
      obtain ⟨e, isActive, rfl⟩ := List.mem_map.mp isFired
      obtain ⟨heap', settled, keeps', -⟩ := keeps.settle isActive
      unfold perform
      dsimp only
      rw [settled]
      refine ⟨_, _, rfl, keeps', fun id isNext => ?_⟩
      obtain ⟨isOne, different⟩ := others id isNext
      exact ids_settle keeps.holds.wellFormed isOne different

/-- Every allowed call returns and keeps the invariant. -/
theorem Sound.perform (sound : m.Sound timers) {call : TimerCall} (allowed : m.Allowed call)
    : ∃ m' timers', m.perform call = some m' ∧ m'.Sound timers' := by
  cases call with
  | create malloc now record => exact sound.create allowed.1 now record
  | reset now t => exact sound.reset allowed.1 now
  | round =>
      obtain ⟨m', done, sound'⟩ := sound.round
      exact ⟨m', timers, done, sound'⟩
  | finish => exact sound.finish
  | cancel t =>
      obtain ⟨isActive, outside⟩ := allowed
      obtain ⟨e, isOne, rfl⟩ := sound.entry_of_active isActive
      obtain ⟨keeps, -, -⟩ := sound.keeps.tmrCancel isOne
      refine ⟨_, _, rfl, keeps, ?_⟩
      rw [show m.place = .outside from outside]
      trivial
  | cleanup =>
      obtain ⟨heap', done, keeps⟩ := sound.keeps.tmrCleanup
      unfold Machine.perform
      dsimp only
      rw [done]
      exact ⟨_, _, rfl, keeps, sound.within⟩
  | destroy =>
      obtain ⟨heap', done, keeps⟩ := sound.keeps.tmrDestroy
      unfold Machine.perform
      dsimp only
      rw [done]
      refine ⟨_, _, rfl, keeps, ?_⟩
      rw [show m.place = .outside from allowed]
      trivial
  | run now =>
      refine ⟨_, timers, rfl, sound.keeps, fun id isOne => ?_⟩
      have linked := sound.keeps.holds.linked
      rw [linked.timers_eq] at isOne
      exact List.mem_of_mem_head? isOne

/-- The run lemma: a sequence of allowed calls returns and keeps the invariant. -/
theorem Sound.performAll (sound : m.Sound timers) {calls : List TimerCall}
    (allowed : m.AllowedRun calls)
    : ∃ m' timers', m.performAll calls = some m' ∧ m'.Sound timers' := by
  induction calls generalizing m timers with
  | nil => exact ⟨m, timers, rfl, sound⟩
  | cons call calls ih =>
      obtain ⟨m', timers', done, sound'⟩ := sound.perform allowed.1
      obtain ⟨isAllowed, others⟩ := allowed
      rw [done] at others
      obtain ⟨m'', timers'', run, sound''⟩ := ih sound' others
      refine ⟨m'', timers'', ?_, sound''⟩
      unfold Machine.performAll
      rw [List.foldlM_cons, done]
      exact run

/-- The program at its start: both pointers are null and no node was allocated. -/
def initial (memory : Nat → TimerStruct) : Machine :=
  { heap := { memory }, place := .outside }

theorem initial_sound (memory : Nat → TimerStruct)
    : (initial memory).Sound { active := [], free := [] } := by
  refine sound_outside ⟨⟨⟨⟨none, rfl, rfl⟩, rfl, .refl _, List.nodup_nil⟩, rfl⟩, ⟨.nil, ?_⟩, ?_⟩
  · exact fun _ isOne => (List.not_mem_nil isOne).elim
  · exact fun _ isOne => (List.not_mem_nil isOne).elim

end Machine

-----------------------------------------------------------------------------------------
-- The time until the first timer
-----------------------------------------------------------------------------------------

/-- Without timers there is no timeout; else it is the time until any that is the earliest. -/
theorem TimerHeap.Keeps.tmrTimeout {heap : TimerHeap} {timers : Timers IperfTime TimerRecord}
    (keeps : heap.Keeps timers) {now : IperfTime} (normal : now.Normalised)
    : (heap.tmrTimeout now = none ↔ timers.active = [])
      ∧ ∀ e ∈ timers.active,
        (∀ other ∈ timers.active, iperfTimeInUsecs e.time ≤ iperfTimeInUsecs other.time) →
        ∃ timeout, heap.tmrTimeout now = some timeout
          ∧ timeout.inUsecs = iperfTimeInUsecs e.time - iperfTimeInUsecs now
          ∧ timeout.usec < 1000000 := by
  unfold TimerHeap.tmrTimeout
  rw [keeps.holds.linked.timers_eq]
  cases isList : timers.active with
  | nil => exact ⟨iff_of_true rfl rfl, fun e isOne => (List.not_mem_nil isOne).elim⟩
  | cons head rest =>
      have isHead : head ∈ timers.active := isList ▸ List.mem_cons_self
      have normalHead := keeps.normal head isHead
      have timeout : Iperf.tmrTimeout
          ((((head :: rest).map Entry.id).head?).map heap.time) now
          = some (Timeval.ofUsecs (iperfTimeInUsecs head.time - iperfTimeInUsecs now)) := by
        rw [List.map_cons, List.head?_cons, Option.map_some, keeps.holds.time isHead]
        exact tmrTimeout_normalised normalHead normal
      rw [timeout]
      refine ⟨iff_of_false (by exact nofun) (List.cons_ne_nil _ _), fun e isOne earliest => ?_⟩
      have normalOne := keeps.normal e (isList ▸ isOne)
      -- the head is as early as any other that nothing is earlier than
      have sorted := keeps.ordered.sorted
      rw [isList] at sorted
      have first : iperfTimeInUsecs head.time ≤ iperfTimeInUsecs e.time := by
        rcases List.mem_cons.mp isOne with rfl | isRest
        · exact le_refl _
        · exact (IperfTime.le_iff_inUsecs normalHead normalOne).mp
            ((List.pairwise_cons.mp sorted).1 e isRest)
      have same := le_antisymm first (earliest head List.mem_cons_self)
      refine ⟨_, rfl, ?_, Timeval.usec_ofUsecs _⟩
      rw [Timeval.inUsecs_ofUsecs, same]

/-- In every sequence of calls, those that procedures make included, every call returns, the
pointers are those of a sorted doubly linked list and a free list on which each node is once, and
the timeout is the time until the earliest timer.
-/
theorem Machine.timerLists_wellFormed (memory : Nat → TimerStruct) {calls : List TimerCall}
    (allowed : (initial memory).AllowedRun calls)
    : ∃ m timers, (initial memory).performAll calls = some m ∧ m.heap.Keeps timers
      ∧ (∀ e ∈ timers.active, ∀ other ∈ timers.active,
        m.heap.next e.id = some other.id ↔ m.heap.prev other.id = some e.id)
      ∧ (∀ first ∈ m.heap.timers, m.heap.prev first = none)
      ∧ ∀ now : IperfTime, now.Normalised →
        (m.heap.tmrTimeout now = none ↔ timers.active = [])
        ∧ ∀ e ∈ timers.active,
          (∀ other ∈ timers.active, iperfTimeInUsecs e.time ≤ iperfTimeInUsecs other.time) →
          ∃ timeout, m.heap.tmrTimeout now = some timeout
            ∧ timeout.inUsecs = iperfTimeInUsecs e.time - iperfTimeInUsecs now
            ∧ timeout.usec < 1000000 := by
  obtain ⟨m, timers, done, sound⟩ := (initial_sound memory).performAll allowed
  have doubly := sound.keeps.holds.linked.doubly
  refine ⟨m, timers, done, sound.keeps, ?_, ?_, fun now normal => sound.keeps.tmrTimeout normal⟩
  · intro e isOne other isOther
    exact doubly.next_eq_iff (List.mem_map_of_mem isOne) (List.mem_map_of_mem isOther)
  · intro first isFirst
    exact doubly.prev_first isFirst

/-- A one-shot timer and a periodic one, which the procedure of the first resets. -/
def omitCalls : List TimerCall :=
  let second : IperfTime := { secs := 1, usecs := 0 }
  let timer (proc : TimerField) (periodic : Bool) : TimerRecord :=
    { proc, clientData := 0, usecs := 1000000, periodic }
  [.create (some 0) second (timer .omitTimer false),
    .create (some 1) second (timer .statsTimer true),
    .run { secs := 3, usecs := 0 }, .round, .reset second 1, .finish, .round, .finish]

/-- Memory of which nothing is known yet. -/
def unwritten : Nat → TimerStruct := fun _ =>
  {
    record := { proc := .timer, clientData := 0, usecs := 0, periodic := false }
    time := { secs := 0, usecs := 0 }
    prev := none
    next := none
  }

theorem Machine.timerLists_wellFormed_omit
    : (initial unwritten).AllowedRun omitCalls
      ∧ ∃ m timers, (initial unwritten).performAll omitCalls = some m ∧ m.heap.Keeps timers := by
  have allowed : (initial unwritten).AllowedRun omitCalls := by decide +kernel
  obtain ⟨m, timers, done, keeps, -⟩ := timerLists_wellFormed unwritten allowed
  exact ⟨allowed, m, timers, done, keeps⟩

end Iperf
