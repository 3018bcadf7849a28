import Iperf.Library.TimerList
import Iperf.Model.Time

/-! The timers of a test: the process-wide list, and the four fields of the test that point
into it.
-/

namespace Iperf

open TimerList

/-- The timer fields of a test, which also name the four timer procedures. -/
inductive TimerField where
  | timer
  | statsTimer
  | reporterTimer
  | omitTimer
deriving DecidableEq, Repr

/-- What `tmr_create` stores in a timer; `clientData` is the address of the test. -/
structure TimerRecord where
  proc : TimerField
  clientData : Nat
  usecs : UInt64
  periodic : Bool
deriving DecidableEq

/-- The clock, or `none` when it cannot be read, and whether each `malloc` succeeds. -/
structure TimersIo where
  clock : Option IperfTime := some { secs := 0, usecs := 0 }
  omitClock : Option IperfTime := some { secs := 0, usecs := 0 }
  allocated : TimerField → Bool := fun _ => true

/-- The microseconds of an interval in seconds. -/
def usecsOfInterval (interval : ℚ) : UInt64 := UInt64.ofNat (interval * 1000000).floor.toNat

/-- The timers after one has fired: it is scheduled again or cancelled. -/
def settle (timers : Timers IperfTime TimerRecord) (entry : Entry IperfTime TimerRecord)
    : Timers IperfTime TimerRecord :=
  if entry.record.periodic then
    timers.reschedule entry.id (iperfTimeAddUsecs entry.time entry.record.usecs)
  else timers.cancel entry.id

theorem settle_periodic {timers : Timers IperfTime TimerRecord}
    {entry : Entry IperfTime TimerRecord} (again : entry.record.periodic = true)
    : settle timers entry
      = timers.reschedule entry.id (iperfTimeAddUsecs entry.time entry.record.usecs) :=
  if_pos again

theorem settle_oneShot {timers : Timers IperfTime TimerRecord}
    {entry : Entry IperfTime TimerRecord} (oneShot : ¬ entry.record.periodic = true)
    : settle timers entry = timers.cancel entry.id :=
  if_neg oneShot

-----------------------------------------------------------------------------------------
-- Ownership
-----------------------------------------------------------------------------------------

/-- The process-wide timers together with the test's address and its four fields. -/
structure Timing where
  address : Nat
  timers : Timers IperfTime TimerRecord
  field : TimerField → Option Nat

/-- The timer was created by the test. -/
def Timing.Own (t : Timing) (entry : Entry IperfTime TimerRecord) : Prop :=
  entry.record.clientData = t.address

/-- Every field points to an active timer of its procedure, and every timer of the test is the
target of its procedure's field. The timer that is firing is exempt.
-/
structure Timing.Owned (t : Timing) (firing : Option Nat) : Prop where
  wellFormed : t.timers.WellFormed
  target : ∀ field id, t.field field = some id →
    some id ≠ firing
    ∧ ∃ entry ∈ t.timers.active, entry.id = id ∧ entry.record.proc = field ∧ t.Own entry
  owner : ∀ entry ∈ t.timers.active, t.Own entry → some entry.id ≠ firing →
    t.field entry.record.proc = some entry.id
  periodic : ∀ entry ∈ t.timers.active, t.Own entry →
    (entry.record.periodic = true
      ↔ entry.record.proc = .statsTimer ∨ entry.record.proc = .reporterTimer)

variable {t : Timing} {firing : Option Nat}

/-- A new timer for a field that was `NULL`. -/
theorem Timing.Owned.create (owned : t.Owned none) {field : TimerField}
    (unset : t.field field = none) {id : Nat} {time : IperfTime} {usecs : UInt64}
    {periodic allocated : Bool} {timers : Timers IperfTime TimerRecord}
    (kind : periodic = true ↔ field = .statsTimer ∨ field = .reporterTimer)
    (created : t.timers.create time { proc := field, clientData := t.address, usecs, periodic }
      allocated = some (id, timers))
    : Timing.Owned { t with timers, field := Function.update t.field field (some id) } none := by
  have made := Timers.create_created owned.wellFormed created
  refine ⟨made.wellFormed, ?_, ?_, ?_⟩
  · intro other target points
    refine ⟨nofun, ?_⟩
    dsimp only at points
    by_cases same : other = field
    · subst same
      rw [Function.update_self] at points
      exact ⟨_, made.mem.mpr (.inl rfl), Option.some.inj points, rfl, rfl⟩
    · rw [Function.update_of_ne same] at points
      obtain ⟨-, entry, isActive, rest⟩ := owned.target other target points
      exact ⟨entry, made.mem.mpr (.inr isActive), rest⟩
  · intro entry isActive own exempt
    rcases made.mem.mp isActive with rfl | before
    · exact Function.update_self ..
    · have points := owned.owner entry before own nofun
      have different : entry.record.proc ≠ field := by
        intro same
        rw [same, unset] at points
        cases points
      exact (Function.update_of_ne different ..).trans points
  · intro entry isActive own
    rcases made.mem.mp isActive with rfl | before
    · exact kind
    · exact owned.periodic entry before own

/-- A timer that gets another time. -/
theorem Timing.Owned.reschedule (owned : t.Owned firing) (id : Nat) (time : IperfTime)
    : Timing.Owned { t with timers := t.timers.reschedule id time } firing := by
  cases found : t.timers.find id with
  | none =>
      have same : t.timers.reschedule id time = t.timers := by
        unfold Timers.reschedule
        rw [found]
      rw [same]
      exact owned
  | some old =>
      obtain ⟨isOld, rfl⟩ := Timers.find_some found
      have mem {entry : Entry IperfTime TimerRecord} :=
        @Timers.mem_reschedule _ _ _ _ time owned.wellFormed old isOld entry
      refine ⟨owned.wellFormed.reschedule _ _, ?_, ?_, ?_⟩
      · intro field target points
        obtain ⟨exempt, entry, isActive, rfl, proc, own⟩ := owned.target field target points
        refine ⟨exempt, ?_⟩
        by_cases same : entry.id = old.id
        · obtain rfl := owned.wellFormed.eq_of_id isActive isOld same
          exact ⟨{ entry with time }, mem.mpr (.inl rfl), rfl, proc, own⟩
        · exact ⟨entry, mem.mpr (.inr ⟨isActive, same⟩), rfl, proc, own⟩
      · intro entry isActive own exempt
        rcases mem.mp isActive with rfl | ⟨before, -⟩
        · exact owned.owner old isOld own exempt
        · exact owned.owner entry before own exempt
      · intro entry isActive own
        rcases mem.mp isActive with rfl | ⟨before, -⟩
        · exact owned.periodic old isOld own
        · exact owned.periodic entry before own

/-- A procedure that starts by setting its field to `NULL`. -/
theorem Timing.Owned.release (owned : t.Owned none) {entry : Entry IperfTime TimerRecord}
    (isActive : entry ∈ t.timers.active) (own : t.Own entry)
    : Timing.Owned { t with field := Function.update t.field entry.record.proc none }
        (some entry.id) := by
  refine ⟨owned.wellFormed, ?_, ?_, owned.periodic⟩
  · intro field target points
    dsimp only at points
    by_cases same : field = entry.record.proc
    · rw [same, Function.update_self] at points
      cases points
    · rw [Function.update_of_ne same] at points
      obtain ⟨-, other, isOther, rfl, proc, otherOwn⟩ := owned.target field target points
      refine ⟨?_, other, isOther, rfl, proc, otherOwn⟩
      intro sameId
      obtain rfl := owned.wellFormed.eq_of_id isOther isActive (Option.some.inj sameId)
      exact same proc.symm
  · intro other isOther otherOwn exempt
    have points := owned.owner other isOther otherOwn nofun
    have different : other.record.proc ≠ entry.record.proc := by
      intro same
      have pointsToo := owned.owner entry isActive own nofun
      rw [← same, points] at pointsToo
      exact exempt pointsToo
    exact (Function.update_of_ne different ..).trans points

/-- The timer that was firing is cancelled, or one of another test. -/
theorem Timing.Owned.cancel (owned : t.Owned firing) {entry : Entry IperfTime TimerRecord}
    (isActive : entry ∈ t.timers.active)
    (outside : firing = some entry.id ∨ firing = none ∧ ¬ t.Own entry)
    : Timing.Owned { t with timers := t.timers.cancel entry.id } none := by
  refine ⟨owned.wellFormed.cancel isActive, ?_, ?_, ?_⟩
  · intro field target points
    obtain ⟨exempt, other, isOther, rfl, proc, own⟩ := owned.target field target points
    refine ⟨nofun, other, Timers.mem_cancel.mpr ⟨isOther, ?_⟩, rfl, proc, own⟩
    intro same
    rcases outside with rfl | ⟨-, foreign⟩
    · exact exempt (congrArg some same)
    · obtain rfl := owned.wellFormed.eq_of_id isOther isActive same
      exact foreign own
  · intro other isOther own _
    obtain ⟨before, different⟩ := Timers.mem_cancel.mp isOther
    refine owned.owner other before own ?_
    intro same
    rcases outside with rfl | ⟨rfl, -⟩
    · exact different (Option.some.inj same)
    · cases same
  · intro other isOther own
    exact owned.periodic other (Timers.mem_cancel.mp isOther).1 own

-----------------------------------------------------------------------------------------
-- Creation
-----------------------------------------------------------------------------------------

namespace Timing

def setField (t : Timing) (field : TimerField) (target : Option Nat) : Timing :=
  { t with field := Function.update t.field field target }

theorem setField_of_unset {field : TimerField} (unset : t.field field = none)
    : t.setField field none = t := by
  unfold setField
  rw [← unset, Function.update_eq_self]

/-- `tmr_create` for one of the fields, which is `NULL` when it fails. -/
def createTimer (t : Timing) (now : IperfTime) (field : TimerField) (usecs : UInt64)
    (periodic allocated : Bool)
    : Except Timing Timing :=
  let record := { proc := field, clientData := t.address, usecs, periodic }
  match t.timers.create (iperfTimeAddUsecs now usecs) record allocated with
  | none => .error (t.setField field none)
  | some (id, timers) => .ok { (t.setField field (some id)) with timers }

/-- A timer that is wanted only under a condition. -/
def createTimerIf (wanted : Bool) (t : Timing) (now : IperfTime) (field : TimerField)
    (usecs : UInt64) (periodic allocated : Bool)
    : Except Timing Timing :=
  if wanted then t.createTimer now field usecs periodic allocated else .ok t

/-- The timers that a sequence of creations leaves, whatever it returns. -/
def left : Except Timing Timing → Timing
  | .error t => t
  | .ok t => t

theorem createTimer_address (t : Timing) (now : IperfTime) (field : TimerField) (usecs : UInt64)
    (periodic allocated : Bool)
    : (left (t.createTimer now field usecs periodic allocated)).address = t.address := by
  unfold Timing.createTimer
  dsimp only
  split <;> rfl

theorem createTimerIf_address (wanted : Bool) (t : Timing) (now : IperfTime) (field : TimerField)
    (usecs : UInt64) (periodic allocated : Bool)
    : (left (createTimerIf wanted t now field usecs periodic allocated)).address
      = t.address := by
  unfold Timing.createTimerIf
  split
  · exact createTimer_address ..
  · rfl

/-- What each step in the creation of the timers keeps: ownership, with `NULL` in the fields
whose turn is still to come.
-/
structure Arming (t : Timing) (pending : List TimerField) : Prop where
  owned : t.Owned none
  unset : ∀ field ∈ pending, t.field field = none

theorem Arming.mono {pending fewer : List TimerField} (arming : t.Arming pending)
    (subset : fewer ⊆ pending)
    : t.Arming fewer :=
  ⟨arming.owned, fun field isPending => arming.unset field (subset isPending)⟩

theorem Arming.createTimer {field : TimerField} {pending : List TimerField}
    (arming : t.Arming (field :: pending)) (others : field ∉ pending) (now : IperfTime)
    (usecs : UInt64) {periodic : Bool} (allocated : Bool)
    (kind : periodic = true ↔ field = .statsTimer ∨ field = .reporterTimer)
    : (left (t.createTimer now field usecs periodic allocated)).Arming pending := by
  have unset := arming.unset field List.mem_cons_self
  unfold Timing.createTimer
  dsimp only
  split
  · rw [setField_of_unset unset]
    exact arming.mono (List.subset_cons_self ..)
  · next id timers created =>
      refine ⟨arming.owned.create unset kind created, fun other isPending => ?_⟩
      have different : other ≠ field := fun same => others (same ▸ isPending)
      exact (Function.update_of_ne different ..).trans
        (arming.unset other (List.mem_cons_of_mem _ isPending))

theorem Arming.createTimerIf {field : TimerField} {pending : List TimerField}
    (arming : t.Arming (field :: pending)) (others : field ∉ pending) (wanted : Bool)
    (now : IperfTime) (usecs : UInt64) {periodic : Bool} (allocated : Bool)
    (kind : periodic = true ↔ field = .statsTimer ∨ field = .reporterTimer)
    : (left (createTimerIf wanted t now field usecs periodic allocated)).Arming pending := by
  unfold Timing.createTimerIf
  split
  · exact arming.createTimer others now usecs allocated kind
  · exact arming.mono (List.subset_cons_self ..)

/-- A sequence stops where its first part fails. -/
theorem Arming.andThen {x : Except Timing Timing} {f : Timing → Except Timing Timing}
    {pending fewer : List TimerField} (arming : (left x).Arming pending) (subset : fewer ⊆ pending)
    (continues : ∀ t : Timing, t.Arming pending → (left (f t)).Arming fewer)
    : (left (x >>= f)).Arming fewer := by
  cases x with
  | error t => exact arming.mono subset
  | ok t => exact continues t arming

-----------------------------------------------------------------------------------------
-- Expiry
-----------------------------------------------------------------------------------------

/-- `tmr_reset` of the timer in a field, if there is one. -/
def resetTimer (t : Timing) (now : IperfTime) (field : TimerField) : Timing :=
  match (t.field field).bind t.timers.find with
  | none => t
  | some entry =>
      { t with
        timers := t.timers.reschedule entry.id (iperfTimeAddUsecs now entry.record.usecs) }

/-- What a timer procedure of the test does with the timers. -/
def runProc (t : Timing) (now : IperfTime) : TimerField → Timing
  | .timer => t.setField .timer none
  | .statsTimer | .reporterTimer => t
  | .omitTimer =>
      ((t.setField .omitTimer none).resetTimer now .statsTimer).resetTimer now .reporterTimer

/-- A timer has fired. The procedure of another test's timer leaves this test alone. -/
def fire (t : Timing) (now : IperfTime) (entry : Entry IperfTime TimerRecord) : Timing :=
  let t := if entry.record.clientData = t.address then t.runProc now entry.record.proc else t
  { t with timers := settle t.timers entry }

theorem resetTimer_address (t : Timing) (now : IperfTime) (field : TimerField)
    : (t.resetTimer now field).address = t.address := by
  unfold Timing.resetTimer
  split <;> rfl

theorem Owned.resetTimer (owned : t.Owned firing) (now : IperfTime) (field : TimerField)
    : (t.resetTimer now field).Owned firing := by
  unfold Timing.resetTimer
  split
  · exact owned
  · exact owned.reschedule _ _

theorem resetTimer_present (wellFormed : t.timers.WellFormed) (now : IperfTime)
    (field : TimerField) {entry : Entry IperfTime TimerRecord}
    (isActive : entry ∈ t.timers.active)
    : ∃ other ∈ (t.resetTimer now field).timers.active, other.id = entry.id := by
  unfold Timing.resetTimer
  split
  · exact ⟨entry, isActive, rfl⟩
  · exact wellFormed.reschedule_present _ _ isActive

theorem Owned.fireForeign (owned : t.Owned none) {entry : Entry IperfTime TimerRecord}
    (isActive : entry ∈ t.timers.active) (foreign : ¬ t.Own entry)
    : Owned { t with timers := settle t.timers entry } none := by
  by_cases again : entry.record.periodic = true
  · rw [settle_periodic again]
    exact owned.reschedule _ _
  · rw [settle_oneShot again]
    exact owned.cancel isActive (.inr ⟨rfl, foreign⟩)

/-- A timer of the test fires, by cases on its procedure. -/
theorem Owned.fireOwn (owned : t.Owned none) {entry : Entry IperfTime TimerRecord}
    (isActive : entry ∈ t.timers.active) (own : t.Own entry) (now : IperfTime)
    : Owned {
        t.runProc now entry.record.proc with
        timers := settle (t.runProc now entry.record.proc).timers entry
      } none := by
  have periodic := owned.periodic entry isActive own
  have released := owned.release isActive own
  cases proc : entry.record.proc with
  | timer =>
      rw [proc] at periodic released
      have oneShot : ¬ entry.record.periodic = true := fun again => by simpa using periodic.mp again
      rw [settle_oneShot oneShot]
      exact released.cancel isActive (.inl rfl)
  | statsTimer =>
      rw [settle_periodic (periodic.mpr (.inl proc))]
      exact owned.reschedule _ _
  | reporterTimer =>
      rw [settle_periodic (periodic.mpr (.inr proc))]
      exact owned.reschedule _ _
  | omitTimer =>
      rw [proc] at periodic released
      have oneShot : ¬ entry.record.periodic = true := fun again => by simpa using periodic.mp again
      rw [settle_oneShot oneShot]
      -- the two timers are scheduled again while this one is still active
      let cleared : Timing := t.setField .omitTimer none
      have owned₀ : cleared.Owned (some entry.id) := released
      have owned₁ := owned₀.resetTimer now .statsTimer
      have owned₂ := owned₁.resetTimer now .reporterTimer
      obtain ⟨entry₁, isActive₁, same₁⟩ :=
        @resetTimer_present cleared owned₀.wellFormed now .statsTimer entry isActive
      obtain ⟨entry₂, isActive₂, same₂⟩ :=
        resetTimer_present owned₁.wellFormed now .reporterTimer isActive₁
      have same : entry₂.id = entry.id := same₂.trans same₁
      have result := owned₂.cancel isActive₂ (.inl (congrArg some same.symm))
      rw [same] at result
      exact result

theorem Owned.fire (owned : t.Owned none) {entry : Entry IperfTime TimerRecord}
    (isActive : entry ∈ t.timers.active) (now : IperfTime)
    : (t.fire now entry).Owned none := by
  unfold Timing.fire
  dsimp only
  split
  · next own => exact owned.fireOwn isActive own now
  · next foreign => exact owned.fireForeign isActive foreign

-----------------------------------------------------------------------------------------
-- Cancellation
-----------------------------------------------------------------------------------------

/-- Cancel the timer of a field, if there is one, and set the field to `NULL`. -/
def cancelTimer (t : Timing) (field : TimerField) : Timing :=
  match t.field field with
  | none => t
  | some id => { (t.setField field none) with timers := t.timers.cancel id }

theorem Owned.cancelTimer (owned : t.Owned none) (field : TimerField)
    : (t.cancelTimer field).Owned none := by
  unfold Timing.cancelTimer
  split
  · exact owned
  · next id points =>
      obtain ⟨-, entry, isActive, rfl, rfl, own⟩ := owned.target field id points
      exact (owned.release isActive own).cancel isActive (.inl rfl)

theorem cancelTimer_field (t : Timing) (field other : TimerField)
    : (t.cancelTimer field).field other = if other = field then none else t.field other := by
  unfold Timing.cancelTimer
  split
  · next unset =>
      split
      · next same => rw [same, unset]
      · rfl
  · exact Function.update_apply t.field field none other

/-- `NULL` in all four fields: no timer of the test is active. -/
theorem Owned.gone (owned : t.Owned none) (unset : ∀ field, t.field field = none)
    : ∀ entry ∈ t.timers.active, ¬ t.Own entry := by
  intro entry isActive own
  have points := owned.owner entry isActive own nofun
  rw [unset] at points
  cases points

-----------------------------------------------------------------------------------------
-- The timers of one procedure
-----------------------------------------------------------------------------------------

/-- A timer of the test waits for the procedure. -/
def Armed (t : Timing) (field : TimerField) : Prop :=
  ∃ entry ∈ t.timers.active, t.Own entry ∧ entry.record.proc = field

/-- The timers of one procedure fire once and are the target of its field, whatever becomes of
the other fields.
-/
structure Tracked (t : Timing) (field : TimerField) : Prop where
  wellFormed : t.timers.WellFormed
  target : ∀ entry ∈ t.timers.active, t.Own entry → entry.record.proc = field →
    t.field field = some entry.id ∧ entry.record.periodic = false

/-- Every timer was there before, maybe with another time. -/
structure Inherits (t next : Timing) : Prop where
  address : next.address = t.address
  wellFormed : next.timers.WellFormed
  origin : ∀ entry ∈ next.timers.active,
    ∃ old ∈ t.timers.active, old.id = entry.id ∧ old.record = entry.record

variable {next last : Timing} {field : TimerField}

theorem Inherits.trans (first : Inherits t next) (second : Inherits next last)
    : Inherits t last := by
  refine ⟨second.address.trans first.address, second.wellFormed, fun entry isActive => ?_⟩
  obtain ⟨middle, isMiddle, sameId, sameRecord⟩ := second.origin entry isActive
  obtain ⟨old, isOld, id, record⟩ := first.origin middle isMiddle
  exact ⟨old, isOld, id.trans sameId, record.trans sameRecord⟩

theorem Inherits.armed (inherits : Inherits t next) (armed : next.Armed field) : t.Armed field := by
  obtain ⟨entry, isActive, own, proc⟩ := armed
  obtain ⟨old, isOld, -, record⟩ := inherits.origin entry isActive
  refine ⟨old, isOld, ?_, record ▸ proc⟩
  unfold Own at own ⊢
  rw [record, own, inherits.address]

theorem Tracked.inherit (tracked : t.Tracked field) (inherits : Inherits t next)
    (same : next.field field = t.field field)
    : next.Tracked field := by
  refine ⟨inherits.wellFormed, fun entry isActive own proc => ?_⟩
  obtain ⟨old, isOld, id, record⟩ := inherits.origin entry isActive
  have ownOld : t.Own old := by
    unfold Own at own ⊢
    rw [record, own, inherits.address]
  obtain ⟨points, oneShot⟩ := tracked.target old isOld ownOld (record ▸ proc)
  exact ⟨by rw [same, points, id], record ▸ oneShot⟩

/-- Without a timer of the procedure there is nothing to track. -/
theorem tracked_of_unarmed (wellFormed : t.timers.WellFormed) (unarmed : ¬ t.Armed field)
    : t.Tracked field :=
  ⟨wellFormed, fun entry isActive own proc => absurd ⟨entry, isActive, own, proc⟩ unarmed⟩

theorem inherits_setField (wellFormed : t.timers.WellFormed) (target : Option Nat)
    : Inherits t (t.setField field target) :=
  ⟨rfl, wellFormed, fun entry isActive => ⟨entry, isActive, rfl, rfl⟩⟩

theorem inherits_reschedule (wellFormed : t.timers.WellFormed) (id : Nat) (time : IperfTime)
    : Inherits t { t with timers := t.timers.reschedule id time } := by
  refine ⟨rfl, wellFormed.reschedule id time, fun entry isActive => ?_⟩
  dsimp only at isActive
  cases found : t.timers.find id with
  | none =>
      unfold Timers.reschedule at isActive
      rw [found] at isActive
      exact ⟨entry, isActive, rfl, rfl⟩
  | some old =>
      obtain ⟨isOld, rfl⟩ := Timers.find_some found
      rcases (Timers.mem_reschedule wellFormed isOld).mp isActive with rfl | ⟨before, -⟩
      · exact ⟨old, isOld, rfl, rfl⟩
      · exact ⟨entry, before, rfl, rfl⟩

theorem inherits_cancel (wellFormed : t.timers.WellFormed) {entry : Entry IperfTime TimerRecord}
    (isActive : entry ∈ t.timers.active)
    : Inherits t { t with timers := t.timers.cancel entry.id } :=
  ⟨rfl, wellFormed.cancel isActive, fun other isLeft =>
    ⟨other, (Timers.mem_cancel.mp isLeft).1, rfl, rfl⟩⟩

theorem inherits_resetTimer (wellFormed : t.timers.WellFormed) (now : IperfTime)
    : Inherits t (t.resetTimer now field) := by
  unfold Timing.resetTimer
  split
  · exact ⟨rfl, wellFormed, fun entry isActive => ⟨entry, isActive, rfl, rfl⟩⟩
  · exact inherits_reschedule wellFormed _ _

theorem inherits_settle (wellFormed : t.timers.WellFormed) {entry : Entry IperfTime TimerRecord}
    {other : Entry IperfTime TimerRecord} (isActive : other ∈ t.timers.active)
    (same : other.id = entry.id)
    : Inherits t { t with timers := settle t.timers entry } := by
  unfold settle
  split
  · exact inherits_reschedule wellFormed _ _
  · rw [← same]
    exact inherits_cancel wellFormed isActive

/-- A procedure keeps the timers, and the one that fires among them. -/
theorem inherits_runProc (wellFormed : t.timers.WellFormed) (now : IperfTime)
    {entry : Entry IperfTime TimerRecord} (isActive : entry ∈ t.timers.active)
    (proc : TimerField)
    : Inherits t (t.runProc now proc)
      ∧ ∃ other ∈ (t.runProc now proc).timers.active, other.id = entry.id := by
  cases proc with
  | timer => exact ⟨inherits_setField wellFormed none, entry, isActive, rfl⟩
  | statsTimer =>
      exact ⟨⟨rfl, wellFormed, fun other isOther => ⟨other, isOther, rfl, rfl⟩⟩, entry, isActive,
        rfl⟩
  | reporterTimer =>
      exact ⟨⟨rfl, wellFormed, fun other isOther => ⟨other, isOther, rfl, rfl⟩⟩, entry, isActive,
        rfl⟩
  | omitTimer =>
      have first := @inherits_setField t .omitTimer wellFormed none
      have second := @inherits_resetTimer _ .statsTimer first.wellFormed now
      have third := @inherits_resetTimer _ .reporterTimer second.wellFormed now
      obtain ⟨entry₁, isActive₁, same₁⟩ :=
        @resetTimer_present
            (t.setField .omitTimer none) first.wellFormed now .statsTimer entry isActive
      obtain ⟨entry₂, isActive₂, same₂⟩ :=
        resetTimer_present second.wellFormed now .reporterTimer isActive₁
      exact ⟨(first.trans second).trans third, entry₂, isActive₂, same₂.trans same₁⟩

theorem inherits_fire (wellFormed : t.timers.WellFormed) (now : IperfTime)
    {entry : Entry IperfTime TimerRecord} (isActive : entry ∈ t.timers.active)
    : Inherits t (t.fire now entry) := by
  unfold Timing.fire
  dsimp only
  split
  · obtain ⟨ran, other, isOther, same⟩ := inherits_runProc wellFormed now isActive entry.record.proc
    exact ran.trans (inherits_settle ran.wellFormed isOther same)
  · exact inherits_settle wellFormed isActive rfl

theorem resetTimer_field (t : Timing) (now : IperfTime) (field other : TimerField)
    : (t.resetTimer now field).field other = t.field other := by
  unfold Timing.resetTimer
  split <;> rfl

theorem runProc_field (t : Timing) (now : IperfTime) {proc other : TimerField}
    (different : proc ≠ other)
    : (t.runProc now proc).field other = t.field other := by
  cases proc with
  | timer => exact Function.update_of_ne (Ne.symm different) ..
  | statsTimer => rfl
  | reporterTimer => rfl
  | omitTimer =>
      unfold Timing.runProc
      rw [resetTimer_field, resetTimer_field]
      exact Function.update_of_ne (Ne.symm different) ..

/-- The timer of the procedure itself fires: no other one waits. -/
theorem Tracked.fireOwn (tracked : t.Tracked field) (now : IperfTime)
    {entry : Entry IperfTime TimerRecord} (isActive : entry ∈ t.timers.active) (own : t.Own entry)
    (proc : entry.record.proc = field)
    : ¬ (t.fire now entry).Armed field := by
  rintro ⟨other, isLeft, ownOther, procOther⟩
  obtain ⟨points, oneShot⟩ := tracked.target entry isActive own proc
  have inherits := inherits_fire tracked.wellFormed now isActive
  obtain ⟨old, isOld, id, record⟩ := inherits.origin other isLeft
  have ownOld : t.Own old := by
    unfold Own at ownOther ⊢
    rw [record, ownOther, inherits.address]
  obtain ⟨pointsOld, -⟩ := tracked.target old isOld ownOld (record ▸ procOther)
  have same : old.id = entry.id := Option.some.inj (pointsOld.symm.trans points)
  unfold Timing.fire at isLeft
  dsimp only at isLeft
  rw [settle_oneShot (by rw [oneShot]; exact Bool.false_ne_true)] at isLeft
  exact (Timers.mem_cancel.mp isLeft).2 (id.symm.trans same)

theorem Tracked.fire (tracked : t.Tracked field) (now : IperfTime)
    {entry : Entry IperfTime TimerRecord} (isActive : entry ∈ t.timers.active)
    : (t.fire now entry).Tracked field := by
  have inherits := inherits_fire tracked.wellFormed now isActive
  by_cases own : entry.record.clientData = t.address
  · by_cases proc : entry.record.proc = field
    · exact tracked_of_unarmed inherits.wellFormed (tracked.fireOwn now isActive own proc)
    · refine tracked.inherit inherits ?_
      unfold Timing.fire
      dsimp only
      rw [if_pos own]
      exact runProc_field t now proc
  · refine tracked.inherit inherits ?_
    unfold Timing.fire
    dsimp only
    rw [if_neg own]

theorem Tracked.setField (tracked : t.Tracked field) {other : TimerField}
    (different : other ≠ field)
    (target : Option Nat)
    : (t.setField other target).Tracked field :=
  tracked.inherit (inherits_setField tracked.wellFormed target)
    (Function.update_of_ne (Ne.symm different) ..)

/-- A timer for another field. -/
theorem Tracked.createTimer (tracked : t.Tracked field) {other : TimerField}
    (different : other ≠ field) (now : IperfTime) (usecs : UInt64) (periodic allocated : Bool)
    : (left (t.createTimer now other usecs periodic allocated)).Tracked field := by
  unfold Timing.createTimer
  dsimp only
  split
  · exact tracked.setField different none
  · next id timers created =>
      have made := Timers.create_created tracked.wellFormed created
      refine ⟨made.wellFormed, fun entry isActive own proc => ?_⟩
      rcases made.mem.mp isActive with rfl | before
      · exact absurd proc different
      · have kept : Function.update t.field other (some id) field = t.field field :=
          Function.update_of_ne (Ne.symm different) ..
        obtain ⟨points, oneShot⟩ := tracked.target entry before own proc
        exact ⟨kept.trans points, oneShot⟩

theorem Tracked.createTimerIf (tracked : t.Tracked field) {other : TimerField}
    (different : other ≠ field) (wanted : Bool) (now : IperfTime) (usecs : UInt64)
    (periodic allocated : Bool)
    : (left (Timing.createTimerIf wanted t now other usecs periodic allocated)).Tracked field := by
  unfold Timing.createTimerIf
  split
  · exact tracked.createTimer different now usecs periodic allocated
  · exact tracked

/-- The first timer of a procedure. -/
theorem tracked_createTimerIf (wellFormed : t.timers.WellFormed) (unarmed : ¬ t.Armed field)
    (wanted : Bool) (now : IperfTime) (usecs : UInt64) (allocated : Bool)
    : (left (Timing.createTimerIf wanted t now field usecs false allocated)).Tracked field := by
  unfold Timing.createTimerIf Timing.createTimer
  split
  · dsimp only
    split
    · exact tracked_of_unarmed wellFormed unarmed
    · next id timers created =>
        have made := Timers.create_created wellFormed created
        refine ⟨made.wellFormed, fun entry isActive own proc => ?_⟩
        rcases made.mem.mp isActive with rfl | before
        · exact ⟨Function.update_self .., rfl⟩
        · exact absurd ⟨entry, before, own, proc⟩ unarmed
  · exact tracked_of_unarmed wellFormed unarmed

/-- What holds after the first part holds after a sequence. -/
theorem Tracked.andThen {x : Except Timing Timing} {f : Timing → Except Timing Timing}
    (tracked : (left x).Tracked field)
    (continues : ∀ t : Timing, t.Tracked field → (left (f t)).Tracked field)
    : (left (x >>= f)).Tracked field := by
  cases x with
  | error t => exact tracked
  | ok t => exact continues t tracked

end Timing

end Iperf
