import Mathlib.Data.List.Sort
import Mathlib.Data.List.Nodup
import Mathlib.Order.Basic

/-! A list of timers that is kept in the order of their times, with a free list of the nodes
that were cancelled. A node is known by its number.
-/

namespace TimerList

/-- A node on the active list. -/
structure Entry (τ α : Type*) where
  id : Nat
  time : τ
  record : α
deriving DecidableEq

/-- The active list and the numbers of the nodes on the free list. -/
structure Timers (τ α : Type*) where
  active : List (Entry τ α)
  free : List Nat := []

variable {τ α : Type*}

def listRemove (id : Nat) (list : List (Entry τ α)) : List (Entry τ α) :=
  list.filter (fun entry => entry.id ≠ id)

namespace Timers

def ids (timers : Timers τ α) : List Nat := timers.active.map Entry.id ++ timers.free

/-- A number that no node has. -/
def fresh (timers : Timers τ α) : Nat := timers.ids.foldr max 0 + 1

def cancel (timers : Timers τ α) (id : Nat) : Timers τ α :=
  { active := listRemove id timers.active, free := id :: timers.free }

def find (timers : Timers τ α) (id : Nat) : Option (Entry τ α) :=
  timers.active.find? (fun entry => entry.id = id)

/-- The node behind a node. -/
def successor (timers : Timers τ α) (id : Nat) : Option Nat :=
  ((timers.active.dropWhile (fun entry => entry.id ≠ id)).tail.head?).map Entry.id

/-- No node is twice on the lists. -/
def WellFormed (timers : Timers τ α) : Prop := timers.ids.Nodup

end Timers

theorem mem_listRemove {id : Nat} {other : Entry τ α} {list : List (Entry τ α)}
    : other ∈ listRemove id list ↔ other ∈ list ∧ other.id ≠ id := by
  simp [listRemove]

theorem map_id_listRemove (id : Nat) (list : List (Entry τ α))
    : (listRemove id list).map Entry.id = (list.map Entry.id).filter (fun other => other ≠ id) := by
  rw [List.filter_map]
  rfl

namespace Timers

variable {timers : Timers τ α} {id : Nat}

theorem fresh_notMem (timers : Timers τ α) : timers.fresh ∉ timers.ids := by
  have bounded : ∀ (list : List Nat) (n : Nat), n ∈ list → n ≤ list.foldr max 0 := by
    intro list n isMember
    induction list with
    | nil => cases isMember
    | cons head rest ih =>
        rw [List.foldr_cons]
        rcases List.mem_cons.mp isMember with rfl | later
        · exact le_max_left _ _
        · exact (ih later).trans (le_max_right _ _)
  intro isMember
  have := bounded _ _ isMember
  unfold fresh at this
  omega

/-- A number stands for one node. -/
theorem WellFormed.eq_of_id (wellFormed : timers.WellFormed) {entry other : Entry τ α}
    (first : entry ∈ timers.active) (second : other ∈ timers.active) (same : entry.id = other.id)
    : entry = other :=
  List.inj_on_of_nodup_map (List.nodup_append.mp wellFormed).1 first second same

/-- An active node is not free. -/
theorem WellFormed.not_free (wellFormed : timers.WellFormed) {entry : Entry τ α}
    (isActive : entry ∈ timers.active)
    : entry.id ∉ timers.free := by
  intro isFree
  exact (List.nodup_append.mp wellFormed).2.2 _ (List.mem_map_of_mem isActive) _ isFree rfl

theorem WellFormed.find (wellFormed : timers.WellFormed) {entry : Entry τ α}
    (isActive : entry ∈ timers.active)
    : timers.find entry.id = some entry := by
  unfold Timers.find
  cases found : timers.active.find? (fun other => other.id = entry.id) with
  | none =>
      have := List.find?_eq_none.mp found entry isActive
      simp at this
  | some other =>
      have same : other.id = entry.id := by simpa using List.find?_some found
      rw [wellFormed.eq_of_id (List.mem_of_find?_eq_some found) isActive same]

theorem find_some {entry : Entry τ α} (found : timers.find id = some entry)
    : entry ∈ timers.active ∧ entry.id = id :=
  ⟨List.mem_of_find?_eq_some found, by simpa using List.find?_some found⟩

theorem mem_cancel {entry : Entry τ α}
    : entry ∈ (timers.cancel id).active ↔ entry ∈ timers.active ∧ entry.id ≠ id :=
  mem_listRemove

theorem WellFormed.cancel (wellFormed : timers.WellFormed) {entry : Entry τ α}
    (isActive : entry ∈ timers.active)
    : (timers.cancel entry.id).WellFormed := by
  obtain ⟨active, free, apart⟩ := List.nodup_append.mp wellFormed
  unfold WellFormed ids Timers.cancel
  rw [map_id_listRemove]
  refine List.nodup_append.mpr ⟨active.filter _, ?_, ?_⟩
  · exact List.nodup_cons.mpr ⟨wellFormed.not_free isActive, free⟩
  · intro first isFirst second isSecond same
    obtain ⟨stillActive, different⟩ := List.mem_filter.mp isFirst
    rcases List.mem_cons.mp isSecond with isIt | isFree
    · simp [same, isIt] at different
    · exact apart first stillActive second isFree same

end Timers

variable [LinearOrder τ]

/-- An entry goes before the first one that is later. -/
def listAdd (entry : Entry τ α) (list : List (Entry τ α)) : List (Entry τ α) :=
  list.orderedInsert (fun entry other => entry.time < other.time) entry

theorem mem_listAdd {entry other : Entry τ α} {list : List (Entry τ α)}
    : other ∈ listAdd entry list ↔ other = entry ∨ other ∈ list :=
  List.mem_orderedInsert _

theorem map_id_listAdd (entry : Entry τ α) (list : List (Entry τ α))
    : ((listAdd entry list).map Entry.id).Perm (entry.id :: list.map Entry.id) :=
  (List.perm_orderedInsert _ entry list).map Entry.id

namespace Timers

/-- Put a node from the free list, or a new one if memory can be had, on the active list. -/
def create (timers : Timers τ α) (time : τ) (record : α) (allocated : Bool)
    : Option (Nat × Timers τ α) :=
  match timers.free with
  | id :: rest => some (id, { active := listAdd { id, time, record } timers.active, free := rest })
  | [] =>
      if allocated then
        let id := timers.fresh
        some (id, { active := listAdd { id, time, record } timers.active, free := [] })
      else none

/-- Give a node another time and sort it in again. -/
def reschedule (timers : Timers τ α) (id : Nat) (time : τ) : Timers τ α :=
  match timers.find id with
  | none => timers
  | some entry =>
      { timers with active := listAdd { entry with time } (listRemove id timers.active) }

variable {timers next : Timers τ α} {id : Nat} {time : τ} {record : α}

/-- The new node was on neither list's active part, and it is the only change there. -/
structure Created (timers next : Timers τ α) (id : Nat) (time : τ) (record : α) : Prop where
  wellFormed : next.WellFormed
  isNew : ∀ entry ∈ timers.active, entry.id ≠ id
  active : next.active = listAdd { id, time, record } timers.active

theorem Created.mem (created : Created timers next id time record) {entry : Entry τ α}
    : entry ∈ next.active ↔ entry = { id, time, record } ∨ entry ∈ timers.active := by
  rw [created.active]
  exact mem_listAdd

theorem create_created {allocated : Bool} (wellFormed : timers.WellFormed)
    (created : timers.create time record allocated = some (id, next))
    : Created timers next id time record := by
  unfold create at created
  split at created
  · -- the head of the free list is taken
    next id' rest free =>
      obtain ⟨rfl, rfl⟩ := Prod.mk.inj (Option.some.inj created)
      unfold WellFormed ids at wellFormed
      rw [free] at wellFormed
      refine ⟨?_, ?_, rfl⟩
      · unfold WellFormed ids
        refine (List.Perm.nodup_iff ?_).mpr wellFormed
        exact ((map_id_listAdd _ _).append_right rest).trans List.perm_middle.symm
      · intro entry isActive same
        exact (List.nodup_append.mp wellFormed).2.2 _ (List.mem_map_of_mem isActive) id'
          List.mem_cons_self same
  · next free =>
      split at created
      · obtain ⟨rfl, rfl⟩ := Prod.mk.inj (Option.some.inj created)
        have isNew := fresh_notMem timers
        unfold WellFormed at wellFormed
        refine ⟨?_, ?_, rfl⟩
        · unfold WellFormed
          refine (List.Perm.nodup_iff ?_).mpr (List.nodup_cons.mpr ⟨isNew, wellFormed⟩)
          unfold ids
          rw [free]
          exact (map_id_listAdd _ _).append_right []
        · intro entry isActive same
          refine isNew (List.mem_append_left _ ?_)
          rw [← same]
          exact List.mem_map_of_mem isActive
      · cases created

theorem WellFormed.reschedule_active (wellFormed : timers.WellFormed) {old : Entry τ α}
    (isActive : old ∈ timers.active) (time : τ)
    : (timers.reschedule old.id time).active
      = listAdd { old with time } (listRemove old.id timers.active) := by
  unfold Timers.reschedule
  rw [wellFormed.find isActive]

theorem mem_reschedule (wellFormed : timers.WellFormed) {old : Entry τ α}
    (isActive : old ∈ timers.active) {entry : Entry τ α}
    : entry ∈ (timers.reschedule old.id time).active
      ↔ entry = { old with time } ∨ (entry ∈ timers.active ∧ entry.id ≠ old.id) := by
  rw [wellFormed.reschedule_active isActive]
  exact mem_listAdd.trans (or_congr_right mem_listRemove)

theorem WellFormed.reschedule (wellFormed : timers.WellFormed) (id : Nat) (time : τ)
    : (timers.reschedule id time).WellFormed := by
  unfold Timers.reschedule
  cases found : timers.find id with
  | none => exact wellFormed
  | some entry =>
      obtain ⟨isActive, rfl⟩ := find_some found
      obtain ⟨active, free, apart⟩ := List.nodup_append.mp wellFormed
      unfold WellFormed ids
      refine (List.Perm.nodup_iff ((map_id_listAdd _ _).append_right _)).mpr ?_
      rw [map_id_listRemove, List.cons_append]
      refine List.nodup_cons.mpr ⟨?_, List.nodup_append.mpr ⟨active.filter _, free, ?_⟩⟩
      · intro isMember
        rcases List.mem_append.mp isMember with isOther | isFree
        · simp at isOther
        · exact wellFormed.not_free isActive isFree
      · intro first isFirst second isSecond
        exact apart first (List.mem_filter.mp isFirst).1 second isSecond

/-- Every node that was active still is. -/
theorem WellFormed.reschedule_present (wellFormed : timers.WellFormed) (id : Nat) (time : τ)
    {entry : Entry τ α} (isActive : entry ∈ timers.active)
    : ∃ other ∈ (timers.reschedule id time).active, other.id = entry.id := by
  cases found : timers.find id with
  | none =>
      refine ⟨entry, ?_, rfl⟩
      unfold Timers.reschedule
      rw [found]
      exact isActive
  | some old =>
      obtain ⟨isOld, rfl⟩ := find_some found
      by_cases same : entry.id = old.id
      · exact ⟨_, (mem_reschedule wellFormed isOld).mpr (.inl rfl), same.symm⟩
      · exact ⟨entry, (mem_reschedule wellFormed isOld).mpr (.inr ⟨isActive, same⟩), rfl⟩

end Timers

end TimerList
