import Iperf.Library.TimerList

/-! Timers that come in pairs on an ordered list: a follower stands right behind its leader, and
the two have the same time. What insertion and removal do to such pairs.
-/

namespace TimerList

variable {τ α : Type*}

-----------------------------------------------------------------------------------------
-- Positions
-----------------------------------------------------------------------------------------

/-- The numbers of the nodes around one are not its own. -/
theorem Timers.WellFormed.others {timers : Timers τ α} (wellFormed : timers.WellFormed)
    {entry : Entry τ α} {front rest : List (Entry τ α)}
    (parts : timers.active = front ++ entry :: rest)
    : (∀ other ∈ front, other.id ≠ entry.id) ∧ ∀ other ∈ rest, other.id ≠ entry.id := by
  have nodup := (List.nodup_append.mp wellFormed).1
  rw [parts, List.map_append, List.map_cons] at nodup
  obtain ⟨-, behind, across⟩ := List.nodup_append.mp nodup
  constructor
  · exact fun other isOne => across _ (List.mem_map_of_mem isOne) _ List.mem_cons_self
  · exact fun other isOne same => (List.nodup_cons.mp behind).1 (same ▸ List.mem_map_of_mem isOne)

/-- What is left without a node. -/
theorem Timers.WellFormed.listRemove_eq {timers : Timers τ α} (wellFormed : timers.WellFormed)
    {entry : Entry τ α} {front rest : List (Entry τ α)}
    (parts : timers.active = front ++ entry :: rest)
    : TimerList.listRemove entry.id timers.active = front ++ rest := by
  obtain ⟨isFront, isRest⟩ := wellFormed.others parts
  unfold TimerList.listRemove
  rw [parts, List.filter_append, List.filter_cons_of_neg (by simp)]
  rw [List.filter_eq_self.mpr (by simpa using isFront),
    List.filter_eq_self.mpr (by simpa using isRest)]

theorem Timers.WellFormed.successor_eq {timers : Timers τ α} (wellFormed : timers.WellFormed)
    {entry : Entry τ α} {front rest : List (Entry τ α)}
    (parts : timers.active = front ++ entry :: rest)
    : timers.successor entry.id = rest.head?.map Entry.id := by
  obtain ⟨isFront, -⟩ := wellFormed.others parts
  unfold Timers.successor
  rw [parts, List.dropWhile_append_of_pos (by simpa using isFront)]
  simp

/-- An active node, what is before and behind it, and what is left without it. -/
theorem Timers.WellFormed.split {timers : Timers τ α} (wellFormed : timers.WellFormed)
    {entry : Entry τ α} (isActive : entry ∈ timers.active)
    : ∃ front rest, timers.active = front ++ entry :: rest
      ∧ TimerList.listRemove entry.id timers.active = front ++ rest
      ∧ timers.successor entry.id = rest.head?.map Entry.id := by
  obtain ⟨front, rest, parts⟩ := List.append_of_mem isActive
  exact ⟨front, rest, parts, wellFormed.listRemove_eq parts, wellFormed.successor_eq parts⟩

/-- Without one of the entries around it, an entry is where it was. -/
theorem listRemove_around {entry : Entry τ α} {id : Nat} (other : entry.id ≠ id)
    (front rest : List (Entry τ α))
    : listRemove id (front ++ entry :: rest)
      = listRemove id front ++ entry :: listRemove id rest := by
  unfold listRemove
  rw [List.filter_append, List.filter_cons_of_pos (by simpa using other)]

-----------------------------------------------------------------------------------------
-- Pairs
-----------------------------------------------------------------------------------------

variable {leads : Entry τ α → Entry τ α → Prop} {follows : Entry τ α → Prop}

/-- Every follower on the list is led by the entry before it; `previous` is before the list. -/
def Chained (leads : Entry τ α → Entry τ α → Prop) (follows : Entry τ α → Prop)
    : Option (Entry τ α) → List (Entry τ α) → Prop
  | _, [] => True
  | previous, entry :: rest =>
      (follows entry → ∃ leader, previous = some leader ∧ leads leader entry)
      ∧ Chained leads follows (some entry) rest

/-- Fewer followers are chained too. -/
theorem Chained.mono {fewer : Entry τ α → Prop} {list : List (Entry τ α)}
    {previous : Option (Entry τ α)} (chained : Chained leads follows previous list)
    (less : ∀ entry ∈ list, fewer entry → follows entry)
    : Chained leads fewer previous list := by
  induction list generalizing previous with
  | nil => trivial
  | cons head tail ih =>
      refine ⟨fun isOne => chained.1 (less head List.mem_cons_self isOne), ?_⟩
      exact ih chained.2 fun entry isOne => less entry (List.mem_cons_of_mem _ isOne)

/-- Without an entry that leads none. -/
theorem Chained.remove {entry : Entry τ α} (alone : ∀ other, ¬ leads entry other)
    {front rest : List (Entry τ α)} {previous : Option (Entry τ α)}
    (chained : Chained leads follows previous (front ++ entry :: rest))
    : Chained leads follows previous (front ++ rest) := by
  induction front generalizing previous with
  | nil =>
      cases rest with
      | nil => trivial
      | cons head tail =>
          obtain ⟨-, behind, others⟩ := chained
          refine ⟨fun isOne => ?_, others⟩
          obtain ⟨leader, ⟨⟩, leads⟩ := behind isOne
          exact absurd leads (alone head)
  | cons head tail ih => exact ⟨chained.1, ih chained.2⟩

/-- Without a leader, the entry behind it apart. -/
theorem Chained.removeLeader {leader : Entry τ α} {front rest : List (Entry τ α)}
    {previous : Option (Entry τ α)}
    (chained : Chained leads follows previous (front ++ leader :: rest))
    : Chained leads (fun entry => follows entry ∧ rest.head?.map Entry.id ≠ some entry.id) previous
        (front ++ rest) := by
  induction front generalizing previous with
  | nil =>
      cases rest with
      | nil => trivial
      | cons head tail =>
          refine ⟨fun isOne => absurd rfl isOne.2, ?_⟩
          exact chained.2.2.mono fun _ _ isOne => isOne.1
  | cons head tail ih => exact ⟨fun isOne => chained.1 isOne.1, ih chained.2⟩

/-- A follower goes right behind its leader, if the leader has none yet. -/
theorem Chained.addFollower {leader entry : Entry τ α} (leads_ : leads leader entry)
    {front rest : List (Entry τ α)} (free : ∀ other ∈ rest, ¬ leads leader other)
    {previous : Option (Entry τ α)}
    (chained : Chained leads follows previous (front ++ leader :: rest))
    : Chained leads follows previous (front ++ leader :: entry :: rest) := by
  induction front generalizing previous with
  | nil =>
      refine ⟨chained.1, fun _ => ⟨leader, rfl, leads_⟩, ?_⟩
      cases rest with
      | nil => trivial
      | cons head tail =>
          obtain ⟨-, behind, others⟩ := chained
          refine ⟨fun isOne => ?_, others⟩
          obtain ⟨other, ⟨⟩, leads_⟩ := behind isOne
          exact absurd leads_ (free head List.mem_cons_self)
  | cons head tail ih => exact ⟨chained.1, ih chained.2⟩

/-- The entry behind another that leads none is not a follower. -/
theorem Chained.behind {entry next : Entry τ α} {front rest : List (Entry τ α)}
    {previous : Option (Entry τ α)}
    (chained : Chained leads follows previous (front ++ entry :: next :: rest))
    (isFollower : follows next)
    : leads entry next := by
  induction front generalizing previous with
  | nil =>
      obtain ⟨leader, ⟨⟩, leads_⟩ := chained.2.1 isFollower
      exact leads_
  | cons head tail ih => exact ih chained.2

-----------------------------------------------------------------------------------------
-- Order
-----------------------------------------------------------------------------------------

variable [LinearOrder τ]

/-- No entry is earlier than one before it. -/
def Sorted (list : List (Entry τ α)) : Prop :=
  list.Pairwise (fun entry later => entry.time ≤ later.time)

/-- An entry goes behind those that are not later and before those that are. -/
theorem listAdd_split (entry : Entry τ α) {list : List (Entry τ α)} (sorted : Sorted list)
    : ∃ front rest, list = front ++ rest ∧ listAdd entry list = front ++ entry :: rest
      ∧ (∀ other ∈ front, other.time ≤ entry.time) ∧ ∀ other ∈ rest, entry.time < other.time := by
  induction list with
  | nil => exact ⟨[], [], rfl, rfl, nofun, nofun⟩
  | cons head tail ih =>
      obtain ⟨first, others⟩ := List.pairwise_cons.mp sorted
      by_cases earlier : entry.time < head.time
      · refine ⟨[], head :: tail, rfl, if_pos earlier, nofun, ?_⟩
        intro other isOne
        rcases List.mem_cons.mp isOne with rfl | later
        · exact earlier
        · exact earlier.trans_le (first other later)
      · obtain ⟨front, rest, rfl, added, before, behind⟩ := ih others
        refine ⟨head :: front, rest, rfl, ?_, ?_, behind⟩
        · exact (if_neg earlier).trans (congrArg (head :: ·) added)
        · intro other isOne
          rcases List.mem_cons.mp isOne with rfl | isFront
          · exact not_lt.mp earlier
          · exact before other isFront

theorem Sorted.listAdd (entry : Entry τ α) {list : List (Entry τ α)} (sorted : Sorted list)
    : Sorted (listAdd entry list) := by
  obtain ⟨front, rest, rfl, added, before, behind⟩ := listAdd_split entry sorted
  obtain ⟨front_, rest_, across⟩ := List.pairwise_append.mp sorted
  rw [added]
  refine List.pairwise_append.mpr ⟨front_, List.pairwise_cons.mpr ⟨?_, rest_⟩, ?_⟩
  · exact fun other isOne => (behind other isOne).le
  · intro other isFront later isOne
    rcases List.mem_cons.mp isOne with rfl | isRest
    · exact before other isFront
    · exact across other isFront later isRest

theorem Sorted.listRemove (id : Nat) {list : List (Entry τ α)} (sorted : Sorted list)
    : Sorted (listRemove id list) :=
  List.Pairwise.filter _ sorted

/-- An entry with the time of another goes right behind it when all that follow are later. -/
theorem listAdd_behind {entry leader : Entry τ α} {front rest : List (Entry τ α)}
    (same : entry.time = leader.time) (before : ∀ other ∈ front, other.time ≤ leader.time)
    (behind : ∀ other ∈ rest, leader.time < other.time)
    : listAdd entry (front ++ leader :: rest) = front ++ leader :: entry :: rest := by
  induction front with
  | nil =>
      have first : listAdd entry rest = entry :: rest := by
        cases rest with
        | nil => rfl
        | cons head tail => exact if_pos (same.trans_lt (behind head List.mem_cons_self))
      exact (if_neg same.not_lt).trans (congrArg (leader :: ·) first)
  | cons head tail ih =>
      have notLater : ¬ entry.time < head.time :=
        not_lt.mpr (same ▸ before head List.mem_cons_self)
      exact (if_neg notLater).trans
        (congrArg (head :: ·) (ih fun other isOne => before other (List.mem_cons_of_mem _ isOne)))

/-- An entry that is not earlier than the front goes behind it. -/
theorem listAdd_append {entry : Entry τ α} {front : List (Entry τ α)}
    (notLater : ∀ other ∈ front, other.time ≤ entry.time) (rest : List (Entry τ α))
    : listAdd entry (front ++ rest) = front ++ listAdd entry rest := by
  induction front with
  | nil => rfl
  | cons head tail ih =>
      refine (if_neg (not_lt.mpr (notLater head List.mem_cons_self))).trans ?_
      exact congrArg (head :: ·)
          (ih fun other isOne => notLater other (List.mem_cons_of_mem _ isOne))

/-- An entry that is earlier than another goes before it. -/
theorem listAdd_before {entry other : Entry τ α} (earlier : entry.time < other.time)
    (front rest : List (Entry τ α))
    : ∃ front', listAdd entry (front ++ other :: rest) = front' ++ other :: rest := by
  induction front with
  | nil => exact ⟨[entry], if_pos earlier⟩
  | cons head tail ih =>
      by_cases first : entry.time < head.time
      · exact ⟨entry :: head :: tail, if_pos first⟩
      · obtain ⟨front', added⟩ := ih
        exact ⟨head :: front', (if_neg first).trans (congrArg (head :: ·) added)⟩

/-- What stands before another entry does so when one more is put on the list. -/
theorem listAdd_around (entry other : Entry τ α) (front rest : List (Entry τ α))
    : ∃ front' rest', listAdd entry (front ++ other :: rest) = front' ++ other :: rest'
      ∧ ∀ before ∈ front', before = entry ∨ before ∈ front := by
  induction front with
  | nil =>
      by_cases earlier : entry.time < other.time
      · refine ⟨[entry], rest, if_pos earlier, fun before isOne => .inl ?_⟩
        exact List.mem_singleton.mp isOne
      · exact ⟨[], listAdd entry rest, if_neg earlier, fun _ isOne => (List.not_mem_nil isOne).elim⟩
  | cons head tail ih =>
      by_cases earlier : entry.time < head.time
      · exact ⟨entry :: head :: tail, rest, if_pos earlier, fun _ isOne => List.mem_cons.mp isOne⟩
      · obtain ⟨front', rest', added, before⟩ := ih
        refine ⟨head :: front', rest', (if_neg earlier).trans (congrArg (head :: ·) added), ?_⟩
        intro one isOne
        rcases List.mem_cons.mp isOne with rfl | isTail
        · exact .inr List.mem_cons_self
        · exact (before one isTail).imp_right (List.mem_cons_of_mem _)

/-- On an ordered list a new entry goes before another exactly when it is earlier, and nothing
else changes sides.
-/
theorem listAdd_sides {entry other : Entry τ α} {front rest : List (Entry τ α)}
    (sorted : Sorted (front ++ other :: rest))
    : ∃ front' rest', listAdd entry (front ++ other :: rest) = front' ++ other :: rest'
      ∧ (∀ one, one ∈ front' ↔ one ∈ front ∨ one = entry ∧ entry.time < other.time)
      ∧ ∀ one, one ∈ rest' ↔ one ∈ rest ∨ one = entry ∧ ¬ entry.time < other.time := by
  have before : ∀ one ∈ front, one.time ≤ other.time := fun one isFront =>
    (List.pairwise_append.mp sorted).2.2 one isFront other List.mem_cons_self
  by_cases earlier : entry.time < other.time
  · have ordered : Sorted front := (List.pairwise_append.mp sorted).1
    obtain ⟨left, right, rfl, -, notLater, later⟩ := listAdd_split entry ordered
    refine ⟨left ++ entry :: right, rest, ?_, ?_, by simp [earlier]⟩
    · rw [List.append_assoc, listAdd_append notLater]
      cases right with
      | nil => simp [TimerList.listAdd, earlier]
      | cons head tail =>
          have first := later head List.mem_cons_self
          simp [TimerList.listAdd, first]
    · intro one
      simp only [List.mem_append, List.mem_cons, earlier, and_true]
      tauto
  · have notLater : ∀ one ∈ front ++ [other], one.time ≤ entry.time := by
      intro one isOne
      rcases List.mem_append.mp isOne with isFront | isLast
      · exact (before one isFront).trans (not_lt.mp earlier)
      · exact (List.mem_singleton.mp isLast) ▸ not_lt.mp earlier
    refine ⟨front, listAdd entry rest, ?_, by simp [earlier], ?_⟩
    · have parts : front ++ other :: rest = (front ++ [other]) ++ rest := by simp
      rw [parts, listAdd_append notLater]
      simp
    · intro one
      rw [mem_listAdd]
      simp only [earlier, not_false_eq_true, and_true]
      exact or_comm

/-- What is not a follower never comes between the two of a pair, by induction on the list. -/
theorem Chained.listAdd_passed
    (timely : ∀ leader entry, leads leader entry → leader.time = entry.time)
    {entry : Entry τ α} (single : ¬ follows entry) {list : List (Entry τ α)}
    {previous : Option (Entry τ α)} (passed : ∀ other ∈ previous, ¬ entry.time < other.time)
    (chained : Chained leads follows previous list)
    : Chained leads follows previous (listAdd entry list) := by
  induction list generalizing previous with
  | nil => exact ⟨fun isOne => absurd isOne single, trivial⟩
  | cons head tail ih =>
      by_cases earlier : entry.time < head.time
      · have added : TimerList.listAdd entry (head :: tail) = entry :: head :: tail :=
          if_pos earlier
        rw [added]
        refine ⟨fun isOne => absurd isOne single, fun isOne => ?_, chained.2⟩
        obtain ⟨leader, rfl, leads⟩ := chained.1 isOne
        have same := timely _ _ leads
        exact absurd (same ▸ earlier) (passed leader rfl)
      · have added : TimerList.listAdd entry (head :: tail)
            = head :: TimerList.listAdd entry tail := if_neg earlier
        rw [added]
        refine ⟨chained.1, ih ?_ chained.2⟩
        rintro other ⟨⟩
        exact earlier

theorem Chained.listAdd (timely : ∀ leader entry, leads leader entry → leader.time = entry.time)
    {entry : Entry τ α} (single : ¬ follows entry) {list : List (Entry τ α)}
    (chained : Chained leads follows none list)
    : Chained leads follows none (listAdd entry list) :=
  chained.listAdd_passed timely single fun _ absurd => by cases absurd

end TimerList
