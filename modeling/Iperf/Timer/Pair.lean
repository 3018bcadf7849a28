import Iperf.Timer.Run

/-! Two timers with the same time on a sorted list, the follower right behind the leader. When both
get the same new time, the leader first, they stand together again.
-/

namespace Iperf

open TimerList

/-- Two timers of the same period. -/
structure TimerPair where
  leader : Nat
  follower : Nat
  leaderRecord : TimerRecord
  followerRecord : TimerRecord
  usecs : leaderRecord.usecs = followerRecord.usecs
  periodic : leaderRecord.periodic = true ∧ followerRecord.periodic = true
  different : leader ≠ follower

namespace TimerPair

def leaderAt (pair : TimerPair) (time : IperfTime) : Entry IperfTime TimerRecord :=
  { id := pair.leader, time, record := pair.leaderRecord }

def followerAt (pair : TimerPair) (time : IperfTime) : Entry IperfTime TimerRecord :=
  { id := pair.follower, time, record := pair.followerRecord }

/-- The timers are a sorted list of different nodes. -/
structure Proper (timers : Timers IperfTime TimerRecord) : Prop where
  wellFormed : timers.WellFormed
  sorted : Sorted timers.active

/-- The two stand together with a time. -/
structure Together (pair : TimerPair) (timers : Timers IperfTime TimerRecord) (time : IperfTime)
    : Prop extends Proper timers where
  parts : ∃ front rest,
    timers.active = front ++ pair.leaderAt time :: pair.followerAt time :: rest

/-- The leader already has its new time, and all timers behind it are later than that. -/
structure Ahead (pair : TimerPair) (timers : Timers IperfTime TimerRecord) (old time : IperfTime)
    : Prop extends Proper timers where
  follower : pair.followerAt old ∈ timers.active
  parts : ∃ front rest, listRemove pair.follower timers.active = front ++ pair.leaderAt time :: rest
    ∧ (∀ other ∈ front, other.time ≤ time) ∧ ∀ other ∈ rest, time < other.time

variable {pair : TimerPair} {timers : Timers IperfTime TimerRecord} {time old : IperfTime}
  {e : Entry IperfTime TimerRecord}

theorem Together.leader_active (together : pair.Together timers time)
    : pair.leaderAt time ∈ timers.active := by
  obtain ⟨front, rest, parts⟩ := together.parts
  rw [parts]
  exact List.mem_append_right _ List.mem_cons_self

theorem Together.follower_active (together : pair.Together timers time)
    : pair.followerAt time ∈ timers.active := by
  obtain ⟨front, rest, parts⟩ := together.parts
  rw [parts]
  exact List.mem_append_right _ (List.mem_cons_of_mem _ List.mem_cons_self)

theorem Proper.reschedule (proper : Proper timers) (isActive : e ∈ timers.active)
    (time : IperfTime)
    : Proper (timers.reschedule e.id time) := by
  refine ⟨proper.wellFormed.reschedule _ _, ?_⟩
  rw [proper.wellFormed.reschedule_active isActive]
  exact Sorted.listAdd _ (Sorted.listRemove e.id proper.sorted)

/-- The leader gets a new time. -/
theorem Together.leaderMoves (together : pair.Together timers old) (time : IperfTime)
    : pair.Ahead (timers.reschedule pair.leader time) old time := by
  have isLeader := together.leader_active
  have isFollower := together.follower_active
  have wellFormed := together.wellFormed
  have proper : Proper (timers.reschedule pair.leader time) :=
    together.toProper.reschedule isLeader time
  have active : (timers.reschedule pair.leader time).active
      = listAdd (pair.leaderAt time) (listRemove pair.leader timers.active) :=
    wellFormed.reschedule_active isLeader time
  have follower : pair.followerAt old ∈ listRemove pair.leader timers.active :=
    mem_listRemove.mpr ⟨isFollower, pair.different.symm⟩
  refine ⟨proper, ?_, ?_⟩
  · rw [active]
    exact mem_listAdd.mpr (.inr follower)
  · obtain ⟨front, rest, -, added, before, behind⟩ :=
      listAdd_split (pair.leaderAt time) (Sorted.listRemove pair.leader together.sorted)
    refine ⟨listRemove pair.follower front, listRemove pair.follower rest, ?_, ?_, ?_⟩
    · rw [active, added]
      exact @listRemove_around _ _ (pair.leaderAt time) _ pair.different front rest
    · exact fun other isOne => before other (mem_listRemove.mp isOne).1
    · exact fun other isOne => behind other (mem_listRemove.mp isOne).1

/-- The follower gets the time of the leader. -/
theorem Ahead.followerMoves (ahead : pair.Ahead timers old time)
    : pair.Together (timers.reschedule pair.follower time) time := by
  have active : (timers.reschedule pair.follower time).active
      = listAdd (pair.followerAt time) (listRemove pair.follower timers.active) :=
    ahead.wellFormed.reschedule_active ahead.follower time
  refine ⟨ahead.toProper.reschedule ahead.follower time, ?_⟩
  obtain ⟨front, rest, parts, before, behind⟩ := ahead.parts
  refine ⟨front, rest, ?_⟩
  rw [active, parts]
  exact listAdd_behind rfl before behind

/-- A timer other than the two is cancelled. -/
theorem Together.cancel (together : pair.Together timers time) (isActive : e ∈ timers.active)
    (notLeader : e.id ≠ pair.leader) (notFollower : e.id ≠ pair.follower)
    : pair.Together (timers.cancel e.id) time := by
  refine ⟨⟨together.wellFormed.cancel isActive, Sorted.listRemove e.id together.sorted⟩, ?_⟩
  obtain ⟨front, rest, parts⟩ := together.parts
  refine ⟨listRemove e.id front, listRemove e.id rest, ?_⟩
  unfold Timers.cancel
  dsimp only
  rw [parts, @listRemove_around _ _ (pair.leaderAt time) _ notLeader.symm]
  exact congrArg (_ ++ _ :: ·)
    (@listRemove_around _ _ (pair.followerAt time) _ notFollower.symm [] rest)

/-- Another timer is put on the list, and never between the two. -/
theorem Together.add (together : pair.Together timers time) {timers' : Timers IperfTime TimerRecord}
    (wellFormed : timers'.WellFormed) (active : timers'.active = listAdd e timers.active)
    : pair.Together timers' time := by
  refine ⟨⟨wellFormed, active ▸ Sorted.listAdd e together.sorted⟩, ?_⟩
  obtain ⟨front, rest, parts⟩ := together.parts
  have sorted := together.sorted
  rw [active]
  rw [parts] at sorted ⊢
  by_cases earlier : e.time < time
  · obtain ⟨front', added⟩ := @listAdd_before _ _ _ e (pair.leaderAt time) earlier front
      (pair.followerAt time :: rest)
    exact ⟨front', rest, added⟩
  · have notLater : ∀ other ∈ front ++ [pair.leaderAt time, pair.followerAt time],
        other.time ≤ e.time := by
      intro other isOne
      rcases List.mem_append.mp isOne with isFront | isPair
      · have before := (List.pairwise_append.mp sorted).2.2 other isFront _ List.mem_cons_self
        exact before.trans (not_lt.mp earlier)
      · rcases List.mem_cons.mp isPair with rfl | isLast
        · exact not_lt.mp earlier
        · rw [List.mem_singleton.mp isLast]
          exact not_lt.mp earlier
    refine ⟨front, listAdd e rest, ?_⟩
    have added := listAdd_append notLater rest
    rw [List.append_assoc, List.append_assoc] at added
    exact added

/-- The two are put on the list one right after the other. -/
theorem together_of_added {timers₁ timers₂ : Timers IperfTime TimerRecord} (proper : Proper timers)
    (wellFormed : timers₂.WellFormed)
    (active₁ : timers₁.active = listAdd (pair.leaderAt time) timers.active)
    (active₂ : timers₂.active = listAdd (pair.followerAt time) timers₁.active)
    : pair.Together timers₂ time := by
  obtain ⟨front, rest, -, added, before, behind⟩ := listAdd_split (pair.leaderAt time) proper.sorted
  have sorted : Sorted timers₁.active := active₁ ▸ Sorted.listAdd _ proper.sorted
  refine ⟨⟨wellFormed, active₂ ▸ Sorted.listAdd _ sorted⟩, front, rest, ?_⟩
  rw [active₂, active₁, added]
  exact listAdd_behind rfl before behind

end TimerPair

end Iperf
