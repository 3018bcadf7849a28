import Mathlib.Tactic.Linarith

/-! A monitor that looks at a count from time to time and remembers when it last saw the count
grow: when its silence means that nothing arrived.
-/

namespace StallMonitor

/-- What happened so far: the times of all arrivals, how many of them a look has seen, and the
time of the last look that saw a new one, or of the beginning.
-/
structure Log where
  since : Nat
  seen : Nat := 0
  arrivals : List Nat := []

variable {log : Log}

def Log.arrive (log : Log) (arrival : Nat) : Log :=
  { log with arrivals := log.arrivals ++ [arrival] }

/-- There are arrivals that no look has seen. -/
def Log.Grown (log : Log) : Prop := log.seen < log.arrivals.length

instance (log : Log) : Decidable log.Grown := inferInstanceAs (Decidable (_ < _))

def Log.look (log : Log) (now : Nat) : Log :=
  if log.Grown then { log with since := now, seen := log.arrivals.length } else log

/-- The arrivals that were seen came no later than the last look that saw a new one. -/
structure Log.Covers (log : Log) : Prop where
  counted : log.seen ≤ log.arrivals.length
  earlier : ∀ arrival ∈ log.arrivals.take log.seen, arrival ≤ log.since

theorem covers_start (since : Nat) : ({ since } : Log).Covers :=
  ⟨le_refl 0, fun _ isSeen => absurd isSeen List.not_mem_nil⟩

/-- A new arrival is not among those seen. -/
theorem Log.Covers.arrive (covers : log.Covers) (arrival : Nat) : (log.arrive arrival).Covers where
  counted := by
    unfold Log.arrive
    rw [List.length_append]
    exact covers.counted.trans (Nat.le_add_right _ _)
  earlier := by
    unfold Log.arrive
    rw [List.take_append_of_le_length covers.counted]
    exact covers.earlier

/-- A look that sees new arrivals, at a time that no arrival is later than. -/
theorem Log.Covers.look (covers : log.Covers) {now : Nat}
    (timely : log.Grown → ∀ arrival ∈ log.arrivals, arrival ≤ now)
    : (log.look now).Covers := by
  unfold Log.look
  split
  · next grown =>
      refine ⟨le_refl _, fun arrival isSeen => ?_⟩
      exact timely grown arrival (List.mem_of_mem_take isSeen)
  · exact covers

/-- A count that has not grown for longer than the limit: nothing arrived within it. -/
theorem Log.Covers.silent (covers : log.Covers) {now limit : Nat} (same : ¬ log.Grown)
    (overdue : log.since + limit < now)
    : ∀ arrival ∈ log.arrivals, arrival + limit < now := by
  intro arrival isArrival
  have all : log.arrivals.take log.seen = log.arrivals :=
    List.take_of_length_le (not_lt.mp same)
  have earlier : arrival ≤ log.since := by
    refine covers.earlier arrival ?_
    rwa [all]
  omega

end StallMonitor
