import Mathlib.Algebra.Order.Field.Basic
import Mathlib.Logic.Relation
import Mathlib.Tactic.Linarith
import Mathlib.Tactic.Ring

/-! Pacing by a light. A sender may send a bounded chunk between two looks at the light, and
the light is only turned green while the amount sent is not ahead of the target rate by more
than a slack. Whatever the order of steps, the lead over the target is then bounded.
-/

namespace Pacing

variable {α : Type*} [Field α] [LinearOrder α] [IsStrictOrderedRing α]

/-- The time, the amount sent so far, and what may still go out before the next look. -/
@[ext]
structure Account (α : Type*) where
  time : α
  sent : α
  allowance : α

/-- The target: a rate, the slack of a green light, and the chunk it allows. -/
structure Target (α : Type*) where
  rate : α
  slack : α
  chunk : α

/-- The account is not ahead of the target by more than its slack. -/
def Target.Behind (target : Target α) (time sent : α) : Prop :=
  sent ≤ target.rate * time + target.slack

/-- What can happen to an account. -/
inductive Step (target : Target α) (a : Account α) : Account α → Prop where
  | wait (d : α) (forward : 0 ≤ d) : Step target a { a with time := a.time + d }
  | send (sent allowance : α) (positive : 0 ≤ allowance)
      (paid : sent + allowance ≤ a.sent + a.allowance)
      : Step target a { a with sent, allowance }
  | go (behind : target.Behind a.time a.sent)
      : Step target a { a with allowance := target.chunk }

/-- The invariant: even what is still allowed would keep the account within its bound. -/
structure Within (target : Target α) (a : Account α) : Prop where
  allowance : 0 ≤ a.allowance
  bound : a.sent + a.allowance ≤ target.rate * a.time + target.slack + target.chunk

/-- A target that can be followed. -/
structure Target.Sensible (target : Target α) : Prop where
  rate : 0 ≤ target.rate
  slack : 0 ≤ target.slack
  chunk : 0 ≤ target.chunk

variable {target : Target α} {a b : Account α}

theorem Within.step (sensible : target.Sensible) (within : Within target a)
    (step : Step target a b)
    : Within target b := by
  obtain ⟨positive, bound⟩ := within
  cases step with
  | wait d forward =>
      have more : 0 ≤ target.rate * d := mul_nonneg sensible.rate forward
      refine ⟨positive, ?_⟩
      calc a.sent + a.allowance
          ≤ target.rate * a.time + target.slack + target.chunk := bound
        _ ≤ target.rate * (a.time + d) + target.slack + target.chunk := by
            rw [mul_add]
            linarith
  | send sent allowance allowed paid => exact ⟨allowed, paid.trans bound⟩
  | go behind =>
      refine ⟨sensible.chunk, ?_⟩
      have lead : a.sent ≤ target.rate * a.time + target.slack := behind
      simpa using lead

/-- A whole run keeps the invariant. -/
theorem Within.run (sensible : target.Sensible) (within : Within target a)
    (ran : Relation.ReflTransGen (Step target) a b)
    : Within target b := by
  induction ran with
  | refl => exact within
  | tail _ step ih => exact ih.step sensible step

/-- At time zero nothing is sent and the light is green. -/
def start (target : Target α) : Account α := { time := 0, sent := 0, allowance := target.chunk }

theorem start_within (sensible : target.Sensible) : Within target (start target) := by
  refine ⟨sensible.chunk, ?_⟩
  have slack := sensible.slack
  simpa [start] using slack

/-- The pacing bound: in every run the amount sent stays within the target, its slack and one
chunk.
-/
theorem sent_le (sensible : target.Sensible)
    (ran : Relation.ReflTransGen (Step target) (start target) a)
    : a.sent ≤ target.rate * a.time + target.slack + target.chunk := by
  have within := (start_within sensible).run sensible ran
  exact (le_add_of_nonneg_right within.allowance).trans within.bound

/-- Waiting long enough to pay for all but the slack of a lead makes the light green. -/
theorem Target.behind_of_paid {time d sent lead : α} (ahead : sent ≤ target.rate * time + lead)
    (paid : lead ≤ target.rate * d + target.slack)
    : target.Behind (time + d) sent := by
  unfold Target.Behind
  rw [mul_add]
  linarith

end Pacing
