import Mathlib.Data.List.Basic
import Mathlib.Tactic.Common

/-! A transfer in rounds, each of which takes some units and may stop the transfer: how far it
comes, and when it is cut short. -/

namespace Transfer

variable {σ : Type*}

/-- What one round takes, and how it ends the transfer, if it does. -/
structure Round (σ : Type*) where
  taken : Nat
  stop : Option σ

/-- How far a transfer came. It is complete without a stop. -/
structure Outcome (σ : Type*) where
  moved : Nat
  stop : Option σ

/-- A transfer with `left` units to go of which only `room` can be had; without rounds it waits.
-/
def transfer : Nat → Nat → List (Round σ) → Option (Outcome σ)
  | _, 0, _ => some { moved := 0, stop := none }
  | _, _ + 1, [] => none
  | room, left + 1, round :: rounds =>
      let taken := min round.taken (min room (left + 1))
      match round.stop with
      | some stop => some { moved := taken, stop }
      | none =>
          (transfer (room - taken) (left + 1 - taken) rounds).map fun outcome =>
            { outcome with moved := taken + outcome.moved }
termination_by structural _ _ rounds => rounds

/-- What the rounds take before the first that stops. -/
def before : List (Round σ) → Nat
  | [] => 0
  | round :: rounds =>
      match round.stop with
      | some _ => 0
      | none => round.taken + before rounds

/-- The first round that stops: what it takes still, and how it stops. -/
def stopping : List (Round σ) → Option (Nat × σ)
  | [] => none
  | round :: rounds =>
      match round.stop with
      | some stop => some (round.taken, stop)
      | none => stopping rounds

/-- A transfer is complete if the rounds before the first stop take enough, and is cut by that
stop otherwise. By induction on the rounds.
-/
theorem transfer_eq (room left : Nat) (rounds : List (Round σ))
    : transfer room left rounds
      = if left ≤ min room (before rounds) then some { moved := left, stop := none }
        else (stopping rounds).map fun last =>
          { moved := min (before rounds + last.1) (min room left), stop := some last.2 } := by
  induction rounds generalizing room left with
  | nil =>
      cases left with
      | zero => simp [transfer]
      | succ left => simp [transfer, before, stopping]
  | cons round rounds ih =>
      cases left with
      | zero => simp [transfer]
      | succ left =>
          cases stops : round.stop with
          | some stop =>
              have cut : ¬ left + 1 ≤ min room (before (round :: rounds)) := by
                simp [before, stops]
              rw [if_neg cut]
              simp [transfer, before, stopping, stops]
          | none =>
              have first : before (round :: rounds) = round.taken + before rounds := by
                simp [before, stops]
              have later : stopping (round :: rounds) = stopping rounds := by
                simp [stopping, stops]
              have unfolds : transfer room (left + 1) (round :: rounds)
                  = (transfer (room - min round.taken (min room (left + 1)))
                      (left + 1 - min round.taken (min room (left + 1))) rounds).map fun outcome =>
                    { outcome with
                      moved := min round.taken (min room (left + 1)) + outcome.moved } := by
                simp only [transfer, stops]
              rw [unfolds, ih, first, later]
              by_cases whole : left + 1 ≤ min room (round.taken + before rounds)
              · have rest : left + 1 - min round.taken (min room (left + 1))
                    ≤ min (room - min round.taken (min room (left + 1))) (before rounds) := by
                  omega
                rw [if_pos whole, if_pos rest, Option.map_some]
                dsimp only
                congr 2
                omega
              · have rest : ¬ left + 1 - min round.taken (min room (left + 1))
                    ≤ min (room - min round.taken (min room (left + 1))) (before rounds) := by
                  omega
                rw [if_neg whole, if_neg rest, Option.map_map]
                refine Option.map_congr fun last _ => ?_
                dsimp only [Function.comp]
                congr 1
                omega

end Transfer
