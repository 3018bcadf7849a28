import Mathlib.Algebra.BigOperators.Intervals
import Mathlib.Algebra.Order.BigOperators.Group.Finset

/-! Blocks that are handed out in parts: when the bytes so far and the rest of the present block
make whole blocks, and how sums of such counts grow.
-/

namespace Blocks

/-- `sent` bytes with `pending` more make whole blocks. -/
structure Partial (block sent pending : Nat) : Prop where
  within : pending ≤ block
  whole : block ∣ sent + pending

variable {block sent pending : Nat}

/-- With nothing pending the next block begins. -/
theorem Partial.next (part : Partial block sent pending) (positive : 1 ≤ block)
    : Partial block sent (if pending = 0 then block else pending)
      ∧ 1 ≤ if pending = 0 then block else pending := by
  by_cases ended : pending = 0
  · rw [if_pos ended]
    obtain rfl := ended
    exact ⟨⟨le_refl block, Nat.dvd_add part.whole (Nat.dvd_refl block)⟩, positive⟩
  · rw [if_neg ended]
    exact ⟨part, Nat.pos_of_ne_zero ended⟩

/-- A part of what is pending goes out. -/
theorem Partial.advance (part : Partial block sent pending) {taken : Nat} (fits : taken ≤ pending)
    : Partial block (sent + taken) (pending - taken) := by
  refine ⟨(Nat.sub_le _ _).trans part.within, ?_⟩
  have same : sent + taken + (pending - taken) = sent + pending := by omega
  rw [same]
  exact part.whole

/-- While something is pending the last block is not complete. -/
theorem Partial.blocks (part : Partial block sent pending) (positive : 1 ≤ pending)
    : sent / block + 1 = (sent + pending) / block := by
  obtain ⟨count, whole⟩ := part.whole
  have within := part.within
  have some_ : 0 < block := by omega
  rw [whole, Nat.mul_div_cancel_left count some_]
  cases count with
  | zero =>
      rw [Nat.mul_zero] at whole
      omega
  | succ count =>
      rw [Nat.mul_succ] at whole
      have split : sent = (block - pending) + block * count := by omega
      rw [split, Nat.add_mul_div_left _ _ some_, Nat.div_eq_of_lt (by omega), Nat.zero_add]

/-- A block is complete when nothing is pending any more. -/
theorem Partial.advance_blocks (part : Partial block sent pending) (positive : 1 ≤ pending)
    {taken : Nat} (fits : taken ≤ pending)
    : (sent + taken) / block = sent / block + if pending - taken = 0 then 1 else 0 := by
  have first := part.blocks positive
  by_cases all : pending - taken = 0
  · have same : taken = pending := by omega
    rw [if_pos all, same, first]
  · have later := (part.advance fits).blocks (Nat.pos_of_ne_zero all)
    have same : sent + taken + (pending - taken) = sent + pending := by omega
    rw [same, ← first] at later
    rw [if_neg all]
    omega

/-- One term of a sum changes. -/
theorem sum_update {ι : Type*} [DecidableEq ι] {s : Finset ι} {i : ι} (isOne : i ∈ s) (n : ι → Nat)
    (value : Nat) (f : Nat → Nat)
    : ∑ j ∈ s, f (Function.update n i value j) + f (n i) = ∑ j ∈ s, f (n j) + f value := by
  rw [← Finset.add_sum_erase s _ isOne, ← Finset.add_sum_erase s (fun j => f (n j)) isOne,
    Function.update_self]
  have others : ∑ j ∈ s.erase i, f (Function.update n i value j) = ∑ j ∈ s.erase i, f (n j) := by
    refine Finset.sum_congr rfl fun j isOther => ?_
    rw [Function.update_of_ne (Finset.ne_of_mem_erase isOther)]
  rw [others]
  omega

/-- A sum over a list, by position. -/
theorem sum_map_eq {α : Type*} {list : List α} {f : α → Nat} {g : Nat → Nat}
    (same : ∀ i a, list[i]? = some a → f a = g i)
    : (list.map f).sum = ∑ i ∈ Finset.range list.length, g i := by
  induction list generalizing g with
  | nil => rfl
  | cons head tail ih =>
      have later := ih fun i a found => same (i + 1) a found
      rw [List.map_cons, List.sum_cons, List.length_cons, Finset.sum_range_succ', later,
        same 0 head rfl, Nat.add_comm]

end Blocks
