import Mathlib.Algebra.Order.Field.Basic
import Mathlib.Algebra.Order.Ring.Abs
import Mathlib.Tactic.Linarith
import Mathlib.Tactic.Ring

/-! Points of a line that are only seen by their distance from an origin: when moving the origin
leaves the difference of two distances as it was, and a filter that smooths such differences.
-/

namespace Distances

section Origin

variable {α : Type*} [CommRing α] [LinearOrder α] [IsStrictOrderedRing α]

/-- The distance of two points on one side of the origin, else that of one from the mirror image of
the other.
-/
theorem abs_abs_sub_abs (x y : α)
    : |(|x| - |y|)| = if 0 ≤ x * y then |x - y| else |x + y| := by
  split_ifs with same
  · rcases mul_nonneg_iff.mp same with ⟨hx, hy⟩ | ⟨hx, hy⟩
    · rw [abs_of_nonneg hx, abs_of_nonneg hy]
    · rw [abs_of_nonpos hx, abs_of_nonpos hy, neg_sub_neg, abs_sub_comm]
  · rcases mul_neg_iff.mp (not_le.mp same) with ⟨hx, hy⟩ | ⟨hx, hy⟩
    · rw [abs_of_pos hx, abs_of_neg hy, sub_neg_eq_add]
    · rw [abs_of_neg hx, abs_of_pos hy, ← abs_neg, neg_sub, sub_neg_eq_add, add_comm]

/-- Moving the origin by `c` is not noticed at the points `x` and `y`. -/
def Unnoticed (c x y : α) : Prop :=
  c = 0 ∨ c = x + y ∨ (0 ≤ x * y ∧ 0 ≤ (x - c) * (y - c))

theorem unnoticed_iff (c x y : α)
    : Unnoticed c x y ↔ |(|x| - |y|)| = |(|x - c| - |y - c|)| := by
  have apart : x - c - (y - c) = x - y := by ring
  rw [abs_abs_sub_abs, abs_abs_sub_abs]
  constructor
  · rintro (rfl | rfl | ⟨near, far⟩)
    · simp
    · have mirror : (x - (x + y)) * (y - (x + y)) = x * y := by ring
      have sum : x - (x + y) + (y - (x + y)) = -(x + y) := by ring
      rw [mirror, apart, sum, abs_neg]
    · rw [if_pos near, if_pos far, apart]
  · intro equal
    by_cases near : 0 ≤ x * y <;> by_cases far : 0 ≤ (x - c) * (y - c)
    · exact .inr (.inr ⟨near, far⟩)
    · rw [if_pos near, if_neg far] at equal
      refine absurd ?_ far
      rcases abs_eq_abs.mp equal with same | opposite
      · have atOrigin : y = c := by linarith
        simp [atOrigin]
      · have atOrigin : x = c := by linarith
        simp [atOrigin]
    · rw [if_neg near, if_pos far, apart] at equal
      refine absurd ?_ near
      rcases abs_eq_abs.mp equal with same | opposite
      · have atOrigin : y = 0 := by linarith
        simp [atOrigin]
      · have atOrigin : x = 0 := by linarith
        simp [atOrigin]
    · rw [if_neg near, if_neg far] at equal
      rcases abs_eq_abs.mp equal with same | opposite
      · exact .inl (by linarith)
      · exact .inr (.inl (by linarith))

end Origin

/-- One step of a first-order filter tells its inputs apart. -/
theorem smoothed_inj {α : Type*} [Field α] {estimate first second weight : α}
    (weight_ne : weight ≠ 0)
    : estimate + (first - estimate) / weight = estimate + (second - estimate) / weight
      ↔ first = second := by
  rw [add_right_inj, div_left_inj' weight_ne, sub_left_inj]

end Distances
