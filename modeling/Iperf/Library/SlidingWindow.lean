import Mathlib.Data.List.Rotate

/-! A cyclic array that is overwritten from cell one on holds a sliding window: the latest
entries of its history, the oldest of them behind the cursor.
-/

namespace SlidingWindow

variable {α : Type*} {zero x : α} {size : Nat} {history cells : List α}

/-- The latest `size` entries of a history that had nothing but `zero` before. -/
def recent (zero : α) (size : Nat) (history : List α) : List α :=
  (List.replicate size zero ++ history).drop history.length

theorem length_recent : (recent zero size history).length = size := by
  rw [recent, List.length_drop, List.length_append, List.length_replicate, Nat.add_sub_cancel]

theorem recent_nil : recent zero size [] = List.replicate size zero := by
  rw [recent, List.append_nil, List.length_nil, List.drop_zero]

/-- A new entry takes the place of the oldest. -/
theorem recent_concat (positive : 0 < size)
    : recent zero size (history ++ [x]) = (recent zero size history).tail ++ [x] := by
  have room : history.length + 1 ≤ (List.replicate size zero ++ history).length := by
    rw [List.length_append, List.length_replicate]
    omega
  rw [recent, ← List.append_assoc, List.length_append, List.length_singleton,
    List.drop_append_of_le_length room, recent, List.tail_drop]

/-- A history at least as long as the window fills it. -/
theorem recent_of_le (long : size ≤ history.length)
    : recent zero size history = history.drop (history.length - size) := by
  rw [recent, List.drop_append, List.drop_eq_nil_of_le (by simpa using long), List.nil_append,
    List.length_replicate]

/-- A shorter one leaves the zeros it did not reach. -/
theorem recent_of_ge (short : history.length ≤ size)
    : recent zero size history = List.replicate (size - history.length) zero ++ history := by
  rw [recent, List.drop_append_of_le_length (by simpa using short), List.drop_replicate]

/-- The array seen from behind the cursor is the window. -/
def Holds (zero : α) (size : Nat) (cells history : List α) : Prop :=
  cells.rotate (history.length + 1) = recent zero size history

theorem Holds.start : Holds zero size (List.replicate size zero) [] := by
  rw [Holds, recent_nil, List.rotate_replicate]

theorem Holds.length (holds : Holds zero size cells history) : cells.length = size := by
  rw [← List.length_rotate cells (history.length + 1), holds, length_recent]

/-- Up to order the array is the window. -/
theorem Holds.perm (holds : Holds zero size cells history)
    : cells.Perm (recent zero size history) :=
  holds ▸ (List.rotate_perm cells (history.length + 1)).symm

/-- Overwriting the cell a rotation begins with. -/
theorem rotate_set (cells : List α) (offset : Nat) (nonempty : cells ≠ [])
    : (cells.set (offset % cells.length) x).rotate offset = x :: (cells.rotate offset).tail := by
  have inside : offset % cells.length < cells.length :=
    Nat.mod_lt _ (List.length_pos_of_ne_nil nonempty)
  have before : (cells.take (offset % cells.length)).length = offset % cells.length := by
    rw [List.length_take]
    omega
  obtain ⟨oldest, behind, split⟩ := List.exists_cons_of_length_pos
    (l := cells.drop (offset % cells.length)) (by rw [List.length_drop]; omega)
  rw [List.rotate_eq_drop_append_take_mod, List.rotate_eq_drop_append_take_mod, List.length_set,
    List.set_eq_take_append_cons_drop, if_pos inside, List.drop_left' before,
    List.take_left' before, split, List.cons_append, List.cons_append, List.tail_cons,
    ← List.drop_drop, split, List.drop_one, List.tail_cons]

/-- Writing the next cell in turn slides the window. -/
theorem Holds.push (holds : Holds zero size cells history) (positive : 0 < size)
    : Holds zero size (cells.set ((history.length + 1) % size) x) (history ++ [x]) := by
  have length := holds.length
  have nonempty : cells ≠ [] := by
    rintro rfl
    exact absurd length (by simpa using positive.ne)
  have written := @rotate_set _ x cells (history.length + 1) nonempty
  rw [length, holds] at written
  rw [Holds, recent_concat positive, List.length_append, List.length_singleton,
    ← List.rotate_rotate, written, List.rotate_cons_succ, List.rotate_zero]

end SlidingWindow
