import Mathlib.Data.List.Basic

/-! Byte buffers as lists: copying a block into a buffer and reading a block back. -/

namespace Buffer

variable {α : Type*}

/-- `memcpy` into `buffer` at `offset`. -/
def copyAt (buffer : List α) (offset : Nat) (block : List α) : List α :=
  buffer.take offset ++ block ++ buffer.drop (offset + block.length)

/-- The `size` entries of `buffer` that start at `offset`. -/
def slice (buffer : List α) (offset size : Nat) : List α :=
  (buffer.drop offset).take size

theorem length_copyAt {buffer : List α} {offset : Nat} {block : List α}
    (fits : offset + block.length ≤ buffer.length)
    : (copyAt buffer offset block).length = buffer.length := by
  simp only [copyAt, List.length_append, List.length_take, List.length_drop]
  omega

/-- A block is read back where it was copied. -/
theorem slice_copyAt_same {buffer : List α} {offset : Nat} {block : List α}
    (fits : offset ≤ buffer.length)
    : slice (copyAt buffer offset block) offset block.length = block := by
  have taken : (buffer.take offset).length = offset := by simp [fits]
  rw [slice, copyAt, List.append_assoc, List.drop_left' taken, List.take_left]

/-- Two blocks that are copied one behind the other are one block. -/
theorem copyAt_copyAt {buffer : List α} {offset : Nat} (first second : List α)
    (fits : offset ≤ buffer.length)
    : copyAt (copyAt buffer offset first) (offset + first.length) second
      = copyAt buffer offset (first ++ second) := by
  have front : (buffer.take offset ++ first).length = offset + first.length := by simp [fits]
  have behind : (buffer.take offset ++ first ++ buffer.drop (offset + first.length)).drop
      (offset + first.length + second.length)
      = buffer.drop (offset + (first.length + second.length)) := by
    rw [List.drop_append, front, List.drop_eq_nil_of_le (by omega), List.nil_append,
      List.drop_drop]
    congr 1
    omega
  rw [copyAt, copyAt, List.take_left' front, behind, copyAt, List.length_append,
    List.append_assoc (buffer.take offset)]

/-- Copying at the front keeps what lies behind the block. -/
theorem copyAt_zero (buffer block : List α)
    : copyAt buffer 0 block = block ++ buffer.drop block.length := by
  simp [copyAt]

/-- Blocks that are copied over each other at the front. -/
def overlay (buffer : List α) (blocks : List (List α)) : List α :=
  blocks.foldl (fun buffer block => copyAt buffer 0 block) buffer

theorem getElem?_copyAt_zero (buffer block : List α) (k : Nat)
    : (copyAt buffer 0 block)[k]? = block[k]?.or buffer[k]? := by
  rw [copyAt_zero]
  rcases Nat.lt_or_ge k block.length with inside | behind
  · rw [List.getElem?_append_left inside, List.getElem?_eq_getElem inside, Option.some_or]
  · rw [List.getElem?_append_right behind, List.getElem?_drop, Nat.add_sub_cancel' behind,
      List.getElem?_eq_none behind, Option.none_or]

/-- Every entry is that of the last block that reaches it, by induction on the blocks. -/
theorem getElem?_overlay (buffer : List α) (blocks : List (List α)) (k : Nat)
    : (overlay buffer blocks)[k]?
      = ((blocks.filterMap (fun block => block[k]?)).getLast?).or buffer[k]? := by
  induction blocks generalizing buffer with
  | nil => rfl
  | cons block rest ih =>
      rw [overlay, List.foldl_cons, ← overlay, ih, getElem?_copyAt_zero, ← Option.or_assoc]
      congr 1
      cases found : block[k]? with
      | none => simp only [List.filterMap_cons, found, Option.or_none]
      | some entry =>
          simp only [List.filterMap_cons, found, List.getLast?_cons]
          cases (rest.filterMap (fun block => block[k]?)).getLast? <;> rfl

end Buffer
