import Mathlib.Data.List.Forall2

/-! Updating the first element of a list that has a given key. -/

namespace KeyedUpdate

variable {α κ : Type*} [DecidableEq κ]

/-- Apply `f` to the first element with the key; `none` when there is none. -/
def updateFirst (keyOf : α → κ) (key : κ) (f : α → α) : List α → Option (List α)
  | [] => none
  | item :: rest =>
      if keyOf item = key then some (f item :: rest)
      else (updateFirst keyOf key f rest).map (item :: ·)

/-- The element behind others with different keys is the one that is updated. -/
theorem updateFirst_append {keyOf : α → κ} {key : κ} {f : α → α} {front : List α} {item : α}
    {rest : List α} (fresh : key ∉ front.map keyOf) (found : keyOf item = key)
    : updateFirst keyOf key f (front ++ item :: rest) = some (front ++ f item :: rest) := by
  induction front with
  | nil => simp [updateFirst, found]
  | cons head tail ih =>
      simp only [List.map_cons, List.mem_cons, not_or] at fresh
      have different : keyOf head ≠ key := fun same => fresh.1 same.symm
      simp [updateFirst, different, ih fresh.2]

/-- A relation to some other list that the update respects is kept, by induction on it. -/
theorem updateFirst_forall₂ {β : Type*} {r : β → α → Prop} {keyOf : α → κ} {key : κ}
    {f : α → α} {origin : List β} {list list' : List α} (related : List.Forall₂ r origin list)
    (respects : ∀ b a, r b a → r b (f a)) (updated : updateFirst keyOf key f list = some list')
    : List.Forall₂ r origin list' := by
  induction related generalizing list' with
  | nil => cases updated
  | cons head tail ih =>
      unfold updateFirst at updated
      split at updated
      · obtain rfl := Option.some.inj updated
        exact .cons (respects _ _ head) tail
      · obtain ⟨rest, later, rfl⟩ := Option.map_eq_some_iff.mp updated
        exact .cons head (ih later)

/-- A property that the update respects is kept by all elements, by induction on the list. -/
theorem updateFirst_forall {p : α → Prop} {keyOf : α → κ} {key : κ} {f : α → α}
    {list list' : List α} (each : ∀ a ∈ list, p a) (respects : ∀ a, p a → p (f a))
    (updated : updateFirst keyOf key f list = some list')
    : ∀ a ∈ list', p a := by
  induction list generalizing list' with
  | nil => cases updated
  | cons head tail ih =>
      obtain ⟨first, later⟩ := List.forall_mem_cons.mp each
      unfold updateFirst at updated
      split at updated
      · obtain rfl := Option.some.inj updated
        exact List.forall_mem_cons.mpr ⟨respects head first, later⟩
      · obtain ⟨rest, found, rfl⟩ := Option.map_eq_some_iff.mp updated
        exact List.forall_mem_cons.mpr ⟨first, ih later found⟩

/-- When the keys are distinct, an update by key is an update of every element with the key, by
induction on the list.
-/
theorem updateFirst_eq_map {keyOf : α → κ} {key : κ} {f : α → α} {list : List α}
    (distinct : (list.map keyOf).Nodup)
    : updateFirst keyOf key f list
      = if key ∈ list.map keyOf
        then some (list.map fun item => if keyOf item = key then f item else item) else none := by
  induction list with
  | nil => simp [updateFirst]
  | cons head tail ih =>
      obtain ⟨fresh, rest⟩ := List.nodup_cons.mp distinct
      by_cases found : keyOf head = key
      · have others : tail.map (fun item => if keyOf item = key then f item else item) = tail := by
          have same : ∀ item ∈ tail, (if keyOf item = key then f item else item) = id item := by
            intro item member
            refine if_neg fun again => fresh ?_
            rw [found, ← again]
            exact List.mem_map_of_mem member
          rw [List.map_congr_left same, List.map_id]
        simp [updateFirst, found, others]
      · have other : key ≠ keyOf head := fun same => found same.symm
        simp only [updateFirst, if_neg found, ih rest, List.map_cons, List.mem_cons, other,
          false_or]
        split_ifs <;> simp

end KeyedUpdate
