import Mathlib.Data.List.Nodup

/-! Association lists built from optional entries: only those that have a value are kept. -/

namespace OptionalMembers

variable {κ ν : Type*} [DecidableEq κ]

/-- The entries that have a value, in their order. -/
def present (entries : List (κ × Option ν)) : List (κ × ν) :=
  entries.filterMap (fun entry => entry.2.map (fun value => (entry.1, value)))

theorem lookup_present_of_not_mem {entries : List (κ × Option ν)} {key : κ}
    (absent : key ∉ entries.map Prod.fst)
    : (present entries).lookup key = none := by
  rw [List.lookup_eq_none_iff]
  intro member found
  obtain ⟨entry, entryMember, value⟩ := List.mem_filterMap.mp found
  obtain ⟨inner, -, rfl⟩ := Option.map_eq_some_iff.mp value
  have ne : key ≠ entry.1 := fun same =>
    absent (same ▸ List.mem_map_of_mem entryMember)
  simpa using ne

/-- A key that is listed once is found exactly when it has a value. Witness: induction on the
entries; distinct keys make the first hit the only one.
-/
theorem lookup_present {entries : List (κ × Option ν)} (distinct : (entries.map Prod.fst).Nodup)
    (key : κ)
    : (present entries).lookup key = (entries.lookup key).join := by
  induction entries with
  | nil => rfl
  | cons entry rest ih =>
      obtain ⟨name, value⟩ := entry
      obtain ⟨fresh, tail⟩ := List.nodup_cons.mp distinct
      by_cases same : key = name
      · subst same
        cases value with
        | none =>
            have skipped : present ((key, none) :: rest) = present rest := rfl
            rw [skipped, lookup_present_of_not_mem fresh]
            simp
        | some value =>
            have kept : present ((key, some value) :: rest) = (key, value) :: present rest := rfl
            rw [kept]
            simp
      · have different : (key == name) = false := by simpa using same
        rw [List.lookup_cons, different, ← ih tail]
        cases value with
        | none => rfl
        | some value =>
            have kept : present ((name, some value) :: rest) = (name, value) :: present rest := rfl
            rw [kept, List.lookup_cons, different]

end OptionalMembers
