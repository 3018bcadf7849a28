import Mathlib.Data.List.Nodup
import Mathlib.Data.List.Perm.Basic

/-! Tables of open handles. A handle that is closed while it is not open is kept as a stray one, so
that a table without strays and without open handles saw each handle closed exactly once.
-/

namespace HandleTable

/-- The handles that are open, and those that were closed while they were not. -/
structure Table (α : Type*) where
  opened : List α := []
  stray : List α := []
deriving DecidableEq

variable {α : Type*} {table : Table α} {held other : List α} {handle : α}

def Table.add (table : Table α) (handle : α) : Table α :=
  { table with opened := handle :: table.opened }

def Table.close [DecidableEq α] (table : Table α) (handle : α) : Table α :=
  if handle ∈ table.opened then { table with opened := table.opened.erase handle }
  else { table with stray := handle :: table.stray }

/-- The open handles are exactly those that are held somewhere, each in one place, and no handle
was closed twice.
-/
structure Holds (table : Table α) (held : List α) : Prop where
  opened : table.opened.Perm held
  nodup : held.Nodup
  stray : table.stray = []

theorem holds_empty : Holds ({} : Table α) [] := ⟨.nil, .nil, rfl⟩

theorem Holds.perm (holds : Holds table held) (same : held.Perm other) : Holds table other :=
  ⟨holds.opened.trans same, same.nodup_iff.mp holds.nodup, holds.stray⟩

theorem Holds.add (holds : Holds table held) (fresh : handle ∉ table.opened)
    : Holds (table.add handle) (handle :: held) := by
  refine ⟨holds.opened.cons handle, ?_, holds.stray⟩
  exact List.nodup_cons.mpr ⟨fun isHeld => fresh (holds.opened.mem_iff.mpr isHeld), holds.nodup⟩

theorem Holds.close [DecidableEq α] (holds : Holds table (handle :: held))
    : Holds (table.close handle) held := by
  have isOpen : handle ∈ table.opened := holds.opened.mem_iff.mpr List.mem_cons_self
  unfold Table.close
  rw [if_pos isOpen]
  refine ⟨?_, (List.nodup_cons.mp holds.nodup).2, holds.stray⟩
  have erased := holds.opened.erase handle
  rw [List.erase_cons_head] at erased
  exact erased

theorem Holds.nothing (holds : Holds table []) : table.opened = [] := List.Perm.eq_nil holds.opened

end HandleTable
