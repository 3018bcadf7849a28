import Mathlib.Data.List.Basic

/-! Lists of intervals that tile a span of time. -/

namespace Tiling

variable {ι τ : Type} {start stop : ι → τ}

/-- The intervals follow one another without a gap or an overlap from `first` to `last`. -/
def Tiles (start stop : ι → τ) : τ → τ → List ι → Prop
  | first, last, [] => first = last
  | first, last, interval :: rest =>
      start interval = first ∧ Tiles start stop (stop interval) last rest

/-- One more interval that starts where the last one ended, by induction on the list. -/
theorem Tiles.concat {first last : τ} {list : List ι} {interval : ι}
    (tiles : Tiles start stop first last list) (next : start interval = last)
    : Tiles start stop first (stop interval) (list ++ [interval]) := by
  induction list generalizing first with
  | nil =>
      obtain rfl : first = last := tiles
      exact ⟨next, rfl⟩
  | cons head rest ih => exact ⟨tiles.1, ih tiles.2⟩

/-- Intervals that tile a span, other than none at all, tell where it begins. -/
theorem Tiles.first_eq {first first' last last' : τ} {list : List ι} (nonempty : list ≠ [])
    (tiles : Tiles start stop first last list) (tiles' : Tiles start stop first' last' list)
    : first = first' := by
  cases list with
  | nil => exact absurd rfl nonempty
  | cons head rest => exact tiles.1.symm.trans tiles'.1

end Tiling
