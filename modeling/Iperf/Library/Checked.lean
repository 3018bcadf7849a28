import Mathlib.Logic.Relation

/-! Inversion of computations in `Except` and `Option` that succeed. -/

namespace Checked

variable {ε α β : Type _} {x : Except ε α}

/-- A computation that has succeeded hands its value on. -/
theorem ok_bind {f : α → Except ε β} {a : α} : (Except.ok a >>= f) = f a := rfl

/-- A sequence succeeds when both of its parts do. -/
theorem bind_eq_ok {f : α → Except ε β} {b : β}
    : (x >>= f) = .ok b ↔ ∃ a, x = .ok a ∧ f a = .ok b := by
  constructor
  · intro done
    cases x with
    | error _ => cases done
    | ok a => exact ⟨a, rfl, done⟩
  · rintro ⟨a, rfl, done⟩
    exact done

/-- A mapped computation succeeds when the computation does. -/
theorem map_eq_ok {f : α → β} {b : β}
    : x.map f = .ok b ↔ ∃ a, x = .ok a ∧ f a = b := by
  constructor
  · intro done
    cases x with
    | error _ => cases done
    | ok a => exact ⟨a, rfl, Except.ok.inj done⟩
  · rintro ⟨a, rfl, rfl⟩
    rfl

/-- Renaming the error of a computation does not change when it succeeds. -/
theorem mapError_eq_ok {δ : Type _} {f : ε → δ} {a : α}
    : x.mapError f = .ok a ↔ x = .ok a := by
  cases x with
  | error _ => constructor <;> intro absurd <;> cases absurd
  | ok _ => exact ⟨fun same => by rw [Except.ok.inj same], fun same => by rw [same]; rfl⟩

/-- A guard that throws lets a computation succeed only when it does not fire. -/
theorem guard_eq_ok {refused : Prop} [Decidable refused] {error : ε} {rest : Except ε β} {b : β}
    : (if refused then .error error else rest) = .ok b ↔ ¬ refused ∧ rest = .ok b := by
  by_cases fires : refused
  · simp [fires]
  · simp [fires]

/-- A sequence avoids an error that both of its parts avoid. -/
theorem bind_ne_error {f : α → Except ε β} {error : ε} (first : x ≠ .error error)
    (second : ∀ a, f a ≠ .error error)
    : (x >>= f) ≠ .error error := by
  cases x with
  | error other => exact fun same => first (congrArg Except.error (Except.error.inj same))
  | ok a => exact second a

theorem map_ne_error {f : α → β} {error : ε} (avoids : x ≠ .error error)
    : x.map f ≠ .error error := by
  cases x with
  | error other => exact fun same => avoids (congrArg Except.error (Except.error.inj same))
  | ok a => exact fun absurd => by cases absurd

/-- A renamed error is avoided when the one it comes from is. -/
theorem mapError_ne_error {δ : Type _} {f : ε → δ} {error : ε}
    (unique : ∀ other, f other = f error → other = error) (avoids : x ≠ .error error)
    : x.mapError f ≠ .error (f error) := by
  cases x with
  | error other =>
      exact fun same => avoids (congrArg Except.error (unique other (Except.error.inj same)))
  | ok a => exact fun absurd => by cases absurd

/-- Steps that are made one after the other are a run, by induction on their inputs. -/
theorem run_of_foldlM {σ ι : Type*} {step : σ → ι → Option σ} {related : σ → σ → Prop}
    {inputs : List ι} {s last : σ} (done : inputs.foldlM step s = some last)
    (sound : ∀ input ∈ inputs, ∀ s next, step s input = some next → related s next)
    : Relation.ReflTransGen related s last := by
  induction inputs generalizing s with
  | nil =>
      obtain rfl := Option.some.inj done
      exact .refl
  | cons input rest ih =>
      rw [List.foldlM_cons] at done
      obtain ⟨next, first, later⟩ := Option.bind_eq_some_iff.mp done
      exact .head (sound input List.mem_cons_self s next first)
        (ih later fun other isOne => sound other (List.mem_cons_of_mem _ isOne))

end Checked
