import Mathlib.Data.List.Chain
import Mathlib.Tactic.Common

/-! A loop that reads one input in every pass: what holds whenever it stands at its head, what
holds when it leaves, and after how many inputs it has left.
-/

namespace BoundedLoop

variable {σ ι ρ : Type*}

/-- How one pass ends: back at the head of the loop, or outside it. -/
inductive Pass (σ ρ : Type*) where
  | again (state : σ)
  | leave (result : ρ)

/-- A loop. At its head it may be done already; otherwise its body reads an input. -/
structure Loop (σ ι ρ : Type*) where
  done : σ → Option ρ
  body : σ → ι → Pass σ ρ

namespace Loop

variable (loop : Loop σ ι ρ)

/-- The result of the loop; without further inputs it waits. -/
def run : σ → List ι → Option ρ
  | state, [] => loop.done state
  | state, input :: inputs =>
      match loop.done state with
      | some result => some result
      | none =>
          match loop.body state input with
          | .leave result => some result
          | .again next => run next inputs

/-- The states in which the loop stands at its head. -/
def heads : σ → List ι → List σ
  | state, [] => [state]
  | state, input :: inputs =>
      match loop.done state with
      | some _ => [state]
      | none =>
          match loop.body state input with
          | .leave _ => [state]
          | .again next => state :: heads next inputs

/-- Every input that is read keeps what is promised of it in that state. -/
def Kept (promise : σ → ι → Prop) : σ → List ι → Prop
  | _, [] => True
  | state, input :: inputs =>
      match loop.done state with
      | some _ => True
      | none =>
          promise state input
            ∧ match loop.body state input with
              | .leave _ => True
              | .again next => Kept promise next inputs

/-- One pass keeps `inv`, makes `measure` smaller or leaves with `post`. -/
structure Rule (promise : σ → ι → Prop) (inv : σ → Prop) (measure : σ → Nat)
    (post : ρ → Prop) : Prop where
  done : ∀ {state result}, inv state → loop.done state = some result → post result
  waits : ∀ {state}, inv state → loop.done state = none → 0 < measure state
  leave : ∀ {state input result}, inv state → loop.done state = none → promise state input
    → loop.body state input = .leave result → post result
  again : ∀ {state input next}, inv state → loop.done state = none → promise state input
    → loop.body state input = .again next → inv next ∧ measure next < measure state

variable {loop} {promise : σ → ι → Prop} {inv : σ → Prop} {measure : σ → Nat} {post : ρ → Prop}

theorem run_done {state : σ} {result : ρ} (done : loop.done state = some result)
    (inputs : List ι)
    : loop.run state inputs = some result := by
  cases inputs with
  | nil => exact done
  | cons input inputs => simp only [run, done]

theorem run_leave {state : σ} {input : ι} {result : ρ} (waits : loop.done state = none)
    (pass : loop.body state input = .leave result) (inputs : List ι)
    : loop.run state (input :: inputs) = some result := by
  simp only [run, waits, pass]

theorem run_again {state next : σ} {input : ι} (waits : loop.done state = none)
    (pass : loop.body state input = .again next) (inputs : List ι)
    : loop.run state (input :: inputs) = loop.run next inputs := by
  simp only [run, waits, pass]

theorem Kept.again {state next : σ} {input : ι} {inputs : List ι}
    (kept : loop.Kept promise state (input :: inputs)) (waits : loop.done state = none)
    (pass : loop.body state input = .again next)
    : promise state input ∧ loop.Kept promise next inputs := by
  simpa only [Kept, waits, pass] using kept

/-- The invariant holds at the head of every pass, by induction on the inputs. -/
theorem Rule.inv_heads (rule : loop.Rule promise inv measure post) {state : σ} {inputs : List ι}
    (start : inv state) (kept : loop.Kept promise state inputs)
    : ∀ head ∈ loop.heads state inputs, inv head := by
  induction inputs generalizing state with
  | nil => simpa [heads] using start
  | cons input inputs ih =>
      cases stands : loop.done state with
      | some result => simpa [heads, stands] using start
      | none =>
          cases pass : loop.body state input with
          | leave result => simpa [heads, stands, pass] using start
          | again next =>
              obtain ⟨promised, kept⟩ := kept.again stands pass
              simp only [heads, stands, pass, List.forall_mem_cons]
              exact ⟨start, ih (rule.again start stands promised pass).1 kept⟩

/-- The list of heads begins where the loop is entered. -/
theorem heads_head? (state : σ) (inputs : List ι)
    : (loop.heads state inputs).head? = some state := by
  cases inputs with
  | nil => simp [heads]
  | cons input inputs =>
      cases stands : loop.done state with
      | some result => simp [heads, stands]
      | none => cases pass : loop.body state input <;> simp [heads, stands, pass]

/-- From head to head the measure shrinks. -/
theorem Rule.shrinks (rule : loop.Rule promise inv measure post) {state : σ} {inputs : List ι}
    (start : inv state) (kept : loop.Kept promise state inputs)
    : (loop.heads state inputs).IsChain (fun head next => measure next < measure head) := by
  induction inputs generalizing state with
  | nil => simp [heads]
  | cons input inputs ih =>
      cases stands : loop.done state with
      | some result => simp [heads, stands]
      | none =>
          cases pass : loop.body state input with
          | leave result => simp [heads, stands, pass]
          | again next =>
              obtain ⟨promised, kept⟩ := kept.again stands pass
              obtain ⟨nextInv, less⟩ := rule.again start stands promised pass
              simp only [heads, stands, pass, List.isChain_cons]
              refine ⟨?_, ih nextInv kept⟩
              intro head first
              rw [heads_head?, Option.mem_some_iff] at first
              exact first ▸ less

/-- Whatever the loop leaves with satisfies `post`. -/
theorem Rule.post_run (rule : loop.Rule promise inv measure post) {state : σ} {inputs : List ι}
    (start : inv state) (kept : loop.Kept promise state inputs) {result : ρ}
    (left : loop.run state inputs = some result)
    : post result := by
  induction inputs generalizing state with
  | nil => exact rule.done start left
  | cons input inputs ih =>
      cases stands : loop.done state with
      | some other =>
          rw [run_done stands, Option.some.injEq] at left
          exact left ▸ rule.done start stands
      | none =>
          cases pass : loop.body state input with
          | leave other =>
              rw [run_leave stands pass, Option.some.injEq] at left
              simp only [Kept, stands] at kept
              exact left ▸ rule.leave start stands kept.1 pass
          | again next =>
              obtain ⟨promised, kept⟩ := kept.again stands pass
              rw [run_again stands pass] at left
              exact ih (rule.again start stands promised pass).1 kept left

/-- The loop has left once it has had as many inputs as the measure says. -/
theorem Rule.returns (rule : loop.Rule promise inv measure post) {state : σ} {inputs : List ι}
    (start : inv state) (kept : loop.Kept promise state inputs)
    (enough : measure state ≤ inputs.length)
    : ∃ result, loop.run state inputs = some result := by
  induction inputs generalizing state with
  | nil =>
      cases stands : loop.done state with
      | some result => exact ⟨result, stands⟩
      | none =>
          have left := rule.waits start stands
          simp only [List.length_nil] at enough
          omega
  | cons input inputs ih =>
      cases stands : loop.done state with
      | some result => exact ⟨result, run_done stands _⟩
      | none =>
          cases pass : loop.body state input with
          | leave result => exact ⟨result, run_leave stands pass inputs⟩
          | again next =>
              obtain ⟨promised, kept⟩ := kept.again stands pass
              obtain ⟨nextInv, less⟩ := rule.again start stands promised pass
              simp only [List.length_cons] at enough
              rw [run_again stands pass]
              exact ih nextInv kept (by omega)

end Loop

end BoundedLoop
