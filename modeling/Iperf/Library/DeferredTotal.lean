import Mathlib.Algebra.BigOperators.Group.List.Basic
import Mathlib.Data.Nat.ModEq
import Mathlib.Tactic.Linarith

/-! A total that is kept beside its parts: each amount is first added to a part and stays pending
until it is added to the total, which counts modulo a number.
-/

namespace DeferredTotal

/-- Adding to one element of a list adds to the sum, by induction on the list. -/
theorem sum_set {list : List Nat} {position old : Nat} (found : list[position]? = some old)
    (new : Nat)
    : (list.set position new).sum + old = list.sum + new := by
  induction list generalizing position with
  | nil => cases found
  | cons head rest ih =>
      cases position with
      | zero =>
          obtain rfl := Option.some.inj found
          simp only [List.set_cons_zero, List.sum_cons]
          omega
      | succ position =>
          have later := ih (List.getElem?_cons_succ ▸ found)
          simp only [List.set_cons_succ, List.sum_cons]
          omega

/-- Lists that are compared place by place, by induction on the first. -/
theorem sum_le_sum {left right : List Nat}
    (within : ∀ position amount, left[position]? = some amount → amount ≤ right.getD position 0)
    : left.sum ≤ right.sum := by
  induction left generalizing right with
  | nil => exact Nat.zero_le _
  | cons head rest ih =>
      cases right with
      | nil =>
          have first : head ≤ 0 := within 0 head rfl
          have later := @ih [] fun position amount isThere => within (position + 1) amount isThere
          simp only [List.sum_cons, List.sum_nil] at later ⊢
          omega
      | cons top below =>
          have first : head ≤ top := within 0 head rfl
          have later := @ih below fun position amount isThere =>
            within (position + 1) amount isThere
          simp only [List.sum_cons]
          omega

/-- The parts are the total and what is pending, and no part has more pending than it has. -/
structure Agrees (modulus total : Nat) (parts pending : List Nat) : Prop where
  sum : parts.sum ≡ total + pending.sum [MOD modulus]
  within : ∀ position amount, pending[position]? = some amount → amount ≤ parts.getD position 0

variable {modulus total : Nat} {parts pending : List Nat}

/-- The total does not exceed what the parts have. -/
theorem Agrees.total_le (agrees : Agrees modulus total parts pending) (small : total < modulus)
    : total ≤ parts.sum := by
  have covered := sum_le_sum agrees.within
  have rest : parts.sum - pending.sum ≡ total [MOD modulus] := by
    refine Nat.ModEq.add_right_cancel' pending.sum ?_
    rw [Nat.sub_add_cancel covered]
    exact agrees.sum
  have isRest : total = (parts.sum - pending.sum) % modulus := by
    rw [rest, Nat.mod_eq_of_lt small]
  have bound := Nat.mod_le (parts.sum - pending.sum) modulus
  omega

/-- A part takes an amount, which is pending from then on. -/
theorem Agrees.take (agrees : Agrees modulus total parts pending) {position part : Nat}
    (has : parts[position]? = some part) (idle : pending[position]? = some 0) (amount : Nat)
    : Agrees modulus total (parts.set position (part + amount)) (pending.set position amount) where
  sum := by
    have taken := sum_set has (part + amount)
    have waits := sum_set idle amount
    have same : (parts.set position (part + amount)).sum = parts.sum + amount := by omega
    have left : (pending.set position amount).sum = pending.sum + amount := by omega
    rw [same, left, ← add_assoc]
    exact agrees.sum.add_right amount
  within := by
    intro other pended isThere
    rw [List.getElem?_set] at isThere
    rw [List.getD_eq_getElem?_getD, List.getElem?_set]
    have isPart : position < parts.length := (List.getElem?_eq_some_iff.mp has).1
    split at isThere
    · next same =>
        subst same
        have waits : position < pending.length := (List.getElem?_eq_some_iff.mp idle).1
        rw [if_pos waits] at isThere
        obtain rfl := Option.some.inj isThere
        rw [if_pos rfl, if_pos isPart]
        exact Nat.le_add_left _ _
    · next apart =>
        rw [if_neg apart, ← List.getD_eq_getElem?_getD]
        exact agrees.within other pended isThere

/-- Some of what is pending is added to the total. -/
theorem Agrees.post (agrees : Agrees modulus total parts pending) {position amount rest next : Nat}
    (waits : pending[position]? = some (amount + rest))
    (added : next ≡ total + amount [MOD modulus])
    : Agrees modulus next parts (pending.set position rest) where
  sum := by
    have fewer := sum_set waits rest
    have same : pending.sum = (pending.set position rest).sum + amount := by omega
    have before := agrees.sum
    rw [same] at before
    refine before.trans ?_
    have shift : total + ((pending.set position rest).sum + amount)
        = (total + amount) + (pending.set position rest).sum := by omega
    rw [shift]
    exact (added.symm.add_right _)
  within := by
    intro other pended isThere
    rw [List.getElem?_set] at isThere
    split at isThere
    · next same =>
        subst same
        have known : position < pending.length := (List.getElem?_eq_some_iff.mp waits).1
        rw [if_pos known] at isThere
        obtain rfl := Option.some.inj isThere
        exact (Nat.le_add_left _ _).trans (agrees.within position _ waits)
    · exact agrees.within other pended isThere

/-- New parts have nothing. -/
theorem Agrees.append (agrees : Agrees modulus total parts pending) {new : List Nat}
    (nothing : ∀ part ∈ new, part = 0)
    : Agrees modulus total (parts ++ new) pending where
  sum := by
    rw [List.sum_append, List.sum_eq_zero nothing, Nat.add_zero]
    exact agrees.sum
  within := by
    intro position amount isThere
    refine (agrees.within position amount isThere).trans ?_
    rw [List.getD_eq_getElem?_getD, List.getD_eq_getElem?_getD]
    by_cases inside : position < parts.length
    · rw [List.getElem?_append_left inside]
    · rw [List.getElem?_eq_none (by omega)]
      exact Nat.zero_le _

/-- Both counts begin anew with nothing pending. -/
theorem agrees_zero (modulus : Nat) {pending : List Nat} (idle : ∀ amount ∈ pending, amount = 0)
    : Agrees modulus 0 [] pending where
  sum := by
    rw [List.sum_eq_zero idle]
    exact Nat.ModEq.refl 0
  within := by
    intro position amount isThere
    rw [idle amount (List.mem_of_getElem? isThere)]
    exact Nat.zero_le _

/-- Places at which nothing is pending may come and go. -/
theorem Agrees.idle (agrees : Agrees modulus total parts pending) {others : List Nat}
    (before : ∀ amount ∈ pending, amount = 0) (after : ∀ amount ∈ others, amount = 0)
    : Agrees modulus total parts others where
  sum := by
    have same := agrees.sum
    rw [List.sum_eq_zero before] at same
    rwa [List.sum_eq_zero after]
  within := by
    intro position amount isThere
    rw [after amount (List.mem_of_getElem? isThere)]
    exact Nat.zero_le _

end DeferredTotal
