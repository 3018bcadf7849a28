import Mathlib.Data.List.Induction
import Mathlib.Data.List.Range
import Mathlib.Data.List.Perm.Subperm

/-! Constant-space accounting of a numbered sequence whose entries arrive at most once, in
any order and with gaps: three counters determine how many entries are missing.
-/

namespace SequenceTally

/-- The highest number seen, the gaps not yet filled, and the entries that filled one. -/
structure Tally where
  highest : Nat
  missing : Nat
  late : Nat
deriving DecidableEq, Repr

def Tally.zero : Tally := { highest := 0, missing := 0, late := 0 }

/-- Count the arrival of entry `n`: going forward opens a gap of the skipped numbers, going
back fills one gap.
-/
def Tally.arrive (tally : Tally) (n : Nat) : Tally :=
  if tally.highest + 1 ≤ n then
    { tally with highest := n, missing := tally.missing + (n - 1 - tally.highest) }
  else
    { tally with missing := tally.missing - 1, late := tally.late + 1 }

/-- How many entries of `order` come after a higher one, when `earlier` arrived before. -/
def lateAfter (earlier : List Nat) : List Nat → Nat
  | [] => 0
  | n :: rest => (if ∃ m ∈ earlier, n < m then 1 else 0) + lateAfter (n :: earlier) rest

/-- How many entries of `order` arrive after one with a higher number. -/
def lateArrivals (order : List Nat) : Nat := lateAfter [] order

/-- The largest entry, `0` for no entry. -/
def highestOf (order : List Nat) : Nat := order.foldl max 0

theorem highestOf_append_singleton (order : List Nat) (n : Nat)
    : highestOf (order ++ [n]) = max (highestOf order) n := by
  simp [highestOf]

theorem le_highestOf {order : List Nat} {n : Nat} (member : n ∈ order)
    : n ≤ highestOf order := by
  induction order using List.reverseRecOn with
  | nil => simp at member
  | append_singleton order m ih =>
      rw [highestOf_append_singleton]
      rcases List.mem_append.mp member with earlier | last
      · exact le_trans (ih earlier) (le_max_left _ _)
      · rw [List.mem_singleton.mp last]
        exact le_max_right _ _

/-- The largest entry is an entry or the bound for no entry, by induction from the end. -/
theorem highestOf_mem_or_zero (order : List Nat)
    : highestOf order ∈ order ∨ highestOf order = 0 := by
  induction order using List.reverseRecOn with
  | nil => exact Or.inr rfl
  | append_singleton order n ih =>
      rw [highestOf_append_singleton]
      rcases le_total (highestOf order) n with below | above
      · exact Or.inl (by simp [max_eq_right below])
      · rw [max_eq_left above]
        exact ih.imp_left (fun member => by simp [member])

theorem lateAfter_append_singleton (earlier order : List Nat) (n : Nat)
    : lateAfter earlier (order ++ [n])
      = lateAfter earlier order + if ∃ m ∈ earlier ++ order, n < m then 1 else 0 := by
  induction order generalizing earlier with
  | nil => simp [lateAfter]
  | cons head rest ih =>
      simp only [List.cons_append, lateAfter, ih, Nat.add_assoc]
      congr 3
      simp [or_left_comm, or_and_right, exists_or]

theorem lateArrivals_append_singleton (order : List Nat) (n : Nat)
    : lateArrivals (order ++ [n])
      = lateArrivals order + if ∃ m ∈ order, n < m then 1 else 0 := by
  simpa [lateArrivals] using lateAfter_append_singleton [] order n

/-- Distinct positive numbers up to their largest leave exactly the difference missing, so a
further number below the largest finds a gap. Witness: the numbers and the new one are
distinct members of `1, …, highestOf order`.
-/
theorem length_lt_highestOf {order : List Nat} {n : Nat} (distinct : (n :: order).Nodup)
    (positive : ∀ m ∈ n :: order, 1 ≤ m) (below : n ≤ highestOf order)
    : order.length < highestOf order := by
  have included : n :: order ⊆ List.range' 1 (highestOf order) := by
    intro m member
    have upper : m ≤ highestOf order := by
      rcases List.mem_cons.mp member with same | old
      · exact same ▸ below
      · exact le_highestOf old
    rw [List.mem_range'_1]
    exact ⟨positive m member, by omega⟩
  have bound := (distinct.subperm included).length_le
  simp only [List.length_cons, List.length_range'] at bound
  omega

/-- The tally of distinct positive numbers is exact. Witness: induction on the arrivals; the
invariant is that the gaps and the arrivals together make up the highest number.
-/
theorem foldl_arrive {order : List Nat} (distinct : order.Nodup)
    (positive : ∀ n ∈ order, 1 ≤ n)
    : order.foldl Tally.arrive Tally.zero
      = {
          highest := highestOf order,
          missing := highestOf order - order.length,
          late := lateArrivals order
        }
      ∧ order.length ≤ highestOf order := by
  induction order using List.reverseRecOn with
  | nil => exact ⟨rfl, le_rfl⟩
  | append_singleton order n ih =>
      have split : (n :: order).Nodup :=
        (List.perm_append_singleton n order).nodup_iff.mp distinct
      obtain ⟨state, bound⟩ := ih (List.nodup_cons.mp split).2
        (fun m member => positive m (by simp [member]))
      have first : 1 ≤ n := positive n (by simp)
      rw [List.foldl_append, state, highestOf_append_singleton,
        lateArrivals_append_singleton]
      by_cases forward : highestOf order + 1 ≤ n
      · -- a new highest number: the skipped ones become missing
        have none : ¬ ∃ m ∈ order, n < m := by
          rintro ⟨m, member, above⟩
          have := le_highestOf member
          omega
        have top : max (highestOf order) n = n := by omega
        simp only [List.foldl_cons, List.foldl_nil, Tally.arrive, forward, if_true, top, none,
          if_false, List.length_append, List.length_singleton]
        refine ⟨?_, by omega⟩
        congr 1
        omega
      · -- a number below the highest: it was missing, because it is distinct from all others
        have gap := length_lt_highestOf split
          (fun m member => positive m (by simpa [or_comm] using member)) (by omega)
        have member : highestOf order ∈ order :=
          (highestOf_mem_or_zero order).resolve_right (by omega)
        have ne : n ≠ highestOf order := fun same =>
          (List.nodup_cons.mp split).1 (same ▸ member)
        have some : ∃ m ∈ order, n < m := ⟨_, member, by omega⟩
        have top : max (highestOf order) n = highestOf order := by omega
        simp only [List.foldl_cons, List.foldl_nil, Tally.arrive, forward, if_true, top, some,
          if_false, List.length_append, List.length_singleton]
        exact ⟨by congr 1, by omega⟩

/-- Whatever arrives, duplicates too: the gaps stay within the highest number, and what is not a gap
is one of the arrivals. By induction on them.
-/
theorem foldl_arrive_bounds (order : List Nat)
    : (order.foldl Tally.arrive Tally.zero).highest = highestOf order
      ∧ (order.foldl Tally.arrive Tally.zero).missing ≤ highestOf order
      ∧ highestOf order ≤ (order.foldl Tally.arrive Tally.zero).missing + order.length := by
  induction order using List.reverseRecOn with
  | nil => exact ⟨rfl, le_rfl, le_rfl⟩
  | append_singleton order n ih =>
      obtain ⟨highest, within, covered⟩ := ih
      rw [List.foldl_append, List.foldl_cons, List.foldl_nil, highestOf_append_singleton,
        List.length_append, List.length_singleton, Tally.arrive, highest]
      by_cases forward : highestOf order + 1 ≤ n
      · rw [if_pos forward]
        dsimp only
        omega
      · rw [if_neg forward]
        dsimp only
        omega

/-- The entries of a later period that were skipped in an earlier one. -/
def lateFrom (first second : List Nat) : Nat := second.countP (· ≤ highestOf first)

/-- The numbers that a later period has skipped itself. -/
def skipped (first second : List Nat) : Nat :=
  (List.range' (highestOf first + 1) (highestOf (first ++ second) - highestOf first)).countP
    (· ∉ second)

theorem highestOf_append (first second : List Nat)
    : highestOf (first ++ second) = max (highestOf first) (highestOf second) := by
  induction second using List.reverseRecOn with
  | nil => simp [highestOf]
  | append_singleton second n ih =>
      rw [← List.append_assoc, highestOf_append_singleton, highestOf_append_singleton, ih,
        max_assoc]

/-- A later period moves the highest number over its own entries, but not over the late ones, and
over those that it skips.
-/
theorem highestOf_advance (first : List Nat) {second : List Nat} (distinct : second.Nodup)
    : highestOf (first ++ second) + lateFrom first second
      = highestOf first + second.length + skipped first second := by
  have top := highestOf_append first second
  -- the entries above the old highest number are those of the range that are there
  have same : (second.filter (fun n => highestOf first < n)).Perm
      ((List.range' (highestOf first + 1)
        (highestOf (first ++ second) - highestOf first)).filter (fun n => n ∈ second)) := by
    refine (List.perm_ext_iff_of_nodup (List.filter_sublist.nodup distinct)
      (List.filter_sublist.nodup (List.nodup_range' ..))).mpr ?_
    intro n
    rw [List.mem_filter, List.mem_filter, List.mem_range'_1]
    simp only [decide_eq_true_eq]
    constructor
    · rintro ⟨isOne, above⟩
      have := le_highestOf isOne
      exact ⟨by omega, isOne⟩
    · rintro ⟨inside, isOne⟩
      exact ⟨isOne, by omega⟩
  have count := same.length_eq
  rw [← List.countP_eq_length_filter, ← List.countP_eq_length_filter] at count
  have parts := @List.length_eq_countP_add_countP _ (fun n => decide (highestOf first < n)) second
  have range := @List.length_eq_countP_add_countP _ (fun n => decide (n ∈ second))
    (List.range' (highestOf first + 1) (highestOf (first ++ second) - highestOf first))
  rw [List.length_range'] at range
  unfold lateFrom skipped
  simp only [decide_eq_true_eq, not_lt] at parts range
  omega

end SequenceTally
