import Mathlib.Data.List.Nodup
import Mathlib.Logic.Function.Basic

/-! Linked lists of nodes. The pointers of all nodes are two functions, and a null pointer is
`none`.
-/

namespace LinkedList

variable {ι : Type*}

/-- A stretch of a doubly linked list: `first` and `last` point to its ends, `before` and `after`
to what is around it. An empty stretch has its ends outside.
-/
def Segment (prev next : ι → Option ι) (before first : Option ι)
    : List ι → Option ι → Option ι → Prop
  | [], last, after => last = before ∧ first = after
  | node :: rest, last, after =>
      first = some node ∧ prev node = before
      ∧ Segment prev next (some node) (next node) rest last after

/-- The whole of a doubly linked list. -/
def Doubly (prev next : ι → Option ι) (first : Option ι) (list : List ι) : Prop :=
  ∃ last, Segment prev next none first list last none

/-- A singly linked list. -/
def Singly (next : ι → Option ι) (first : Option ι) : List ι → Prop
  | [] => first = none
  | node :: rest => first = some node ∧ Singly next (next node) rest

variable {prev prev' next next' : ι → Option ι} {before first last after : Option ι}
  {front rest list : List ι} {node : ι}

theorem Singly.congr (singly : Singly next first list)
    (same : ∀ node ∈ list, next' node = next node)
    : Singly next' first list := by
  induction list generalizing first with
  | nil => exact singly
  | cons head tail ih =>
      obtain ⟨isFirst, others⟩ := singly
      refine ⟨isFirst, ih ?_ fun node isOne => same node (List.mem_cons_of_mem _ isOne)⟩
      rw [same head List.mem_cons_self]
      exact others

theorem Singly.none_iff (singly : Singly next first list) : first = none ↔ list = [] := by
  cases list with
  | nil => exact iff_of_true singly rfl
  | cons head tail =>
      refine iff_of_false ?_ (List.cons_ne_nil _ _)
      rw [singly.1]
      exact nofun

theorem Segment.append_iff
    : Segment prev next before first (front ++ rest) last after
      ↔ ∃ middle start, Segment prev next before first front middle start
        ∧ Segment prev next middle start rest last after := by
  induction front generalizing before first with
  | nil =>
      constructor
      · exact fun segment => ⟨before, first, ⟨rfl, rfl⟩, segment⟩
      · rintro ⟨_, _, ⟨rfl, rfl⟩, segment⟩
        exact segment
  | cons head tail ih =>
      constructor
      · rintro ⟨isFirst, isPrev, others⟩
        obtain ⟨middle, start, front, rest⟩ := ih.mp others
        exact ⟨middle, start, ⟨isFirst, isPrev, front⟩, rest⟩
      · rintro ⟨middle, start, ⟨isFirst, isPrev, front⟩, rest⟩
        exact ⟨isFirst, isPrev, ih.mpr ⟨middle, start, front, rest⟩⟩

/-- The end of a stretch is its last node, or what is before it. -/
theorem Segment.last_cases (segment : Segment prev next before first list last after)
    : (list = [] ∧ last = before) ∨ ∃ node ∈ list, last = some node := by
  induction list generalizing before first with
  | nil => exact .inl ⟨rfl, segment.1⟩
  | cons head tail ih =>
      rcases ih segment.2.2 with ⟨-, isLast⟩ | ⟨node, isOne, isLast⟩
      · exact .inr ⟨head, List.mem_cons_self, isLast⟩
      · exact .inr ⟨node, List.mem_cons_of_mem _ isOne, isLast⟩

/-- The end of a stretch that is not empty does not depend on what is before it. -/
theorem Segment.none_iff (segment : Segment prev next none first list last after)
    : last = none ↔ list = [] := by
  rcases segment.last_cases with ⟨empty, isLast⟩ | ⟨node, isOne, isLast⟩
  · exact iff_of_true isLast empty
  · refine iff_of_false ?_ (List.ne_nil_of_mem isOne)
    rw [isLast]
    exact nofun

theorem Segment.congr (segment : Segment prev next before first list last after)
    (samePrev : ∀ node ∈ list, prev' node = prev node)
    (sameNext : ∀ node ∈ list, next' node = next node)
    : Segment prev' next' before first list last after := by
  induction list generalizing before first with
  | nil => exact segment
  | cons head tail ih =>
      obtain ⟨isFirst, isPrev, others⟩ := segment
      refine ⟨isFirst, (samePrev head List.mem_cons_self).trans isPrev, ?_⟩
      rw [sameNext head List.mem_cons_self]
      exact ih others (fun node isOne => samePrev node (List.mem_cons_of_mem _ isOne))
        fun node isOne => sameNext node (List.mem_cons_of_mem _ isOne)

theorem Segment.prev_of_next (segment : Segment prev next before first list last none) {other : ι}
    (isOne : node ∈ list) (link : next node = some other)
    : prev other = some node := by
  induction list generalizing before first with
  | nil => cases isOne
  | cons head tail ih =>
      obtain ⟨-, -, others⟩ := segment
      rcases List.mem_cons.mp isOne with rfl | isOne
      · cases tail with
        | nil =>
            have isEnd := others.2
            rw [link] at isEnd
            cases isEnd
        | cons second rest =>
            obtain ⟨isSecond, isPrev, -⟩ := others
            rw [link] at isSecond
            exact Option.some.inj isSecond ▸ isPrev
      · exact ih others isOne

/-- A pointer back is that of the first node or has one forward. -/
theorem Segment.next_of_prev (segment : Segment prev next before first list last after) {other : ι}
    (isOther : other ∈ list) (link : prev other = some node)
    : before = some node ∧ first = some other ∨ next node = some other := by
  induction list generalizing before first with
  | nil => cases isOther
  | cons head tail ih =>
      obtain ⟨isFirst, isPrev, others⟩ := segment
      rcases List.mem_cons.mp isOther with rfl | isOther
      · exact .inl ⟨isPrev.symm.trans link, isFirst⟩
      · rcases ih others isOther with ⟨isNode, isNext⟩ | isNext
        · exact .inr (Option.some.inj isNode ▸ isNext)
        · exact .inr isNext

theorem Doubly.prev_first (doubly : Doubly prev next first list) (isFirst : first = some node)
    : prev node = none := by
  obtain ⟨last, segment⟩ := doubly
  cases list with
  | nil => cases isFirst.symm.trans segment.2
  | cons head tail =>
      obtain ⟨isHead, isPrev, -⟩ := segment
      exact Option.some.inj (isFirst.symm.trans isHead) ▸ isPrev

/-- The pointers forward and back are inverse to each other. -/
theorem Doubly.next_eq_iff (doubly : Doubly prev next first list) {other : ι}
    (isOne : node ∈ list) (isOther : other ∈ list)
    : next node = some other ↔ prev other = some node := by
  obtain ⟨last, segment⟩ := doubly
  refine ⟨segment.prev_of_next isOne, fun link => ?_⟩
  rcases segment.next_of_prev isOther link with ⟨absurd, -⟩ | isNext
  · cases absurd
  · exact isNext

variable [DecidableEq ι]

/-- What stands behind a stretch is changed at its last node. -/
theorem Segment.relast (segment : Segment prev next before first list last after)
    (nodup : list.Nodup) (behind : Option ι) (samePrev : ∀ node ∈ list, prev' node = prev node)
    (link : ∀ node ∈ list, next' node = if some node = last then behind else next node)
    : Segment prev' next' before (if list = [] then behind else first) list last behind := by
  induction list generalizing before first with
  | nil => exact ⟨segment.1, rfl⟩
  | cons head tail ih =>
      obtain ⟨isFirst, isPrev, others⟩ := segment
      obtain ⟨notAgain, nodup⟩ := List.nodup_cons.mp nodup
      refine ⟨(if_neg (List.cons_ne_nil _ _)).trans isFirst, ?_, ?_⟩
      · exact (samePrev head List.mem_cons_self).trans isPrev
      have step := ih others nodup (fun node isOne => samePrev node (List.mem_cons_of_mem _ isOne))
        fun node isOne => link node (List.mem_cons_of_mem _ isOne)
      have start : next' head = if tail = [] then behind else next head := by
        rw [link head List.mem_cons_self]
        rcases others.last_cases with ⟨empty, isLast⟩ | ⟨node, isOne, isLast⟩
        · rw [if_pos empty, if_pos isLast.symm]
        · rw [if_neg (List.ne_nil_of_mem isOne), if_neg]
          intro same
          exact notAgain (Option.some.inj (same.trans isLast) ▸ isOne)
      rw [start]
      exact step

/-- What stands before a stretch is changed at its first node. -/
theorem Segment.refirst (segment : Segment prev next before first list last after)
    (nodup : list.Nodup) (ahead : Option ι) (sameNext : ∀ node ∈ list, next' node = next node)
    (link : ∀ node ∈ list, prev' node = if some node = first then ahead else prev node)
    : Segment prev' next' ahead first list (if list = [] then ahead else last) after := by
  cases list with
  | nil => exact ⟨rfl, segment.2⟩
  | cons head tail =>
      obtain ⟨isFirst, -, others⟩ := segment
      obtain ⟨notAgain, nodup⟩ := List.nodup_cons.mp nodup
      refine ⟨isFirst, (link head List.mem_cons_self).trans (if_pos isFirst.symm), ?_⟩
      rw [sameNext head List.mem_cons_self, if_neg (List.cons_ne_nil _ _)]
      refine others.congr ?_ fun node isOne => sameNext node (List.mem_cons_of_mem _ isOne)
      intro node isOne
      rw [link node (List.mem_cons_of_mem _ isOne), if_neg]
      intro same
      exact notAgain (Option.some.inj (same.trans isFirst) ▸ isOne)

/-- A node is linked in between two stretches. -/
theorem Segment.insert {middle start : Option ι}
    (ahead : Segment prev next before first front middle start)
    (behind : Segment prev next middle start rest last after)
    (nodupFront : front.Nodup) (nodupRest : rest.Nodup)
    (isPrev : prev' node = middle) (isNext : next' node = start)
    (samePrev : ∀ other ∈ front, prev' other = prev other)
    (sameNext : ∀ other ∈ rest, next' other = next other)
    (linkNext : ∀ other ∈ front,
      next' other = if some other = middle then some node else next other)
    (linkPrev : ∀ other ∈ rest,
      prev' other = if some other = start then some node else prev other)
    : Segment prev' next' before (if front = [] then some node else first) (front ++ node :: rest)
        (if rest = [] then some node else last) after := by
  refine append_iff.mpr ⟨middle, some node, ahead.relast nodupFront _ samePrev linkNext, rfl,
    isPrev, ?_⟩
  rw [isNext]
  exact behind.refirst nodupRest _ sameNext linkPrev

/-- A node is taken out. -/
theorem Segment.remove (segment : Segment prev next before first (front ++ node :: rest) last after)
    (nodupFront : front.Nodup) (nodupRest : rest.Nodup)
    (samePrev : ∀ other ∈ front, prev' other = prev other)
    (sameNext : ∀ other ∈ rest, next' other = next other)
    (linkNext : ∀ other ∈ front,
      next' other = if some other = prev node then next node else next other)
    (linkPrev : ∀ other ∈ rest,
      prev' other = if some other = next node then prev node else prev other)
    : Segment prev' next' before (if front = [] then next node else first) (front ++ rest)
        (if rest = [] then prev node else last) after := by
  obtain ⟨middle, start, ahead, -, rfl, behind⟩ := append_iff.mp segment
  exact append_iff.mpr ⟨prev node, next node, ahead.relast nodupFront _ samePrev linkNext,
    behind.refirst nodupRest _ sameNext linkPrev⟩

end LinkedList
