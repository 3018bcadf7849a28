import Iperf.Timer.Heap

/-! The pointers of the timers are those of two lists, and every operation of `timer.c` keeps
them so. The nodes on the lists are given by their addresses.
-/

namespace Iperf

open LinkedList

namespace TimerHeap

/-- The pointers make up a doubly linked list of the active nodes and a singly linked one of the
free nodes; with the loose nodes, which are on neither list, these are all the nodes there are.
-/
structure Linked (heap : TimerHeap) (active free loose : List Nat) : Prop where
  doubly : Doubly heap.prev heap.next heap.timers active
  singly : Singly heap.next heap.freeTimers free
  live : heap.live.Perm (loose ++ (active ++ free))
  nodup : (loose ++ (active ++ free)).Nodup

variable {heap heap' : TimerHeap} {active free loose : List Nat} {t : Nat}

namespace Linked

theorem active_nodup (linked : heap.Linked active free loose) : active.Nodup :=
  (List.nodup_append.mp (List.nodup_append.mp linked.nodup).2.1).1

theorem active_live (linked : heap.Linked active free loose)
    : active.length ≤ heap.live.length := by
  rw [linked.live.length_eq, List.length_append, List.length_append]
  omega

theorem free_live (linked : heap.Linked active free loose) : free.length ≤ heap.live.length := by
  rw [linked.live.length_eq, List.length_append, List.length_append]
  omega

theorem not_free (linked : heap.Linked active free loose) (isActive : t ∈ active) : t ∉ free :=
  fun isFree =>
    (List.nodup_append.mp (List.nodup_append.mp linked.nodup).2.1).2.2 t isActive t isFree rfl

/-- A loose node is on no list. -/
theorem not_listed (linked : heap.Linked active free [t]) : t ∉ active ∧ t ∉ free := by
  have apart := (List.nodup_cons.mp linked.nodup).1
  exact ⟨fun isOne => apart (List.mem_append_left free isOne),
    fun isOne => apart (List.mem_append_right active isOne)⟩

theorem timers_none_iff (linked : heap.Linked active free loose)
    : heap.timers = none ↔ active = [] := by
  obtain ⟨last, segment⟩ := linked.doubly
  cases active with
  | nil => exact iff_of_true segment.2 rfl
  | cons head tail =>
      refine iff_of_false ?_ (List.cons_ne_nil _ _)
      rw [segment.1]
      exact nofun

/-- The active list starts at `timers`. -/
theorem timers_eq (linked : heap.Linked active free loose) : heap.timers = active.head? := by
  obtain ⟨last, segment⟩ := linked.doubly
  cases active with
  | nil => exact segment.2
  | cons head tail => exact segment.1

theorem freeTimers_eq (linked : heap.Linked active free loose) : heap.freeTimers = free.head? := by
  have singly := linked.singly
  cases free with
  | nil => exact singly
  | cons head tail => exact singly.1

/-- The pointers and the addresses are all that the lists depend on. -/
theorem congr (linked : heap.Linked active free loose) (next : heap'.next = heap.next)
    (prev : heap'.prev = heap.prev) (timers : heap'.timers = heap.timers)
    (freeTimers : heap'.freeTimers = heap.freeTimers) (live : heap'.live = heap.live)
    : heap'.Linked active free loose := by
  refine ⟨?_, ?_, live ▸ linked.live, linked.nodup⟩
  · rw [next, prev, timers]
    exact linked.doubly
  · rw [next, freeTimers]
    exact linked.singly

theorem setTime (linked : heap.Linked active free loose) (t : Nat) (time : IperfTime)
    : (heap.setTime t time).Linked active free loose := by
  refine linked.congr (funext fun n => ?_) (funext fun n => ?_) rfl rfl rfl
  · exact next_setTime heap t n time
  · exact prev_setTime heap t n time

/-- Where a node is on the active list. -/
theorem successor (linked : heap.Linked active free loose) {front rest : List Nat}
    (parts : active = front ++ t :: rest)
    : heap.next t = rest.head? := by
  obtain ⟨last, segment⟩ := linked.doubly
  rw [parts] at segment
  obtain ⟨_, _, -, -, -, behind⟩ := Segment.append_iff.mp segment
  cases rest with
  | nil => exact behind.2
  | cons head tail => exact behind.1

/-- The node behind an active one is another active one. -/
theorem next_active (linked : heap.Linked active free loose) (isActive : t ∈ active) {other : Nat}
    (isNext : heap.next t = some other)
    : other ∈ active ∧ other ≠ t := by
  obtain ⟨front, rest, parts⟩ := List.append_of_mem isActive
  have nodup := linked.active_nodup
  rw [linked.successor parts] at isNext
  have isRest : other ∈ rest := List.mem_of_mem_head? isNext
  rw [parts] at nodup ⊢
  refine ⟨List.mem_append_right _ (List.mem_cons_of_mem _ isRest), fun same => ?_⟩
  exact (List.nodup_cons.mp (List.nodup_append.mp nodup).2.1).1 (same ▸ isRest)

end Linked

-----------------------------------------------------------------------------------------
-- Removal
-----------------------------------------------------------------------------------------

theorem next_unlinkPrev (heap : TimerHeap) (t n : Nat)
    : (heap.unlinkPrev t).next n = if some n = heap.prev t then heap.next t else heap.next n := by
  unfold unlinkPrev
  cases heap.prev t with
  | none => rfl
  | some t2prev => simp

theorem prev_unlinkPrev (heap : TimerHeap) (t n : Nat)
    : (heap.unlinkPrev t).prev n = heap.prev n := by
  unfold unlinkPrev
  split
  · rfl
  · exact prev_setNext ..

theorem next_unlinkNext (heap : TimerHeap) (t n : Nat)
    : (heap.unlinkNext t).next n = heap.next n := by
  unfold unlinkNext
  split
  · rfl
  · exact next_setPrev ..

theorem prev_unlinkNext (heap : TimerHeap) (t n : Nat)
    : (heap.unlinkNext t).prev n = if some n = heap.next t then heap.prev t else heap.prev n := by
  unfold unlinkNext
  cases heap.next t with
  | none => rfl
  | some t2 => simp

theorem next_listRemove (heap : TimerHeap) (t n : Nat)
    : (heap.listRemove t).next n = if some n = heap.prev t then heap.next t else heap.next n :=
  (next_unlinkNext _ t n).trans (next_unlinkPrev heap t n)

theorem prev_listRemove (heap : TimerHeap) (t n : Nat)
    : (heap.listRemove t).prev n = if some n = heap.next t then heap.prev t else heap.prev n := by
  have reread : (heap.unlinkPrev t).next t = heap.next t := by
    rw [next_unlinkPrev]
    exact ite_self _
  unfold listRemove
  rw [prev_unlinkNext, reread, prev_unlinkPrev, prev_unlinkPrev]

theorem timers_listRemove (heap : TimerHeap) (t : Nat)
    : (heap.listRemove t).timers = if heap.prev t = none then heap.next t else heap.timers := by
  have second (heap : TimerHeap) : (heap.unlinkNext t).timers = heap.timers := by
    unfold unlinkNext
    split <;> rfl
  rw [listRemove, second]
  unfold unlinkPrev
  cases heap.prev t with
  | none => rfl
  | some t2prev => rfl

/-- What does not belong to the active list stays. -/
structure Aside (heap heap' : TimerHeap) : Prop where
  entry : ∀ n, heap'.entry n = heap.entry n
  freeTimers : heap'.freeTimers = heap.freeTimers
  live : heap'.live = heap.live

theorem Aside.trans {heap'' : TimerHeap} (first : heap.Aside heap') (second : heap'.Aside heap'')
    : heap.Aside heap'' :=
  ⟨fun n => (second.entry n).trans (first.entry n), second.freeTimers.trans first.freeTimers,
    second.live.trans first.live⟩

theorem setNext_aside (heap : TimerHeap) (t : Nat) (p : Option Nat)
    : heap.Aside (heap.setNext t p) :=
  ⟨fun n => entry_setNext heap t n p, rfl, rfl⟩

theorem setPrev_aside (heap : TimerHeap) (t : Nat) (p : Option Nat)
    : heap.Aside (heap.setPrev t p) :=
  ⟨fun n => entry_setPrev heap t n p, rfl, rfl⟩

theorem listRemove_aside (heap : TimerHeap) (t : Nat) : heap.Aside (heap.listRemove t) := by
  have first : heap.Aside (heap.unlinkPrev t) := by
    unfold unlinkPrev
    split
    · exact ⟨fun _ => rfl, rfl, rfl⟩
    · exact heap.setNext_aside _ _
  refine first.trans ?_
  unfold listRemove unlinkNext
  split
  · exact ⟨fun _ => rfl, rfl, rfl⟩
  · exact setPrev_aside _ _ _

theorem listRemove_turn (heap : TimerHeap) (t : Nat)
    : (heap.listRemove t).turn = heap.turn ∧ (heap.listRemove t).turns = heap.turns := by
  unfold listRemove unlinkNext unlinkPrev
  split <;> split <;> exact ⟨rfl, rfl⟩

/-- A node that is taken off the active list is loose. -/
theorem Linked.listRemove {front rest : List Nat}
    (linked : heap.Linked (front ++ t :: rest) free [])
    : (heap.listRemove t).Linked (front ++ rest) free [t] := by
  obtain ⟨last, segment⟩ := linked.doubly
  have nodup := linked.active_nodup
  obtain ⟨nodupFront, behind, apart⟩ := List.nodup_append.mp nodup
  obtain ⟨notRest, nodupRest⟩ := List.nodup_cons.mp behind
  obtain ⟨middle, start, ahead, -, isPrev, follows⟩ := Segment.append_iff.mp segment
  have aside := heap.listRemove_aside t
  -- nothing on the front is behind the node, nothing on the rest before it
  have prevFront : ∀ n ∈ front, some n ≠ heap.next t := by
    intro n isFront same
    cases rest with
    | nil =>
        have isEnd := same.trans follows.2
        cases isEnd
    | cons head tail =>
        have isHead := Option.some.inj (same.trans follows.1)
        exact apart n isFront head (List.mem_cons_of_mem _ List.mem_cons_self) isHead
  have nextRest : ∀ n ∈ rest, some n ≠ heap.prev t := by
    intro n isRest same
    rw [isPrev] at same
    rcases ahead.last_cases with ⟨-, isLast⟩ | ⟨node, isNode, isLast⟩
    · cases same.trans isLast
    · have isSame := Option.some.inj (same.trans isLast)
      exact apart node isNode n (List.mem_cons_of_mem _ isRest) isSame.symm
  have perm : ([] ++ (front ++ t :: rest ++ free)).Perm ([t] ++ (front ++ rest ++ free)) := by
    simp only [List.nil_append, List.append_assoc, List.cons_append]
    exact List.perm_middle
  refine ⟨⟨if rest = [] then heap.prev t else last, ?_⟩, ?_, ?_, perm.nodup_iff.mp linked.nodup⟩
  · have first : (heap.listRemove t).timers = if front = [] then heap.next t else heap.timers := by
      rw [timers_listRemove, isPrev]
      exact if_congr ahead.none_iff rfl rfl
    rw [first]
    refine segment.remove nodupFront nodupRest ?_ ?_ ?_ ?_
    · intro n isFront
      rw [prev_listRemove, if_neg (prevFront n isFront)]
    · intro n isRest
      rw [next_listRemove, if_neg (nextRest n isRest)]
    · exact fun n _ => next_listRemove heap t n
    · exact fun n _ => prev_listRemove heap t n
  · rw [aside.freeTimers]
    refine linked.singly.congr fun n isFree => ?_
    rw [next_listRemove, if_neg]
    intro same
    rw [isPrev] at same
    rcases ahead.last_cases with ⟨-, isLast⟩ | ⟨node, isNode, isLast⟩
    · cases same.trans isLast
    · have isSame := Option.some.inj (same.trans isLast)
      exact linked.not_free (List.mem_append_left _ isNode) (isSame ▸ isFree)
  · rw [aside.live]
    exact linked.live.trans perm

-----------------------------------------------------------------------------------------
-- Insertion
-----------------------------------------------------------------------------------------

/-- A node goes before the first one that is later. -/
def insertOrdered (heap : TimerHeap) (t : Nat) (list : List Nat) : List Nat :=
  list.orderedInsert (fun t t2 => heap.time t < heap.time t2) t

/-- The loop of `list_add` stops at the place of the new node, by induction on what is left of the
list.
-/
theorem insertionPoint_spec {t2prev : Nat} {t2 last : Option Nat} {rest : List Nat} {fuel : Nat}
    (enough : rest.length ≤ fuel)
    (segment : Segment heap.prev heap.next (some t2prev) t2 rest last none)
    : ∃ passed behind before after, rest = passed ++ behind
      ∧ heap.insertionPoint (heap.time t) fuel t2prev t2 = some (before, after)
      ∧ Segment heap.prev heap.next (some t2prev) t2 passed (some before) after
      ∧ Segment heap.prev heap.next (some before) after behind last none
      ∧ heap.insertOrdered t rest = passed ++ t :: behind := by
  induction rest generalizing t2prev t2 fuel with
  | nil =>
      obtain ⟨isLast, rfl⟩ := segment
      refine ⟨[], [], t2prev, none, rfl, ?_, ⟨rfl, rfl⟩, ⟨isLast, rfl⟩, rfl⟩
      cases fuel <;> rfl
  | cons head tail ih =>
      obtain ⟨rfl, isPrev, others⟩ := segment
      cases fuel with
      | zero => cases enough
      | succ fuel =>
          by_cases earlier : heap.time t < heap.time head
          · refine ⟨[], head :: tail, t2prev, some head, rfl, ?_, ⟨rfl, rfl⟩,
              ⟨rfl, isPrev, others⟩, if_pos earlier⟩
            exact if_pos (iperfTimeCompare_neg.mpr earlier)
          · obtain ⟨passed, behind, before, after, rfl, found, ahead, follows, inserted⟩ :=
              ih (Nat.le_of_succ_le_succ enough) others
            refine ⟨head :: passed, behind, before, after, rfl, ?_, ⟨rfl, isPrev, ahead⟩, follows,
              ?_⟩
            · exact (if_neg fun less => earlier (iperfTimeCompare_neg.mp less)).trans found
            · exact (if_neg earlier).trans (congrArg (head :: ·) inserted)

/-- A loose node is linked in between two parts of the active list. -/
theorem Linked.insert {front rest : List Nat} {middle start : Option Nat} {last : Option Nat}
    (linked : heap.Linked (front ++ rest) free [t]) (aside : heap.Aside heap')
    (ahead : Segment heap.prev heap.next none heap.timers front middle start)
    (behind : Segment heap.prev heap.next middle start rest last none)
    (timers : heap'.timers = if front = [] then some t else heap.timers)
    (next : ∀ n, heap'.next n
      = if n = t then start else if some n = middle then some t else heap.next n)
    (prev : ∀ n, heap'.prev n
      = if n = t then middle else if some n = start then some t else heap.prev n)
    : heap'.Linked (front ++ t :: rest) free [] := by
  obtain ⟨notActive, notFree⟩ := linked.not_listed
  obtain ⟨nodupFront, nodupRest, apart⟩ := List.nodup_append.mp linked.active_nodup
  have other {n : Nat} {list : List Nat} (isOne : n ∈ list) (outside : t ∉ list) : n ≠ t :=
    fun same => outside (same ▸ isOne)
  have notFront : t ∉ front := fun isFront => notActive (List.mem_append_left _ isFront)
  have notRest : t ∉ rest := fun isRest => notActive (List.mem_append_right _ isRest)
  have perm : ([t] ++ (front ++ rest ++ free)).Perm ([] ++ (front ++ t :: rest ++ free)) := by
    simp only [List.nil_append, List.append_assoc, List.cons_append]
    exact List.perm_middle.symm
  refine ⟨⟨if rest = [] then some t else last, ?_⟩, ?_, ?_, perm.nodup_iff.mp linked.nodup⟩
  · rw [timers]
    refine ahead.insert behind nodupFront nodupRest ?_ ?_ ?_ ?_ ?_ ?_
    · rw [prev, if_pos rfl]
    · rw [next, if_pos rfl]
    · intro n isFront
      rw [prev, if_neg (other isFront notFront), if_neg]
      intro same
      cases rest with
      | nil => cases same.trans behind.2
      | cons head tail =>
          have isHead := Option.some.inj (same.trans behind.1)
          exact apart n isFront head List.mem_cons_self isHead
    · intro n isRest
      rw [next, if_neg (other isRest notRest), if_neg]
      intro same
      rcases ahead.last_cases with ⟨-, isLast⟩ | ⟨node, isNode, isLast⟩
      · cases same.trans isLast
      · exact apart node isNode n isRest (Option.some.inj (same.trans isLast)).symm
    · intro n isFront
      rw [next, if_neg (other isFront notFront)]
    · intro n isRest
      rw [prev, if_neg (other isRest notRest)]
  · rw [aside.freeTimers]
    refine linked.singly.congr fun n isFree => ?_
    rw [next, if_neg (other isFree notFree), if_neg]
    intro same
    rcases ahead.last_cases with ⟨-, isLast⟩ | ⟨node, isNode, isLast⟩
    · cases same.trans isLast
    · have isSame := Option.some.inj (same.trans isLast)
      exact linked.not_free (List.mem_append_left _ isNode) (isSame ▸ isFree)
  · rw [aside.live]
    exact linked.live.trans perm

/-- The pointers behind the loop, with what is before and behind the new node. -/
theorem next_link {t2prev : Nat} (t2 : Option Nat) (n : Nat)
    : (heap.link t t2prev t2).next n
      = if n = t then t2 else if some n = some t2prev then some t else heap.next n := by
  cases t2 with
  | none => simp [link]
  | some t2 => simp [link]

theorem prev_link (t2prev : Nat) {t2 : Option Nat} (different : t2 ≠ some t) (n : Nat)
    : (heap.link t t2prev t2).prev n
      = if n = t then some t2prev else if some n = t2 then some t else heap.prev n := by
  cases t2 with
  | none => simp [link]
  | some t2 =>
      by_cases isBehind : n = t2
      · have notNew : n ≠ t := fun same => different (congrArg some (isBehind.symm.trans same))
        simp [link, isBehind, isBehind ▸ notNew]
      · simp [link, isBehind]

theorem link_aside (heap : TimerHeap) (t t2prev : Nat) (t2 : Option Nat)
    : heap.Aside (heap.link t t2prev t2) := by
  cases t2 with
  | none =>
      exact ((setNext_aside _ _ _).trans (setPrev_aside _ _ _)).trans (setNext_aside _ _ _)
  | some t2 =>
      exact (((setNext_aside _ _ _).trans (setPrev_aside _ _ _)).trans
        (setNext_aside _ _ _)).trans (setPrev_aside _ _ _)

/-- `list_add` returns, and the loose node is on the active list. -/
theorem Linked.listAdd (linked : heap.Linked active free [t])
    : ∃ heap', heap.listAdd t = some heap' ∧ heap'.Linked (heap.insertOrdered t active) free []
      ∧ heap.Aside heap' ∧ heap'.turn = Function.update heap.turn t heap.turns
      ∧ heap'.turns = heap.turns + 1 := by
  have stamped : (heap.stamp t).Linked active free [t] := linked.congr rfl rfl rfl rfl rfl
  have aside : heap.Aside (heap.stamp t) := ⟨fun _ => rfl, rfl, rfl⟩
  obtain ⟨last, segment⟩ := stamped.doubly
  obtain ⟨notActive, notFree⟩ := linked.not_listed
  unfold TimerHeap.listAdd
  dsimp only
  cases active with
  | nil =>
      have empty : (heap.stamp t).timers = none := segment.2
      rw [empty]
      have aside' : (heap.stamp t).Aside
          (({ heap.stamp t with timers := some t }.setNext t none).setPrev t none) :=
        ⟨fun n => (entry_setPrev _ _ _ _).trans (entry_setNext _ _ _ _), rfl, rfl⟩
      refine ⟨_, rfl, ?_, aside.trans aside', rfl, rfl⟩
      refine @Linked.insert _ _ free t [] [] none none none stamped aside' ⟨rfl, empty⟩ ⟨rfl, rfl⟩
        rfl ?_ ?_
      · intro n
        rw [next_setPrev, next_setNext, if_neg (by exact nofun : ¬ some n = none)]
        rfl
      · intro n
        rw [prev_setPrev, prev_setNext, if_neg (by exact nofun : ¬ some n = none)]
        rfl
  | cons head tail =>
      obtain ⟨isHead, isPrev, others⟩ := segment
      have notHead : head ≠ t := fun same => notActive (same ▸ List.mem_cons_self)
      rw [isHead]
      dsimp only
      by_cases earlier : (heap.stamp t).time t < (heap.stamp t).time head
      · rw [if_pos (iperfTimeCompare_neg.mpr earlier)]
        have aside' : (heap.stamp t).Aside
            { (((heap.stamp t).setPrev t none).setNext t (some head)).setPrev head (some t) with
              timers := some t } := by
          refine ⟨fun n => ?_, rfl, rfl⟩
          exact ((entry_setPrev _ _ _ _).trans (entry_setNext _ _ _ _)).trans
              (entry_setPrev _ _ _ _)
        refine ⟨_, rfl, ?_, aside.trans aside', rfl, rfl⟩
        have inserted : heap.insertOrdered t (head :: tail) = [] ++ t :: head :: tail :=
          if_pos earlier
        rw [inserted]
        refine @Linked.insert _ _ free t [] (head :: tail) none (some head) last stamped aside'
          ⟨rfl, isHead⟩ ⟨rfl, isPrev, others⟩ rfl ?_ ?_
        · intro n
          refine (next_setPrev _ head n _).trans ?_
          rw [next_setNext, next_setPrev, if_neg (by exact nofun : ¬ some n = none)]
        · intro n
          refine (prev_setPrev _ head n _).trans ?_
          rw [prev_setNext, prev_setPrev]
          by_cases isNew : n = t
          · rw [if_pos isNew, if_pos isNew, if_neg (isNew ▸ notHead.symm)]
          · rw [if_neg isNew, if_neg isNew]
            exact if_congr (Option.some_inj).symm rfl rfl
      · rw [if_neg fun less => earlier (iperfTimeCompare_neg.mp less)]
        obtain ⟨passed, behind, before, after, rfl, found, ahead, follows, inserted⟩ :=
          @insertionPoint_spec (heap.stamp t) t _ _ _ _ (heap.stamp t).live.length
            ((Nat.le_succ _).trans stamped.active_live) others
        rw [found]
        have place : heap.insertOrdered t (head :: (passed ++ behind))
            = (head :: passed) ++ t :: behind :=
          (if_neg earlier).trans (congrArg (head :: ·) inserted)
        rw [place]
        have isAfter : after ≠ some t := by
          intro same
          cases behind with
          | nil => cases same.symm.trans follows.2
          | cons second rest =>
              refine notActive (List.mem_cons_of_mem _ (List.mem_append_right _ ?_))
              exact Option.some.inj (same.symm.trans follows.1) ▸ List.mem_cons_self
        have aside' := (heap.stamp t).link_aside t before after
        have unchanged : ((heap.stamp t).link t before after).timers = (heap.stamp t).timers := by
          cases after <;> rfl
        refine ⟨_, rfl, ?_, aside.trans aside', ?_, ?_⟩
        · refine @Linked.insert _ _ free t (head :: passed) behind (some before) after last stamped
            aside' ⟨isHead, isPrev, ahead⟩ follows ?_ ?_ ?_
          · exact unchanged.trans (if_neg (List.cons_ne_nil _ _)).symm
          · exact fun n => next_link after n
          · exact fun n => prev_link before isAfter n
        · cases after <;> rfl
        · cases after <;> rfl

end TimerHeap

end Iperf
