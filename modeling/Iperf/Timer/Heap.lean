import Iperf.Library.LinkedList
import Iperf.Model.TestTimers
import Iperf.Model.Timeout

/-! `timer.c`: the timers are nodes in memory. The active ones are on a doubly linked list that
is sorted by time, the cancelled ones on a singly linked list from which they are used again.
-/

namespace Iperf

open LinkedList

/-- `TimerStruct`. A null pointer is `none`. -/
structure TimerStruct where
  record : TimerRecord
  time : IperfTime
  prev : Option Nat
  next : Option Nat
deriving DecidableEq

/-- The two static pointers and the memory they point into; `live` are the addresses that `malloc`
has given and `free` has not taken back. Only proofs read `turn`, which numbers the calls of
`list_add` and says which of them put a node where it is.
-/
structure TimerHeap where
  timers : Option Nat := none
  freeTimers : Option Nat := none
  memory : Nat → TimerStruct
  live : List Nat := []
  turn : Nat → Nat := fun _ => 0
  turns : Nat := 0

namespace TimerHeap

def time (heap : TimerHeap) (t : Nat) : IperfTime := (heap.memory t).time

def prev (heap : TimerHeap) (t : Nat) : Option Nat := (heap.memory t).prev

def next (heap : TimerHeap) (t : Nat) : Option Nat := (heap.memory t).next

def record (heap : TimerHeap) (t : Nat) : TimerRecord := (heap.memory t).record

def modify (heap : TimerHeap) (t : Nat) (change : TimerStruct → TimerStruct) : TimerHeap :=
  { heap with memory := Function.update heap.memory t (change (heap.memory t)) }

def setNext (heap : TimerHeap) (t : Nat) (next : Option Nat) : TimerHeap :=
  heap.modify t fun timer => { timer with next }

def setPrev (heap : TimerHeap) (t : Nat) (prev : Option Nat) : TimerHeap :=
  heap.modify t fun timer => { timer with prev }

def setTime (heap : TimerHeap) (t : Nat) (time : IperfTime) : TimerHeap :=
  heap.modify t fun timer => { timer with time }

/-- The loop of `list_add`: the nodes before and behind the place of a new one, or `none` when the
loop has passed more nodes than there are.
-/
def insertionPoint (heap : TimerHeap) (time : IperfTime)
    : Nat → Nat → Option Nat → Option (Nat × Option Nat)
  | _, t2prev, none => some (t2prev, none)
  | 0, _, some _ => none
  | fuel + 1, t2prev, some t2 =>
      if iperfTimeCompare time (heap.time t2) < 0 then some (t2prev, some t2)
      else heap.insertionPoint time fuel t2 (heap.next t2)

/-- The pointers that `list_add` writes behind the loop. -/
def link (heap : TimerHeap) (t t2prev : Nat) : Option Nat → TimerHeap
  | some t2 =>
      (((heap.setNext t2prev (some t)).setPrev t (some t2prev)).setNext t (some t2)).setPrev t2
        (some t)
  | none => ((heap.setNext t2prev (some t)).setPrev t (some t2prev)).setNext t none

def stamp (heap : TimerHeap) (t : Nat) : TimerHeap :=
  { heap with turn := Function.update heap.turn t heap.turns, turns := heap.turns + 1 }

/-- `list_add`, or `none` when it does not return. -/
def listAdd (heap : TimerHeap) (t : Nat) : Option TimerHeap :=
  let heap := heap.stamp t
  match heap.timers with
  | none => some (({ heap with timers := some t }.setNext t none).setPrev t none)
  | some head =>
      if iperfTimeCompare (heap.time t) (heap.time head) < 0 then
        some { ((heap.setPrev t none).setNext t (some head)).setPrev head (some t) with
          timers := some t }
      else
        (heap.insertionPoint (heap.time t) heap.live.length head (heap.next head)).map
          fun (t2prev, t2) => heap.link t t2prev t2

/-- The half of `list_remove` that looks at what is before the node. -/
def unlinkPrev (heap : TimerHeap) (t : Nat) : TimerHeap :=
  match heap.prev t with
  | none => { heap with timers := heap.next t }
  | some t2prev => heap.setNext t2prev (heap.next t)

/-- The half that looks at what is behind it. -/
def unlinkNext (heap : TimerHeap) (t : Nat) : TimerHeap :=
  match heap.next t with
  | none => heap
  | some t2 => heap.setPrev t2 (heap.prev t)

/-- `list_remove`. -/
def listRemove (heap : TimerHeap) (t : Nat) : TimerHeap := (heap.unlinkPrev t).unlinkNext t

/-- `list_resort`. -/
def listResort (heap : TimerHeap) (t : Nat) : Option TimerHeap := (heap.listRemove t).listAdd t

/-- `tmr_create`, with the address that `malloc` returns if it is called. -/
def tmrCreate (heap : TimerHeap) (malloc : Option Nat) (now : IperfTime) (record : TimerRecord)
    : Option (Option Nat × TimerHeap) :=
  let (allocated, heap) := match heap.freeTimers with
    | some t => (some t, { heap with freeTimers := heap.next t })
    | none => match malloc with
      | some t => (some t, { heap with live := t :: heap.live })
      | none => (none, heap)
  match allocated with
  | none => some (none, heap)
  | some t =>
      let heap := heap.modify t fun timer => { timer with record, time := now }
      let heap := heap.setTime t (iperfTimeAddUsecs (heap.time t) record.usecs)
      (heap.listAdd t).map fun heap => (some t, heap)

/-- `tmr_timeout`. -/
def tmrTimeout (heap : TimerHeap) (now : IperfTime) : Option Timeval :=
  Iperf.tmrTimeout (heap.timers.map heap.time) now

/-- `tmr_reset`. -/
def tmrReset (heap : TimerHeap) (now : IperfTime) (t : Nat) : Option TimerHeap :=
  let heap := heap.setTime t now
  (heap.setTime t (iperfTimeAddUsecs (heap.time t) (heap.record t).usecs)).listResort t

/-- `tmr_cancel`. -/
def tmrCancel (heap : TimerHeap) (t : Nat) : TimerHeap :=
  let heap := heap.listRemove t
  let heap := { heap.setNext t heap.freeTimers with freeTimers := some t }
  heap.setPrev t none

/-- The loop of `tmr_cleanup`, or `none` when it goes round more often than there are nodes. -/
def freeAll : Nat → TimerHeap → Option TimerHeap
  | 0, heap => if heap.freeTimers = none then some heap else none
  | fuel + 1, heap =>
      match heap.freeTimers with
      | none => some heap
      | some t => freeAll fuel { heap with freeTimers := heap.next t, live := heap.live.erase t }

/-- `tmr_cleanup`. -/
def tmrCleanup (heap : TimerHeap) : Option TimerHeap := freeAll heap.live.length heap

/-- The loop of `tmr_destroy`. -/
def cancelAll : Nat → TimerHeap → Option TimerHeap
  | 0, heap => if heap.timers = none then some heap else none
  | fuel + 1, heap =>
      match heap.timers with
      | none => some heap
      | some t => cancelAll fuel (heap.tmrCancel t)

/-- `tmr_destroy`. -/
def tmrDestroy (heap : TimerHeap) : Option TimerHeap :=
  (cancelAll heap.live.length heap).bind tmrCleanup

/-- What `tmr_run` does with a timer whose procedure has returned. -/
def settle (heap : TimerHeap) (t : Nat) : Option TimerHeap :=
  if (heap.record t).periodic then
    (heap.setTime t (iperfTimeAddUsecs (heap.time t) (heap.record t).usecs)).listResort t
  else some (heap.tmrCancel t)

variable (heap : TimerHeap) (t n : Nat) (p : Option Nat)

/-- The node, as an entry of an abstract list. -/
def entry (heap : TimerHeap) (t : Nat) : TimerList.Entry IperfTime TimerRecord :=
  { id := t, time := heap.time t, record := heap.record t }

@[simp] theorem next_setNext : (heap.setNext t p).next n = if n = t then p else heap.next n := by
  by_cases same : n = t <;> simp [next, setNext, modify, same]

@[simp] theorem prev_setNext : (heap.setNext t p).prev n = heap.prev n := by
  by_cases same : n = t <;> simp [prev, setNext, modify, same]

@[simp] theorem next_setPrev : (heap.setPrev t p).next n = heap.next n := by
  by_cases same : n = t <;> simp [next, setPrev, modify, same]

@[simp] theorem prev_setPrev : (heap.setPrev t p).prev n = if n = t then p else heap.prev n := by
  by_cases same : n = t <;> simp [prev, setPrev, modify, same]

@[simp] theorem next_setTime (time : IperfTime) : (heap.setTime t time).next n = heap.next n := by
  by_cases same : n = t <;> simp [next, setTime, modify, same]

@[simp] theorem prev_setTime (time : IperfTime) : (heap.setTime t time).prev n = heap.prev n := by
  by_cases same : n = t <;> simp [prev, setTime, modify, same]

@[simp] theorem entry_setNext : (heap.setNext t p).entry n = heap.entry n := by
  by_cases same : n = t <;> simp [entry, time, record, setNext, modify, same]

@[simp] theorem entry_setPrev : (heap.setPrev t p).entry n = heap.entry n := by
  by_cases same : n = t <;> simp [entry, time, record, setPrev, modify, same]

@[simp] theorem record_setTime (time : IperfTime)
    : (heap.setTime t time).record n = heap.record n := by
  by_cases same : n = t <;> simp [record, setTime, modify, same]

@[simp] theorem time_setTime (time : IperfTime)
    : (heap.setTime t time).time n = if n = t then time else heap.time n := by
  by_cases same : n = t <;> simp [TimerHeap.time, setTime, modify, same]

end TimerHeap

end Iperf
