import Mathlib.Algebra.BigOperators.Group.List.Basic
import Mathlib.Algebra.Ring.Nat
import Mathlib.Logic.Relation

/-! Two ends that talk over a byte stream in each direction and may open connections to each
other. When each end follows one script, whatever the interleaving, every item is read as what
it was written as, and both ends can always finish.
-/

namespace Dialogue

open Relation

variable {κ σ τ : Type}

-----------------------------------------------------------------------------------------
-- Scripts
-----------------------------------------------------------------------------------------

inductive Side where
  | left
  | right
deriving DecidableEq

def Side.other : Side → Side
  | left => right
  | right => left

@[simp] theorem Side.other_other (side : Side) : side.other.other = side := by
  cases side <;> rfl

theorem Side.ne_other (side : Side) : side ≠ side.other := by
  cases side <;> simp [Side.other]

theorem Side.eq_or_other (side own : Side) : side = own ∨ side = own.other := by
  cases side <;> cases own <;> simp [Side.other]

/-- One entry of a script: a connection that one end opens to the other, or an item that it
writes.
-/
inductive Turn (κ : Type) where
  | call (side : Side)
  | say (side : Side) (kind : κ) (bytes : List UInt8)

namespace Turn

def side : Turn κ → Side
  | call side => side
  | say side _ _ => side

def bytes : Turn κ → List UInt8
  | call _ => []
  | say _ _ bytes => bytes

def calls : Turn κ → Nat
  | call _ => 1
  | say _ _ _ => 0

def item : Turn κ → Option (κ × List UInt8)
  | call _ => none
  | say _ kind bytes => some (kind, bytes)

end Turn

/-- All turns are one end's. -/
def AllBy (side : Side) (turns : List (Turn κ)) : Prop := ∀ turn ∈ turns, turn.side = side

/-- The items one end writes in a script. -/
def itemsOf (side : Side) (turns : List (Turn κ)) : List (κ × List UInt8) :=
  (turns.filter (fun turn => turn.side = side)).filterMap Turn.item

@[simp] theorem itemsOf_nil (side : Side) : itemsOf side ([] : List (Turn κ)) = [] := rfl

@[simp] theorem itemsOf_call (side caller : Side) (rest : List (Turn κ))
    : itemsOf side (.call caller :: rest) = itemsOf side rest := by
  by_cases own : caller = side
  · simp [itemsOf, Turn.side, own, List.filterMap_cons, Turn.item]
  · simp [itemsOf, Turn.side, own]

@[simp] theorem itemsOf_say (side speaker : Side) (kind : κ) (bytes : List UInt8)
    (rest : List (Turn κ))
    : itemsOf side (.say speaker kind bytes :: rest)
      = if speaker = side then (kind, bytes) :: itemsOf side rest else itemsOf side rest := by
  by_cases own : speaker = side
  · simp [itemsOf, Turn.side, own, Turn.item]
  · simp [itemsOf, Turn.side, own]

@[simp] theorem itemsOf_calls (side caller : Side) (count : Nat) (rest : List (Turn κ))
    : itemsOf side (List.replicate count (.call caller) ++ rest) = itemsOf side rest := by
  induction count with
  | zero => rfl
  | succ count ih => rw [List.replicate_succ, List.cons_append, itemsOf_call, ih]

-----------------------------------------------------------------------------------------
-- Ends and channels
-----------------------------------------------------------------------------------------

/-- What an end does next: a step of its own, a write, a connection, a read of so many bytes
that it may put off when there is something else to do, a look at the connections that wait for
it, or nothing any more.
-/
inductive Act (κ σ : Type) where
  | internal (next : σ → Prop)
  | say (kind : κ) (bytes : List UInt8) (next : σ)
  | call (next : σ)
  | hear (kind : κ) (count : Nat) (next : List UInt8 → σ) (closed : σ) (skip : Option σ)
  | answer (next skip : σ)
  | stop

/-- One direction: the bytes and connections on their way, and the items written and read so
far.
-/
structure Channel (κ : Type) where
  bytes : List UInt8 := []
  calls : Nat := 0
  sent : List (κ × List UInt8) := []
  taken : List (κ × List UInt8) := []

namespace Channel

def write (c : Channel κ) (kind : κ) (bytes : List UInt8) : Channel κ :=
  { c with bytes := c.bytes ++ bytes, sent := c.sent ++ [(kind, bytes)] }

def read (c : Channel κ) (kind : κ) (count : Nat) : Channel κ :=
  {
    c with
    bytes := c.bytes.drop count
    taken := c.taken ++ [(kind, c.bytes.take count)]
  }

/-- What is on its way is what these turns put there. -/
structure Carries (c : Channel κ) (turns : List (Turn κ)) : Prop where
  bytes : c.bytes = turns.flatMap Turn.bytes
  calls : c.calls = (turns.map Turn.calls).sum
  items : c.sent = c.taken ++ turns.filterMap Turn.item

theorem Carries.write {c : Channel κ} {turns : List (Turn κ)} (carries : c.Carries turns)
    (side : Side) (kind : κ) (bytes : List UInt8)
    : (c.write kind bytes).Carries (turns ++ [.say side kind bytes]) where
  bytes := by simp [Channel.write, carries.bytes, Turn.bytes]
  calls := by simp [Channel.write, carries.calls, Turn.calls]
  items := by simp [Channel.write, carries.items, Turn.item]

theorem Carries.call {c : Channel κ} {turns : List (Turn κ)} (carries : c.Carries turns)
    (side : Side)
    : Carries { c with calls := c.calls + 1 } (turns ++ [.call side]) where
  bytes := by simp [carries.bytes, Turn.bytes]
  calls := by simp [carries.calls, Turn.calls]
  items := by simp [carries.items, Turn.item]

/-- The oldest item is read by its length. -/
theorem Carries.read {c : Channel κ} {rest : List (Turn κ)} {side : Side} {kind : κ}
    {bytes : List UInt8} (carries : c.Carries (.say side kind bytes :: rest))
    : c.bytes.take bytes.length = bytes ∧ (c.read kind bytes.length).Carries rest := by
  have shape : c.bytes = bytes ++ rest.flatMap Turn.bytes := carries.bytes
  have front : c.bytes.take bytes.length = bytes := by simp [shape]
  refine ⟨front, ?_, ?_, ?_⟩
  · simp [Channel.read, shape]
  · simpa [Channel.read, Turn.calls] using carries.calls
  · simpa [Channel.read, front, Turn.item] using carries.items

theorem Carries.answer {c : Channel κ} {rest : List (Turn κ)} {side : Side}
    (carries : c.Carries (.call side :: rest))
    : Carries { c with calls := c.calls - 1 } rest where
  bytes := by simpa [Turn.bytes] using carries.bytes
  calls := by
    have calls := carries.calls
    simp only [List.map_cons, List.sum_cons, Turn.calls] at calls
    simp only [calls]
    omega
  items := by simpa [List.filterMap_cons, Turn.item] using carries.items

end Channel

/-- An end with its two channels. -/
structure View (κ σ : Type) where
  state : σ
  out : Channel κ
  inc : Channel κ

/-- The steps of one end; `alone` says that the other one has stopped. A read that wants more
bytes than will ever come is told so.
-/
inductive Moves (act : σ → Act κ σ) (alone : Prop) : View κ σ → View κ σ → Prop where
  | internal {v : View κ σ} {next : σ → Prop} {state : σ} (does : act v.state = .internal next)
    (chosen : next state)
    : Moves act alone v { v with state }
  | say {v : View κ σ} {kind : κ} {bytes : List UInt8} {next : σ}
    (does : act v.state = .say kind bytes next)
    : Moves act alone v { v with state := next, out := v.out.write kind bytes }
  | call {v : View κ σ} {next : σ} (does : act v.state = .call next)
    : Moves act alone v {
        v with
        state := next
        out := { v.out with calls := v.out.calls + 1 }
      }
  | hear {v : View κ σ} {kind : κ} {count : Nat} {next : List UInt8 → σ} {closed : σ}
    {skip : Option σ} (does : act v.state = .hear kind count next closed skip)
    (there : count ≤ v.inc.bytes.length)
    : Moves act alone v {
        v with
        state := next (v.inc.bytes.take count)
        inc := v.inc.read kind count
      }
  | closed {v : View κ σ} {kind : κ} {count : Nat} {next : List UInt8 → σ} {closed : σ}
    {skip : Option σ} (does : act v.state = .hear kind count next closed skip) (ended : alone)
    (short : v.inc.bytes.length < count)
    : Moves act alone v { v with state := closed, inc := { v.inc with bytes := [] } }
  | skip {v : View κ σ} {kind : κ} {count : Nat} {next : List UInt8 → σ} {closed skip : σ}
    (does : act v.state = .hear kind count next closed (some skip))
    : Moves act alone v { v with state := skip }
  | answer {v : View κ σ} {next skip : σ} (does : act v.state = .answer next skip)
    (there : 0 < v.inc.calls)
    : Moves act alone v {
        v with
        state := next
        inc := { v.inc with calls := v.inc.calls - 1 }
      }
  | pass {v : View κ σ} {next skip : σ} (does : act v.state = .answer next skip)
    : Moves act alone v { v with state := skip }

/-- Both ends and both channels. -/
structure System (κ σ τ : Type) where
  left : σ
  right : τ
  toRight : Channel κ := {}
  toLeft : Channel κ := {}

namespace System

def leftView (s : System κ σ τ) : View κ σ :=
  { state := s.left, out := s.toRight, inc := s.toLeft }

def rightView (s : System κ σ τ) : View κ τ :=
  { state := s.right, out := s.toLeft, inc := s.toRight }

def withLeft (s : System κ σ τ) (v : View κ σ) : System κ σ τ :=
  { s with left := v.state, toRight := v.out, toLeft := v.inc }

def withRight (s : System κ σ τ) (v : View κ τ) : System κ σ τ :=
  { s with right := v.state, toLeft := v.out, toRight := v.inc }

end System

/-- A step of the system is a step of one end. -/
inductive Step (actLeft : σ → Act κ σ) (actRight : τ → Act κ τ)
    : System κ σ τ → System κ σ τ → Prop where
  | left {s : System κ σ τ} {v : View κ σ}
    (moves : Moves actLeft (actRight s.right = .stop) s.leftView v)
    : Step actLeft actRight s (s.withLeft v)
  | right {s : System κ σ τ} {v : View κ τ}
    (moves : Moves actRight (actLeft s.left = .stop) s.rightView v)
    : Step actLeft actRight s (s.withRight v)

/-- The interleavings of both ends. -/
abbrev Steps (actLeft : σ → Act κ σ) (actRight : τ → Act κ τ)
    : System κ σ τ → System κ σ τ → Prop :=
  ReflTransGen (Step actLeft actRight)

-----------------------------------------------------------------------------------------
-- Following a script
-----------------------------------------------------------------------------------------

/-- What an end on `side` may do when `rest` is left of its script: `At rest s` says that the
state `s` has `rest` before it. When the dialogue is `broken`, an end may stop early, and the
other may see that. A read begins only while there is something to read or more to write, and
bytes that have come are the item that is read.
-/
def Conforms (side : Side) (At : List (Turn κ) → σ → Prop) (broken : Prop) (rest : List (Turn κ))
    : Act κ σ → Prop
  | .internal choice => ∀ next, choice next → At rest next
  | .say kind bytes next => ∃ tail, rest = .say side kind bytes :: tail ∧ At tail next
  | .call next => ∃ tail, rest = .call side :: tail ∧ At tail next
  | .hear kind count next closed skip =>
      (0 < count
        ∧ ∀ front behind, rest = front ++ behind → AllBy side.other front
          → front.flatMap Turn.bytes ≠ []
          → ∃ bytes tail, rest = .say side.other kind bytes :: tail ∧ bytes.length = count
            ∧ At tail (next bytes))
      ∧ (AllBy side.other rest → count ≤ (rest.flatMap Turn.bytes).length)
      ∧ (broken → At rest closed)
      ∧ ∀ s, skip = some s → At rest s
  | .answer next skip =>
      (∀ front behind, rest = front ++ behind → AllBy side.other front
        → 0 < (front.map Turn.calls).sum
        → ∃ tail, rest = .call side.other :: tail ∧ At tail next)
      ∧ At rest skip
  | .stop => rest = [] ∨ broken

/-- The program of an end keeps to the script, wherever it is. -/
def Follows (side : Side) (act : σ → Act κ σ) (At : List (Turn κ) → σ → Prop) (broken : Prop)
    : Prop :=
  ∀ rest s, At rest s → Conforms side At broken rest (act s)

/-- How far the two ends are apart: one of them is ahead by turns of its own, which are on
their way to the other, and nothing is on its way back.
-/
inductive Between (side : Side) (mine theirs : List (Turn κ)) (out inc : Channel κ) : Prop where
  | ahead (front : List (Turn κ)) (split : theirs = front ++ mine) (own : AllBy side front)
    (carried : out.Carries front) (quiet : inc.Carries [])
  | behind (front : List (Turn κ)) (split : mine = front ++ theirs)
    (foreign : AllBy side.other front) (carried : inc.Carries front) (quiet : out.Carries [])

theorem Between.symm {side : Side} {mine theirs : List (Turn κ)} {out inc : Channel κ}
    (between : Between side mine theirs out inc)
    : Between side.other theirs mine inc out := by
  rcases between with ⟨front, split, own, carried, quiet⟩ | ⟨front, split, foreign, carried, quiet⟩
  · exact .behind front split (by simpa using own) carried quiet
  · exact .ahead front split foreign carried quiet

/-- An end that is about to take a turn of its own is not behind. -/
theorem Between.turn {side : Side} {turn : Turn κ} {tail theirs : List (Turn κ)}
    {out inc : Channel κ} (between : Between side (turn :: tail) theirs out inc)
    (own : turn.side = side)
    : ∃ front, theirs = front ++ turn :: tail ∧ AllBy side front ∧ out.Carries front
      ∧ inc.Carries [] := by
  rcases between with ⟨front, split, mine, carried, quiet⟩ | ⟨front, split, foreign, carried, quiet⟩
  · exact ⟨front, split, mine, carried, quiet⟩
  · cases front with
    | nil =>
        refine ⟨[], split.symm, ?_, quiet, carried⟩
        simp [AllBy]
    | cons first rest =>
        obtain ⟨rfl, -⟩ := List.cons.inj split
        exact absurd (own.symm.trans (foreign turn (by simp))) side.ne_other

theorem allBy_concat {side : Side} {front : List (Turn κ)} {turn : Turn κ}
    (own : AllBy side front) (last : turn.side = side)
    : AllBy side (front ++ [turn]) := by
  intro other member
  rcases List.mem_append.mp member with earlier | new
  · exact own other earlier
  · obtain rfl := List.mem_singleton.mp new
    exact last

/-- The end takes a turn of its own. -/
theorem Between.took {side : Side} {turn : Turn κ} {tail theirs : List (Turn κ)}
    {out inc next : Channel κ} (between : Between side (turn :: tail) theirs out inc)
    (own : turn.side = side)
    (carries : ∀ front, out.Carries front → next.Carries (front ++ [turn]))
    : Between side tail theirs next inc := by
  obtain ⟨front, split, mine, carried, quiet⟩ := between.turn own
  refine .ahead (front ++ [turn]) ?_ (allBy_concat mine own) (carries front carried) quiet
  rw [split, List.append_assoc, List.singleton_append]

/-- What is on its way to an end lies at the front of its script. -/
theorem Between.incoming {side : Side} {mine theirs : List (Turn κ)} {out inc : Channel κ}
    (between : Between side mine theirs out inc)
    : ∃ front behind, mine = front ++ behind ∧ AllBy side.other front ∧ inc.Carries front := by
  rcases between with ⟨front, split, own, carried, quiet⟩ | ⟨front, split, foreign, carried, quiet⟩
  · exact ⟨[], mine, rfl, by simp [AllBy], quiet⟩
  · exact ⟨front, theirs, split, foreign, carried⟩

/-- The other end's oldest turn is taken when anything of it has arrived. -/
theorem Between.heard {side : Side} {turn : Turn κ} {tail theirs : List (Turn κ)}
    {out inc next : Channel κ} (between : Between side (turn :: tail) theirs out inc)
    (arrived : ¬ inc.Carries [])
    (carries : ∀ rest, inc.Carries (turn :: rest) → next.Carries rest)
    : Between side tail theirs out next := by
  rcases between with ⟨front, split, own, carried, quiet⟩ | ⟨front, split, foreign, carried, quiet⟩
  · exact absurd quiet arrived
  · cases front with
    | nil => exact absurd carried arrived
    | cons first rest =>
        obtain ⟨rfl, rfl⟩ := List.cons.inj split
        exact .behind rest rfl (fun other member => foreign other (by simp [member]))
          (carries rest carried) quiet

/-- What a step of one end keeps: it takes the turns that the rest of its script loses, and
what it has written and has still to write stays the same.
-/
structure Kept (side : Side) (At : List (Turn κ) → σ → Prop) (before mine theirs : List (Turn κ))
    (v v' : View κ σ) : Prop where
  here : At mine v'.state
  between : Between side mine theirs v'.out v'.inc
  written : v'.out.sent ++ itemsOf side mine = v.out.sent ++ itemsOf side before
  heard : v'.inc.sent = v.inc.sent

section Follows

variable {side : Side} {act : σ → Act κ σ} {At : List (Turn κ) → σ → Prop} {broken alone : Prop}
variable {mine theirs : List (Turn κ)} {v : View κ σ}

theorem Follows.conforms (follows : Follows side act At broken) {rest : List (Turn κ)} {s : σ}
    {a : Act κ σ} (here : At rest s) (does : act s = a)
    : Conforms side At broken rest a :=
  does ▸ follows rest s here

/-- A step that leaves the channels alone. -/
theorem Kept.of_state {state : σ} (here : At mine state)
    (between : Between side mine theirs v.out v.inc)
    : Kept side At mine mine theirs v { v with state } :=
  ⟨here, between, rfl, rfl⟩

theorem Follows.keeps_say (follows : Follows side act At broken) (v : View κ σ)
    {kind : κ}
    {bytes : List UInt8} {next : σ} (here : At mine v.state)
    (between : Between side mine theirs v.out v.inc) (does : act v.state = .say kind bytes next)
    : ∃ turn tail, mine = turn :: tail ∧ Kept side At mine tail theirs v
        { v with state := next, out := v.out.write kind bytes } := by
  obtain ⟨tail, rfl, there⟩ := follows.conforms here does
  refine ⟨_, tail, rfl, there,
    between.took rfl fun front carried => carried.write side kind bytes, ?_, rfl⟩
  simp [Channel.write]

theorem Follows.keeps_call (follows : Follows side act At broken) (v : View κ σ)
    {next : σ}
    (here : At mine v.state) (between : Between side mine theirs v.out v.inc)
    (does : act v.state = .call next)
    : ∃ turn tail, mine = turn :: tail ∧ Kept side At mine tail theirs v
        { v with state := next, out := { v.out with calls := v.out.calls + 1 } } := by
  obtain ⟨tail, rfl, there⟩ := follows.conforms here does
  refine ⟨_, tail, rfl, there, between.took rfl fun front carried => carried.call side, ?_, rfl⟩
  simp

theorem Follows.keeps_hear (follows : Follows side act At broken) (v : View κ σ)
    {kind : κ} {count : Nat}
    {next : List UInt8 → σ} {closed : σ} {skip : Option σ} (here : At mine v.state)
    (between : Between side mine theirs v.out v.inc)
    (does : act v.state = .hear kind count next closed skip) (there : count ≤ v.inc.bytes.length)
    : ∃ turn tail, mine = turn :: tail ∧ Kept side At mine tail theirs v
        { v with state := next (v.inc.bytes.take count), inc := v.inc.read kind count } := by
  obtain ⟨⟨positive, item⟩, -⟩ := follows.conforms here does
  obtain ⟨front, behind, split, foreign, carried⟩ := between.incoming
  have arrived : front.flatMap Turn.bytes ≠ [] := by
    intro nothing
    rw [carried.bytes, nothing] at there
    simp at there
    omega
  obtain ⟨bytes, tail, rfl, rfl, reached⟩ := item front behind split foreign arrived
  have loaded : ¬ v.inc.Carries [] := by
    intro empty
    rw [empty.bytes] at there
    simp at there
    rw [there] at positive
    simp at positive
  cases front with
  | nil => exact absurd rfl arrived
  | cons first rest =>
      obtain ⟨rfl, -⟩ := List.cons.inj split
      refine ⟨_, tail, rfl, ?_, between.heard loaded fun _ carried => carried.read.2, ?_, rfl⟩
      · rw [carried.read.1]
        exact reached
      · simp [side.ne_other.symm]

/-- A read that is told that nothing more will come: only in a broken dialogue. -/
theorem Follows.keeps_closed (follows : Follows side act At broken) {kind : κ} {count : Nat}
    {next : List UInt8 → σ} {closed : σ} {skip : Option σ} (here : At mine v.state)
    (between : Between side mine theirs v.out v.inc) (peer : theirs = [] ∨ broken)
    (does : act v.state = .hear kind count next closed skip) (short : v.inc.bytes.length < count)
    : ∃ mine', Kept side At mine mine' theirs v
        { v with state := closed, inc := { v.inc with bytes := [] } } := by
  obtain ⟨⟨-, item⟩, expected, whenClosed, -⟩ := follows.conforms here does
  obtain ⟨front, behind, split, foreign, carried⟩ := between.incoming
  have nothing : front.flatMap Turn.bytes = [] := by
    by_contra arrived
    obtain ⟨bytes, tail, shape, rfl, -⟩ := item front behind split foreign arrived
    cases front with
    | nil => exact arrived rfl
    | cons first rest =>
        have same : first = .say side.other kind bytes := by
          rw [split] at shape
          exact (List.cons.inj shape).1
        have long : bytes.length ≤ v.inc.bytes.length := by
          rw [carried.bytes, same]
          simp [Turn.bytes]
        omega
  have empty : v.inc.bytes = [] := carried.bytes.trans nothing
  have same : { v.inc with bytes := [] } = v.inc := by rw [← empty]
  have failure : broken := by
    refine peer.resolve_left ?_
    rintro rfl
    have all : AllBy side.other mine ∧ v.inc.Carries mine := by
      rcases between with ⟨ahead, gone, _, _, quiet⟩ | ⟨ahead, gone, other, full, _⟩
      · obtain ⟨-, rfl⟩ := List.append_eq_nil_iff.mp gone.symm
        exact ⟨by simp [AllBy], quiet⟩
      · rw [List.append_nil] at gone
        exact gone ▸ ⟨other, full⟩
    have enough := expected all.1
    rw [← all.2.bytes] at enough
    omega
  refine ⟨mine, whenClosed failure, ?_, rfl, rfl⟩
  dsimp only
  rw [same]
  exact between

theorem Follows.keeps_answer (follows : Follows side act At broken) (v : View κ σ)
    {next skip : σ}
    (here : At mine v.state) (between : Between side mine theirs v.out v.inc)
    (does : act v.state = .answer next skip) (there : 0 < v.inc.calls)
    : ∃ turn tail, mine = turn :: tail ∧ Kept side At mine tail theirs v
        { v with state := next, inc := { v.inc with calls := v.inc.calls - 1 } } := by
  obtain ⟨front, behind, split, foreign, carried⟩ := between.incoming
  have waiting : 0 < (front.map Turn.calls).sum := carried.calls ▸ there
  obtain ⟨tail, rfl, reached⟩ :=
    (follows.conforms here does).1 front behind split foreign waiting
  have loaded : ¬ v.inc.Carries [] := by
    intro empty
    rw [empty.calls] at there
    simp at there
  refine ⟨_, tail, rfl, reached, between.heard loaded fun _ carried => carried.answer, ?_, rfl⟩
  simp

/-- One step of an end that follows its script. -/
theorem Follows.keeps (follows : Follows side act At broken) {v' : View κ σ}
    (moves : Moves act alone v v') (here : At mine v.state)
    (between : Between side mine theirs v.out v.inc) (peer : alone → theirs = [] ∨ broken)
    : ∃ mine', Kept side At mine mine' theirs v v' := by
  cases moves with
  | internal does chosen =>
      exact ⟨mine, .of_state (follows.conforms here does _ chosen) between⟩
  | say does =>
      obtain ⟨-, tail, -, kept⟩ := follows.keeps_say v here between does
      exact ⟨tail, kept⟩
  | call does =>
      obtain ⟨-, tail, -, kept⟩ := follows.keeps_call v here between does
      exact ⟨tail, kept⟩
  | hear does there =>
      obtain ⟨-, tail, -, kept⟩ := follows.keeps_hear v here between does there
      exact ⟨tail, kept⟩
  | closed does ended short => exact follows.keeps_closed here between (peer ended) does short
  | skip does => exact ⟨mine, .of_state ((follows.conforms here does).2.2.2 _ rfl) between⟩
  | answer does there =>
      obtain ⟨-, tail, -, kept⟩ := follows.keeps_answer v here between does there
      exact ⟨tail, kept⟩
  | pass does => exact ⟨mine, .of_state (follows.conforms here does).2 between⟩

/-- A read of the item that comes next. -/
theorem conforms_hear {kind : κ} {bytes : List UInt8} {count : Nat} {tail : List (Turn κ)}
    {next : List UInt8 → σ} {closed : σ} {skip : Option σ} (length : bytes.length = count)
    (positive : 0 < count) (there : At tail (next bytes))
    (lost : broken → At (.say side.other kind bytes :: tail) closed)
    (later : ∀ s, skip = some s → At (.say side.other kind bytes :: tail) s)
    : Conforms side At broken (.say side.other kind bytes :: tail)
        (.hear kind count next closed skip) := by
  refine ⟨⟨positive, fun _ _ _ _ _ => ⟨bytes, tail, rfl, length, there⟩⟩, fun _ => ?_, lost,
    later⟩
  simp [Turn.bytes, length]

/-- Before a turn of its own an end has only connections to expect, by induction on them. -/
theorem silent_front {calls : Nat} {turn : Turn κ} {tail front behind : List (Turn κ)}
    (own : turn.side = side) (foreign : AllBy side.other front)
    (split : List.replicate calls (.call side.other) ++ turn :: tail = front ++ behind)
    : front.flatMap Turn.bytes = [] := by
  induction calls generalizing front with
  | zero =>
      cases front with
      | nil => rfl
      | cons first rest =>
          obtain ⟨rfl, -⟩ := List.cons.inj split
          exact absurd (own.symm.trans (foreign turn (by simp))) side.ne_other
  | succ calls ih =>
      cases front with
      | nil => rfl
      | cons first rest =>
          rw [List.replicate_succ, List.cons_append, List.cons_append] at split
          obtain ⟨rfl, later⟩ := List.cons.inj split
          have silent := ih (fun other member => foreign other (by simp [member])) later
          rw [List.flatMap_cons, silent]
          rfl

/-- A look for bytes while the other end has only connections to open before a turn of this one.
-/
theorem conforms_silent {count calls : Nat} {kind : κ} {turn : Turn κ} {tail : List (Turn κ)}
    {next : List UInt8 → σ} {closed : σ} {skip : Option σ} (positive : 0 < count)
    (own : turn.side = side)
    (lost : broken → At (List.replicate calls (.call side.other) ++ turn :: tail) closed)
    (later : ∀ s, skip = some s → At (List.replicate calls (.call side.other) ++ turn :: tail) s)
    : Conforms side At broken (List.replicate calls (.call side.other) ++ turn :: tail)
        (.hear kind count next closed skip) := by
  refine ⟨⟨positive, fun front behind split foreign arrived => ?_⟩, fun foreign => ?_, lost, later⟩
  · exact absurd (silent_front own foreign split) arrived
  · exact absurd (own.symm.trans (foreign turn (by simp))) side.ne_other

/-- A look at a connection that comes next. -/
theorem conforms_answer {tail : List (Turn κ)} {next skip : σ} (there : At tail next)
    (later : At (.call side.other :: tail) skip)
    : Conforms side At broken (.call side.other :: tail) (.answer next skip) :=
  ⟨fun _ _ _ _ _ => ⟨tail, rfl, there⟩, later⟩

/-- A look at the connections when none comes any more. -/
theorem conforms_unanswered {rest : List (Turn κ)} {next skip : σ}
    (none_ : ∀ turn ∈ rest, turn.calls = 0) (later : At rest skip)
    : Conforms side At broken rest (.answer next skip) := by
  refine ⟨fun front behind split _ waiting => ?_, later⟩
  have nothing : (front.map Turn.calls).sum = 0 := by
    apply List.sum_eq_zero
    intro count member
    obtain ⟨turn, listed, rfl⟩ := List.mem_map.mp member
    exact none_ turn (by simp [split, listed])
  omega

-----------------------------------------------------------------------------------------
-- Taking the next turn
-----------------------------------------------------------------------------------------

/-- A step that no channel notices. -/
inductive Quiet (act : σ → Act κ σ) : σ → σ → Prop where
  | internal {s next : σ} {choice : σ → Prop} (does : act s = .internal choice)
    (chosen : choice next)
    : Quiet act s next
  | skip {s skip : σ} {kind : κ} {count : Nat} {next : List UInt8 → σ} {closed : σ}
    (does : act s = .hear kind count next closed (some skip))
    : Quiet act s skip
  | pass {s next skip : σ} (does : act s = .answer next skip) : Quiet act s skip

/-- An end is about to take the next turn of its script. -/
inductive Faces (side : Side) : List (Turn κ) → Act κ σ → Prop where
  | say {kind : κ} {bytes : List UInt8} {tail : List (Turn κ)} {next : σ}
    : Faces side (.say side kind bytes :: tail) (.say kind bytes next)
  | call {tail : List (Turn κ)} {next : σ} : Faces side (.call side :: tail) (.call next)
  | hear {kind : κ} {bytes : List UInt8} {count : Nat} {tail : List (Turn κ)}
    {next : List UInt8 → σ} {closed : σ} {skip : Option σ} (length : bytes.length = count)
    : Faces side (.say side.other kind bytes :: tail) (.hear kind count next closed skip)
  | answer {tail : List (Turn κ)} {next skip : σ}
    : Faces side (.call side.other :: tail) (.answer next skip)
  | stop : Faces side [] .stop

/-- Wherever the end is, steps of its own bring it to its next turn. -/
def Ready (side : Side) (act : σ → Act κ σ) (At : List (Turn κ) → σ → Prop) : Prop :=
  ∀ rest s, At rest s → ∃ s', ReflTransGen (Quiet act) s s' ∧ Faces side rest (act s')

/-- Quiet steps, by induction on them. -/
theorem Follows.quiet (follows : Follows side act At broken) (alone : Prop) (v : View κ σ)
    {s' : σ} (here : At mine v.state) (quiet : ReflTransGen (Quiet act) v.state s')
    : At mine s' ∧ ReflTransGen (Moves act alone) v { v with state := s' } := by
  induction quiet with
  | refl => exact ⟨here, .refl⟩
  | @tail middle next _ last ih =>
      obtain ⟨there, moved⟩ := ih
      cases last with
      | @internal _ choice does chosen =>
          exact ⟨follows.conforms there does _ chosen,
            moved.tail
                (@Moves.internal κ σ act alone { v with state := middle } choice next does chosen)⟩
      | skip does =>
          exact ⟨(follows.conforms there does).2.2.2 _ rfl,
            moved.tail (@Moves.skip κ σ act alone { v with state := middle } _ _ _ _ _ does)⟩
      | pass does =>
          exact ⟨(follows.conforms there does).2,
            moved.tail (@Moves.pass κ σ act alone { v with state := middle } _ _ does)⟩

/-- An end takes its next turn if that is its own, or has been taken by the other end. -/
theorem Follows.advance (follows : Follows side act At broken) (ready : Ready side act At)
    (alone : Prop) (v : View κ σ) {turn : Turn κ} {tail : List (Turn κ)}
    (here : At (turn :: tail) v.state)
    (between : Between side (turn :: tail) theirs v.out v.inc)
    (possible : turn.side = side ∨ ∃ rest, v.inc.Carries (turn :: rest))
    : ∃ v', ReflTransGen (Moves act alone) v v' ∧ Kept side At (turn :: tail) tail theirs v v' := by
  obtain ⟨s, quiet, faces⟩ := ready _ _ here
  obtain ⟨there, moved⟩ := follows.quiet alone v here quiet
  generalize does : act s = a at faces
  have foreign (taken : turn.side = side.other) : ∃ rest, v.inc.Carries (turn :: rest) := by
    refine possible.resolve_left fun own => ?_
    exact side.ne_other (own.symm.trans taken)
  cases faces with
  | say =>
      obtain ⟨_, _, shape, kept⟩ := follows.keeps_say { v with state := s } there between does
      obtain ⟨rfl, rfl⟩ := List.cons.inj shape
      exact ⟨_, moved.tail (.say does), kept.here, kept.between, kept.written, kept.heard⟩
  | call =>
      obtain ⟨_, _, shape, kept⟩ := follows.keeps_call { v with state := s } there between does
      obtain ⟨rfl, rfl⟩ := List.cons.inj shape
      exact ⟨_, moved.tail (.call does), kept.here, kept.between, kept.written, kept.heard⟩
  | @hear kind bytes count _ _ _ _ length =>
      obtain ⟨rest, carried⟩ := foreign rfl
      have arrived : count ≤ v.inc.bytes.length := by
        rw [carried.bytes, List.flatMap_cons, List.length_append, ← length]
        exact Nat.le_add_right _ _
      obtain ⟨_, _, shape, kept⟩ := follows.keeps_hear { v with
          state := s } there between does arrived
      obtain ⟨rfl, rfl⟩ := List.cons.inj shape
      exact ⟨_, moved.tail (.hear does arrived), kept.here, kept.between, kept.written, kept.heard⟩
  | answer =>
      obtain ⟨rest, carried⟩ := foreign rfl
      have waiting : 0 < v.inc.calls := by
        simp only [carried.calls, List.map_cons, List.sum_cons, Turn.calls]
        omega
      obtain ⟨_, _, shape, kept⟩ := follows.keeps_answer { v with
          state := s } there between does waiting
      obtain ⟨rfl, rfl⟩ := List.cons.inj shape
      exact ⟨_, moved.tail (.answer does waiting), kept.here, kept.between, kept.written,
        kept.heard⟩

end Follows

-----------------------------------------------------------------------------------------
-- Both ends
-----------------------------------------------------------------------------------------

/-- Some end can take a turn, unless both have taken all of theirs. -/
theorem Between.next {side : Side} {mine theirs : List (Turn κ)} {out inc : Channel κ}
    (between : Between side mine theirs out inc)
    : (∃ turn tail, mine = turn :: tail ∧ (turn.side = side ∨ ∃ rest, inc.Carries (turn :: rest)))
      ∨ (∃ turn tail, theirs = turn :: tail
        ∧ (turn.side = side.other ∨ ∃ rest, out.Carries (turn :: rest)))
      ∨ mine = [] ∧ theirs = [] := by
  have level (same : theirs = mine)
      : (∃ turn tail, mine = turn :: tail
          ∧ (turn.side = side ∨ ∃ rest, inc.Carries (turn :: rest)))
        ∨ (∃ turn tail, theirs = turn :: tail
          ∧ (turn.side = side.other ∨ ∃ rest, out.Carries (turn :: rest)))
        ∨ mine = [] ∧ theirs = [] := by
    subst same
    cases theirs with
    | nil => exact .inr (.inr ⟨rfl, rfl⟩)
    | cons turn tail =>
        rcases turn.side.eq_or_other side with own | foreign
        · exact .inl ⟨turn, tail, rfl, .inl own⟩
        · exact .inr (.inl ⟨turn, tail, rfl, .inl foreign⟩)
  rcases between with ⟨front, split, own, carried, quiet⟩ | ⟨front, split, foreign, carried, quiet⟩
  · cases front with
    | nil => exact level split
    | cons turn rest => exact .inr (.inl ⟨turn, rest ++ mine, split, .inr ⟨rest, carried⟩⟩)
  · cases front with
    | nil => exact level split.symm
    | cons turn rest => exact .inl ⟨turn, rest ++ theirs, split, .inr ⟨rest, carried⟩⟩

/-- What has been read is what was written, as far as it goes. -/
theorem Between.prefixes {side : Side} {mine theirs : List (Turn κ)} {out inc : Channel κ}
    (between : Between side mine theirs out inc)
    : out.taken <+: out.sent ∧ inc.taken <+: inc.sent := by
  rcases between with ⟨front, split, own, carried, quiet⟩ | ⟨front, split, foreign, carried, quiet⟩
  · exact ⟨⟨_, carried.items.symm⟩, ⟨_, quiet.items.symm⟩⟩
  · exact ⟨⟨_, quiet.items.symm⟩, ⟨_, carried.items.symm⟩⟩

/-- An end at the end of its script has read everything, and nothing is on its way to it. -/
theorem Between.finished {side : Side} {theirs : List (Turn κ)} {out inc : Channel κ}
    (between : Between side [] theirs out inc)
    : inc.taken = inc.sent ∧ inc.bytes = [] := by
  obtain ⟨front, behind, split, foreign, carried⟩ := between.incoming
  obtain ⟨rfl, -⟩ := List.append_eq_nil_iff.mp split.symm
  refine ⟨?_, carried.bytes⟩
  simpa using carried.items.symm

/-- Both ends are somewhere in one script. -/
structure Joint (script : List (Turn κ)) (atLeft : List (Turn κ) → σ → Prop)
    (atRight : List (Turn κ) → τ → Prop) (l r : List (Turn κ)) (s : System κ σ τ)
    : Prop where
  left : atLeft l s.left
  right : atRight r s.right
  between : Between .left l r s.toRight s.toLeft
  leftWrites : s.toRight.sent ++ itemsOf .left l = itemsOf .left script
  rightWrites : s.toLeft.sent ++ itemsOf .right r = itemsOf .right script

section Joint

variable {script left right : List (Turn κ)} {s s' : System κ σ τ}
variable {actLeft : σ → Act κ σ} {actRight : τ → Act κ τ}
variable {atLeft : List (Turn κ) → σ → Prop} {atRight : List (Turn κ) → τ → Prop} {broken : Prop}

/-- Two ends at the head of the script, with nothing written. -/
theorem Joint.start {l : σ} {r : τ} (atL : atLeft script l) (atR : atRight script r)
    : Joint script atLeft atRight script script { left := l, right := r } where
  left := atL
  right := atR
  between := .ahead [] rfl (by simp [AllBy]) ⟨rfl, rfl, rfl⟩ ⟨rfl, rfl, rfl⟩
  leftWrites := rfl
  rightWrites := rfl

theorem Joint.of_left (joint : Joint script atLeft atRight left right s) {v : View κ σ}
    {next : List (Turn κ)} (kept : Kept .left atLeft left next right s.leftView v)
    : Joint script atLeft atRight next right (s.withLeft v) where
  left := kept.here
  right := joint.right
  between := kept.between
  leftWrites := kept.written.trans joint.leftWrites
  rightWrites := (congrArg (· ++ itemsOf .right right) kept.heard).trans joint.rightWrites

theorem Joint.of_right (joint : Joint script atLeft atRight left right s) {v : View κ τ}
    {next : List (Turn κ)} (kept : Kept .right atRight right next left s.rightView v)
    : Joint script atLeft atRight left next (s.withRight v) where
  left := joint.left
  right := kept.here
  between := kept.between.symm
  leftWrites := (congrArg (· ++ itemsOf .left left) kept.heard).trans joint.leftWrites
  rightWrites := kept.written.trans joint.rightWrites

/-- One step of either end. -/
theorem Joint.step (joint : Joint script atLeft atRight left right s)
    (followsLeft : Follows .left actLeft atLeft broken)
    (followsRight : Follows .right actRight atRight broken)
    (step : Step actLeft actRight s s')
    : ∃ left' right', Joint script atLeft atRight left' right' s' := by
  cases step with
  | left moves =>
      obtain ⟨next, kept⟩ := followsLeft.keeps moves joint.left joint.between
        (followsRight.conforms joint.right)
      exact ⟨next, right, joint.of_left kept⟩
  | right moves =>
      obtain ⟨next, kept⟩ := followsRight.keeps moves joint.right joint.between.symm
        (followsLeft.conforms joint.left)
      exact ⟨left, next, joint.of_right kept⟩

/-- Every interleaving, by induction on its steps. -/
theorem Joint.steps (joint : Joint script atLeft atRight left right s)
    (followsLeft : Follows .left actLeft atLeft broken)
    (followsRight : Follows .right actRight atRight broken)
    (steps : Steps actLeft actRight s s')
    : ∃ left' right', Joint script atLeft atRight left' right' s' := by
  induction steps with
  | refl => exact ⟨left, right, joint⟩
  | tail _ step ih =>
      obtain ⟨left', right', there⟩ := ih
      exact there.step followsLeft followsRight step

/-- Moves of one end are steps of the system, by induction on them. -/
theorem steps_left {v : View κ σ}
    (moved : ReflTransGen (Moves actLeft (actRight s.right = .stop)) s.leftView v)
    : Steps actLeft actRight s (s.withLeft v) := by
  induction moved with
  | refl => exact .refl
  | @tail middle last _ moves ih =>
      exact ih.tail (@Step.left _ _ _ _ _ (s.withLeft middle) last moves)

theorem steps_right {v : View κ τ}
    (moved : ReflTransGen (Moves actRight (actLeft s.left = .stop)) s.rightView v)
    : Steps actLeft actRight s (s.withRight v) := by
  induction moved with
  | refl => exact .refl
  | @tail middle last _ moves ih =>
      exact ih.tail (@Step.right _ _ _ _ _ (s.withRight middle) last moves)

/-- While turns are left, one of them can be taken. -/
theorem Joint.advance (joint : Joint script atLeft atRight left right s)
    (followsLeft : Follows .left actLeft atLeft broken)
    (followsRight : Follows .right actRight atRight broken)
    (readyLeft : Ready .left actLeft atLeft) (readyRight : Ready .right actRight atRight)
    (unfinished : ¬ (left = [] ∧ right = []))
    : ∃ s' left' right', Steps actLeft actRight s s'
        ∧ Joint script atLeft atRight left' right' s'
        ∧ left'.length + right'.length < left.length + right.length := by
  rcases joint.between.next with ⟨turn, tail, rfl, possible⟩ | ⟨turn, tail, rfl, possible⟩ | over_
  · obtain ⟨v, moved, kept⟩ := followsLeft.advance readyLeft (actRight s.right = .stop)
      s.leftView joint.left joint.between possible
    exact ⟨_, tail, right, steps_left moved, joint.of_left kept, by simp⟩
  · obtain ⟨v, moved, kept⟩ := followsRight.advance readyRight (actLeft s.left = .stop)
      s.rightView joint.right joint.between.symm possible
    exact ⟨_, left, tail, steps_right moved, joint.of_right kept, by simp⟩
  · exact absurd over_ unfinished

/-- Both ends have taken all their turns and go on to their stop. -/
theorem Joint.stops (joint : Joint script atLeft atRight [] [] s)
    (followsLeft : Follows .left actLeft atLeft broken)
    (followsRight : Follows .right actRight atRight broken)
    (readyLeft : Ready .left actLeft atLeft) (readyRight : Ready .right actRight atRight)
    : ∃ s', Steps actLeft actRight s s' ∧ actLeft s'.left = .stop ∧ actRight s'.right = .stop
        ∧ Joint script atLeft atRight [] [] s' := by
  obtain ⟨l, quietLeft, facesLeft⟩ := readyLeft _ _ joint.left
  obtain ⟨r, quietRight, facesRight⟩ := readyRight _ _ joint.right
  obtain ⟨hereLeft, movedLeft⟩ := followsLeft.quiet (actRight s.right = .stop) s.leftView
    joint.left quietLeft
  have middle := joint.of_left (Kept.of_state hereLeft joint.between)
  obtain ⟨hereRight, movedRight⟩ := followsRight.quiet (actLeft l = .stop)
    (s.withLeft { s.leftView with state := l }).rightView joint.right quietRight
  refine ⟨_, (steps_left movedLeft).trans (steps_right movedRight), ?_, ?_,
    middle.of_right (Kept.of_state hereRight middle.between.symm)⟩
  · generalize does : actLeft l = a at facesLeft
    cases facesLeft
    exact does
  · generalize does : actRight r = a at facesRight
    cases facesRight
    exact does

/-- From everywhere in the dialogue the end can be reached, by induction on the turns left. -/
theorem Joint.finishes (joint : Joint script atLeft atRight left right s)
    (followsLeft : Follows .left actLeft atLeft broken)
    (followsRight : Follows .right actRight atRight broken)
    (readyLeft : Ready .left actLeft atLeft) (readyRight : Ready .right actRight atRight)
    : ∃ s', Steps actLeft actRight s s' ∧ actLeft s'.left = .stop ∧ actRight s'.right = .stop
        ∧ Joint script atLeft atRight [] [] s' := by
  induction turns : left.length + right.length using Nat.strongRecOn
    generalizing left right s with
  | _ turns ih =>
      by_cases unfinished : left = [] ∧ right = []
      · obtain ⟨rfl, rfl⟩ := unfinished
        exact joint.stops followsLeft followsRight readyLeft readyRight
      · obtain ⟨middle, left', right', steps, there, fewer⟩ :=
          joint.advance followsLeft followsRight readyLeft readyRight unfinished
        obtain ⟨s', later, stopped⟩ := ih _ (turns ▸ fewer) there rfl
        exact ⟨s', steps.trans later, stopped⟩

/-- An end that has stopped takes nothing any more, by induction on the steps. -/
theorem stopped_right (stopped : actRight s.right = .stop) (steps : Steps actLeft actRight s s')
    : s'.right = s.right ∧ s'.toRight.taken = s.toRight.taken := by
  induction steps with
  | refl => exact ⟨rfl, rfl⟩
  | tail _ step ih =>
      obtain ⟨same, taken⟩ := ih
      cases step with
      | left moves =>
          refine ⟨same, taken ▸ ?_⟩
          cases moves <;> rfl
      | right moves =>
          have idle := same ▸ stopped
          cases moves <;> simp_all [System.rightView]

end Joint

end Dialogue
