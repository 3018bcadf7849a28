import Iperf.Library.BoundedLoop
import Iperf.Model.Net
import Iperf.Model.Time

/-! `net.c`: `Nrecv` and `Nrecv_no_select` in the machine words they compute with, over a memory
that goes on before and behind the buffer.
-/

namespace Iperf

open BoundedLoop

/-- `MSG_TRUNC` of Darwin. -/
def msgTruncFlag : Int32 := 0x10

def nreadOverallTimeout : UInt64 := 30

-----------------------------------------------------------------------------------------
-- One read
-----------------------------------------------------------------------------------------

/-- What one `read(2)` or `recv(2)` does: the value it returns, `errno` if that is negative, and
the bytes it stores.
-/
structure RecvCall where
  r : Int64
  errno : Errno
  stored : List UInt8
deriving DecidableEq, Repr

/-- The memory, from the place `buf` pointed to at first. -/
abbrev Memory := Int → UInt8

def Memory.store (memory : Memory) (address : Int) (bytes : List UInt8) : Memory :=
  fun place =>
    if address ≤ place ∧ place < address + bytes.length then
      bytes.getD (place - address).toNat 0
    else memory place

/-- The variables of the loop: `nleft`, how far `buf` has advanced, and the memory. -/
structure RecvState where
  nleft : UInt64
  buf : Int
  memory : Memory

/-- The return value of a call and the state it ends in. -/
structure RecvReturn where
  ret : Int32
  state : RecvState

/-- `return count - nleft`, a `size_t` returned as an `int`. -/
def RecvState.returned (count : UInt64) (state : RecvState) : RecvReturn :=
  { ret := (count - state.nleft).toUInt32.toInt32, state }

def RecvState.hardError (state : RecvState) : RecvReturn :=
  { ret := Int32.ofInt netHarderror, state }

/-- The part of the loop that both functions share: one read, and what it moves. -/
def recvPass (sockOpt : Int32) (count : UInt64) (state : RecvState) (call : RecvCall)
    : Pass RecvState RecvReturn :=
  let state := { state with memory := state.memory.store state.buf call.stored }
  if call.r < 0 then
    match call.errno with
    | .eintr | .eagain => .leave (state.returned count)
    | .enobufs | .enomem | .other => .leave state.hardError
  else if call.r = 0 then
    .leave (state.returned count)
  else if sockOpt &&& msgTruncFlag ≠ 0 then
    let bytesCopied := if call.r.toUInt64 > state.nleft then state.nleft else call.r.toUInt64
    .again
      { state with nleft := state.nleft - bytesCopied, buf := state.buf + bytesCopied.toNat }
  else
    .again
      { state with nleft := state.nleft - call.r.toUInt64, buf := state.buf + call.r.toInt }

/-- What the kernel promises: it stores no more than it was asked for, and without `MSG_TRUNC` it
returns no more.
-/
def RecvCall.Promised (sockOpt : Int32) (state : RecvState) (call : RecvCall) : Prop :=
  call.stored.length ≤ state.nleft.toNat
    ∧ (sockOpt = 0 → call.r.toInt ≤ state.nleft.toNat)

-----------------------------------------------------------------------------------------
-- The two functions
-----------------------------------------------------------------------------------------

def recvStart (count : UInt64) (memory : Memory) : RecvState :=
  { nleft := count, buf := 0, memory }

/-- The loop of `Nrecv_no_select`. -/
def nrecvNoSelectWhile (sockOpt : Int32) (count : UInt64)
    : Loop RecvState RecvCall RecvReturn :=
  {
    done := fun state => if state.nleft > 0 then none else some (state.returned count),
    body := recvPass sockOpt count
  }

/-- `Nrecv_no_select`; without further results it blocks. -/
def nrecvNoSelectWords (sockOpt : Int32) (count : UInt64) (memory : Memory)
    (calls : List RecvCall)
    : Option RecvReturn :=
  (nrecvNoSelectWhile sockOpt count).run (recvStart count memory) calls

/-- One pass of `Nrecv`: the read, the clock, and the value of the `select(2)` that follows. -/
structure NrecvRound where
  call : RecvCall
  now : IperfTime
  ready : Int32

structure NrecvState extends RecvState where
  ftimeout : IperfTime

/-- The body of `Nrecv`. It waits again only if bytes are missing. -/
def nrecvPass (sockOpt : Int32) (count : UInt64) (state : NrecvState) (round : NrecvRound)
    : Pass NrecvState RecvReturn :=
  match recvPass sockOpt count state.toRecvState round.call with
  | .leave result => .leave result
  | .again next =>
      if next.nleft > 0 then
        let ftimeout :=
          if state.ftimeout.secs = 0 then
            iperfTimeAddUsecs round.now (nreadOverallTimeout * 1000000)
          else state.ftimeout
        if iperfTimeCompare ftimeout round.now < 0 then .leave (next.returned count)
        else if round.ready < 0 then .leave next.hardError
        else if round.ready = 0 then .leave (next.returned count)
        else .again { next with ftimeout }
      else .again { next with ftimeout := state.ftimeout }

/-- The loop of `Nrecv`. -/
def nrecvWhile (sockOpt : Int32) (count : UInt64) : Loop NrecvState NrecvRound RecvReturn :=
  {
    done := fun state =>
      if state.nleft > 0 then none else some (state.toRecvState.returned count),
    body := nrecvPass sockOpt count
  }

def nrecvStart (count : UInt64) (memory : Memory) : NrecvState :=
  { recvStart count memory with ftimeout := { secs := 0, usecs := 0 } }

/-- `Nrecv`: `ready` is the value of the `select(2)` before the loop. -/
def nrecvWords (sockOpt : Int32) (count : UInt64) (memory : Memory) (ready : Int32)
    (rounds : List NrecvRound)
    : Option RecvReturn :=
  if ready < 0 then some (recvStart count memory).hardError
  else if ready = 0 then some { ret := 0, state := recvStart count memory }
  else (nrecvWhile sockOpt count).run (nrecvStart count memory) rounds

-----------------------------------------------------------------------------------------
-- The invariant
-----------------------------------------------------------------------------------------

/-- The bytes advanced and those left make up `count`, and nothing outside the buffer differs.
-/
structure RecvState.InBuffer (count : UInt64) (memory : Memory) (state : RecvState) : Prop where
  advanced : state.buf + state.nleft.toNat = count.toNat
  forward : 0 ≤ state.buf
  outside : ∀ place, place < 0 ∨ count.toNat ≤ place → state.memory place = memory place

/-- What a call may leave: a state within the buffer, and no other byte count than `buf` moved.
-/
structure RecvReturn.Exact (count : UInt64) (memory : Memory) (result : RecvReturn) : Prop where
  inBuffer : result.state.InBuffer count memory
  counted : 0 ≤ result.ret → result.ret.toInt = result.state.buf

theorem recvStart_inBuffer (count : UInt64) (memory : Memory)
    : (recvStart count memory).InBuffer count memory := by
  constructor <;> simp [recvStart]

/-- Storing no more than is left stays inside. -/
theorem RecvState.InBuffer.store {count : UInt64} {memory : Memory} {state : RecvState}
    (inside : state.InBuffer count memory) {bytes : List UInt8}
    (fits : bytes.length ≤ state.nleft.toNat)
    : { state with memory := state.memory.store state.buf bytes }.InBuffer count memory := by
  obtain ⟨advanced, forward, outside⟩ := inside
  refine ⟨advanced, forward, ?_⟩
  intro place away
  have elsewhere : ¬ (state.buf ≤ place ∧ place < state.buf + bytes.length) := by omega
  simp only [Memory.store]
  rw [if_neg elsewhere]
  exact outside place away

/-- A count below `2 ^ 31` comes back as the bytes advanced. -/
theorem RecvState.InBuffer.returned_toInt {count : UInt64} {memory : Memory} {state : RecvState}
    (inside : state.InBuffer count memory) (fits : count.toNat ≤ 2 ^ 31 - 1)
    : (state.returned count).ret.toInt = state.buf := by
  obtain ⟨advanced, forward, _⟩ := inside
  have difference : (count - state.nleft).toNat = count.toNat - state.nleft.toNat := by
    rw [UInt64.toNat_sub]
    omega
  have word : (count - state.nleft).toUInt32.toNat = count.toNat - state.nleft.toNat := by
    rw [UInt64.toNat_toUInt32, difference]
    omega
  have signed : (state.returned count).ret.toInt
      = (((count - state.nleft).toUInt32.toNat : Int)).bmod (2 ^ 32) :=
    BitVec.toInt_eq_toNat_bmod _
  rw [signed, word, Int.bmod_eq_of_le (by omega) (by omega)]
  omega

theorem RecvState.InBuffer.returned {count : UInt64} {memory : Memory} {state : RecvState}
    (inside : state.InBuffer count memory) (fits : count.toNat ≤ 2 ^ 31 - 1)
    : (state.returned count).Exact count memory :=
  ⟨inside, fun _ => inside.returned_toInt fits⟩

theorem RecvState.InBuffer.hardError {count : UInt64} {memory : Memory} {state : RecvState}
    (inside : state.InBuffer count memory)
    : state.hardError.Exact count memory := by
  refine ⟨inside, ?_⟩
  intro nonneg
  have negative : ¬ 0 ≤ Int32.ofInt netHarderror := by decide
  exact absurd nonneg negative

-----------------------------------------------------------------------------------------
-- One pass
-----------------------------------------------------------------------------------------

variable {sockOpt : Int32} {count : UInt64} {memory : Memory}

/-- The state after the read has stored its bytes. -/
def RecvState.stored (state : RecvState) (call : RecvCall) : RecvState :=
  { state with memory := state.memory.store state.buf call.stored }

/-- A read that ends the loop returns the bytes so far or a hard error. -/
theorem recvPass_leave {state : RecvState} {call : RecvCall} {result : RecvReturn}
    (pass : recvPass sockOpt count state call = .leave result)
    : result = (state.stored call).returned count ∨ result = (state.stored call).hardError := by
  simp only [recvPass] at pass
  split_ifs at pass with negative zero
  · cases failure : call.errno <;> simp only [failure, Pass.leave.injEq] at pass
    · exact .inl pass.symm
    · exact .inl pass.symm
    · exact .inr pass.symm
    · exact .inr pass.symm
    · exact .inr pass.symm
  · simp only [Pass.leave.injEq] at pass
    exact .inl pass.symm

/-- A positive `ssize_t` is the same number as a `size_t`. -/
theorem toNat_toUInt64_of_pos {r : Int64} (negative : ¬ r < 0) (zero : ¬ r = 0)
    : (r.toUInt64.toNat : Int) = r.toInt ∧ 0 < r.toUInt64.toNat := by
  have nonneg : 0 ≤ r := Int64.not_lt.mp negative
  have same : (r.toUInt64.toNat : Int) = r.toInt := by
    rw [Int64.toNat_toUInt64_of_le nonneg, Int64.cast_toNatClampNeg r nonneg]
  have moved : r.toInt ≠ 0 := fun none => zero (Int64.toInt.inj none)
  exact ⟨same, by omega⟩

/-- How far a read moves `buf`: with `MSG_TRUNC` no further than the bytes left. -/
def RecvCall.moved (sockOpt : Int32) (state : RecvState) (call : RecvCall) : UInt64 :=
  if sockOpt &&& msgTruncFlag ≠ 0 then
    if call.r.toUInt64 > state.nleft then state.nleft else call.r.toUInt64
  else call.r.toUInt64

theorem RecvCall.Promised.moved {state : RecvState} {call : RecvCall}
    (promised : call.Promised sockOpt state)
    (known : sockOpt = 0 ∨ sockOpt = msgTruncFlag) (left : 0 < state.nleft)
    (negative : ¬ call.r < 0) (zero : ¬ call.r = 0)
    : 0 < call.moved sockOpt state ∧ call.moved sockOpt state ≤ state.nleft := by
  obtain ⟨same, positive⟩ := toNat_toUInt64_of_pos negative zero
  unfold RecvCall.moved
  split_ifs with trunc more
  · exact ⟨left, UInt64.le_refl _⟩
  · exact ⟨positive, UInt64.not_lt.mp more⟩
  · have plain : sockOpt = 0 := by
      rcases known with plain | rfl
      · exact plain
      · exact absurd (by decide) trunc
    have fits := promised.2 plain
    exact ⟨positive, UInt64.le_iff_toNat_le.mpr (by omega)⟩

/-- A read that returns bytes moves `buf` and `nleft` by the same number. -/
theorem recvPass_moves {state : RecvState} {call : RecvCall}
    (negative : ¬ call.r < 0) (zero : ¬ call.r = 0)
    : recvPass sockOpt count state call
      = .again
        {
          nleft := state.nleft - call.moved sockOpt state,
          buf := state.buf + (call.moved sockOpt state).toNat,
          memory := (state.stored call).memory
        } := by
  obtain ⟨same, _⟩ := toNat_toUInt64_of_pos negative zero
  unfold recvPass RecvCall.moved
  dsimp only
  rw [if_neg negative, if_neg zero]
  by_cases trunc : sockOpt &&& msgTruncFlag ≠ 0
  · simp only [if_pos trunc]
    rfl
  · simp only [if_neg trunc, same]
    rfl

/-- Only a read that returns bytes goes on. -/
theorem recvPass_again {state next : RecvState} {call : RecvCall}
    (pass : recvPass sockOpt count state call = .again next)
    : ¬ call.r < 0 ∧ ¬ call.r = 0 := by
  constructor
  · intro negative
    simp only [recvPass, if_pos negative] at pass
    cases failure : call.errno <;> simp [failure] at pass
  · intro zero
    simp [recvPass, zero] at pass

/-- So the pass keeps the invariant, and fewer bytes are left. -/
theorem RecvState.InBuffer.again {state next : RecvState} {call : RecvCall}
    (inside : state.InBuffer count memory)
    (known : sockOpt = 0 ∨ sockOpt = msgTruncFlag) (left : 0 < state.nleft)
    (promised : call.Promised sockOpt state)
    (pass : recvPass sockOpt count state call = .again next)
    : next.InBuffer count memory ∧ next.nleft.toNat < state.nleft.toNat := by
  obtain ⟨negative, zero⟩ := recvPass_again pass
  rw [recvPass_moves negative zero, Pass.again.injEq] at pass
  subst pass
  obtain ⟨advanced, forward, outside⟩ := inside.store promised.1
  obtain ⟨positive, fits⟩ := promised.moved known left negative zero
  have less := UInt64.toNat_sub_of_le _ _ fits
  rw [UInt64.le_iff_toNat_le] at fits
  have some : 0 < (call.moved sockOpt state).toNat := positive
  refine ⟨⟨?_, ?_, outside⟩, ?_⟩
  · dsimp only at advanced ⊢
    omega
  · dsimp only at forward ⊢
    omega
  · dsimp only
    omega

theorem RecvState.InBuffer.leave {state : RecvState} {call : RecvCall} {result : RecvReturn}
    (inside : state.InBuffer count memory) (fits : count.toNat ≤ 2 ^ 31 - 1)
    (promised : call.Promised sockOpt state)
    (pass : recvPass sockOpt count state call = .leave result)
    : result.Exact count memory := by
  have stored : (state.stored call).InBuffer count memory := inside.store promised.1
  rcases recvPass_leave pass with rfl | rfl
  · exact stored.returned fits
  · exact stored.hardError

/-- `Nrecv` goes on with what the read left. -/
theorem nrecvPass_again {state next : NrecvState} {round : NrecvRound}
    (pass : nrecvPass sockOpt count state round = .again next)
    : recvPass sockOpt count state.toRecvState round.call = .again next.toRecvState := by
  cases read : recvPass sockOpt count state.toRecvState round.call with
  | leave result => simp [nrecvPass, read] at pass
  | again moved =>
      simp only [nrecvPass, read] at pass
      split_ifs at pass <;> simp only [Pass.again.injEq] at pass <;> rw [← pass]

/-- `Nrecv` leaves with the read, or when the time is up, nothing arrives or `select(2)` fails. -/
theorem nrecvPass_leave {state : NrecvState} {round : NrecvRound} {result : RecvReturn}
    (pass : nrecvPass sockOpt count state round = .leave result)
    : recvPass sockOpt count state.toRecvState round.call = .leave result
      ∨ ∃ next, recvPass sockOpt count state.toRecvState round.call = .again next
        ∧ (result = next.returned count ∨ result = next.hardError) := by
  cases read : recvPass sockOpt count state.toRecvState round.call with
  | leave other => simpa [nrecvPass, read] using pass
  | again next =>
      refine .inr ⟨next, rfl, ?_⟩
      simp only [nrecvPass, read] at pass
      generalize (if state.ftimeout.secs = 0 then _ else _ : IperfTime) = ftimeout at pass
      split_ifs at pass <;> simp only [Pass.leave.injEq] at pass
      · exact .inl pass.symm
      · exact .inr pass.symm
      · exact .inl pass.symm

-----------------------------------------------------------------------------------------
-- The loops
-----------------------------------------------------------------------------------------

theorem nrecvNoSelectWhile_done {state : RecvState} (none : state.nleft.toNat = 0)
    : (nrecvNoSelectWhile sockOpt count).done state = some (state.returned count) := by
  have nothing : ¬ state.nleft > 0 := by
    rw [gt_iff_lt, UInt64.lt_iff_toNat_lt, none]
    exact Nat.lt_irrefl 0
  exact if_neg nothing

theorem nrecvNoSelectWhile_waits {state : RecvState} (some : 0 < state.nleft.toNat)
    : (nrecvNoSelectWhile sockOpt count).done state = none := by
  have left : state.nleft > 0 := UInt64.lt_iff_toNat_lt.mpr some
  exact if_pos left

theorem nrecvNoSelectWhile_rule (fits : count.toNat ≤ 2 ^ 31 - 1)
    (known : sockOpt = 0 ∨ sockOpt = msgTruncFlag) (memory : Memory)
    : (nrecvNoSelectWhile sockOpt count).Rule (fun state call => call.Promised sockOpt state)
      (fun state => state.InBuffer count memory) (fun state => state.nleft.toNat)
      (fun result => result.Exact count memory) where
  done := by
    intro state result inside done
    simp only [nrecvNoSelectWhile, Option.ite_none_left_eq_some, Option.some.injEq] at done
    exact done.2 ▸ inside.returned fits
  waits := by
    intro state _ waits
    simp only [nrecvNoSelectWhile, ite_eq_left_iff, reduceCtorEq, imp_false, not_not] at waits
    exact waits
  leave := by
    intro state call result inside _ promised pass
    exact inside.leave fits promised pass
  again := by
    intro state call next inside waits promised pass
    simp only [nrecvNoSelectWhile, ite_eq_left_iff, reduceCtorEq, imp_false, not_not] at waits
    exact inside.again known waits promised pass

theorem nrecvWhile_rule (fits : count.toNat ≤ 2 ^ 31 - 1)
    (known : sockOpt = 0 ∨ sockOpt = msgTruncFlag) (memory : Memory)
    : (nrecvWhile sockOpt count).Rule
      (fun state round => round.call.Promised sockOpt state.toRecvState)
      (fun state => state.InBuffer count memory) (fun state => state.nleft.toNat)
      (fun result => result.Exact count memory) where
  done := by
    intro state result inside done
    simp only [nrecvWhile, Option.ite_none_left_eq_some, Option.some.injEq] at done
    exact done.2 ▸ inside.returned fits
  waits := by
    intro state _ waits
    simp only [nrecvWhile, ite_eq_left_iff, reduceCtorEq, imp_false, not_not] at waits
    exact waits
  leave := by
    intro state round result inside waits promised pass
    simp only [nrecvWhile, ite_eq_left_iff, reduceCtorEq, imp_false, not_not] at waits
    rcases nrecvPass_leave pass with read | ⟨next, read, rfl | rfl⟩
    · exact inside.leave fits promised read
    · exact (inside.again known waits promised read).1.returned fits
    · exact (inside.again known waits promised read).1.hardError
  again := by
    intro state round next inside waits promised pass
    simp only [nrecvWhile, ite_eq_left_iff, reduceCtorEq, imp_false, not_not] at waits
    exact inside.again known waits promised (nrecvPass_again pass)

/-- A receiving call is safe in its buffer: at every iteration the bytes advanced and those left
make up `count` and nothing outside has been written, the bytes left shrink from one iteration to
the next, with `count` iterations the call has returned, and its return value is exact.
-/
structure SafeReceive (count : UInt64) (memory : Memory) (iterations : List RecvState)
    (supplied : Nat) (result : Option RecvReturn) : Prop where
  inBuffer : ∀ state ∈ iterations, state.InBuffer count memory
  shrinks : iterations.IsChain (fun state next => next.nleft.toNat < state.nleft.toNat)
  returns : count.toNat ≤ supplied → ∃ returned, result = some returned
  exact : ∀ returned, result = some returned → returned.Exact count memory

/-- Both functions are safe for every sequence of results that keeps the kernel's promise, up to
the largest count an `int` can return.
-/
theorem nrecv_safe (fits : count.toNat ≤ 2 ^ 31 - 1)
    (known : sockOpt = 0 ∨ sockOpt = msgTruncFlag) (memory : Memory)
    : (∀ ready rounds,
        (nrecvWhile sockOpt count).Kept
          (fun state round => round.call.Promised sockOpt state.toRecvState)
          (nrecvStart count memory) rounds
        → SafeReceive count memory
          (((nrecvWhile sockOpt count).heads (nrecvStart count memory) rounds).map
            NrecvState.toRecvState)
          rounds.length (nrecvWords sockOpt count memory ready rounds))
      ∧ ∀ calls,
        (nrecvNoSelectWhile sockOpt count).Kept (fun state call => call.Promised sockOpt state)
          (recvStart count memory) calls
        → SafeReceive count memory
          ((nrecvNoSelectWhile sockOpt count).heads (recvStart count memory) calls)
          calls.length (nrecvNoSelectWords sockOpt count memory calls) := by
  have start := recvStart_inBuffer count memory
  have startNrecv : (nrecvStart count memory).InBuffer count memory := start
  constructor
  · intro ready rounds kept
    have rule := @nrecvWhile_rule sockOpt count fits known memory
    constructor
    · simpa using rule.inv_heads startNrecv kept
    · exact (List.isChain_map _).mpr (rule.shrinks startNrecv kept)
    · intro enough
      unfold nrecvWords
      split_ifs
      · exact ⟨_, rfl⟩
      · exact ⟨_, rfl⟩
      · exact rule.returns startNrecv kept enough
    · intro returned result
      unfold nrecvWords at result
      split_ifs at result
      · exact Option.some.inj result ▸ start.hardError
      · refine Option.some.inj result ▸ ⟨start, ?_⟩
        intro _
        rfl
      · exact rule.post_run startNrecv kept result
  · intro calls kept
    have rule := @nrecvNoSelectWhile_rule sockOpt count fits known memory
    constructor
    · exact rule.inv_heads start kept
    · exact rule.shrinks start kept
    · exact rule.returns start kept
    · intro returned result
      exact rule.post_run start kept result

/-- A datagram of ten bytes fills a buffer of four. -/
theorem nrecv_safe_datagram
    : SafeReceive 4 (fun _ => 0)
      ((nrecvNoSelectWhile msgTruncFlag 4).heads (recvStart 4 (fun _ => 0))
        [{ r := 10, errno := .other, stored := [1, 2, 3, 4] }])
      1
      (nrecvNoSelectWords msgTruncFlag 4 (fun _ => 0)
        [{ r := 10, errno := .other, stored := [1, 2, 3, 4] }]) := by
  have fits : (4 : UInt64).toNat ≤ 2 ^ 31 - 1 := by decide
  refine (nrecv_safe fits (.inr rfl) (fun _ => 0)).2
    [{ r := 10, errno := .other, stored := [1, 2, 3, 4] }] ⟨⟨?_, ?_⟩, trivial⟩
  · decide
  · decide

-----------------------------------------------------------------------------------------
-- The loop over a list of bytes
-----------------------------------------------------------------------------------------

/-- The first `size` bytes behind the place `buf` pointed to. -/
def Memory.contents (memory : Memory) (size : Nat) : List UInt8 :=
  (List.range size).map fun (place : Nat) => memory (place : Int)

/-- The result as `nrecvLoop` reads it. -/
def RecvCall.result (call : RecvCall) : RecvResult :=
  if call.r < 0 then .failed call.errno else .got call.stored call.r.toUInt64.toNat

def RecvReturn.received (size : Nat) (returned : RecvReturn) : Received :=
  { ret := returned.ret.toInt, buffer := returned.state.memory.contents size }

theorem Memory.contents_store {memory : Memory} {size offset : Nat} {bytes : List UInt8}
    (fits : offset + bytes.length ≤ size)
    : (memory.store offset bytes).contents size
      = Buffer.copyAt (memory.contents size) offset bytes := by
  have length : (memory.contents size).length = size := by simp [contents]
  refine List.ext_getElem ?_ ?_
  · rw [Buffer.length_copyAt (by omega)]
    simp [contents]
  · intro place inside _
    simp only [contents, List.length_map, List.length_range] at inside
    simp only [contents, store, Buffer.copyAt, List.getElem_map, List.getElem_range,
      List.getElem_append, List.length_append, List.length_take, List.length_map,
      List.length_range, List.getElem_take, List.getElem_drop]
    rcases Nat.lt_or_ge place offset with before | behind
    · rw [if_neg (by omega), dif_pos (by omega), dif_pos (by omega)]
    · rcases Nat.lt_or_ge place (offset + bytes.length) with within | after
      · have there : (place - offset : Int).toNat = place - offset := by omega
        have front : place - min offset size = place - offset := by omega
        rw [if_pos (by omega), dif_pos (by omega), dif_neg (by omega), there,
          List.getD_eq_getElem?_getD, List.getElem?_eq_getElem (by omega), Option.getD_some]
        simp only [front]
      · rw [if_neg (by omega), dif_neg (by omega)]
        congr 1
        omega

theorem RecvState.InBuffer.received {state : RecvState}
    (inside : state.InBuffer count memory) (fits : count.toNat ≤ 2 ^ 31 - 1) (size : Nat)
    : (state.returned count).received size
      = {
          ret := toInt (count.toNat - state.nleft.toNat),
          buffer := state.memory.contents size
        } := by
  have advanced := inside.advanced
  have forward := inside.forward
  have ret : toInt (count.toNat - state.nleft.toNat) = state.buf := by
    rw [toInt_of_lt (by omega)]
    omega
  rw [ret, RecvReturn.received, inside.returned_toInt fits]
  rfl

theorem RecvCall.moved_toNat {state : RecvState} {call : RecvCall}
    (known : sockOpt = 0 ∨ sockOpt = msgTruncFlag)
    : (call.moved sockOpt state).toNat
      = if decide (sockOpt = msgTruncFlag) then min call.r.toUInt64.toNat state.nleft.toNat
        else call.r.toUInt64.toNat := by
  rcases known with rfl | rfl
  · simp [RecvCall.moved, msgTruncFlag]
  · have trunc : msgTruncFlag &&& msgTruncFlag ≠ 0 := by decide
    simp only [RecvCall.moved, if_pos trunc, decide_true, if_true]
    split_ifs with more
    · rw [gt_iff_lt, UInt64.lt_iff_toNat_lt] at more
      omega
    · rw [gt_iff_lt, UInt64.lt_iff_toNat_lt] at more
      omega

theorem Memory.store_nil (memory : Memory) (address : Int)
    : memory.store address [] = memory := by
  funext place
  have elsewhere : ¬ (address ≤ place ∧ place < address + ([] : List UInt8).length) := by
    simp
  rw [Memory.store, if_neg elsewhere]

/-- A read that ends the loop does so in `nrecvLoop` with the same result. -/
theorem recvPass_ends {size left : Nat} {state : RecvState} {call : RecvCall}
    (ends : call.r ≤ 0) (bare : call.stored = []) (fits : count.toNat ≤ 2 ^ 31 - 1)
    (inside : state.InBuffer count memory) (more : state.nleft.toNat = left + 1)
    (msgTrunc : Bool) (results : List RecvResult)
    : ∃ result, recvPass sockOpt count state call = .leave result
      ∧ nrecvLoop msgTrunc count.toNat (state.memory.contents size) state.buf.toNat (left + 1)
        (call.result :: results) = some (result.received size) := by
  have last := inside.received fits size
  rw [more] at last
  simp only [recvPass, bare, Memory.store_nil]
  by_cases negative : call.r < 0
  · have hard : state.hardError.received size
        = { ret := netHarderror, buffer := state.memory.contents size } := by
      simp only [RecvReturn.received, RecvState.hardError]
      congr 1
    simp only [if_pos negative, RecvCall.result]
    cases call.errno with
    | eintr => exact ⟨_, rfl, by simp [nrecvLoop, last]⟩
    | eagain => exact ⟨_, rfl, by simp [nrecvLoop, last]⟩
    | enobufs => exact ⟨_, rfl, by simp [nrecvLoop, hard]⟩
    | enomem => exact ⟨_, rfl, by simp [nrecvLoop, hard]⟩
    | other => exact ⟨_, rfl, by simp [nrecvLoop, hard]⟩
  · have zero : call.r = 0 := Int64.le_antisymm ends (Int64.not_lt.mp negative)
    have none : (0 : Int64).toUInt64.toNat = 0 := by decide
    refine ⟨state.returned count, by simp [zero], ?_⟩
    simp [RecvCall.result, zero, none, nrecvLoop, last]

/-- A read that goes on does so in `nrecvLoop`, by as many bytes. -/
theorem recvPass_continues {size left : Nat} {state : RecvState} {call : RecvCall}
    (negative : ¬ call.r < 0) (zero : ¬ call.r = 0) (room : count.toNat ≤ size)
    (known : sockOpt = 0 ∨ sockOpt = msgTruncFlag) (inside : state.InBuffer count memory)
    (promised : call.Promised sockOpt state) (more : state.nleft.toNat = left + 1)
    (results : List RecvResult)
    : nrecvLoop (decide (sockOpt = msgTruncFlag)) count.toNat (state.memory.contents size)
        state.buf.toNat (left + 1) (call.result :: results)
      = nrecvLoop (decide (sockOpt = msgTruncFlag)) count.toNat
        ((state.stored call).memory.contents size)
        (state.buf + (call.moved sockOpt state).toNat).toNat
        (state.nleft - call.moved sockOpt state).toNat results := by
  obtain ⟨_, positive⟩ := toNat_toUInt64_of_pos negative zero
  have waits : state.nleft > 0 := UInt64.lt_iff_toNat_lt.mpr (more ▸ Nat.succ_pos left)
  obtain ⟨_, least⟩ := promised.moved known waits negative zero
  have advanced := inside.advanced
  have forward := inside.forward
  have place : (state.buf.toNat : Int) = state.buf := Int.toNat_of_nonneg forward
  have bytes : (state.stored call).memory.contents size
      = Buffer.copyAt (state.memory.contents size) state.buf.toNat call.stored := by
    have short := promised.1
    have within : state.buf.toNat + call.stored.length ≤ size := by omega
    rw [← Memory.contents_store within, place]
    rfl
  have moves : (state.buf + (call.moved sockOpt state).toNat).toNat
      = state.buf.toNat + (call.moved sockOpt state).toNat := by omega
  rw [bytes, moves, UInt64.toNat_sub_of_le _ _ least, RecvCall.moved_toNat known, more,
    RecvCall.result, if_neg negative, nrecvLoop, if_neg (by omega)]

/-- On results that store nothing when they end the loop, the words compute what `nrecvLoop`
computes on a list of bytes. By induction on the results.
-/
theorem nrecvNoSelectWhile_eq {size : Nat} {state : RecvState} {calls : List RecvCall}
    (fits : count.toNat ≤ 2 ^ 31 - 1) (room : count.toNat ≤ size)
    (known : sockOpt = 0 ∨ sockOpt = msgTruncFlag) (inside : state.InBuffer count memory)
    (kept : (nrecvNoSelectWhile sockOpt count).Kept
      (fun state call => call.Promised sockOpt state) state calls)
    (bare : ∀ call ∈ calls, call.r ≤ 0 → call.stored = [])
    : ((nrecvNoSelectWhile sockOpt count).run state calls).map (RecvReturn.received size)
      = nrecvLoop (decide (sockOpt = msgTruncFlag)) count.toNat (state.memory.contents size)
        state.buf.toNat state.nleft.toNat (calls.map RecvCall.result) := by
  induction calls generalizing state with
  | nil =>
      rcases Nat.eq_zero_or_pos state.nleft.toNat with none | some
      · rw [Loop.run_done (nrecvNoSelectWhile_done none), Option.map_some,
          inside.received fits size, none]
        rfl
      · obtain ⟨left, more⟩ := Nat.exists_eq_add_one.mpr some
        rw [Loop.run, nrecvNoSelectWhile_waits some, more]
        rfl
  | cons call calls ih =>
      rcases Nat.eq_zero_or_pos state.nleft.toNat with none | some
      · rw [Loop.run_done (nrecvNoSelectWhile_done none), Option.map_some,
          inside.received fits size, none]
        rfl
      · obtain ⟨left, more⟩ := Nat.exists_eq_add_one.mpr some
        have waits := @nrecvNoSelectWhile_waits sockOpt count state some
        by_cases ends : call.r ≤ 0
        · obtain ⟨result, pass, loops⟩ := @recvPass_ends sockOpt count memory size left state call
            ends (bare call List.mem_cons_self ends) fits inside more
            (decide (sockOpt = msgTruncFlag)) (calls.map RecvCall.result)
          rw [more, List.map_cons, loops, Loop.run_leave waits pass]
          rfl
        · have negative : ¬ call.r < 0 := fun less => ends (Int64.le_of_lt less)
          have zero : ¬ call.r = 0 := fun none => ends (none ▸ Int64.le_refl 0)
          have pass := @recvPass_moves sockOpt count state call negative zero
          obtain ⟨promised, kept⟩ := kept.again waits pass
          have next := (inside.again known (UInt64.lt_iff_toNat_lt.mpr some) promised pass).1
          rw [more, List.map_cons,
            recvPass_continues negative zero room known inside promised more,
            Loop.run_again waits pass]
          exact ih next kept (fun later member => bare later (.tail _ member))

/-- So `Nrecv_no_select` in words is `nrecvNoSelect`. -/
theorem nrecvNoSelectWords_eq {size : Nat} {calls : List RecvCall}
    (fits : count.toNat ≤ 2 ^ 31 - 1) (room : count.toNat ≤ size)
    (known : sockOpt = 0 ∨ sockOpt = msgTruncFlag)
    (kept : (nrecvNoSelectWhile sockOpt count).Kept
      (fun state call => call.Promised sockOpt state) (recvStart count memory) calls)
    (bare : ∀ call ∈ calls, call.r ≤ 0 → call.stored = [])
    : (nrecvNoSelectWords sockOpt count memory calls).map (RecvReturn.received size)
      = nrecvNoSelect (decide (sockOpt = msgTruncFlag)) (memory.contents size) count.toNat
        (calls.map RecvCall.result) :=
  nrecvNoSelectWhile_eq fits room known (recvStart_inBuffer count memory) kept bare

end Iperf
