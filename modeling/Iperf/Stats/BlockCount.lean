import Iperf.Library.Blocks
import Iperf.Stats.SendMt

/-! Blocks that go out in parts: the totals of the test against those of its TCP streams, over any
interleaving of the sending workers.
-/

namespace Iperf

open Blocks

/-- A TCP test that has sent nothing, with a block size of at least one byte. -/
structure FreshSenders (test : Test) : Prop where
  tcp : test.protocol = .tcp
  block : 1 ≤ blockSize test
  bytesSent : test.bytesSent = 0
  blocksSent : test.blocksSent = 0
  pending : ∀ sp ∈ test.streams, sp.pendingSize = 0
  sent : ∀ sp ∈ test.streams, sp.result.bytesSent = 0

/-- Messages of any streams in any order, with any results. For each position it is noted how many
bytes the positive results make in all.
-/
inductive SendRun (start : Test) : Test → (Nat → Nat) → Prop where
  | start : SendRun start start (fun _ => 0)
  | send {test next : Test} {sent : Nat → Nat} {position : Nat} {before : IperfTime} {io : SendIo}
      {r : Int} (earlier : SendRun start test sent)
      (sends : iperfSendMt test position before io = some (r, next))
      : SendRun start next (Function.update sent position (sent position + r.toNat))

/-- The counters of the test and of its streams against the bytes sent. -/
structure BlocksCounted (start test : Test) (sent : Nat → Nat) : Prop where
  tcp : test.protocol = .tcp
  settings : test.settings = start.settings
  streams : ∀ position sp, test.streams[position]? = some sp →
    sp.result.bytesSent = UInt64.ofNat (sent position)
    ∧ Partial (blockSize start) (sent position) sp.pendingSize
  bytesSent : test.bytesSent
    = UInt64.ofNat (∑ position ∈ Finset.range test.streams.length, sent position)
  blocksSent : test.blocksSent
    = UInt64.ofNat (∑ position ∈ Finset.range test.streams.length, sent position / blockSize start)

variable {start test next last : Test} {sent : Nat → Nat}

theorem FreshSenders.counted (fresh : FreshSenders start)
    : BlocksCounted start start (fun _ => 0) := by
  refine ⟨fresh.tcp, rfl, fun position sp found => ?_, ?_, ?_⟩
  · have isOne := List.mem_of_getElem? found
    rw [fresh.sent sp isOne, fresh.pending sp isOne]
    exact ⟨rfl, Nat.zero_le _, dvd_zero _⟩
  · rw [fresh.bytesSent, Finset.sum_const_zero]
    rfl
  · rw [fresh.blocksSent]
    simp only [Nat.zero_div, Finset.sum_const_zero]
    rfl

/-- One call of `iperf_tcp_send`: a positive result is a part of what was pending. -/
theorem iperfTcpSend_partial {sp sp' : Stream} {io : SendIo} {out : Sent}
    (sends : iperfTcpSend test sp io = some (out, sp')) (positive : 1 ≤ blockSize test) {n : Nat}
    (part : Partial (blockSize test) n sp.pendingSize)
    : Partial (blockSize test) (n + out.ret.toNat) sp'.pendingSize
      ∧ sp'.result.bytesSent = sp.result.bytesSent + UInt64.ofNat out.ret.toNat
      ∧ (n + out.ret.toNat) / blockSize test
        = n / blockSize test + if 0 ≤ out.ret ∧ sp'.pendingSize = 0 then 1 else 0 := by
  obtain ⟨next, some_⟩ := part.next positive
  have pending : pendingBytes test sp
      = if sp.pendingSize = 0 then blockSize test else sp.pendingSize :=
    rfl
  rw [← pending] at next some_
  rw [iperfTcpSend_eq, Option.map_eq_some_iff] at sends
  obtain ⟨result, ran, shape⟩ := sends
  obtain ⟨rfl, rfl⟩ := Prod.mk.inj shape
  have fits : result.ret ≤ pendingBytes test sp := by
    split at ran
    · exact nsendfileLoop_ret_le ran
    · refine (nwriteLoop_ret_le ran).trans ?_
      exact_mod_cast List.length_take_le _ _
  unfold afterSend
  split
  · next failed =>
      rw [Int.toNat_of_nonpos failed.le]
      dsimp only
      have noBlock : ¬ (0 ≤ result.ret ∧ pendingBytes test sp = 0) := fun both => by omega
      rw [if_neg noBlock]
      exact ⟨next, (UInt64.add_zero _).symm, rfl⟩
  · next counts =>
      have taken : result.ret.toNat ≤ pendingBytes test sp := by omega
      have nonneg : 0 ≤ result.ret := by omega
      dsimp only
      simp only [nonneg, true_and]
      exact ⟨next.advance taken, next.advance_blocks some_ taken⟩

/-- One message of one stream. -/
theorem BlocksCounted.send (counted : BlocksCounted start test sent)
    (positive : 1 ≤ blockSize start)
    {position : Nat} {before : IperfTime} {io : SendIo} {r : Int}
    (sends : iperfSendMt test position before io = some (r, next))
    : BlocksCounted start next (Function.update sent position (sent position + r.toNat)) := by
  have block : blockSize test = blockSize start := congrArg (fun s => s.blksize.toInt.toNat)
    counted.settings
  obtain ⟨sp, sp', out, found, called, rfl, rfl⟩ := iperfSendMt_accounts sends
  obtain ⟨bytes, part⟩ := counted.streams position sp found
  have tcpCall : iperfTcpSend test sp io = some (out, sp') := by
    unfold protocolSend at called
    rw [counted.tcp] at called
    exact called
  rw [← block] at positive part
  obtain ⟨part', bytes', blocks⟩ := iperfTcpSend_partial tcpCall positive part
  rw [block] at part' blocks
  obtain ⟨inside, -⟩ := List.getElem?_eq_some_iff.mp found
  have member : position ∈ Finset.range test.streams.length := Finset.mem_range.mpr inside
  refine ⟨counted.tcp, counted.settings, fun other spOther foundOther => ?_, ?_, ?_⟩
  · dsimp only at foundOther
    by_cases same : other = position
    · subst same
      rw [List.getElem?_set_self inside] at foundOther
      obtain rfl := Option.some.inj foundOther
      rw [Function.update_self, bytes', bytes, ← UInt64.ofNat_add]
      exact ⟨rfl, part'⟩
    · rw [List.getElem?_set_ne (Ne.symm same)] at foundOther
      rw [Function.update_of_ne same]
      exact counted.streams other spOther foundOther
  · have sum := sum_update member sent (sent position + out.ret.toNat) id
    dsimp only [id] at sum ⊢
    rw [List.length_set, counted.bytesSent, ← UInt64.ofNat_add]
    congr 1
    omega
  · have sum := sum_update member sent (sent position + out.ret.toNat) (· / blockSize start)
    dsimp only at sum ⊢
    rw [blocks] at sum
    rw [List.length_set, counted.blocksSent]
    split_ifs with completes
    · rw [if_pos completes] at sum
      refine (UInt64.ofNat_add _ 1).symm.trans (congrArg UInt64.ofNat ?_)
      omega
    · rw [if_neg completes] at sum
      congr 1
      omega

/-- By induction on the run. -/
theorem SendRun.counted (run : SendRun start last sent) (fresh : FreshSenders start)
    : BlocksCounted start last sent := by
  induction run with
  | start => exact fresh.counted
  | send _ sends ih => exact ih.send fresh.block sends

/-- The bytes of a stream fit into its counter. -/
theorem BlocksCounted.bytes_toNat (counted : BlocksCounted start last sent)
    (fits : ∀ position < last.streams.length, sent position < 2 ^ 64) {position : Nat} {sp : Stream}
    (found : last.streams[position]? = some sp)
    : sp.result.bytesSent.toNat = sent position := by
  obtain ⟨inside, -⟩ := List.getElem?_eq_some_iff.mp found
  rw [(counted.streams position sp found).1]
  exact UInt64.toNat_ofNat_of_lt' (fits position inside)

/-- In every run the test's bytes and blocks are those of its streams, and every stream has whole
blocks and the part of one that is pending; the counters are of 64 bits, and what they stand for
is exact while the bytes of all streams fit into one.
-/
theorem blocks_counted (fresh : FreshSenders start) (run : SendRun start last sent)
    : (∀ position sp, last.streams[position]? = some sp →
        sp.result.bytesSent = UInt64.ofNat (sent position)
        ∧ Partial (blockSize start) (sent position) sp.pendingSize)
      ∧ last.bytesSent = UInt64.ofNat (∑ position ∈ Finset.range last.streams.length, sent position)
      ∧ last.blocksSent = UInt64.ofNat
        (∑ position ∈ Finset.range last.streams.length, sent position / blockSize start)
      ∧ (∑ position ∈ Finset.range last.streams.length, sent position < 2 ^ 64 →
        last.bytesSent.toNat = (last.streams.map (fun sp => sp.result.bytesSent.toNat)).sum
        ∧ last.blocksSent.toNat
          = (last.streams.map (fun sp => sp.result.bytesSent.toNat / blockSize start)).sum
        ∧ ∀ sp ∈ last.streams,
          Partial (blockSize start) sp.result.bytesSent.toNat sp.pendingSize) := by
  have counted := run.counted fresh
  refine ⟨counted.streams, counted.bytesSent, counted.blocksSent, fun fits => ?_⟩
  have each : ∀ position < last.streams.length, sent position < 2 ^ 64 := by
    intro position inside
    have member : position ∈ Finset.range last.streams.length := Finset.mem_range.mpr inside
    exact (Finset.single_le_sum (fun _ _ => Nat.zero_le _) member).trans_lt fits
  have blocks : ∑ position ∈ Finset.range last.streams.length, sent position / blockSize start
      ≤ ∑ position ∈ Finset.range last.streams.length, sent position :=
    Finset.sum_le_sum fun _ _ => Nat.div_le_self _ _
  refine ⟨?_, ?_, fun sp isOne => ?_⟩
  · rw [sum_map_eq fun _ _ found => counted.bytes_toNat each found, counted.bytesSent]
    exact UInt64.toNat_ofNat_of_lt' fits
  · have same : ∀ position sp, last.streams[position]? = some sp →
        sp.result.bytesSent.toNat / blockSize start = sent position / blockSize start :=
      fun _ _ found => by rw [counted.bytes_toNat each found]
    rw [sum_map_eq same, counted.blocksSent]
    exact UInt64.toNat_ofNat_of_lt' (blocks.trans_lt fits)
  · obtain ⟨position, found⟩ := List.getElem?_of_mem isOne
    rw [counted.bytes_toNat each found]
    exact (counted.streams position sp found).2

/-- Two streams with blocks of three bytes. -/
def smallSenders : Test :=
  {
    settings := { blksize := 3 }
    streams := [
      { socket := 3, sender := true, buffer := [1, 2, 3] },
      { socket := 4, sender := true, buffer := [4, 5, 6] }
    ]
  }

def sends (test : Test) (position : Nat) (writes : List WriteResult) : Option (Int × Test) :=
  iperfSendMt test position { secs := 0, usecs := 0 } { writes }

/-- The theorem at a block that is completed after a soft error and a block of another stream. -/
theorem blocks_counted_interleaved
    : ∃ last sent, SendRun smallSenders last sent ∧ last.blocksSent = 2
      ∧ last.bytesSent.toNat = (last.streams.map (fun sp => sp.result.bytesSent.toNat)).sum
      ∧ last.blocksSent.toNat
        = (last.streams.map (fun sp => sp.result.bytesSent.toNat / 3)).sum := by
  have fresh : FreshSenders smallSenders :=
    ⟨rfl, by decide, rfl, rfl, by decide, by decide⟩
  let ends (last : Test) : Bool := last.blocksSent = 2 && last.streams.length = 2
  have called : (sends smallSenders 0 [.accepted 2, .failed .eagain]).any (fun first =>
      first.1 = 2 && (sends first.2 0 [.failed .eagain]).any (fun second =>
        second.1 = -1 && (sends second.2 1 [.accepted 3]).any (fun third =>
          third.1 = 3 && (sends third.2 0 [.accepted 1]).any (fun last =>
            last.1 = 1 && ends last.2)))) = true := by
    decide +kernel
  obtain ⟨⟨r₁, first⟩, sent₁, rest⟩ := (Option.any_eq_true _ _).mp called
  obtain ⟨is₁, rest⟩ := Bool.and_eq_true_iff.mp rest
  obtain ⟨⟨r₂, second⟩, sent₂, rest⟩ := (Option.any_eq_true _ _).mp rest
  obtain ⟨is₂, rest⟩ := Bool.and_eq_true_iff.mp rest
  obtain ⟨⟨r₃, third⟩, sent₃, rest⟩ := (Option.any_eq_true _ _).mp rest
  obtain ⟨is₃, rest⟩ := Bool.and_eq_true_iff.mp rest
  obtain ⟨⟨r₄, last⟩, sent₄, rest⟩ := (Option.any_eq_true _ _).mp rest
  obtain ⟨is₄, rest⟩ := Bool.and_eq_true_iff.mp rest
  obtain ⟨blocks, streams⟩ := Bool.and_eq_true_iff.mp rest
  obtain rfl := of_decide_eq_true is₁
  obtain rfl := of_decide_eq_true is₂
  obtain rfl := of_decide_eq_true is₃
  obtain rfl := of_decide_eq_true is₄
  have run := (((SendRun.start.send sent₁).send sent₂).send sent₃).send sent₄
  have totals := (blocks_counted fresh run).2.2.2 (by
    rw [of_decide_eq_true streams]
    decide)
  exact ⟨last, _, run, of_decide_eq_true blocks, totals.1, totals.2.1⟩

end Iperf
