import Iperf.Model.Net
import Iperf.Model.Test

/-! `iperf_tcp_send` and `iperf_tcp_recv`, with what the loops below them do to the bytes. -/

namespace Iperf

/-- The results of the system calls behind one `iperf_tcp_send`. -/
structure SendIo where
  writes : List WriteResult := []
  sendfiles : List SendfileResult := []

/-- `iperf_tcp_send`. With `--zerocopy` it sends the buffer's file in place of the buffer. -/
def iperfTcpSend (test : Test) (sp : Stream) (io : SendIo) : Option (Sent × Stream) :=
  let pendingSize :=
    if sp.pendingSize = 0 then test.settings.blksize.toInt.toNat else sp.pendingSize
  let sent :=
    if test.zerocopy ≠ 0 then nsendfile sp.bufferFile pendingSize io.sendfiles
    else nwrite (sp.buffer.take pendingSize) io.writes
  sent.map fun sent =>
    if sent.ret < 0 then
      (sent, { sp with pendingSize })
    else
      let r := UInt64.ofNat sent.ret.toNat
      (sent, {
        sp with
        pendingSize := pendingSize - sent.ret.toNat
        result := {
          sp.result with
          bytesSent := sp.result.bytesSent + r
          bytesSentThisInterval := sp.result.bytesSentThisInterval + r
        }
      })

/-- `iperf_tcp_recv`; `results` are those of its `recv(2)` calls. -/
def iperfTcpRecv (test : Test) (sp : Stream) (results : List RecvResult)
    : Option (Int × Stream) :=
  let msgTrunc : Bool := test.settings.skipRxCopy ≠ 0
  (nrecvNoSelect msgTrunc sp.buffer test.settings.blksize.toInt.toNat results).map
    fun received =>
      let r := received.ret
      let sp := { sp with buffer := received.buffer }
      if r < 0 then
        (r, sp)
      else if test.state = .testRunning then
        let size := UInt64.ofNat r.toNat
        (r, {
          sp with
          result := {
            sp.result with
            bytesReceived := sp.result.bytesReceived + size
            bytesReceivedThisInterval := sp.result.bytesReceivedThisInterval + size
          }
        })
      else
        (r, sp)

/-- The block size as a count. -/
def blockSize (test : Test) : Nat := test.settings.blksize.toInt.toNat

theorem blockSize_lt (test : Test) : blockSize test < 2 ^ 31 := by
  have bound := test.settings.blksize.toInt_lt
  unfold blockSize
  omega

/-- The loop of `Nwrite` hands over a prefix of what is left, and a return value that is not
negative counts what was handed over. By induction on the results.
-/
theorem nwriteLoop_accepted {count : Nat} {sent left : List UInt8}
    {results : List WriteResult} {out : Sent}
    (ran : nwriteLoop count sent left results = some out)
    (total : count = sent.length + left.length) (small : count < 2 ^ 31)
    : ∃ taken, taken <+: left ∧ out.accepted = sent ++ taken
      ∧ (0 ≤ out.ret → out.ret = (sent ++ taken).length) := by
  induction results generalizing sent left with
  | nil =>
      cases left with
      | nil =>
          obtain rfl := Option.some.inj ran
          exact ⟨[], List.prefix_refl _, by simp, fun _ => by
            rw [toInt_of_lt small, total]
            simp⟩
      | cons byte left => cases ran
  | cons result results ih =>
      cases left with
      | nil =>
          obtain rfl := Option.some.inj ran
          exact ⟨[], List.prefix_refl _, by simp, fun _ => by
            rw [toInt_of_lt small, total]
            simp⟩
      | cons byte left =>
          have nothing : ([] : List UInt8) <+: byte :: left := List.nil_prefix
          cases result with
          | accepted n =>
              simp only [nwriteLoop] at ran
              split at ran
              · obtain rfl := Option.some.inj ran
                exact ⟨[], nothing, by simp, fun positive => by
                  simp [netSofterror] at positive⟩
              · -- the rest of the loop works on what this write left over
                have cut : ((byte :: left).take (min n (left.length + 1))).length
                    = min n (left.length + 1) := by simp
                obtain ⟨taken, isPrefix, accepted, counted⟩ := ih ran (by
                  simp only [List.length_append, List.length_drop, List.length_cons, cut]
                    at total ⊢
                  omega)
                refine ⟨(byte :: left).take (min n (left.length + 1)) ++ taken, ?_, ?_, ?_⟩
                · obtain ⟨rest, whole⟩ := isPrefix
                  exact ⟨rest, by rw [List.append_assoc, whole, List.take_append_drop]⟩
                · rw [accepted, List.append_assoc]
                · intro positive
                  rw [counted positive, List.append_assoc]
          | failed errno =>
              have shape : out.accepted = sent
                  ∧ (out.ret < 0 ∨ out.ret = toInt (count - (left.length + 1))) := by
                simp only [nwriteLoop] at ran
                cases errno <;> simp only at ran <;> (try split at ran)
                  <;> obtain rfl := Option.some.inj ran
                  <;> simp [netSofterror, netHarderror]
              refine ⟨[], nothing, by simp [shape.1], ?_⟩
              intro positive
              rcases shape.2 with negative | counted
              · omega
              · rw [counted, toInt_of_lt (by omega), List.append_nil]
                simp only [List.length_cons] at total
                omega

theorem nwrite_accepted {buf : List UInt8} {results : List WriteResult} {out : Sent}
    (ran : nwrite buf results = some out) (small : buf.length < 2 ^ 31)
    : out.accepted <+: buf ∧ (0 ≤ out.ret → out.ret = out.accepted.length) := by
  obtain ⟨taken, isPrefix, accepted, counted⟩ :=
    nwriteLoop_accepted ran (by simp) small
  rw [List.nil_append] at accepted counted
  exact ⟨accepted ▸ isPrefix, fun positive => accepted ▸ counted positive⟩

/-- Without `--zerocopy` the pending bytes at the front of the buffer are written, and those
accepted are no longer pending.
-/
theorem iperfTcpSend_copying {test : Test} {sp sp' : Stream} {io : SendIo} {n : Nat}
    {sent : Sent} (copying : test.zerocopy = 0)
    (pending : (if sp.pendingSize = 0 then blockSize test else sp.pendingSize) = n)
    (called : iperfTcpSend test sp io = some (sent, sp'))
    : nwrite (sp.buffer.take n) io.writes = some sent
      ∧ sp'.buffer = sp.buffer
      ∧ sp'.diskfileLeft = sp.diskfileLeft
      ∧ sp'.pendingSize = if sent.ret < 0 then n else n - sent.ret.toNat := by
  have size : (if sp.pendingSize = 0 then test.settings.blksize.toInt.toNat
      else sp.pendingSize) = n := pending
  unfold iperfTcpSend at called
  dsimp only at called
  rw [size, if_neg (by simp [copying]), Option.map_eq_some_iff] at called
  obtain ⟨written, ran, shape⟩ := called
  split at shape
  · next failed =>
      obtain ⟨rfl, rfl⟩ := Prod.mk.inj shape
      exact ⟨ran, rfl, rfl, by rw [if_pos failed]⟩
  · next succeeded =>
      obtain ⟨rfl, rfl⟩ := Prod.mk.inj shape
      exact ⟨ran, rfl, rfl, by rw [if_neg succeeded]⟩

/-- The results of a receiving call that gets the chunks and then finds no more data. -/
def chunkResults (chunks : List (List UInt8)) : List RecvResult :=
  chunks.map (fun chunk => .got chunk chunk.length) ++ [.failed .eagain]

/-- Chunks a connection can deliver into a buffer of the given size: none of them empty, and
together no more than fit.
-/
structure Deliverable (chunks : List (List UInt8)) (size : Nat) : Prop where
  nonempty : ∀ chunk ∈ chunks, chunk ≠ []
  fits : chunks.flatten.length ≤ size

/-- The loop of `Nrecv_no_select` stores the chunks one behind the other. By induction on the
chunks; `offset` bytes are already stored.
-/
theorem nrecvLoop_chunks {count offset left : Nat} {buffer : List UInt8}
    {chunks : List (List UInt8)} (deliverable : Deliverable chunks left)
    (total : count = offset + left) (small : count < 2 ^ 31) (room : count ≤ buffer.length)
    : ∃ buffer',
        nrecvLoop false count buffer offset left (chunkResults chunks)
          = some { ret := (offset + chunks.flatten.length : Nat), buffer := buffer' }
        ∧ buffer'.take (offset + chunks.flatten.length)
          = buffer.take offset ++ chunks.flatten
        ∧ buffer'.length = buffer.length := by
  induction chunks generalizing offset left buffer with
  | nil =>
      refine ⟨buffer, ?_, by simp, rfl⟩
      cases left with
      | zero =>
          have ret : toInt count = ((offset + 0 : Nat) : Int) := by
            rw [toInt_of_lt small]
            omega
          simp [chunkResults, nrecvLoop, ret]
      | succ left =>
          have ret : toInt (count - (left + 1)) = ((offset + 0 : Nat) : Int) := by
            rw [toInt_of_lt (by omega)]
            omega
          simp [chunkResults, nrecvLoop, ret]
  | cons chunk chunks ih =>
      obtain ⟨byte, rest, rfl⟩ :=
        List.exists_cons_of_ne_nil (deliverable.nonempty chunk (by simp))
      have fits := deliverable.fits
      simp only [List.flatten_cons, List.length_append, List.length_cons] at fits
      cases left with
      | zero => omega
      | succ left =>
          have next : Deliverable chunks (left - rest.length) :=
            ⟨fun other member => deliverable.nonempty other (by simp [member]), by omega⟩
          have copied : (Buffer.copyAt buffer offset (byte :: rest)).length = buffer.length :=
            Buffer.length_copyAt (by simp only [List.length_cons]; omega)
          obtain ⟨buffer', ran, stored, size⟩ :=
            @ih (offset + (rest.length + 1)) _ (Buffer.copyAt buffer offset (byte :: rest)) next
              (by omega) (by omega)
          refine ⟨buffer', ?_, ?_, size.trans copied⟩
          · simp only [chunkResults, List.map_cons, List.cons_append, nrecvLoop,
              List.length_cons, Nat.add_eq_zero_iff, one_ne_zero, and_false, if_false,
              Bool.false_eq_true, Nat.add_sub_add_right]
            rw [show chunks.map (fun chunk => RecvResult.got chunk chunk.length)
              ++ [.failed .eagain] = chunkResults chunks from rfl, ran]
            simp only [List.flatten_cons, List.length_append, List.length_cons]
            rw [Nat.add_assoc]
          · simp only [List.flatten_cons, List.length_append, List.length_cons]
            rw [← Nat.add_assoc, stored]
            have front : (Buffer.copyAt buffer offset (byte :: rest)).take
                (offset + (rest.length + 1)) = buffer.take offset ++ byte :: rest := by
              have taken : (buffer.take offset ++ byte :: rest).length
                  = offset + (rest.length + 1) := by
                simp only [List.length_append, List.length_take, List.length_cons]
                omega
              rw [Buffer.copyAt, List.take_left' taken]
            rw [front, List.append_assoc]

/-- `iperf_tcp_recv` leaves the chunks at the front of the buffer. -/
theorem iperfTcpRecv_chunks {test : Test} {sp : Stream} {chunks : List (List UInt8)}
    (copies : test.settings.skipRxCopy = 0) (room : sp.buffer.length = blockSize test)
    (deliverable : Deliverable chunks (blockSize test))
    : ∃ sp' : Stream,
        iperfTcpRecv test sp (chunkResults chunks) = some ((chunks.flatten.length : Int), sp')
        ∧ sp'.buffer.take chunks.flatten.length = chunks.flatten
        ∧ sp'.buffer.length = blockSize test := by
  obtain ⟨buffer, ran, stored, size⟩ :=
    nrecvLoop_chunks deliverable (Nat.zero_add _).symm (blockSize_lt test) room.ge
  rw [Nat.zero_add] at ran stored
  rw [List.take_zero, List.nil_append] at stored
  have received : nrecvNoSelect (decide (test.settings.skipRxCopy ≠ 0)) sp.buffer
      test.settings.blksize.toInt.toNat (chunkResults chunks)
      = some { ret := chunks.flatten.length, buffer } := by
    rw [copies]
    exact ran
  unfold iperfTcpRecv
  dsimp only
  rw [received, Option.map_some]
  have positive : ¬ ((chunks.flatten.length : Int) < 0) := by omega
  by_cases running : test.state = .testRunning
  · simp only [positive, running, if_true, if_false]
    exact ⟨_, rfl, stored, size.trans room⟩
  · simp only [positive, running, if_false]
    exact ⟨_, rfl, stored, size.trans room⟩

end Iperf
