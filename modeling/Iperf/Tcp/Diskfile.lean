import Iperf.Tcp.Streams

/-! File transfer with `-F`: `diskfile_send` refills the stream's buffer from the file and
slides what was not sent to its front, `diskfile_recv` writes what arrives.
-/

namespace Iperf

-----------------------------------------------------------------------------------------
-- The sending end
-----------------------------------------------------------------------------------------

/-- A sending stream with the rest of its file, `test->done`, and all the kernel accepted. -/
structure DiskfileSender where
  sp : Stream
  file : List UInt8
  done : Bool
  socket : List UInt8

/-- One call of `diskfile_send`: how much `read(2)` is willing to return and the results of
the send.
-/
structure DiskfileCall where
  readLength : Nat
  io : SendIo

/-- `read(2)` returns something when there is something, and at most what was asked for. -/
def readCount (readLength requested available : Nat) : Nat :=
  min (max 1 readLength) (min requested available)

/-- The first half of `diskfile_send`: refill the buffer. The second component is
`buffer_left`. The data is read to the front of the buffer, and `pending_size` is set only
when the buffer is not full.
-/
def diskfileFill (test : Test) (s : DiskfileSender) (readLength : Nat) : DiskfileSender × Nat :=
  let left := s.sp.diskfileLeft
  if left < blockSize test ∧ !s.done then
    let r := readCount readLength (blockSize test - left) s.file.length
    let bufferLeft := left + r
    ({
      s with
      sp := {
        s.sp with
        buffer := Buffer.copyAt s.sp.buffer 0 (s.file.take r)
        pendingSize := if bufferLeft ≠ blockSize test then bufferLeft else s.sp.pendingSize
      }
      file := s.file.drop r
      done := decide (bufferLeft = 0)
    }, bufferLeft)
  else
    (s, left)

/-- The last part of `diskfile_send`, with the outcome of the send: what was not sent is
looked for at the end of the buffer and slides to its front.
-/
def diskfileAfter (test : Test) (s : DiskfileSender) (bufferLeft : Nat) (sent : Sent)
    (sp : Stream) : DiskfileSender :=
  if sent.ret < 0 then
    { s with sp, socket := s.socket ++ sent.accepted }
  else
    let left := bufferLeft - sent.ret.toNat
    let buffer :=
      if left ≠ 0 ∧ left < blockSize test then
        Buffer.copyAt sp.buffer 0 (Buffer.slice sp.buffer (blockSize test - left) left)
      else
        sp.buffer
    {
      s with
      sp := { sp with diskfileLeft := left, buffer }
      socket := s.socket ++ sent.accepted
    }

/-- `diskfile_send`. -/
def diskfileSend (test : Test) (s : DiskfileSender) (call : DiskfileCall)
    : Option DiskfileSender :=
  let (s, bufferLeft) := diskfileFill test s call.readLength
  if s.done ∨ bufferLeft = 0 then
    some { s with done := true }
  else
    (iperfTcpSend test s.sp call.io).map
      (fun (sent, sp) => diskfileAfter test s bufferLeft sent sp)

/-- What happens on the sending end: a call, or the end of the test for another reason. -/
inductive DiskfileEvent where
  | send (call : DiskfileCall)
  | stop

def diskfileStep (test : Test) (s : DiskfileSender) : DiskfileEvent → Option DiskfileSender
  | .send call => diskfileSend test s call
  | .stop => some { s with done := true }

def diskfileRun (test : Test) : DiskfileSender → List DiskfileEvent → Option DiskfileSender
  | s, [] => some s
  | s, event :: rest => (diskfileStep test s event).bind (fun s => diskfileRun test s rest)

-----------------------------------------------------------------------------------------
-- The receiving end
-----------------------------------------------------------------------------------------

/-- `diskfile_recv`: the bytes received go to the file. -/
def diskfileRecv (test : Test) (sp : Stream) (written : List UInt8) (results : List RecvResult)
    : Option (Stream × List UInt8) :=
  (iperfTcpRecv test sp results).map fun (r, sp) =>
    if 0 < r then (sp, written ++ sp.buffer.take r.toNat) else (sp, written)

/-- Successive calls of `diskfile_recv`, each with the chunks that arrive during it. -/
def diskfileRecvRun (test : Test)
    : Stream → List UInt8 → List (List (List UInt8)) → Option (Stream × List UInt8)
  | sp, written, [] => some (sp, written)
  | sp, written, chunks :: rest =>
      (diskfileRecv test sp written (chunkResults chunks)).bind
        (fun (sp, written) => diskfileRecvRun test sp written rest)

/-- A receiver that copies what it receives writes it, whatever chunks it comes in. By
induction on the calls.
-/
theorem diskfileRecvRun_written {test : Test} {sp : Stream} {written : List UInt8}
    {calls : List (List (List UInt8))} (copies : test.settings.skipRxCopy = 0)
    (room : sp.buffer.length = blockSize test)
    (deliverable : ∀ chunks ∈ calls, Deliverable chunks (blockSize test))
    : ∃ sp', diskfileRecvRun test sp written calls
        = some (sp', written ++ (calls.map List.flatten).flatten) := by
  induction calls generalizing sp written with
  | nil => exact ⟨sp, by simp [diskfileRecvRun]⟩
  | cons chunks rest ih =>
      obtain ⟨next, received, stored, nextRoom⟩ :=
        iperfTcpRecv_chunks copies room (deliverable chunks (by simp))
      have called : diskfileRecv test sp written (chunkResults chunks)
          = some (next, written ++ chunks.flatten) := by
        rw [diskfileRecv, received, Option.map_some]
        by_cases data : 0 < chunks.flatten.length
        · simp only [Int.natCast_pos.mpr data, if_true, Int.toNat_natCast, stored]
        · have empty : chunks.flatten = [] := List.eq_nil_of_length_eq_zero (by omega)
          simp [empty]
      obtain ⟨final, finished⟩ := @ih next (written ++ chunks.flatten) nextRoom
        (fun other member => deliverable other (by simp [member]))
      refine ⟨final, ?_⟩
      rw [diskfileRecvRun, called, Option.bind_some]
      dsimp only
      rw [finished]
      simp [List.append_assoc]

-----------------------------------------------------------------------------------------
-- The invariant of an undisturbed transfer
-----------------------------------------------------------------------------------------

/-- The socket, what is left in the buffer and the rest of the file make up the file; there is
something left in the buffer only when the file is exhausted.
-/
structure Transferring (test : Test) (file : List UInt8) (s : DiskfileSender) : Prop where
  size : s.sp.buffer.length = blockSize test
  left : s.sp.diskfileLeft < blockSize test
  whole : s.socket ++ s.sp.buffer.take s.sp.diskfileLeft ++ s.file = file
  exhausted : s.sp.diskfileLeft ≠ 0 → s.file = []
  pending : s.sp.diskfileLeft = 0 → s.sp.pendingSize = 0

/-- What the refill achieves from such a state: `n` bytes at the front of the buffer are the
next ones of the file, and they are what will be sent.
-/
structure Filled (test : Test) (file : List UInt8) (s t : DiskfileSender) (n : Nat) : Prop where
  size : t.sp.buffer.length = blockSize test
  fits : n ≤ blockSize test
  socket : t.socket = s.socket
  left : t.sp.diskfileLeft = s.sp.diskfileLeft
  whole : t.socket ++ t.sp.buffer.take n ++ t.file = file
  pending : n ≠ 0 → (if t.sp.pendingSize = 0 then blockSize test else t.sp.pendingSize) = n
  done : t.done = decide (n = 0)
  empty : n = 0 → t.file = []
  idle : n = 0 → t.sp.pendingSize = 0
  covers : s.sp.diskfileLeft ≤ n
  unread : t.file.length = s.file.length → n ≠ 0 → s.sp.diskfileLeft = n ∧ t.sp.buffer = s.sp.buffer

theorem Transferring.fill {test : Test} {file : List UInt8} {s : DiskfileSender}
    (transferring : Transferring test file s) (running : s.done = false) (readLength : Nat)
    : Filled test file s (diskfileFill test s readLength).1
        (diskfileFill test s readLength).2 := by
  have left := transferring.left
  have size := transferring.size
  have whole := transferring.whole
  have branch : s.sp.diskfileLeft < blockSize test ∧ (!s.done) = true := ⟨left, by simp [running]⟩
  simp only [diskfileFill, branch, and_self, if_true]
  generalize count : readCount readLength (blockSize test - s.sp.diskfileLeft) s.file.length = r
  have requested : r ≤ blockSize test - s.sp.diskfileLeft := by
    rw [← count, readCount]
    omega
  have available : r ≤ s.file.length := by
    rw [← count, readCount]
    omega
  have stored : (s.file.take r).length = r := by simp [available]
  have copied : (Buffer.copyAt s.sp.buffer 0 (s.file.take r)).length = blockSize test := by
    rw [Buffer.length_copyAt (by omega), size]
  by_cases zero : s.sp.diskfileLeft = 0
  · -- nothing was left: the block read is the next one
    have front : (Buffer.copyAt s.sp.buffer 0 (s.file.take r)).take r = s.file.take r := by
      rw [Buffer.copyAt_zero, List.take_left' stored]
    have someRead : s.file ≠ [] → r ≠ 0 := by
      intro nonempty
      have positive := List.length_pos_iff.mpr nonempty
      rw [← count, readCount, zero]
      omega
    rw [zero, List.take_zero, List.append_nil] at whole
    simp only [zero, Nat.zero_add]
    refine ⟨copied, by omega, rfl, zero.symm, ?_, ?_, rfl, ?_, ?_, by omega, ?_⟩
    · rw [front, List.append_assoc, List.take_append_drop, whole]
    · intro nonzero
      have pending := transferring.pending zero
      dsimp only
      split_ifs <;> omega
    · intro none_
      have nothing : s.file = [] := by
        by_contra nonempty
        exact someRead nonempty none_
      simp [nothing]
    · intro none_
      dsimp only
      rw [if_pos (by omega), none_]
    · intro same nonzero
      rw [List.length_drop] at same
      omega
  · -- the file is exhausted: nothing is read, and the rest of the buffer is sent
    have exhausted := transferring.exhausted zero
    have none_ : r = 0 := by
      rw [exhausted, List.length_nil] at available
      omega
    have unchanged : Buffer.copyAt s.sp.buffer 0 (s.file.take 0) = s.sp.buffer := by
      simp [Buffer.copyAt_zero]
    subst none_
    simp only [Nat.add_zero, List.drop_zero, unchanged]
    refine ⟨size, by omega, rfl, rfl, whole, ?_, rfl, fun empty => absurd empty zero,
      fun empty => absurd empty zero, le_rfl, fun _ _ => ⟨rfl, rfl⟩⟩
    intro _
    dsimp only
    split_ifs <;> omega

/-- A call that does not disturb the transfer: it sends everything in the buffer; or it sends
a part of a full buffer with the file exhausted; or it sends nothing and had read nothing.
-/
def CleanCall (test : Test) (s : DiskfileSender) (call : DiskfileCall) : Prop :=
  s.done = true
  ∨ (diskfileFill test s call.readLength).2 = 0
  ∨ ∃ sent,
      nwrite ((diskfileFill test s call.readLength).1.sp.buffer.take
          (diskfileFill test s call.readLength).2) call.io.writes
        = some sent
      ∧ (sent.ret = (diskfileFill test s call.readLength).2
        ∨ (0 < sent.ret ∧ (diskfileFill test s call.readLength).2 = blockSize test
          ∧ (diskfileFill test s call.readLength).1.file = [])
        ∨ (sent.ret < 0 ∧ sent.accepted = []
          ∧ (diskfileFill test s call.readLength).1.file.length = s.file.length))

/-- The leftover of a full block, moved to the front. -/
theorem take_slide {buffer : List UInt8} {size sent : Nat} (length : buffer.length = size)
    (part : sent ≤ size)
    : (Buffer.copyAt buffer 0 (Buffer.slice buffer (size - (size - sent)) (size - sent))).take
        (size - sent)
      = buffer.drop sent := by
  have start : size - (size - sent) = sent := by omega
  have whole : Buffer.slice buffer sent (size - sent) = buffer.drop sent := by
    rw [Buffer.slice, List.take_of_length_le (by rw [List.length_drop]; omega)]
  rw [start, whole, Buffer.copyAt_zero]
  exact List.take_left' (by rw [List.length_drop, length])

section Outcomes

variable {test : Test} {file : List UInt8} {s t s' : DiskfileSender} {n : Nat} {sent : Sent}
  {sp' : Stream}

/-- Everything in the buffer went out. -/
theorem Filled.sentAll (filled : Filled test file s t n) (nonempty : n ≠ 0)
    (counted : 0 ≤ sent.ret → sent.ret = sent.accepted.length)
    (isPrefix : sent.accepted <+: t.sp.buffer.take n) (block : (t.sp.buffer.take n).length = n)
    (all : sent.ret = n) (buffer : sp'.buffer = t.sp.buffer)
    (pending : sp'.pendingSize = if sent.ret < 0 then n else n - sent.ret.toNat)
    (shape : diskfileAfter test t n sent sp' = s')
    : Transferring test file s' := by
  have fits := filled.fits
  have accepted : sent.accepted = t.sp.buffer.take n :=
    isPrefix.eq_of_length (by have := counted (by omega); omega)
  have positive : ¬ sent.ret < 0 := by omega
  have none_ : n - sent.ret.toNat = 0 := by omega
  rw [if_neg positive, none_] at pending
  rw [← shape, diskfileAfter, if_neg positive, none_]
  refine ⟨?_, by dsimp only; omega, ?_, fun nonzero => absurd rfl nonzero, fun _ => pending⟩
  · simp [buffer, filled.size]
  · simpa [accepted] using filled.whole

/-- A part of a full buffer went out, and nothing will be read over the rest. -/
theorem Filled.sentPart (filled : Filled test file s t n)
    (counted : 0 ≤ sent.ret → sent.ret = sent.accepted.length)
    (isPrefix : sent.accepted <+: t.sp.buffer.take n) (positive : 0 < sent.ret)
    (full : n = blockSize test) (exhausted : t.file = [])
    (buffer : sp'.buffer = t.sp.buffer)
    (pending : sp'.pendingSize = if sent.ret < 0 then n else n - sent.ret.toNat)
    (shape : diskfileAfter test t n sent sp' = s')
    : Transferring test file s' := by
  have size := filled.size
  have everything : t.sp.buffer.take n = t.sp.buffer :=
    List.take_of_length_le (by omega)
  have count := counted positive.le
  have whole := filled.whole
  rw [everything] at isPrefix whole
  have short := isPrefix.length_le
  have accepted : sent.accepted = t.sp.buffer.take sent.accepted.length :=
    List.prefix_iff_eq_take.mp isPrefix
  have ret : sent.ret.toNat = sent.accepted.length := by omega
  rw [if_neg (by omega), ret] at pending
  rw [← shape, diskfileAfter, if_neg (by omega), ret, full]
  generalize sent.accepted.length = k at *
  rw [exhausted, List.append_nil] at whole
  by_cases rest : blockSize test - k = 0
  · refine ⟨by simp [rest, buffer, size], by dsimp only; omega, ?_,
      fun nonzero => absurd rest nonzero, fun _ => by dsimp only; omega⟩
    have all : t.sp.buffer.take k = t.sp.buffer := List.take_of_length_le (by omega)
    simp only [rest, List.take_zero, List.append_nil, exhausted]
    rw [accepted, all, whole]
  · have moved : blockSize test - k ≠ 0 ∧ blockSize test - k < blockSize test := by omega
    simp only [moved, and_self, if_true, ne_eq, not_false_eq_true, buffer]
    refine ⟨?_, moved.2, ?_, fun _ => exhausted, fun zero => absurd zero rest⟩
    · dsimp only
      rw [Buffer.length_copyAt, size]
      rw [Buffer.slice, List.length_take, List.length_drop]
      omega
    · dsimp only
      rw [take_slide size (by omega), exhausted, List.append_nil, accepted, List.append_assoc,
        List.take_append_drop, whole]

/-- Nothing went out and nothing had been read: the call is repeated later. -/
theorem Filled.sentNothing (filled : Filled test file s t n)
    (transferring : Transferring test file s) (nonempty : n ≠ 0) (failed : sent.ret < 0)
    (none_ : sent.accepted = []) (unread : t.file.length = s.file.length)
    (buffer : sp'.buffer = t.sp.buffer) (left : sp'.diskfileLeft = t.sp.diskfileLeft)
    (shape : diskfileAfter test t n sent sp' = s')
    : Transferring test file s' := by
  obtain ⟨leftover, same⟩ := filled.unread unread nonempty
  have keptLeft : sp'.diskfileLeft = n := by rw [left, filled.left, leftover]
  have exhausted : t.file = [] := by
    have nothing := transferring.exhausted (by omega)
    rw [nothing, List.length_nil] at unread
    exact List.eq_nil_of_length_eq_zero unread
  have small := transferring.left
  rw [← shape, diskfileAfter, if_pos failed, none_, List.append_nil]
  refine ⟨by simp [buffer, filled.size], by dsimp only; omega, ?_, fun _ => exhausted,
    fun zero => absurd (keptLeft.symm.trans zero) nonempty⟩
  dsimp only
  rw [keptLeft, buffer]
  exact filled.whole

end Outcomes

/-- One call from a state of an undisturbed transfer: the socket still has a prefix of the
file, all of it when the call ends the test, and a clean call leaves such a state again.
-/
theorem Transferring.send {test : Test} {file : List UInt8} {s s' : DiskfileSender}
    {call : DiskfileCall} (transferring : Transferring test file s) (running : s.done = false)
    (copying : test.zerocopy = 0) (called : diskfileSend test s call = some s')
    : s'.socket <+: file
      ∧ (s'.done = true → s'.socket = file)
      ∧ (CleanCall test s call → Transferring test file s') := by
  have filled := transferring.fill running call.readLength
  have smallLeft := transferring.left
  unfold CleanCall
  unfold diskfileSend at called
  dsimp only at called
  generalize diskfileFill test s call.readLength = fill at filled called
  obtain ⟨t, n⟩ := fill
  dsimp only at filled called ⊢
  have whole := filled.whole
  by_cases nothing : n = 0
  · -- nothing left to send: the call only ends the test
    have finished : t.done = true := by simp [filled.done, nothing]
    rw [if_pos (Or.inl finished)] at called
    obtain rfl := Option.some.inj called
    rw [nothing, List.take_zero, List.append_nil, filled.empty nothing, List.append_nil] at whole
    have zero : t.sp.diskfileLeft = 0 := by
      have covers := filled.covers
      have left := filled.left
      omega
    refine ⟨by simp [whole], fun _ => whole, fun _ => ?_⟩
    refine ⟨filled.size, by dsimp only; omega, ?_, fun nonzero => absurd zero nonzero,
      fun _ => filled.idle nothing⟩
    dsimp only
    rw [zero, List.take_zero, List.append_nil, filled.empty nothing, List.append_nil, whole]
  · have continues : ¬ (t.done = true ∨ n = 0) := by simp [filled.done, nothing]
    have unfinished : t.done = false := by simp [filled.done, nothing]
    rw [if_neg continues, Option.map_eq_some_iff] at called
    obtain ⟨⟨sent, sp'⟩, sending, shape⟩ := called
    obtain ⟨written, buffer, left, pending⟩ :=
      iperfTcpSend_copying copying (filled.pending nothing) sending
    have fits := filled.fits
    have block : (t.sp.buffer.take n).length = n := by
      rw [List.length_take, filled.size]
      omega
    have bound := blockSize_lt test
    obtain ⟨isPrefix, counted⟩ := nwrite_accepted written (by omega)
    have socket : s'.socket = t.socket ++ sent.accepted ∧ s'.done = false := by
      rw [← shape]
      dsimp only
      rw [diskfileAfter]
      split <;> exact ⟨rfl, unfinished⟩
    refine ⟨?_, ?_, ?_⟩
    · obtain ⟨rest, blockEq⟩ := isPrefix
      rw [socket.1, ← whole, ← blockEq, List.append_assoc, List.append_assoc]
      exact ⟨rest ++ t.file, by simp [List.append_assoc]⟩
    · simp [socket.2]
    · rintro (done | empty | ⟨again, ran, outcome⟩)
      · simp [running] at done
      · exact absurd empty nothing
      · obtain rfl := Option.some.inj (ran.symm.trans written)
        rcases outcome with all | ⟨positive, full, exhausted⟩ | ⟨failed, none_, unread⟩
        · exact filled.sentAll nothing counted isPrefix block all buffer pending shape
        · exact filled.sentPart counted isPrefix positive full exhausted buffer pending shape
        · exact filled.sentNothing transferring nothing failed none_ unread buffer left shape

-----------------------------------------------------------------------------------------
-- Whole transfers
-----------------------------------------------------------------------------------------

/-- Every call of the run is clean in the state it is made in. -/
def CleanRun (test : Test) : DiskfileSender → List DiskfileEvent → Prop
  | _, [] => True
  | s, .send call :: rest =>
      CleanCall test s call ∧ ∀ s', diskfileSend test s call = some s' → CleanRun test s' rest
  | s, .stop :: rest => CleanRun test { s with done := true } rest

/-- A test that ended for another reason keeps what it has. -/
theorem Transferring.stop {test : Test} {file : List UInt8} {s : DiskfileSender}
    (transferring : Transferring test file s)
    : Transferring test file { s with done := true } :=
  ⟨transferring.size, transferring.left, transferring.whole, transferring.exhausted,
    transferring.pending⟩

theorem Transferring.socket_prefix {test : Test} {file : List UInt8} {s : DiskfileSender}
    (transferring : Transferring test file s)
    : s.socket <+: file := by
  rw [← transferring.whole, List.append_assoc]
  exact List.prefix_append _ _

/-- A call after the end of the test does nothing. -/
theorem diskfileSend_done (test : Test) {s : DiskfileSender} (call : DiskfileCall)
    (done : s.done = true)
    : diskfileSend test s call = some s := by
  have kept : { s with done := true } = s := by rw [← done]
  simp [diskfileSend, diskfileFill, done, kept]

/-- A run of clean calls keeps the invariant. Witness: induction on the events with
`Transferring.send` at each call.
-/
theorem Transferring.run {test : Test} {file : List UInt8} {s final : DiskfileSender}
    {events : List DiskfileEvent} (transferring : Transferring test file s)
    (copying : test.zerocopy = 0) (clean : CleanRun test s events)
    (ran : diskfileRun test s events = some final)
    : Transferring test file final := by
  induction events generalizing s with
  | nil =>
      obtain rfl := Option.some.inj ran
      exact transferring
  | cons event rest ih =>
      rw [diskfileRun, Option.bind_eq_some_iff] at ran
      obtain ⟨next, stepped, ran⟩ := ran
      cases event with
      | stop =>
          obtain rfl := Option.some.inj stepped
          exact ih transferring.stop clean ran
      | send call =>
          obtain ⟨cleanCall, cleanRest⟩ := clean
          refine ih ?_ (cleanRest next stepped) ran
          cases running : s.done with
          | true =>
              have same := diskfileSend_done test call running
              obtain rfl := Option.some.inj (same.symm.trans stepped)
              exact transferring
          | false => exact (transferring.send running copying stepped).2.2 cleanCall

/-- A stream as `iperf_new_stream` leaves it, with an unread file. -/
structure FreshSender (test : Test) (file : List UInt8) (s : DiskfileSender) : Prop where
  block : 0 < blockSize test
  size : s.sp.buffer.length = blockSize test
  left : s.sp.diskfileLeft = 0
  pending : s.sp.pendingSize = 0
  file : s.file = file
  socket : s.socket = []
  running : s.done = false

theorem FreshSender.transferring {test : Test} {file : List UInt8} {s : DiskfileSender}
    (fresh : FreshSender test file s)
    : Transferring test file s :=
  ⟨fresh.size, fresh.left ▸ fresh.block, by simp [fresh.socket, fresh.left, fresh.file],
    fun nonzero => absurd fresh.left nonzero, fun _ => fresh.pending⟩

/-- The receiving end of a transfer: it copies what it receives. -/
structure CopyingReceiver (test : Test) (sp : Stream) : Prop where
  copies : test.settings.skipRxCopy = 0
  size : sp.buffer.length = blockSize test

/-- In every run whose calls are clean, up to one last call of any kind, the socket has a
prefix of the file; when that call ends the test because nothing is left, it has the whole
file; and a peer that received a prefix of it wrote just that.
-/
theorem diskfile_integrity {test : Test} {file : List UInt8} {start s s' : DiskfileSender}
    {events : List DiskfileEvent} {last : Option DiskfileCall}
    (copying : test.zerocopy = 0) (fresh : FreshSender test file start)
    (clean : CleanRun test start events) (ran : diskfileRun test start events = some s)
    (final : match last with
      | some call => diskfileSend test s call = some s'
      | none => s' = s)
    : s.socket <+: file
      ∧ s'.socket <+: file
      ∧ (s.done = false → s'.done = true → s'.socket = file)
      ∧ ∀ (peer : Test) (sp : Stream) (calls : List (List (List UInt8))),
          CopyingReceiver peer sp
          → (∀ chunks ∈ calls, Deliverable chunks (blockSize peer))
          → (calls.map List.flatten).flatten <+: s'.socket
          → ∃ sp' written, diskfileRecvRun peer sp [] calls = some (sp', written)
              ∧ written <+: file
              ∧ ((calls.map List.flatten).flatten = s'.socket → s.done = false
                  → s'.done = true → written = file) := by
  have transferring := fresh.transferring.run copying clean ran
  have lastCall : s'.socket <+: file ∧ (s.done = false → s'.done = true → s'.socket = file) := by
    cases last with
    | none =>
        obtain rfl : s' = s := final
        exact ⟨transferring.socket_prefix, fun running done => by simp [running] at done⟩
    | some call =>
        cases running : s.done with
        | true =>
            have same := diskfileSend_done test call running
            obtain rfl := Option.some.inj (same.symm.trans final)
            exact ⟨transferring.socket_prefix, fun contra => by cases contra⟩
        | false =>
            obtain ⟨isPrefix, whole, -⟩ := transferring.send running copying final
            exact ⟨isPrefix, fun _ => whole⟩
  refine ⟨transferring.socket_prefix, lastCall.1, lastCall.2, ?_⟩
  intro peer sp calls receiver deliverable delivered
  obtain ⟨sp', received⟩ : ∃ sp', diskfileRecvRun peer sp [] calls
      = some (sp', [] ++ (calls.map List.flatten).flatten) :=
    diskfileRecvRun_written receiver.copies receiver.size deliverable
  refine ⟨sp', _, received, ?_, ?_⟩
  · exact List.IsPrefix.trans (by simpa using delivered) lastCall.1
  · intro all running done
    rw [List.nil_append, all]
    exact lastCall.2 running done

/-- A client that transfers a file in blocks of four bytes. -/
def fourByteBlocks : Test := { settings := { blksize := 4 } }

def fourByteSender (file : List UInt8) : DiskfileSender :=
  {
    sp := { socket := 5, sender := true, buffer := [0, 0, 0, 0] }
    file
    done := false
    socket := []
  }

/-- The peer's stream in that transfer. -/
def fourByteReceiver : Stream := { socket := 6, sender := false, buffer := [0, 0, 0, 0] }

theorem fourByteSender_fresh (file : List UInt8)
    : FreshSender fourByteBlocks file (fourByteSender file) :=
  ⟨by decide, rfl, rfl, rfl, rfl, rfl, rfl⟩

/-- A full and a short block. -/
def sixByteCalls : List DiskfileEvent :=
  [
    .send { readLength := 4, io := { writes := [.accepted 4] } },
    .send { readLength := 4, io := { writes := [.accepted 2] } }
  ]

theorem sixByteCalls_clean
    : CleanRun fourByteBlocks (fourByteSender [1, 2, 3, 4, 5, 6]) sixByteCalls := by
  refine ⟨Or.inr (Or.inr ⟨_, rfl, Or.inl (by decide)⟩), ?_⟩
  intro next stepped
  obtain rfl := Option.some.inj stepped
  refine ⟨Or.inr (Or.inr ⟨_, rfl, Or.inl (by decide)⟩), ?_⟩
  intro next stepped
  trivial

/-- A file of six bytes, sent in these blocks and received in three chunks. -/
theorem diskfile_integrity_six_bytes
    : ∃ s s',
        diskfileRun fourByteBlocks (fourByteSender [1, 2, 3, 4, 5, 6]) sixByteCalls = some s
        ∧ diskfileSend fourByteBlocks s { readLength := 4, io := {} } = some s'
        ∧ s'.socket = [1, 2, 3, 4, 5, 6]
        ∧ ∃ sp' written,
            diskfileRecvRun fourByteBlocks fourByteReceiver [] [[[1, 2, 3]], [[4], [5, 6]]]
              = some (sp', written)
            ∧ written = [1, 2, 3, 4, 5, 6] := by
  have deliverable : ∀ chunks ∈ ([[[1, 2, 3]], [[4], [5, 6]]] : List (List (List UInt8))),
      Deliverable chunks (blockSize fourByteBlocks) := by
    simp only [List.forall_mem_cons, List.not_mem_nil, false_implies, implies_true, and_true]
    exact ⟨⟨by decide, by decide⟩, ⟨by decide, by decide⟩⟩
  obtain ⟨s, s', ran, final, running, done⟩ : ∃ s s',
      diskfileRun fourByteBlocks (fourByteSender [1, 2, 3, 4, 5, 6]) sixByteCalls = some s
      ∧ diskfileSend fourByteBlocks s { readLength := 4, io := {} } = some s'
      ∧ s.done = false ∧ s'.done = true := ⟨_, _, rfl, rfl, by decide, by decide⟩
  obtain ⟨-, -, whole, receives⟩ :=
    @diskfile_integrity _ _ _ _ _ _ (some { readLength := 4, io := {} }) rfl
      (fourByteSender_fresh _) sixByteCalls_clean ran final
  have socket := whole running done
  obtain ⟨sp', written, received, -, same⟩ := receives fourByteBlocks fourByteReceiver
    [[[1, 2, 3]], [[4], [5, 6]]] ⟨rfl, rfl⟩ deliverable (by rw [socket]; decide)
  exact ⟨s, s', ran, final, socket, sp', written, received,
    same (by rw [socket]; rfl) running done⟩

/-- Two bytes of a full block are accepted; the next call reads over the other two, and the
peer gets bytes five and six after bytes one and two.
-/
theorem diskfile_partial_send_corrupts
    : ∃ s', diskfileRun fourByteBlocks (fourByteSender [1, 2, 3, 4, 5, 6, 7, 8])
        [
          .send { readLength := 4, io := { writes := [.accepted 2, .failed .eagain] } },
          .send { readLength := 4, io := { writes := [.accepted 2] } }
        ] = some s'
      ∧ s'.socket = [1, 2, 5, 6]
      ∧ ¬ s'.socket <+: [1, 2, 3, 4, 5, 6, 7, 8] :=
  ⟨_, rfl, by decide, by decide⟩

end Iperf
