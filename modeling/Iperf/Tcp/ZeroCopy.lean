import Iperf.Tcp.SendOutcomes

/-! What `--zerocopy` puts on the socket over a whole test: as many bytes as the ordinary path,
all of them zeros.
-/

namespace Iperf

-----------------------------------------------------------------------------------------
-- A stream without a file
-----------------------------------------------------------------------------------------

/-- What the calls of `iperf_tcp_send` put on the socket, one after the other. -/
def sentOnSocket (test : Test) : Stream → List (List SendOutcome) → Option (List UInt8)
  | _, [] => some []
  | sp, outcomes :: calls =>
      (iperfTcpSend test sp (sendIo outcomes)).bind fun (sent, sp) =>
        (sentOnSocket test sp calls).map (sent.accepted ++ ·)

/-- Every byte is zero. -/
def Zeros (bytes : List UInt8) : Prop := ∀ byte ∈ bytes, byte = 0

theorem Zeros.eq_replicate {bytes : List UInt8} (zeros : Zeros bytes)
    : bytes = List.replicate bytes.length 0 :=
  List.eq_replicate_of_mem zeros

theorem zeros_replicate (n : Nat) : Zeros (List.replicate n 0) :=
  fun _ member => List.eq_of_mem_replicate member

/-- With `--zerocopy` a run puts as many bytes on the socket, all of them zeros. By induction
on the calls.
-/
theorem Mapped.sentOnSocket_zerocopy {test : Test} {sp : Stream} (mapped : Mapped test sp)
    (calls : List (List SendOutcome))
    : sentOnSocket (withZerocopy test 1) sp calls
      = (sentOnSocket (withZerocopy test 0) sp calls).map
          fun wire => List.replicate wire.length 0 := by
  induction calls generalizing sp with
  | nil => rfl
  | cons outcomes calls ih =>
      rw [sentOnSocket, sentOnSocket, mapped.zerocopy, mapped.ordinary]
      cases ran : progress (pendingBytes test sp) (pendingBytes test sp) outcomes with
      | none => rfl
      | some p =>
          have bound := mapped.pendingBytes_le
          have short := progress_le ran
          have size : (sp.buffer.take p.sent).length = p.sent := by
            rw [List.length_take, mapped.buffer]
            omega
          simp only [Option.map_some, Option.bind_some]
          rw [ih (mapped.afterSend bound), Option.map_map, Option.map_map]
          congr 1
          funext wire
          simp only [Function.comp, List.length_append, size, List.replicate_add]

/-- The ordinary path sends nothing but pieces of the buffer. By induction on the calls. -/
theorem Mapped.sentOnSocket_mem {test : Test} {sp : Stream} (mapped : Mapped test sp)
    {calls : List (List SendOutcome)} {wire : List UInt8}
    (ran : sentOnSocket (withZerocopy test 0) sp calls = some wire)
    : ∀ byte ∈ wire, byte ∈ sp.buffer := by
  induction calls generalizing sp wire with
  | nil =>
      obtain rfl := Option.some.inj ran
      exact fun _ member => (List.not_mem_nil member).elim
  | cons outcomes calls ih =>
      rw [sentOnSocket, mapped.ordinary, Option.bind_eq_some_iff] at ran
      obtain ⟨⟨sent, next⟩, called, ran⟩ := ran
      obtain ⟨p, -, shape⟩ := Option.map_eq_some_iff.mp called
      obtain ⟨rfl, rfl⟩ := Prod.mk.inj shape
      obtain ⟨more, later, rfl⟩ := Option.map_eq_some_iff.mp ran
      intro byte member
      rcases List.mem_append.mp member with first | rest
      · exact List.mem_of_mem_take first
      · have kept := afterSend_buffer sp (pendingBytes test sp)
          (p.nwriteRet (pendingBytes test sp))
        exact kept ▸ ih (mapped.afterSend mapped.pendingBytes_le) later byte rest

/-- A call that is accepted whole sends all that is pending. -/
theorem progress_whole (count : Nat)
    : progress count count [.took count] = some { sent := count, failure := none } := by
  cases count with
  | zero => rfl
  | succ count => rw [progress, Nat.sub_eq_zero_of_le (Nat.le_succ count), progress]

/-- Both paths put the same bytes on the socket in every run exactly when the payload is all
zeros.
-/
theorem Mapped.sameOnSocket_iff {test : Test} {sp : Stream} (mapped : Mapped test sp)
    (idle : sp.pendingSize = 0)
    : (∀ calls, sentOnSocket (withZerocopy test 1) sp calls
        = sentOnSocket (withZerocopy test 0) sp calls)
      ↔ Zeros sp.buffer := by
  constructor
  · intro same
    have whole : pendingBytes test sp = blockSize test := by rw [pendingBytes, if_pos idle]
    have full : sp.buffer.take (blockSize test) = sp.buffer :=
      List.take_of_length_le mapped.buffer.le
    have wire : sentOnSocket (withZerocopy test 0) sp [[.took (blockSize test)]]
        = some sp.buffer := by
      rw [sentOnSocket, mapped.ordinary, whole, progress_whole]
      simp [sentOnSocket, full]
    have zeros := (mapped.sentOnSocket_zerocopy [[.took (blockSize test)]]).symm.trans (same _)
    rw [wire, Option.map_some] at zeros
    exact Option.some.inj zeros ▸ zeros_replicate _
  · intro zeros calls
    rw [mapped.sentOnSocket_zerocopy]
    cases ran : sentOnSocket (withZerocopy test 0) sp calls with
    | none => rfl
    | some wire =>
        have empty : Zeros wire := fun byte member =>
          zeros byte (mapped.sentOnSocket_mem ran byte member)
        rw [Option.map_some, ← empty.eq_replicate]

-----------------------------------------------------------------------------------------
-- A stream with a file
-----------------------------------------------------------------------------------------

/-- What happens on the sending end of `-F`, with the outcomes either path meets. -/
inductive FileStep where
  | send (readLength : Nat) (outcomes : List SendOutcome)
  | stop

def FileStep.event : FileStep → DiskfileEvent
  | .send readLength outcomes => .send { readLength, io := sendIo outcomes }
  | .stop => .stop

/-- The sending end after some steps. -/
def fileAfter (test : Test) (s : DiskfileSender) (steps : List FileStep)
    : Option DiskfileSender :=
  diskfileRun test s (steps.map FileStep.event)

/-- A stream with its file unread. -/
def fileSender (sp : Stream) (file : List UInt8) : DiskfileSender :=
  { sp, file, done := false, socket := [] }

/-- Whatever `read(2)` returns, a call of `iperf_tcp_send` that follows finds zeros only. -/
def SendsZeros (test : Test) (s : DiskfileSender) : Prop :=
  ∀ readLength,
    ¬ ((diskfileFill test s readLength).1.done = true ∨ (diskfileFill test s readLength).2 = 0)
    → Zeros ((diskfileFill test s readLength).1.sp.buffer.take
        (pendingBytes test (diskfileFill test s readLength).1.sp))

/-- The same sender after it sent zeros in place of everything. -/
def blanked (s : DiskfileSender) : DiskfileSender :=
  { s with socket := List.replicate s.socket.length 0 }

theorem zeros_blanked (s : DiskfileSender) : Zeros (blanked s).socket := zeros_replicate _

theorem diskfileFill_blanked (test : Test) (s : DiskfileSender) (readLength : Nat)
    : diskfileFill test (blanked s) readLength
      = (blanked (diskfileFill test s readLength).1, (diskfileFill test s readLength).2) := by
  unfold diskfileFill blanked
  dsimp only
  split <;> rfl

theorem readCount_le (readLength requested available : Nat)
    : readCount readLength requested available ≤ requested := by
  unfold readCount
  omega

section File

variable {test : Test} {s s' : DiskfileSender} {sp : Stream}

theorem Mapped.fill {t : DiskfileSender} {readLength n : Nat} (mapped : Mapped test s.sp)
    (filled : diskfileFill test s readLength = (t, n))
    : Mapped test t.sp := by
  have bound := readCount_le readLength (blockSize test - s.sp.diskfileLeft) s.file.length
  obtain rfl := (congrArg Prod.fst filled).symm
  unfold diskfileFill
  dsimp only
  split
  · next room =>
      refine ⟨?_, mapped.file, ?_⟩
      · dsimp only
        rw [Buffer.length_copyAt, mapped.buffer]
        rw [List.length_take, mapped.buffer]
        omega
      · dsimp only
        split
        · omega
        · exact mapped.pending
  · exact mapped

theorem Mapped.after (mapped : Mapped test sp) (n : Nat) (sent : Sent)
    : Mapped test (diskfileAfter test s n sent sp).sp := by
  unfold diskfileAfter
  split
  · exact mapped
  · refine ⟨?_, mapped.file, mapped.pending⟩
    dsimp only
    split
    · next moved =>
        rw [Buffer.length_copyAt, mapped.buffer]
        rw [Buffer.slice, List.length_take, List.length_drop, mapped.buffer]
        omega
    · exact mapped.buffer

theorem diskfileFill_socket (test : Test) (s : DiskfileSender) (readLength : Nat)
    : (diskfileFill test s readLength).1.socket = s.socket := by
  unfold diskfileFill
  dsimp only
  split <;> rfl

theorem diskfileAfter_socket (test : Test) (s : DiskfileSender) (n : Nat) (sent : Sent)
    (sp : Stream)
    : (diskfileAfter test s n sent sp).socket = s.socket ++ sent.accepted := by
  unfold diskfileAfter
  split <;> rfl

/-- The two paths slide the buffer the same way. -/
theorem diskfileAfter_blanked {sent blank : Sent} (n : Nat)
    (alike : blank.ret = sent.ret ∨ blank.ret < 0 ∧ sent.ret < 0)
    (zeros : blank.accepted = List.replicate sent.accepted.length 0)
    : diskfileAfter test (blanked s) n blank sp = blanked (diskfileAfter test s n sent sp) := by
  have wire : List.replicate s.socket.length 0 ++ blank.accepted
      = List.replicate (s.socket ++ sent.accepted).length 0 := by
    rw [zeros, List.length_append, List.replicate_add]
  unfold diskfileAfter blanked
  dsimp only
  by_cases failed : sent.ret < 0
  · have failedToo : blank.ret < 0 := by omega
    rw [if_pos failed, if_pos failedToo, wire]
  · have same : blank.ret = sent.ret := by omega
    rw [same, if_neg failed, if_neg failed, wire]

/-- `diskfile_send` on the ordinary path. -/
theorem Mapped.diskfileSend (mapped : Mapped test s.sp) {readLength : Nat}
    {outcomes : List SendOutcome} {t : DiskfileSender} {n : Nat}
    (filled : diskfileFill test s readLength = (t, n))
    : Iperf.diskfileSend (withZerocopy test 0) s { readLength, io := sendIo outcomes }
      = if t.done = true ∨ n = 0 then some { t with done := true }
        else
          (progress (pendingBytes test t.sp) (pendingBytes test t.sp) outcomes).map fun p =>
            diskfileAfter test t n
              {
                ret := p.nwriteRet (pendingBytes test t.sp)
                accepted := t.sp.buffer.take p.sent
              }
              (Iperf.afterSend t.sp (pendingBytes test t.sp)
                (p.nwriteRet (pendingBytes test t.sp))) := by
  have mappedNow := mapped.fill filled
  have same : diskfileFill (withZerocopy test 0) s readLength = (t, n) := filled
  unfold Iperf.diskfileSend
  rw [same]
  dsimp only
  rw [mappedNow.ordinary, Option.map_map]
  rfl

/-- `diskfile_send` with `--zerocopy` does the same and sends zeros. -/
theorem Mapped.diskfileSend_zerocopy (mapped : Mapped test s.sp) (readLength : Nat)
    (outcomes : List SendOutcome)
    : Iperf.diskfileSend (withZerocopy test 1) (blanked s) { readLength, io := sendIo outcomes }
      = (Iperf.diskfileSend (withZerocopy test 0) s { readLength, io := sendIo outcomes }).map
          blanked := by
  obtain ⟨⟨t, n⟩, filled⟩ : ∃ fill, diskfileFill test s readLength = fill := ⟨_, rfl⟩
  have mappedNow := mapped.fill filled
  have blank := diskfileFill_blanked test s readLength
  rw [filled] at blank
  have same : diskfileFill (withZerocopy test 1) (blanked s) readLength = (blanked t, n) := blank
  rw [mapped.diskfileSend filled]
  unfold Iperf.diskfileSend
  rw [same]
  dsimp only
  by_cases stops : t.done = true ∨ n = 0
  · have overToo : (blanked t).done = true ∨ n = 0 := stops
    rw [if_pos overToo, if_pos stops]
    rfl
  · have goingToo : ¬ ((blanked t).done = true ∨ n = 0) := stops
    have mappedBlank : Mapped test (blanked t).sp := mappedNow
    rw [if_neg goingToo, if_neg stops, mappedBlank.zerocopy, Option.map_map, Option.map_map]
    apply Option.map_congr
    intro p ran
    have bound := mappedNow.pendingBytes_le
    have short : p.sent ≤ pendingBytes test t.sp := progress_le ran
    have size : (t.sp.buffer.take p.sent).length = p.sent := by
      rw [List.length_take, mappedNow.buffer]
      omega
    exact diskfileAfter_blanked n (p.ret_alike _) (by rw [size])

/-- One call on the ordinary path keeps the mapping and sends a piece of what is pending, if
anything.
-/
theorem Mapped.diskfileSend_sends (mapped : Mapped test s.sp) {readLength : Nat}
    {outcomes : List SendOutcome}
    (called : Iperf.diskfileSend (withZerocopy test 0) s { readLength, io := sendIo outcomes }
      = some s')
    : Mapped test s'.sp
      ∧ (SendsZeros test s → Zeros s.socket → Zeros s'.socket) := by
  obtain ⟨⟨t, n⟩, filled⟩ : ∃ fill, diskfileFill test s readLength = fill := ⟨_, rfl⟩
  have mappedNow := mapped.fill filled
  have socket := diskfileFill_socket test s readLength
  rw [filled] at socket
  rw [mapped.diskfileSend filled] at called
  split at called
  · obtain rfl := Option.some.inj called
    exact ⟨mappedNow, fun _ zeros => (socket ▸ zeros : Zeros t.socket)⟩
  · next going =>
      obtain ⟨p, ran, rfl⟩ := Option.map_eq_some_iff.mp called
      refine ⟨(mappedNow.afterSend mappedNow.pendingBytes_le).after n _, ?_⟩
      intro sendsZeros zeros byte member
      rw [diskfileAfter_socket, socket] at member
      rcases List.mem_append.mp member with before | sent
      · exact zeros byte before
      · have pending := sendsZeros readLength
        rw [filled] at pending
        refine pending going byte ?_
        rw [← Nat.min_eq_left (progress_le ran), ← List.take_take] at sent
        exact List.mem_of_mem_take sent

/-- A run with `--zerocopy` goes the same way and sends zeros. By induction on the steps. -/
theorem Mapped.fileAfter_zerocopy (mapped : Mapped test s.sp) (steps : List FileStep)
    : fileAfter (withZerocopy test 1) (blanked s) steps
      = (fileAfter (withZerocopy test 0) s steps).map blanked := by
  induction steps generalizing s with
  | nil => rfl
  | cons step steps ih =>
      cases step with
      | stop =>
          have stopped : Mapped test ({ s with done := true } : DiskfileSender).sp := mapped
          exact ih stopped
      | send readLength outcomes =>
          simp only [fileAfter, List.map_cons, FileStep.event, diskfileRun, diskfileStep]
          rw [mapped.diskfileSend_zerocopy]
          cases called : Iperf.diskfileSend (withZerocopy test 0) s
              { readLength, io := sendIo outcomes } with
          | none => rfl
          | some next => exact ih (mapped.diskfileSend_sends called).1

/-- While every call finds zeros, zeros go out. By induction on the steps. -/
theorem Mapped.fileAfter_zeros (mapped : Mapped test s.sp) {steps : List FileStep}
    (always : ∀ steps t, fileAfter (withZerocopy test 0) s steps = some t → SendsZeros test t)
    (zeros : Zeros s.socket) (ran : fileAfter (withZerocopy test 0) s steps = some s')
    : Zeros s'.socket := by
  induction steps generalizing s with
  | nil =>
      obtain rfl := Option.some.inj ran
      exact zeros
  | cons step steps ih =>
      obtain ⟨next, called, rest⟩ := Option.bind_eq_some_iff.mp ran
      have alwaysNext : ∀ steps t, fileAfter (withZerocopy test 0) next steps = some t
          → SendsZeros test t := fun more t reached =>
        always (step :: more) t (Option.bind_eq_some_iff.mpr ⟨next, called, reached⟩)
      cases step with
      | stop =>
          obtain rfl := Option.some.inj called
          exact @ih { s with done := true } mapped alwaysNext zeros rest
      | send readLength outcomes =>
          obtain ⟨mappedNext, sends⟩ := mapped.diskfileSend_sends called
          exact ih mappedNext alwaysNext (sends (always [] s rfl) zeros) rest

theorem Mapped.fileAfter (mapped : Mapped test s.sp) {steps : List FileStep}
    (ran : Iperf.fileAfter (withZerocopy test 0) s steps = some s')
    : Mapped test s'.sp := by
  induction steps generalizing s with
  | nil =>
      obtain rfl := Option.some.inj ran
      exact mapped
  | cons step steps ih =>
      obtain ⟨next, called, rest⟩ := Option.bind_eq_some_iff.mp ran
      cases step with
      | stop =>
          obtain rfl := Option.some.inj called
          exact @ih { s with done := true } mapped rest
      | send readLength outcomes => exact ih (mapped.diskfileSend_sends called).1 rest

theorem fileAfter_snoc {steps : List FileStep} {step : FileStep}
    (ran : Iperf.fileAfter test s steps = some s')
    : Iperf.fileAfter test s (steps ++ [step]) = diskfileStep test s' step.event := by
  induction steps generalizing s with
  | nil =>
      obtain rfl := Option.some.inj ran
      exact Option.bind_fun_some _
  | cons first steps ih =>
      obtain ⟨next, called, rest⟩ := Option.bind_eq_some_iff.mp ran
      have whole := ih rest
      simp only [Iperf.fileAfter, List.map_cons, List.cons_append, diskfileRun] at whole ⊢
      rw [called, Option.bind_some, whole]

/-- The socket gets the same bytes on both paths exactly when every call of `iperf_tcp_send`
finds zeros only.
-/
theorem Mapped.sameFile_iff (mapped : Mapped test sp) (file : List UInt8)
    : (∀ steps, (Iperf.fileAfter (withZerocopy test 1) (fileSender sp file) steps).map
          DiskfileSender.socket
        = (Iperf.fileAfter (withZerocopy test 0) (fileSender sp file) steps).map
          DiskfileSender.socket)
      ↔ ∀ steps s, Iperf.fileAfter (withZerocopy test 0) (fileSender sp file) steps = some s
          → SendsZeros test s := by
  have start : Mapped test (fileSender sp file).sp := mapped
  have zerocopy (steps : List FileStep)
      : Iperf.fileAfter (withZerocopy test 1) (fileSender sp file) steps
        = (Iperf.fileAfter (withZerocopy test 0) (fileSender sp file) steps).map blanked :=
    start.fileAfter_zerocopy steps
  constructor
  · intro same steps s ran readLength going
    obtain ⟨⟨t, n⟩, filled⟩ : ∃ fill, diskfileFill test s readLength = fill := ⟨_, rfl⟩
    have mappedThen := start.fileAfter ran
    rw [filled] at going ⊢
    dsimp only at going ⊢
    -- one more call that is accepted whole
    let step : FileStep := .send readLength [.took (pendingBytes test t.sp)]
    have called : diskfileStep (withZerocopy test 0) s step.event = _ :=
      mappedThen.diskfileSend filled
    rw [if_neg going, progress_whole, Option.map_some] at called
    have sent := (fileAfter_snoc ran).trans called
    have equal := same (steps ++ [step])
    rw [zerocopy, sent, Option.map_some, Option.map_some, Option.map_some] at equal
    have zeros : Zeros (s.socket ++ t.sp.buffer.take (pendingBytes test t.sp)) := by
      have socket := diskfileFill_socket test s readLength
      have wire := Option.some.inj equal
      rw [filled] at socket
      rw [diskfileAfter_socket, socket] at wire
      rw [← wire]
      exact zeros_blanked _
    exact fun byte member => zeros byte (List.mem_append_right _ member)
  · intro always steps
    rw [zerocopy]
    cases ran : Iperf.fileAfter (withZerocopy test 0) (fileSender sp file) steps with
    | none => rfl
    | some s =>
        have empty : Zeros s.socket :=
          start.fileAfter_zeros always (fun _ member => (List.not_mem_nil member).elim) ran
        simp only [Option.map_some, blanked]
        rw [← empty.eq_replicate]

/-- Data of zeros stays zeros, in the buffer and in the rest of the file. -/
structure ZeroData (s : DiskfileSender) : Prop where
  buffer : Zeros s.sp.buffer
  file : Zeros s.file

theorem Zeros.copyAt {buffer block : List UInt8} (zeros : Zeros buffer) (blockZeros : Zeros block)
    (offset : Nat)
    : Zeros (Buffer.copyAt buffer offset block) := by
  intro byte member
  rcases List.mem_append.mp member with front | behind
  · rcases List.mem_append.mp front with before | copied
    · exact zeros byte (List.mem_of_mem_take before)
    · exact blockZeros byte copied
  · exact zeros byte (List.mem_of_mem_drop behind)

theorem ZeroData.fill (zero : ZeroData s) (readLength : Nat)
    : ZeroData (diskfileFill test s readLength).1 := by
  unfold diskfileFill
  dsimp only
  split
  · exact ⟨zero.buffer.copyAt (fun byte member => zero.file byte (List.mem_of_mem_take member)) 0,
      fun byte member => zero.file byte (List.mem_of_mem_drop member)⟩
  · exact zero

theorem ZeroData.after (zero : ZeroData s) (n : Nat) (sent : Sent) (kept : sp.buffer = s.sp.buffer)
    : ZeroData (diskfileAfter test s n sent sp) := by
  have buffer : Zeros sp.buffer := kept ▸ zero.buffer
  unfold diskfileAfter
  split
  · exact ⟨buffer, zero.file⟩
  · refine ⟨?_, zero.file⟩
    dsimp only
    split
    · exact buffer.copyAt (fun byte member =>
        buffer byte (List.mem_of_mem_drop (List.mem_of_mem_take member))) 0
    · exact buffer

/-- A run over data of zeros keeps it so. By induction on the steps. -/
theorem ZeroData.fileAfter (zero : ZeroData s) (mapped : Mapped test s.sp)
    {steps : List FileStep} (ran : Iperf.fileAfter (withZerocopy test 0) s steps = some s')
    : ZeroData s' := by
  induction steps generalizing s with
  | nil =>
      obtain rfl := Option.some.inj ran
      exact zero
  | cons step steps ih =>
      obtain ⟨next, called, rest⟩ := Option.bind_eq_some_iff.mp ran
      cases step with
      | stop =>
          obtain rfl := Option.some.inj called
          exact @ih { s with done := true } ⟨zero.buffer, zero.file⟩ mapped rest
      | send readLength outcomes =>
          refine ih ?_ (mapped.diskfileSend_sends called).1 rest
          obtain ⟨⟨t, n⟩, filled⟩ : ∃ fill, diskfileFill test s readLength = fill := ⟨_, rfl⟩
          have zeroNow := @ZeroData.fill test s zero readLength
          have stepped := (mapped.diskfileSend filled).symm.trans called
          rw [filled] at zeroNow
          split at stepped
          · obtain rfl := Option.some.inj stepped
            exact ⟨zeroNow.buffer, zeroNow.file⟩
          · obtain ⟨p, -, rfl⟩ := Option.map_eq_some_iff.mp stepped
            exact zeroNow.after n _ (afterSend_buffer _ _ _)

theorem ZeroData.sendsZeros (zero : ZeroData s)
    : SendsZeros test s := fun readLength _ byte member =>
  (zero.fill readLength).buffer byte (List.mem_of_mem_take member)

/-- A refill that gets one byte puts it at the front of the buffer. -/
theorem DiskfileSender.fill_one {byte : UInt8} {rest : List UInt8} (block : 0 < blockSize test)
    (empty : s.sp.diskfileLeft = 0) (running : s.done = false) (shape : s.file = byte :: rest)
    : ∃ t,
        diskfileFill test s 1 = (t, 1)
        ∧ t.sp.buffer = Buffer.copyAt s.sp.buffer 0 [byte]
        ∧ t.sp.diskfileLeft = 0
        ∧ t.file = rest
        ∧ t.done = false := by
  have one : readCount 1 (blockSize test - 0) (byte :: rest).length = 1 := by
    simp only [readCount, List.length_cons]
    omega
  unfold diskfileFill
  dsimp only
  rw [empty, running, if_pos ⟨block, rfl⟩, shape, one]
  exact ⟨_, rfl, rfl, rfl, rfl, rfl⟩

/-- A file of which every byte comes to the front of an idle stream's buffer is sent as zeros
only when it is zeros. By induction on the file: each byte is read alone, and the socket is
full when it is to be sent.
-/
theorem Mapped.file_zeros (mapped : Mapped test s.sp) (block : 0 < blockSize test)
    (empty : s.sp.diskfileLeft = 0) (running : s.done = false)
    (always : ∀ steps t, Iperf.fileAfter (withZerocopy test 0) s steps = some t
      → SendsZeros test t)
    : Zeros s.file := by
  obtain ⟨file, shape⟩ : ∃ file, s.file = file := ⟨_, rfl⟩
  induction file generalizing s with
  | nil => exact shape ▸ fun _ member => (List.not_mem_nil member).elim
  | cons byte rest ih =>
      obtain ⟨t, filled, buffer, left, more, going⟩ := s.fill_one block empty running shape
      have mappedNow := mapped.fill filled
      have wanted : ∃ more, pendingBytes test t.sp = more + 1 := by
        unfold pendingBytes
        split
        · exact ⟨blockSize test - 1, by omega⟩
        · exact ⟨t.sp.pendingSize - 1, by omega⟩
      obtain ⟨wanted, pending⟩ := wanted
      have first : byte = 0 := by
        have front := always [] s rfl 1
        rw [filled] at front
        refine front (by simp [going]) byte ?_
        dsimp only
        rw [pending, buffer, Buffer.copyAt_zero]
        exact List.mem_cons_self
      -- the byte is lost when the send fails
      obtain ⟨next, failed, nextEmpty, nextRunning, nextFile⟩ : ∃ next,
          Iperf.diskfileSend (withZerocopy test 0) s
            { readLength := 1, io := sendIo [.failed .eagain] } = some next
          ∧ next.sp.diskfileLeft = 0 ∧ next.done = false ∧ next.file = rest := by
        rw [mapped.diskfileSend filled, if_neg (by simp [going]), pending]
        simp only [progress, Option.map_some, Progress.nwriteRet, Nat.sub_self, if_true]
        refine ⟨_, rfl, ?_⟩
        unfold diskfileAfter Iperf.afterSend
        simp [netSofterror, left, going, more]
      have later := ih (mapped.diskfileSend_sends failed).1 nextEmpty nextRunning
        (fun steps u reached => always (.send 1 [.failed .eagain] :: steps) u
          (Option.bind_eq_some_iff.mpr ⟨next, failed, reached⟩)) nextFile
      rw [shape]
      intro other member
      rcases List.mem_cons.mp member with rfl | member
      · exact first
      · exact later other (nextFile ▸ member)

end File

-----------------------------------------------------------------------------------------
-- Streams of `iperf_new_stream`
-----------------------------------------------------------------------------------------

theorem length_newStreamBuffer {test : Test} {io : NewStreamIo}
    (filled : test.repeatingPayload = false → blockSize test ≤ io.entropy.length)
    : (newStreamBuffer test io).length = blockSize test := by
  unfold newStreamBuffer
  split
  · simp [fillWithRepeatingPattern]
  · next random =>
      rw [List.length_take]
      exact Nat.min_eq_left (filled (Bool.eq_false_of_not_eq_true random))

/-- What `iperf_new_stream` adds to the test. -/
theorem iperfNewStream_added {test created : Test} {s : Int} {sender : Bool}
    {io : NewStreamIo} {sp : Stream} (opened : iperfNewStream test s sender io = .ok created)
    (last : created.streams.getLast? = some sp)
    : sp.buffer = newStreamBuffer test io
      ∧ sp.bufferFile = List.replicate (blockSize test) 0
      ∧ sp.pendingSize = 0
      ∧ sp.diskfileLeft = 0 := by
  unfold iperfNewStream at opened
  split at opened
  · cases opened
  · obtain rfl := Except.ok.inj opened
    rw [iperfAddStream, List.getLast?_concat] at last
    obtain rfl := Option.some.inj last
    exact ⟨rfl, rfl, rfl, rfl⟩

/-- A new stream sends the same bytes with and without `--zerocopy`, whatever becomes of its
sends, exactly when its payload is all zeros. With `-F` it does so exactly when every call of
`iperf_tcp_send` finds zeros only at the front of the buffer; the file must be all zeros then,
and together with the payload that is enough.
-/
theorem zerocopy_sends_same_iff {test created : Test} {s : Int} {sender : Bool}
    {io : NewStreamIo} {sp : Stream} (opened : iperfNewStream test s sender io = .ok created)
    (last : created.streams.getLast? = some sp)
    (filled : test.repeatingPayload = false → blockSize test ≤ io.entropy.length)
    : ((∀ calls, sentOnSocket (withZerocopy test 1) sp calls
          = sentOnSocket (withZerocopy test 0) sp calls)
        ↔ Zeros (newStreamBuffer test io))
      ∧ ∀ file,
        ((∀ steps, (fileAfter (withZerocopy test 1) (fileSender sp file) steps).map
              DiskfileSender.socket
            = (fileAfter (withZerocopy test 0) (fileSender sp file) steps).map
              DiskfileSender.socket)
          ↔ ∀ steps s, fileAfter (withZerocopy test 0) (fileSender sp file) steps = some s
              → SendsZeros test s)
        ∧ (0 < blockSize test
            → (∀ steps s, fileAfter (withZerocopy test 0) (fileSender sp file) steps = some s
                → SendsZeros test s)
            → Zeros file)
        ∧ (Zeros (newStreamBuffer test io) → Zeros file
            → ∀ steps s, fileAfter (withZerocopy test 0) (fileSender sp file) steps = some s
              → SendsZeros test s) := by
  obtain ⟨buffer, bufferFile, idle, empty⟩ := iperfNewStream_added opened last
  have mapped : Mapped test sp :=
    ⟨buffer ▸ length_newStreamBuffer filled, bufferFile, idle ▸ Nat.zero_le _⟩
  refine ⟨buffer ▸ mapped.sameOnSocket_iff idle, fun file => ⟨mapped.sameFile_iff file, ?_, ?_⟩⟩
  · intro block always
    have start : Mapped test (fileSender sp file).sp := mapped
    exact start.file_zeros block empty rfl always
  · intro payload zeros steps s reached
    have start : ZeroData (fileSender sp file) := ⟨buffer ▸ payload, zeros⟩
    exact (start.fileAfter mapped reached).sendsZeros

/-- The digits of `--repeating-payload` in blocks of four bytes. -/
def repeatingBlocks : Test := { settings := { blksize := 4 }, repeatingPayload := true }

def repeatingStream : Stream :=
  {
    socket := 5
    id := 1
    sender := true
    buffer := newStreamBuffer repeatingBlocks {}
    bufferFile := [0, 0, 0, 0]
  }

theorem zerocopy_sends_same_iff_repeating
    : ¬ ((∀ calls, sentOnSocket (withZerocopy repeatingBlocks 1) repeatingStream calls
          = sentOnSocket (withZerocopy repeatingBlocks 0) repeatingStream calls)) := by
  have opened : iperfNewStream repeatingBlocks 5 true {}
      = .ok { repeatingBlocks with streams := [repeatingStream] } := rfl
  have last : ({ repeatingBlocks with streams := [repeatingStream] } : Test).streams.getLast?
      = some repeatingStream := rfl
  rw [(zerocopy_sends_same_iff opened last (fun random => by cases random)).1]
  exact fun zeros => absurd (zeros 48 (by decide)) (by decide)

/-- A stream that `iperf_new_stream` opens with a repeating payload sends zeros with
`--zerocopy` and digits without.
-/
theorem zerocopy_sends_zeros
    : iperfNewStream repeatingBlocks 5 true {}
        = .ok { repeatingBlocks with streams := [repeatingStream] }
      ∧ sentOnSocket (withZerocopy repeatingBlocks 1) repeatingStream [[.interrupted 1], [.took 1]]
        = some [0, 0, 0, 0]
      ∧ sentOnSocket (withZerocopy repeatingBlocks 0) repeatingStream [[.interrupted 1], [.took 1]]
        = some [48, 49, 48, 49] :=
  ⟨rfl, by decide, by decide⟩

end Iperf
