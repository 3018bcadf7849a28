import Iperf.Model.Api
import Iperf.Tcp.Diskfile

/-! `iperf_tcp_send` with and without `--zerocopy`, for the same outcomes of the system calls
below it. `sendfile(2)` reads the file behind the private mapping, which keeps the zeros it was
created with.
-/

namespace Iperf

-----------------------------------------------------------------------------------------
-- Outcomes of a send
-----------------------------------------------------------------------------------------

/-- What one round of a sending loop meets, be it `write(2)` or `sendfile(2)`. -/
inductive SendOutcome where
  /-- `n + 1` bytes are taken. -/
  | took (n : Nat)
  /-- `n + 1` bytes are taken, then the socket is full. Darwin's `sendfile(2)` reports both at
  once, `write(2)` one after the other.
  -/
  | interrupted (n : Nat)
  | failed (errno : Errno)
deriving DecidableEq, Repr

def SendOutcome.writes : SendOutcome → List WriteResult
  | .took n => [.accepted (n + 1)]
  | .interrupted n => [.accepted (n + 1), .failed .eagain]
  | .failed errno => [.failed errno]

def SendOutcome.sendfile : SendOutcome → SendfileResult
  | .took n => { sent := n + 1, failed := none }
  | .interrupted n => { sent := n + 1, failed := some .eagain }
  | .failed errno => { sent := 0, failed := some errno }

/-- The same outcomes, as either loop meets them. -/
def sendIo (outcomes : List SendOutcome) : SendIo :=
  {
    writes := outcomes.flatMap SendOutcome.writes
    sendfiles := outcomes.map SendOutcome.sendfile
  }

/-- How far a sending loop came, and the error that stopped it short. -/
structure Progress where
  sent : Nat
  failure : Option Errno

/-- The progress of a loop with `left` of `count` bytes to go. It does not depend on the
bytes.
-/
def progress (count : Nat) : Nat → List SendOutcome → Option Progress
  | 0, _ => some { sent := count, failure := none }
  | _ + 1, [] => none
  | left + 1, .took n :: outcomes => progress count (left - n) outcomes
  | left + 1, .interrupted n :: _ =>
      if left ≤ n then some { sent := count, failure := none }
      else some { sent := count - (left - n), failure := some .eagain }
  | left + 1, .failed errno :: _ =>
      some { sent := count - (left + 1), failure := some errno }
termination_by structural _ outcomes => outcomes

/-- The return value of `Nwrite`. -/
def Progress.nwriteRet (count : Nat) (p : Progress) : Int :=
  match p.failure with
  | none => toInt count
  | some .eintr | some .eagain => if p.sent = 0 then netSofterror else toInt p.sent
  | some .enobufs => netSofterror
  | some .enomem | some .other => netHarderror

/-- The return value of `Nsendfile`, which takes a lack of memory for a soft error. -/
def Progress.nsendfileRet (count : Nat) (p : Progress) : Int :=
  match p.failure with
  | none => toInt count
  | some .eintr | some .eagain => if p.sent = 0 then netSofterror else toInt p.sent
  | some .enobufs | some .enomem => netSofterror
  | some .other => netHarderror

/-- The two return values differ only between the errors. -/
theorem Progress.ret_alike (count : Nat) (p : Progress)
    : p.nsendfileRet count = p.nwriteRet count
      ∨ p.nsendfileRet count < 0 ∧ p.nwriteRet count < 0 := by
  obtain ⟨sent, failure⟩ := p
  rcases failure with _ | errno
  · exact .inl rfl
  · cases errno with
    | enomem => exact .inr ⟨(by decide : netSofterror < 0), (by decide : netHarderror < 0)⟩
    | eintr | eagain | enobufs | other => exact .inl rfl

theorem progress_le {count left : Nat} {outcomes : List SendOutcome} {p : Progress}
    (ran : progress count left outcomes = some p)
    : p.sent ≤ count := by
  induction outcomes generalizing left with
  | nil =>
      cases left with
      | zero =>
          obtain rfl := Option.some.inj ran
          exact le_refl _
      | succ left => cases ran
  | cons outcome outcomes ih =>
      cases left with
      | zero =>
          obtain rfl := Option.some.inj ran
          exact le_refl _
      | succ left =>
          cases outcome with
          | took n => exact ih ran
          | interrupted n =>
              simp only [progress] at ran
              split at ran <;> obtain rfl := Option.some.inj ran <;> simp
          | failed errno =>
              obtain rfl := Option.some.inj ran
              exact Nat.sub_le _ _

/-- What is behind the position of a loop with some bytes to go. -/
theorem drop_left {buf : List UInt8} {left : Nat} (fits : left + 1 ≤ buf.length)
    : ∃ byte rest, buf.drop (buf.length - (left + 1)) = byte :: rest ∧ rest.length = left := by
  have size : (buf.drop (buf.length - (left + 1))).length = left + 1 := by
    rw [List.length_drop]
    omega
  obtain ⟨byte, rest, cut⟩ := List.exists_cons_of_length_eq_add_one size
  rw [cut, List.length_cons] at size
  exact ⟨byte, rest, cut, by omega⟩

/-- One accepted write moves the position of the loop. -/
theorem nwriteLoop_accepted_step {buf : List UInt8} {left n : Nat} {results : List WriteResult}
    (fits : left + 1 ≤ buf.length)
    : nwriteLoop buf.length (buf.take (buf.length - (left + 1)))
        (buf.drop (buf.length - (left + 1))) (.accepted (n + 1) :: results)
      = nwriteLoop buf.length (buf.take (buf.length - (left - n)))
          (buf.drop (buf.length - (left - n))) results := by
  obtain ⟨byte, rest, cut, size⟩ := drop_left fits
  have positive : ¬ min (n + 1) (left + 1) = 0 := by omega
  have moved : buf.length - (left + 1) + min (n + 1) (left + 1) = buf.length - (left - n) := by
    omega
  rw [cut]
  simp only [nwriteLoop, size, positive, if_false]
  rw [← cut, ← List.take_add, List.drop_drop, moved]

/-- `Nwrite` hands over a prefix of the buffer. By induction on the outcomes. -/
theorem nwriteLoop_progress {buf : List UInt8} {left : Nat} (outcomes : List SendOutcome)
    (fits : left ≤ buf.length)
    : nwriteLoop buf.length (buf.take (buf.length - left)) (buf.drop (buf.length - left))
        (outcomes.flatMap SendOutcome.writes)
      = (progress buf.length left outcomes).map
          fun p => { ret := p.nwriteRet buf.length, accepted := buf.take p.sent } := by
  have finished (results : List WriteResult)
      : nwriteLoop buf.length (buf.take (buf.length - 0)) (buf.drop (buf.length - 0)) results
        = some { ret := toInt buf.length, accepted := buf.take buf.length } := by
    rw [Nat.sub_zero, List.drop_length]
    cases results <;> rfl
  induction outcomes generalizing left with
  | nil =>
      cases left with
      | zero => exact finished _
      | succ left =>
          obtain ⟨byte, rest, cut, -⟩ := drop_left fits
          rw [cut]
          rfl
  | cons outcome outcomes ih =>
      cases left with
      | zero => exact finished _
      | succ left =>
          cases outcome with
          | took n =>
              rw [List.flatMap_cons, SendOutcome.writes, List.cons_append, List.nil_append,
                nwriteLoop_accepted_step fits, ih (by omega), progress]
          | interrupted n =>
              rw [List.flatMap_cons, SendOutcome.writes, List.cons_append,
                nwriteLoop_accepted_step fits, progress]
              by_cases all : left ≤ n
              · rw [if_pos all, Nat.sub_eq_zero_of_le all]
                exact finished _
              · -- the next write finds the socket full
                obtain ⟨more, split⟩ : ∃ more, left - n = more + 1 := ⟨left - n - 1, by omega⟩
                rw [if_neg all, split]
                obtain ⟨byte, rest, cut, size⟩ := @drop_left buf more (by omega)
                have short : ¬ buf.length = more + 1 := by omega
                have some_ : ¬ buf.length - (more + 1) = 0 := by omega
                rw [cut]
                simp [nwriteLoop, size, short, Progress.nwriteRet, some_]
          | failed errno =>
              obtain ⟨byte, rest, cut, size⟩ := drop_left fits
              have start : buf.length - (left + 1) = 0 ↔ buf.length = left + 1 := by omega
              rw [cut]
              by_cases first : buf.length = left + 1 <;> cases errno <;>
                simp [SendOutcome.writes, nwriteLoop, progress, Progress.nwriteRet, size, start,
                  first]

/-- `Nsendfile` hands over as much of the file. By induction on the outcomes. -/
theorem nsendfileLoop_progress {file : List UInt8} {count left : Nat}
    (outcomes : List SendOutcome) (fits : left ≤ count) (covered : count ≤ file.length)
    : nsendfileLoop file count (file.take (count - left)) left
        (outcomes.map SendOutcome.sendfile)
      = (progress count left outcomes).map
          fun p => { ret := p.nsendfileRet count, accepted := file.take p.sent } := by
  induction outcomes generalizing left with
  | nil =>
      cases left with
      | zero => rfl
      | succ left => rfl
  | cons outcome outcomes ih =>
      cases left with
      | zero => rfl
      | succ left =>
          -- the chunk lies behind what was sent
          have chunk (n : Nat)
              : Buffer.slice file (count - (left + 1)) (min n (left + 1))
                = (file.drop (count - (left + 1))).take (min n (left + 1)) := rfl
          have size (n : Nat)
              : ((file.drop (count - (left + 1))).take (min n (left + 1))).length
                = min n (left + 1) := by
            rw [List.length_take, List.length_drop]
            omega
          have whole (n : Nat)
              : file.take (count - (left + 1))
                  ++ (file.drop (count - (left + 1))).take (min n (left + 1))
                = file.take (count - (left + 1) + min n (left + 1)) := List.take_add.symm
          have rest (n : Nat) : left + 1 - min (n + 1) (left + 1) = left - n := by omega
          have moved (n : Nat)
              : count - (left + 1) + min (n + 1) (left + 1) = count - (left - n) := by omega
          cases outcome with
          | took n =>
              simp only [List.map_cons, SendOutcome.sendfile, nsendfileLoop, chunk, size, whole,
                rest, moved]
              rw [ih (by omega), progress]
          | interrupted n =>
              simp only [List.map_cons, SendOutcome.sendfile, nsendfileLoop, chunk, size, whole,
                rest, moved, progress]
              have went : ¬ count = left - n := by omega
              by_cases all : left ≤ n
              · have nonempty : ¬ count = 0 := by omega
                simp [all, nonempty, Nat.sub_eq_zero_of_le all, Progress.nsendfileRet]
              · have some_ : ¬ count - (left - n) = 0 := by omega
                simp [all, went, some_, Progress.nsendfileRet]
          | failed errno =>
              have start : count - (left + 1) = 0 ↔ count = left + 1 := by omega
              simp only [List.map_cons, SendOutcome.sendfile, nsendfileLoop, chunk, size, whole]
              by_cases first : count = left + 1 <;> cases errno <;>
                simp [progress, Progress.nsendfileRet, start, first]

theorem nwrite_progress (buf : List UInt8) (outcomes : List SendOutcome)
    : nwrite buf (sendIo outcomes).writes
      = (progress buf.length buf.length outcomes).map
          fun p => { ret := p.nwriteRet buf.length, accepted := buf.take p.sent } := by
  have started := nwriteLoop_progress outcomes (le_refl buf.length)
  rw [Nat.sub_self] at started
  exact started

theorem nsendfile_progress {file : List UInt8} {count : Nat} (outcomes : List SendOutcome)
    (covered : count ≤ file.length)
    : nsendfile file count (sendIo outcomes).sendfiles
      = (progress count count outcomes).map
          fun p => { ret := p.nsendfileRet count, accepted := file.take p.sent } := by
  have started := nsendfileLoop_progress outcomes (le_refl count) covered
  rw [Nat.sub_self] at started
  exact started

-----------------------------------------------------------------------------------------
-- One call of `iperf_tcp_send`
-----------------------------------------------------------------------------------------

/-- The same test with the ordinary path, or with `--zerocopy`. -/
def withZerocopy (test : Test) (zerocopy : Int32) : Test := { test with zerocopy }

/-- How much the next call of `iperf_tcp_send` wants to send. -/
def pendingBytes (test : Test) (sp : Stream) : Nat :=
  if sp.pendingSize = 0 then blockSize test else sp.pendingSize

/-- The mapping of a stream: a buffer of one block over a file of one block of zeros. -/
structure Mapped (test : Test) (sp : Stream) : Prop where
  buffer : sp.buffer.length = blockSize test
  file : sp.bufferFile = List.replicate (blockSize test) 0
  pending : sp.pendingSize ≤ blockSize test

theorem Mapped.pendingBytes_le {test : Test} {sp : Stream} (mapped : Mapped test sp)
    : pendingBytes test sp ≤ blockSize test := by
  have bound := mapped.pending
  unfold pendingBytes
  split <;> omega

/-- What a call leaves of a stream that had `pending` bytes to send. -/
def afterSend (sp : Stream) (pending : Nat) (ret : Int) : Stream :=
  if ret < 0 then
    { sp with pendingSize := pending }
  else
    let r := UInt64.ofNat ret.toNat
    {
      sp with
      pendingSize := pending - ret.toNat
      result := {
        sp.result with
        bytesSent := sp.result.bytesSent + r
        bytesSentThisInterval := sp.result.bytesSentThisInterval + r
      }
    }

theorem iperfTcpSend_eq (test : Test) (sp : Stream) (io : SendIo)
    : iperfTcpSend test sp io
      = (if test.zerocopy ≠ 0 then nsendfile sp.bufferFile (pendingBytes test sp) io.sendfiles
          else nwrite (sp.buffer.take (pendingBytes test sp)) io.writes).map
        fun sent => (sent, afterSend sp (pendingBytes test sp) sent.ret) := by
  refine congrArg (Option.map · _) (funext fun sent => ?_)
  unfold afterSend
  split <;> rfl

theorem afterSend_buffer (sp : Stream) (pending : Nat) (ret : Int)
    : (afterSend sp pending ret).buffer = sp.buffer := by
  unfold afterSend
  split <;> rfl

section Call

variable {test : Test} {sp : Stream} {outcomes : List SendOutcome}

/-- The ordinary path sends the front of the buffer. -/
theorem Mapped.ordinary (mapped : Mapped test sp)
    : iperfTcpSend (withZerocopy test 0) sp (sendIo outcomes)
      = (progress (pendingBytes test sp) (pendingBytes test sp) outcomes).map fun p =>
        (
          { ret := p.nwriteRet (pendingBytes test sp), accepted := sp.buffer.take p.sent },
          afterSend sp (pendingBytes test sp) (p.nwriteRet (pendingBytes test sp))
        ) := by
  have size : (sp.buffer.take (pendingBytes test sp)).length = pendingBytes test sp := by
    rw [List.length_take, mapped.buffer]
    exact Nat.min_eq_left mapped.pendingBytes_le
  have same : pendingBytes (withZerocopy test 0) sp = pendingBytes test sp := rfl
  rw [iperfTcpSend_eq, same, if_neg (by simp [withZerocopy]), nwrite_progress, size,
    Option.map_map]
  apply Option.map_congr
  intro p ran
  dsimp only [Function.comp]
  rw [List.take_take, Nat.min_eq_left (progress_le ran)]

/-- With `--zerocopy` as many bytes go out, all of them zeros, and the stream is left the
same.
-/
theorem Mapped.zerocopy (mapped : Mapped test sp)
    : iperfTcpSend (withZerocopy test 1) sp (sendIo outcomes)
      = (progress (pendingBytes test sp) (pendingBytes test sp) outcomes).map fun p =>
        (
          { ret := p.nsendfileRet (pendingBytes test sp), accepted := List.replicate p.sent 0 },
          afterSend sp (pendingBytes test sp) (p.nwriteRet (pendingBytes test sp))
        ) := by
  have bound := mapped.pendingBytes_le
  have covered : pendingBytes test sp ≤ sp.bufferFile.length := by
    rw [mapped.file, List.length_replicate]
    exact bound
  have same : pendingBytes (withZerocopy test 1) sp = pendingBytes test sp := rfl
  rw [iperfTcpSend_eq, same, if_pos (by simp [withZerocopy]), nsendfile_progress _ covered,
    Option.map_map]
  apply Option.map_congr
  intro p ran
  have short := progress_le ran
  have left : afterSend sp (pendingBytes test sp) (p.nsendfileRet (pendingBytes test sp))
      = afterSend sp (pendingBytes test sp) (p.nwriteRet (pendingBytes test sp)) := by
    rcases p.ret_alike (pendingBytes test sp) with alike | ⟨soft, hard⟩
    · rw [alike]
    · rw [afterSend, if_pos soft, afterSend, if_pos hard]
  dsimp only [Function.comp]
  rw [left, mapped.file, List.take_replicate, Nat.min_eq_left (short.trans bound)]

theorem Mapped.afterSend (mapped : Mapped test sp) {pending : Nat} {ret : Int}
    (bound : pending ≤ blockSize test)
    : Mapped test (Iperf.afterSend sp pending ret) := by
  unfold Iperf.afterSend
  split
  · exact ⟨mapped.buffer, mapped.file, bound⟩
  · exact ⟨mapped.buffer, mapped.file, (Nat.sub_le _ _).trans bound⟩

end Call

end Iperf
