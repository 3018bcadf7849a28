import Iperf.Library.Buffer
import Mathlib.Data.Int.Notation
import Mathlib.Tactic.NormNum

/-! `net.c`: the loops around `write(2)` and `recv(2)`. A call is modelled with the list of
results its system calls give; a list that ends too early means the call still blocks.
-/

namespace Iperf

/-- The `errno` values the loops tell apart; `EWOULDBLOCK` is `EAGAIN`. -/
inductive Errno where
  | eintr
  | eagain
  | enobufs
  | enomem
  | other
deriving DecidableEq, Repr

def netSofterror : Int := -1
def netHarderror : Int := -2

/-- The conversion of a `size_t` return value to the `int` these functions return. -/
def toInt (n : Nat) : Int := Int.bmod n (2 ^ 32)

theorem toInt_of_lt {n : Nat} (small : n < 2 ^ 31) : toInt n = n := by
  apply Int.bmod_eq_of_le
  · exact le_trans (by norm_num) (Int.natCast_nonneg n)
  · norm_num
    omega

/-- The text in a buffer: what stands before the first NUL. -/
def cString (buffer : List UInt8) : List UInt8 := buffer.takeWhile (· ≠ 0)

/-- The bytes of a string literal of the source. -/
def bytesOf (text : String) : List UInt8 := text.toList.map Char.toUInt8

/-- Of a literal, what can be evaluated fast. -/
theorem bytesOf_ofList (letters : List Char)
    : bytesOf (String.ofList letters) = letters.map Char.toUInt8 := by
  rw [bytesOf, String.toList_ofList]

/-- Counts that do not fit come out negative. -/
theorem toInt_neg {n : Nat} (large : 2 ^ 31 ≤ n) (fits : n < 2 ^ 32) : toInt n < 0 := by
  unfold toInt
  rw [Int.bmod_def]
  norm_num
  omega

-----------------------------------------------------------------------------------------
-- Nwrite
-----------------------------------------------------------------------------------------

/-- One result of `write(2)`. -/
inductive WriteResult where
  | accepted (n : Nat)
  | failed (errno : Errno)
deriving DecidableEq, Repr

/-- The return value of a sending call and the bytes the kernel accepted during it. -/
structure Sent where
  ret : Int
  accepted : List UInt8
deriving DecidableEq, Repr

/-- The loop of `Nwrite`: `sent` went out already, `left` is still to be written. -/
def nwriteLoop (count : Nat) : List UInt8 → List UInt8 → List WriteResult → Option Sent
  | sent, [], _ => some { ret := toInt count, accepted := sent }
  | _, _ :: _, [] => none
  | sent, byte :: left, .accepted n :: results =>
      -- write(2) accepts at most what it was given
      let r := min n (left.length + 1)
      if r = 0 then
        some { ret := netSofterror, accepted := sent }
      else
        nwriteLoop count (sent ++ (byte :: left).take r) ((byte :: left).drop r) results
  | sent, _ :: left, .failed errno :: _ =>
      match errno with
      | .eintr | .eagain =>
          if count = left.length + 1 then
            some { ret := netSofterror, accepted := sent }
          else
            some { ret := toInt (count - (left.length + 1)), accepted := sent }
      | .enobufs => some { ret := netSofterror, accepted := sent }
      | .enomem | .other => some { ret := netHarderror, accepted := sent }
termination_by structural _ _ results => results

def nwrite (buf : List UInt8) (results : List WriteResult) : Option Sent :=
  nwriteLoop buf.length [] buf results

/-- A buffer that is accepted whole makes `Nwrite` return its size. -/
theorem nwrite_whole {buf : List UInt8} (nonempty : buf ≠ [])
    : nwrite buf [.accepted buf.length] = some { ret := toInt buf.length, accepted := buf } := by
  obtain ⟨byte, rest, rfl⟩ := List.exists_cons_of_ne_nil nonempty
  simp [nwrite, nwriteLoop]

/-- A `write(2)` that fails at once makes `Nwrite` fail with nothing accepted. -/
theorem nwrite_failed {buf : List UInt8} (nonempty : buf ≠ []) (errno : Errno)
    : ∃ ret < 0, nwrite buf [.failed errno] = some { ret, accepted := [] } := by
  obtain ⟨byte, rest, rfl⟩ := List.exists_cons_of_ne_nil nonempty
  cases errno <;> simp [nwrite, nwriteLoop, netSofterror, netHarderror]

-----------------------------------------------------------------------------------------
-- Nsendfile
-----------------------------------------------------------------------------------------

/-- One result of `sendfile(2)` as Darwin reports it: the bytes it sent, also when it fails. -/
structure SendfileResult where
  sent : Nat
  failed : Option Errno
deriving DecidableEq, Repr

/-- The loop of `Nsendfile`: `left` bytes of the first `count` of the file are still to be
sent. The offset is the position behind those sent in this call.
-/
def nsendfileLoop (file : List UInt8) (count : Nat)
    : List UInt8 → Nat → List SendfileResult → Option Sent
  | sent, 0, _ => some { ret := toInt count, accepted := sent }
  | _, _ + 1, [] => none
  | sent, left + 1, result :: results =>
      -- sendfile(2) sends at most what is asked for and what the file holds
      let chunk := Buffer.slice file (count - (left + 1)) (min result.sent (left + 1))
      let nleft := left + 1 - chunk.length
      match result.failed with
      | none => nsendfileLoop file count (sent ++ chunk) nleft results
      | some .eintr | some .eagain =>
          if count = nleft then
            some { ret := netSofterror, accepted := sent ++ chunk }
          else
            some { ret := toInt (count - nleft), accepted := sent ++ chunk }
      | some .enobufs | some .enomem => some { ret := netSofterror, accepted := sent ++ chunk }
      | some .other => some { ret := netHarderror, accepted := sent ++ chunk }
termination_by structural _ _ results => results

def nsendfile (file : List UInt8) (count : Nat) (results : List SendfileResult) : Option Sent :=
  nsendfileLoop file count [] count results

-----------------------------------------------------------------------------------------
-- Nrecv_no_select
-----------------------------------------------------------------------------------------

/-- One result of `recv(2)` or `read(2)`: the bytes stored and the value returned, which
differ only under `MSG_TRUNC`. End of file is `got [] 0`.
-/
inductive RecvResult where
  | got (bytes : List UInt8) (r : Nat)
  | failed (errno : Errno)
deriving DecidableEq, Repr

/-- The return value of a receiving call and the buffer it leaves. -/
structure Received where
  ret : Int
  buffer : List UInt8
deriving DecidableEq, Repr

/-- The loop of `Nrecv_no_select`; `offset` is how far `buf` has advanced. -/
def nrecvLoop (msgTrunc : Bool) (count : Nat)
    : List UInt8 → Nat → Nat → List RecvResult → Option Received
  | buffer, _, 0, _ => some { ret := toInt count, buffer }
  | _, _, _ + 1, [] => none
  | buffer, _, left + 1, .failed errno :: _ =>
      match errno with
      | .eintr | .eagain => some { ret := toInt (count - (left + 1)), buffer }
      | .enobufs | .enomem | .other => some { ret := netHarderror, buffer }
  | buffer, offset, left + 1, .got bytes r :: results =>
      if r = 0 then
        some { ret := toInt (count - (left + 1)), buffer }
      else
        let copied := if msgTrunc then min r (left + 1) else r
        nrecvLoop msgTrunc count (Buffer.copyAt buffer offset bytes) (offset + copied)
          (left + 1 - copied) results
termination_by structural _ _ _ results => results

def nrecvNoSelect (msgTrunc : Bool) (buffer : List UInt8) (count : Nat)
    (results : List RecvResult)
    : Option Received :=
  nrecvLoop msgTrunc count buffer 0 count results

-----------------------------------------------------------------------------------------
-- Nread
-----------------------------------------------------------------------------------------

/-- One round of `Nread`: it waits in `select(2)`, then reads. -/
inductive ReadRound where
  | selectFailed
  /-- `select(2)` reports nothing in time, or the limit on the whole call has passed. -/
  | timedOut
  | ready (result : RecvResult)
deriving DecidableEq, Repr

/-- The loop of `Nread`. Every wait is bounded, so a list that ends too early stands for a
timeout.
-/
def nreadLoop (count : Nat) : List UInt8 → Nat → Nat → List ReadRound → Received
  | buffer, _, 0, _ => { ret := toInt count, buffer }
  | buffer, _, left + 1, [] => { ret := toInt (count - (left + 1)), buffer }
  | buffer, _, _ + 1, .selectFailed :: _ => { ret := netHarderror, buffer }
  | buffer, _, left + 1, .timedOut :: _ => { ret := toInt (count - (left + 1)), buffer }
  | buffer, _, left + 1, .ready (.failed errno) :: _ =>
      match errno with
      | .eintr | .eagain => { ret := toInt (count - (left + 1)), buffer }
      | .enobufs | .enomem | .other => { ret := netHarderror, buffer }
  | buffer, offset, left + 1, .ready (.got bytes r) :: rounds =>
      -- read(2) stores at most what is asked for
      let r := min r (left + 1)
      if r = 0 then
        { ret := toInt (count - (left + 1)), buffer }
      else
        nreadLoop count (Buffer.copyAt buffer offset (bytes.take r)) (offset + r)
          (left + 1 - r) rounds
termination_by structural _ _ _ rounds => rounds

def nread (buffer : List UInt8) (count : Nat) (rounds : List ReadRound) : Received :=
  nreadLoop count buffer 0 count rounds

end Iperf
