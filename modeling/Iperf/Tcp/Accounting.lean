import Iperf.Library.Transfer
import Iperf.Model.Net

/-! What `Nwrite` and `Nsendfile` report of the bytes that the kernel has accepted. Both are
transfers in rounds, which an error ends in one of three ways.
-/

namespace Iperf

open Transfer

-----------------------------------------------------------------------------------------
-- The two calls as transfers
-----------------------------------------------------------------------------------------

/-- The three branches of the switch on `errno`; a result of zero is taken as one of them. -/
inductive SendStop where
  | again
  | soft
  | hard
deriving DecidableEq, Repr

def Errno.nwriteStop : Errno → SendStop
  | .eintr | .eagain => .again
  | .enobufs => .soft
  | .enomem | .other => .hard

def Errno.nsendfileStop : Errno → SendStop
  | .eintr | .eagain => .again
  | .enobufs | .enomem => .soft
  | .other => .hard

def WriteResult.round : WriteResult → Round SendStop
  | .accepted 0 => { taken := 0, stop := some .soft }
  | .accepted n => { taken := n, stop := none }
  | .failed errno => { taken := 0, stop := some errno.nwriteStop }

def SendfileResult.round (result : SendfileResult) : Round SendStop :=
  { taken := result.sent, stop := result.failed.map Errno.nsendfileStop }

/-- The value returned when `moved` of `count` bytes are gone. -/
def stopRet (count moved : Nat) : Option SendStop → Int
  | none => toInt count
  | some .again => if moved = 0 then netSofterror else toInt moved
  | some .soft => netSofterror
  | some .hard => netHarderror

/-- By induction on the results. -/
theorem nwriteLoop_transfer (sent left : List UInt8) (results : List WriteResult)
    : nwriteLoop (sent.length + left.length) sent left results
      = (transfer left.length left.length (results.map WriteResult.round)).map fun outcome =>
        {
          ret := stopRet (sent.length + left.length) (sent.length + outcome.moved) outcome.stop
          accepted := sent ++ left.take outcome.moved
        } := by
  induction results generalizing sent left with
  | nil =>
      cases left with
      | nil => simp [nwriteLoop, transfer, stopRet]
      | cons byte left => simp [nwriteLoop, transfer]
  | cons result results ih =>
      cases left with
      | nil => simp [nwriteLoop, transfer, stopRet]
      | cons byte left =>
          cases result with
          | accepted n =>
              cases n with
              | zero => simp [nwriteLoop, transfer, WriteResult.round, stopRet]
              | succ n =>
                  have positive : ¬ min (n + 1) (left.length + 1) = 0 := by omega
                  have size : (sent ++ (byte :: left).take (min (n + 1) (left.length + 1))).length
                      + ((byte :: left).drop (min (n + 1) (left.length + 1))).length
                      = sent.length + (byte :: left).length := by
                    rw [List.length_append, List.length_take, List.length_drop, List.length_cons]
                    omega
                  have later := ih (sent ++ (byte :: left).take (min (n + 1) (left.length + 1)))
                    ((byte :: left).drop (min (n + 1) (left.length + 1)))
                  rw [size] at later
                  have step : nwriteLoop (sent.length + (byte :: left).length) sent (byte :: left)
                        (.accepted (n + 1) :: results)
                      = nwriteLoop (sent.length + (byte :: left).length)
                        (sent ++ (byte :: left).take (min (n + 1) (left.length + 1)))
                        ((byte :: left).drop (min (n + 1) (left.length + 1))) results := by
                    simp only [nwriteLoop, positive, if_false]
                  rw [step, later]
                  simp only [List.map_cons, WriteResult.round, List.length_cons, transfer,
                    Option.map_map, List.length_drop, min_self]
                  refine Option.map_congr fun outcome _ => ?_
                  have taken : (sent ++ (byte :: left).take (min (n + 1) (left.length + 1))).length
                      = sent.length + min (n + 1) (left.length + 1) := by
                    rw [List.length_append, List.length_take, List.length_cons]
                    omega
                  dsimp only [Function.comp]
                  rw [taken, List.append_assoc, ← List.take_add, Nat.add_assoc]
          | failed errno =>
              cases errno <;>
                simp [nwriteLoop, transfer, WriteResult.round, Errno.nwriteStop, stopRet] <;>
                split_ifs <;> simp

theorem nwrite_transfer (buf : List UInt8) (results : List WriteResult)
    : nwrite buf results
      = (transfer buf.length buf.length (results.map WriteResult.round)).map fun outcome =>
        { ret := stopRet buf.length outcome.moved outcome.stop,
          accepted := buf.take outcome.moved } := by
  have started := nwriteLoop_transfer [] buf results
  simp only [List.length_nil, Nat.zero_add, List.nil_append] at started
  exact started

/-- By induction on the results. The file has `file.length - (count - left)` bytes to go. -/
theorem nsendfileLoop_transfer {file : List UInt8} {count : Nat} (sent : List UInt8) {left : Nat}
    (fits : left ≤ count) (results : List SendfileResult)
    : nsendfileLoop file count sent left results
      = (transfer (file.length - (count - left)) left (results.map SendfileResult.round)).map
        fun outcome =>
          {
            ret := stopRet count (count - left + outcome.moved) outcome.stop
            accepted := sent ++ Buffer.slice file (count - left) outcome.moved
          } := by
  induction results generalizing sent left with
  | nil =>
      cases left with
      | zero => simp [nsendfileLoop, transfer, stopRet, Buffer.slice]
      | succ left => simp [nsendfileLoop, transfer]
  | cons result results ih =>
      cases left with
      | zero => simp [nsendfileLoop, transfer, stopRet, Buffer.slice]
      | succ left =>
          generalize place : count - (left + 1) = offset at ih ⊢
          have chunk : (Buffer.slice file offset (min result.sent (left + 1))).length
              = min result.sent (min (file.length - offset) (left + 1)) := by
            rw [Buffer.slice, List.length_take, List.length_drop]
            omega
          have same : Buffer.slice file offset (min result.sent (left + 1))
              = Buffer.slice file offset
                (min result.sent (min (file.length - offset) (left + 1))) := by
            rw [Buffer.slice, Buffer.slice, List.take_eq_take_iff, List.length_drop]
            omega
          obtain ⟨size, failed⟩ := result
          dsimp only at chunk same
          have went : count - (left + 1 - min size (min (file.length - offset) (left + 1)))
              = offset + min size (min (file.length - offset) (left + 1)) := by
            omega
          cases failed with
          | none =>
              have step : nsendfileLoop file count sent (left + 1)
                    ({ sent := size, failed := none } :: results)
                  = nsendfileLoop file count
                    (sent ++ Buffer.slice file offset (min size (left + 1)))
                    (left + 1 - min size (min (file.length - offset) (left + 1))) results := by
                simp only [nsendfileLoop, place, chunk]
              rw [step, ih _ (by omega), went, same]
              simp only [List.map_cons, SendfileResult.round, transfer, Option.map_none,
                Option.map_map]
              rw [Nat.sub_add_eq]
              refine Option.map_congr fun outcome _ => ?_
              dsimp only [Function.comp]
              rw [List.append_assoc, Nat.add_assoc]
              congr 2
              rw [Buffer.slice, Buffer.slice, Buffer.slice, List.take_add, List.drop_drop]
          | some errno =>
              obtain ⟨taken, isTaken⟩
                  : ∃ taken, min size (min (file.length - offset) (left + 1)) = taken := ⟨_, rfl⟩
              rw [isTaken] at chunk same went
              have start : count = left + 1 - taken ↔ offset + taken = 0 := by omega
              have exact_ : (Buffer.slice file offset taken).length = taken := same ▸ chunk
              have step : nsendfileLoop file count sent (left + 1)
                    ({ sent := size, failed := some errno } :: results)
                  = some {
                      ret := stopRet count (offset + taken) (some errno.nsendfileStop)
                      accepted := sent ++ Buffer.slice file offset taken
                    } := by
                cases errno with
                | eintr | eagain =>
                    simp only [nsendfileLoop, place, same, exact_, Errno.nsendfileStop, stopRet,
                      went,
                      start]
                    split_ifs <;> rfl
                | enobufs | enomem | other =>
                    simp only [nsendfileLoop, place, same, Errno.nsendfileStop, stopRet]
              rw [step]
              simp only [List.map_cons, SendfileResult.round, transfer, Option.map_some, isTaken]

theorem nsendfile_transfer (file : List UInt8) (count : Nat) (results : List SendfileResult)
    : nsendfile file count results
      = (transfer file.length count (results.map SendfileResult.round)).map fun outcome =>
        { ret := stopRet count outcome.moved outcome.stop,
          accepted := file.take outcome.moved } := by
  have started := @nsendfileLoop_transfer file count [] count (le_refl count) results
  simp only [Nat.sub_self, Nat.sub_zero, Nat.zero_add, List.nil_append, Buffer.slice,
    List.drop_zero] at started
  exact started

-----------------------------------------------------------------------------------------
-- What is reported
-----------------------------------------------------------------------------------------

/-- A number of bytes is reported as itself, or as an error that is not a soft one. -/
def Converts (n : Nat) : Prop := (0 ≤ toInt n → toInt n = n) ∧ toInt n ≠ netSofterror

/-- A value that is not negative counts the bytes, and a soft error means that there are none. -/
def Sent.Accounts (sent : Sent) : Prop :=
  (0 ≤ sent.ret → sent.ret = sent.accepted.length)
  ∧ (sent.ret = netSofterror → sent.accepted = [])

/-- When the results of the system calls let the call report what was accepted. If they take
`count` bytes, that number is reported; otherwise the first that stops the loop matters, with what
it takes itself: nothing may have been accepted by then if it makes for a soft error.
-/
def Accountable (room count : Nat) (rounds : List (Round SendStop)) : Prop :=
  if count ≤ min room (before rounds) then Converts count
  else
    ∀ last stop, stopping rounds = some (last, stop) →
      let moved := min (before rounds + last) (min room count)
      match stop with
      | .again => moved = 0 ∨ Converts moved
      | .soft => moved = 0
      | .hard => True

theorem accounts_complete {bytes : List UInt8} {count : Nat} (positive : 1 ≤ count)
    (size : bytes.length = count)
    : Sent.Accounts { ret := toInt count, accepted := bytes } ↔ Converts count := by
  unfold Sent.Accounts Converts
  dsimp only
  rw [size]
  refine and_congr_right fun _ => ⟨fun empty soft => ?_, fun other soft => absurd soft other⟩
  rw [empty soft] at size
  simp only [List.length_nil] at size
  omega

theorem accounts_stopped {bytes : List UInt8} {count : Nat} (stop : SendStop)
    : Sent.Accounts { ret := stopRet count bytes.length (some stop), accepted := bytes }
      ↔ match stop with
        | .again => bytes.length = 0 ∨ Converts bytes.length
        | .soft => bytes.length = 0
        | .hard => True := by
  have soft : ¬ 0 ≤ netSofterror := by decide
  have hard : ¬ 0 ≤ netHarderror := by decide
  have apart : netHarderror ≠ netSofterror := by decide
  cases stop with
  | again =>
      by_cases empty : bytes.length = 0
      · have none_ : bytes = [] := List.length_eq_zero_iff.mp empty
        simp [Sent.Accounts, stopRet, none_, soft]
      · have positive : 1 ≤ bytes.length := Nat.pos_of_ne_zero empty
        have reported : stopRet count bytes.length (some .again) = toInt bytes.length :=
          if_neg empty
        rw [reported]
        exact (accounts_complete positive rfl).trans ⟨.inr, fun either => either.resolve_left empty⟩
  | soft => simp [Sent.Accounts, stopRet, soft]
  | hard => simp [Sent.Accounts, stopRet, hard, apart]

theorem accounts_iff {room count : Nat} {rounds : List (Round SendStop)} {bytes : List UInt8}
    {sent : Sent} (positive : 1 ≤ count) (covers : room ≤ bytes.length)
    (returns : (transfer room count rounds).map (fun outcome =>
      {
        ret := stopRet count outcome.moved outcome.stop
        accepted := bytes.take outcome.moved
      }) = some sent)
    : sent.Accounts ↔ Accountable room count rounds := by
  unfold Accountable
  rw [transfer_eq] at returns
  split_ifs at returns ⊢ with whole
  · obtain rfl := Option.some.inj returns
    refine accounts_complete positive ?_
    rw [List.length_take]
    dsimp only
    omega
  · rw [Option.map_map] at returns
    obtain ⟨⟨last, stop⟩, stops, rfl⟩ := Option.map_eq_some_iff.mp returns
    have size : (bytes.take (min (before rounds + last) (min room count))).length
        = min (before rounds + last) (min room count) := by
      rw [List.length_take]
      omega
    have stopped := @accounts_stopped (bytes.take (min (before rounds + last) (min room count)))
      count stop
    rw [size] at stopped
    refine stopped.trans ⟨fun fine other otherStop same => ?_, fun all => all last stop stops⟩
    obtain ⟨rfl, rfl⟩ := Prod.mk.inj (Option.some.inj (stops.symm.trans same))
    exact fine

/-- A call with the results of its system calls. -/
inductive NetSend where
  | nwrite (buf : List UInt8) (results : List WriteResult)
  | nsendfile (file : List UInt8) (count : Nat) (results : List SendfileResult)

namespace NetSend

/-- What the call returns, if it does. -/
def outcome : NetSend → Option Sent
  | .nwrite buf results => Iperf.nwrite buf results
  | .nsendfile file count results => Iperf.nsendfile file count results

def count : NetSend → Nat
  | .nwrite buf _ => buf.length
  | .nsendfile _ count _ => count

/-- The bytes that there are. -/
def room : NetSend → Nat
  | .nwrite buf _ => buf.length
  | .nsendfile file _ _ => file.length

def rounds : NetSend → List (Round SendStop)
  | .nwrite _ results => results.map WriteResult.round
  | .nsendfile _ _ results => results.map SendfileResult.round

end NetSend

/-- Either call reports what the kernel has accepted exactly when no soft error follows upon
accepted bytes and the number of bytes fits.
-/
theorem call_accounts_iff {call : NetSend} {sent : Sent} (positive : 1 ≤ call.count)
    (returns : call.outcome = some sent)
    : sent.Accounts ↔ Accountable call.room call.count call.rounds := by
  cases call with
  | nwrite buf results =>
      have same : nwrite buf results = some sent := returns
      rw [nwrite_transfer] at same
      exact accounts_iff positive (le_refl buf.length) same
  | nsendfile file count results =>
      have same : nsendfile file count results = some sent := returns
      rw [nsendfile_transfer] at same
      exact accounts_iff positive (le_refl file.length) same

/-- A write that is interrupted behind its first byte. -/
def interruptedWrite : NetSend := .nwrite [1, 2] [.accepted 1, .failed .eintr]

/-- The theorem at a write that reports one byte of two. -/
theorem interruptedWrite_accounts
    : Sent.Accounts { ret := 1, accepted := [1] }
      ∧ Accountable interruptedWrite.room interruptedWrite.count interruptedWrite.rounds := by
  have accounts : Sent.Accounts { ret := 1, accepted := [1] } := ⟨fun _ => rfl, nofun⟩
  exact ⟨accounts, (@call_accounts_iff interruptedWrite _ (by decide) (by decide)).mp accounts⟩

/-- `ENOBUFS` behind the first byte is reported as if nothing had been accepted. -/
theorem call_forgets_accepted
    : ¬ ∀ (call : NetSend) (sent : Sent), 1 ≤ call.count → call.outcome = some sent →
        sent.Accounts := by
  intro all
  have accounts := all (.nwrite [1, 2] [.accepted 1, .failed .enobufs])
    { ret := netSofterror, accepted := [1] } (by decide) (by decide)
  have empty : ([1] : List UInt8) = [] := accounts.2 rfl
  cases empty

end Iperf
