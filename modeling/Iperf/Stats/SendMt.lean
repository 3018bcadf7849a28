import Iperf.Stats.Throttle
import Iperf.Stats.Workers
import Iperf.Tcp.SendOutcomes

/-! `iperf_send_mt` as a whole: the loop over its messages, the checks of the light in it and
behind it, and what one message can send.
-/

namespace Iperf

/-- One look at the clock and the check behind it: the seconds until the reading, the reading,
and the results of `nanosleep(2)`.
-/
structure ThrottleIo where
  wait : NNRat
  now : IperfTime
  naps : List Nap

/-- One message: what `sp->snd` meets, the seconds it takes, and the check behind it, which
only some loops make.
-/
structure MessageIo where
  before : IperfTime
  io : SendIo
  wait : NNRat
  throttle : ThrottleIo

/-- The inputs of one `iperf_send_mt`. -/
structure SendMtIo where
  messages : List MessageIo
  throttle : ThrottleIo

/-- A sending stream in its test, the seconds since its `start_time_fixed`, and what was
observed so far: the stream's `bytes_sent` after every send, the readings of the clock, and the
exact values of `SEC_TO_NS * delta_bits`.
-/
structure PacedStream where
  test : Test
  greenLight : Bool
  elapsed : ℚ
  sends : List (ℚ × UInt64) := []
  readings : List (ℚ × IperfTime) := []
  products : List Int := []

/-- `sp->result->bytes_sent`. -/
def sentBytes (position : Nat) (test : Test) : UInt64 :=
  (test.streams[position]?.map fun sp => sp.result.bytesSent).getD 0

/-- `multisend` before the loop. `iperf_defaults` sets the one of the test to ten. -/
def multisend (test : Test) : Nat :=
  if test.settings.burst ≠ 0 then test.settings.burst.toInt.toNat
  else if test.settings.rate = 0 then 10
  else 1

/-- The ending conditions, which stop a loop that would send more than one more message. -/
def endingCondition (test : Test) : Bool :=
  (test.settings.bytes ≠ 0 ∧ test.bytesSent ≥ test.settings.bytes)
    ∨ (test.settings.blocks ≠ 0 ∧ test.blocksSent ≥ test.settings.blocks)

namespace PacedStream

def timeNow (s : PacedStream) (io : ThrottleIo) : PacedStream :=
  {
    s with
    elapsed := s.elapsed + io.wait
    readings := s.readings ++ [(s.elapsed + io.wait, io.now)]
  }

def throttle (position : Nat) (s : PacedStream) (now : IperfTime) (naps : List Nap)
    : Option PacedStream := do
  let sp ← s.test.streams[position]?
  let out ← iperfCheckThrottle s.test sp s.greenLight now naps
  return {
    s with
    greenLight := out.greenLight
    elapsed := s.elapsed + out.slept
    products := s.products ++ out.products
  }

def send (position : Nat) (s : PacedStream) (message : MessageIo)
    : Option (Int × PacedStream) := do
  let (r, test) ← iperfSendMt s.test position message.before message.io
  let elapsed := s.elapsed + message.wait
  return (r, { s with test, elapsed, sends := s.sends ++ [(elapsed, sentBytes position test)] })

/-- The loop of `iperf_send_mt`, with `message_sent` and `now`. It gives the error to return,
or zero. A list of messages that ends too early means that `sp->snd` blocks.
-/
def sendLoop (position : Nat) (throttleCheckPerMessage : Bool)
    : Nat → PacedStream → Bool → IperfTime → List MessageIo → Option (Int × Bool × PacedStream)
  | 0, s, messageSent, _, _ => some (0, messageSent, s)
  | more + 1, s, messageSent, now, messages =>
      if !s.greenLight || (0 < more && endingCondition s.test) then
        some (0, messageSent, s)
      else
        match messages with
        | [] => none
        | message :: messages => do
            let (r, s) ← send position s message
            if r < 0 then
              return (if r = netSofterror then 0 else r, messageSent, s)
            else if throttleCheckPerMessage then
              let (now, s) :=
                if messageSent then (now, s) else (message.throttle.now, s.timeNow message.throttle)
              let s ← s.throttle position now message.throttle.naps
              sendLoop position throttleCheckPerMessage more s true now messages
            else
              sendLoop position throttleCheckPerMessage more s true now messages

/-- `iperf_send_mt`. A stream that was not checked message by message is checked at the end. -/
def sendMt (position : Nat) (s : PacedStream) (io : SendMtIo) : Option (Int × PacedStream) := do
  let throttleCheck : Bool := s.test.settings.rate ≠ 0
  let perMessage : Bool := throttleCheck && s.test.settings.burst = 0
  let (r, messageSent, s) ← sendLoop position perMessage (multisend s.test) s false
    { secs := 0, usecs := 0 } io.messages
  if r < 0 then
    return (r, s)
  else if throttleCheck && (!perMessage || !messageSent) then
    let s ← (s.timeNow io.throttle).throttle position io.throttle.now io.throttle.naps
    return (0, s)
  else
    return (0, s)

end PacedStream

theorem toInt_le (n : Nat) : toInt n ≤ n := by
  unfold toInt
  rw [Int.bmod_def]
  split <;> omega

theorem nwriteLoop_ret_le {count : Nat} {sent left : List UInt8} {results : List WriteResult}
    {out : Sent} (ran : nwriteLoop count sent left results = some out)
    : out.ret ≤ count := by
  induction results generalizing sent left with
  | nil =>
      cases left with
      | nil =>
          obtain rfl := Option.some.inj ran
          simpa only using toInt_le count
      | cons byte left => cases ran
  | cons result results ih =>
      cases left with
      | nil =>
          obtain rfl := Option.some.inj ran
          simpa only using toInt_le count
      | cons byte left =>
          have part := (toInt_le (count - (left.length + 1))).trans
            (Int.ofNat_le.mpr (Nat.sub_le _ _))
          cases result with
          | accepted n =>
              simp only [nwriteLoop] at ran
              split at ran
              · obtain rfl := Option.some.inj ran
                simp only [netSofterror]
                omega
              · exact ih ran
          | failed errno =>
              have positive := Int.natCast_nonneg count
              simp only [nwriteLoop] at ran
              cases errno <;> simp only at ran <;> (try split at ran)
                <;> obtain rfl := Option.some.inj ran
                <;> simp only [netSofterror, netHarderror] <;> omega

theorem nsendfileLoop_ret_le {file : List UInt8} {count left : Nat} {sent : List UInt8}
    {results : List SendfileResult} {out : Sent}
    (ran : nsendfileLoop file count sent left results = some out)
    : out.ret ≤ count := by
  induction results generalizing sent left with
  | nil =>
      cases left with
      | zero =>
          obtain rfl := Option.some.inj ran
          simpa only using toInt_le count
      | succ left => cases ran
  | cons result results ih =>
      cases left with
      | zero =>
          obtain rfl := Option.some.inj ran
          simpa only using toInt_le count
      | succ left =>
          have positive := Int.natCast_nonneg count
          simp only [nsendfileLoop] at ran
          generalize left + 1 - _ = nleft at ran
          have part := (toInt_le (count - nleft)).trans (Int.ofNat_le.mpr (Nat.sub_le _ _))
          split at ran
          · exact ih ran
          all_goals
            (try split at ran)
            all_goals
              obtain rfl := Option.some.inj ran
              simp only [netSofterror, netHarderror]
              omega

/-- A message sends at most a block, and leaves no more than a block pending. -/
theorem protocolSend_ret_le {test : Test} {sp sp' : Stream} {before : IperfTime} {io : SendIo}
    {sent : Sent} (called : protocolSend test sp before io = some (sent, sp'))
    (pending : sp.pendingSize ≤ blockSize test)
    : sent.ret ≤ blockSize test ∧ sp'.pendingSize ≤ blockSize test := by
  have tcp (called : iperfTcpSend test sp io = some (sent, sp'))
      : sent.ret ≤ blockSize test ∧ sp'.pendingSize ≤ blockSize test := by
    have size : pendingBytes test sp ≤ blockSize test := by
      unfold pendingBytes
      split
      · exact le_refl _
      · exact pending
    rw [iperfTcpSend_eq, Option.map_eq_some_iff] at called
    obtain ⟨out, ran, shape⟩ := called
    obtain ⟨rfl, rfl⟩ := Prod.mk.inj shape
    have ret : out.ret ≤ pendingBytes test sp := by
      split at ran
      · exact nsendfileLoop_ret_le ran
      · refine (nwriteLoop_ret_le ran).trans ?_
        exact_mod_cast List.length_take_le _ _
    refine ⟨ret.trans (by exact_mod_cast size), ?_⟩
    unfold afterSend
    split
    · exact size
    · exact (Nat.sub_le _ _).trans size
  unfold protocolSend at called
  split at called
  · simp only [iperfUdpSend, Option.map_eq_some_iff] at called
    obtain ⟨out, ran, shape⟩ := called
    have ret : out.ret ≤ blockSize test := by
      refine (nwriteLoop_ret_le ran).trans ?_
      exact_mod_cast List.length_take_le _ _
    split at shape
    · obtain ⟨rfl, rfl⟩ := Prod.mk.inj shape
      exact ⟨ret, pending⟩
    · obtain ⟨rfl, rfl⟩ := Prod.mk.inj shape
      exact ⟨ret, pending⟩
  · exact tcp called
  · exact tcp called

end Iperf
