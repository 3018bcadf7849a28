import Iperf.Library.Distances
import Iperf.Model.Api
import Iperf.Udp.SkipRxCopy

/-! Jitter under two clocks: the same datagrams from a sender whose clock is ahead by a constant.
The transit times are absolute values, so the constant is noticed where the sign of a transit time
changes.
-/

namespace Iperf

open Distances

variable {test : Test} {sp sp' : Stream} {c : Int}

-----------------------------------------------------------------------------------------
-- Runs
-----------------------------------------------------------------------------------------

/-- A datagram: when it arrives, when it was sent, and the bytes behind the send time. -/
structure Stamped where
  arrivalTime : IperfTime
  sentTime : IperfTime
  rest : List UInt8

def Stamped.bytes (datagram : Stamped) : List UInt8 :=
  BigEndian.encode 4 datagram.sentTime.secs.toNat
    ++ BigEndian.encode 4 datagram.sentTime.usecs.toNat ++ datagram.rest

/-- What happens to the jitter of a stream. -/
inductive JitterEvent where
  | datagram (datagram : Stamped)
  | reset (now : IperfTime)

def jitterStep (test : Test) (sp : Stream) : JitterEvent → Option Stream
  | .datagram datagram =>
      (iperfUdpRecv test sp datagram.arrivalTime
        [recvDatagram (test.settings.skipRxCopy ≠ 0)
            (udpRecvSize test) datagram.bytes]).map Prod.snd
  | .reset now => some (resetStreamStats now sp)

def jitterRun (test : Test) : Stream → List JitterEvent → Option Stream
  | sp, [] => some sp
  | sp, event :: rest => (jitterStep test sp event).bind fun sp => jitterRun test sp rest

/-- Two runs that have the same jitter after every event. -/
def SameJitter (test : Test) (sp sp' : Stream) (events events' : List JitterEvent) : Prop :=
  ∀ n, ∃ after after', jitterRun test sp (events.take n) = some after
    ∧ jitterRun test sp' (events'.take n) = some after' ∧ after.jitter = after'.jitter

-----------------------------------------------------------------------------------------
-- Clocks
-----------------------------------------------------------------------------------------

/-- Microseconds from the send time to the arrival time, by two clocks. -/
def Stamped.transit (datagram : Stamped) : Int :=
  iperfTimeInUsecs datagram.arrivalTime - iperfTimeInUsecs datagram.sentTime

/-- A datagram of the size of a block, with the times that clocks give. -/
structure Stamped.Sound (test : Test) (datagram : Stamped) : Prop where
  arrived : datagram.arrivalTime.Normalised
  sent : datagram.sentTime.Normalised
  full : datagram.bytes.length = blockSize test

/-- The same event when the clock of the sender is `c` microseconds ahead. -/
inductive Ahead (test : Test) (c : Int) : JitterEvent → JitterEvent → Prop where
  | datagram {first second : Stamped} (sound : first.Sound test) (soundToo : second.Sound test)
      (arrivalTime : second.arrivalTime = first.arrivalTime) (rest : second.rest = first.rest)
      (ahead : (iperfTimeInUsecs second.sentTime : Int) = iperfTimeInUsecs first.sentTime + c)
      : Ahead test c (.datagram first) (.datagram second)
  | reset (now : IperfTime) : Ahead test c (.reset now) (.reset now)

/-- At every datagram but the first one of a period, the offset is not noticed against the datagram
before it. `received` counts the bytes of the period and `previous` is the transit time before.
-/
def OffsetUnnoticed (c : Int) (size : UInt64) : UInt64 → Int → List JitterEvent → Prop
  | _, _, [] => True
  | received, previous, .datagram datagram :: rest =>
      (received ≠ 0 → Unnoticed c datagram.transit previous)
      ∧ OffsetUnnoticed c size (received + size) datagram.transit rest
  | _, previous, .reset _ :: rest => OffsetUnnoticed c size 0 previous rest

-----------------------------------------------------------------------------------------
-- One datagram
-----------------------------------------------------------------------------------------

/-- The send time is read back. -/
theorem udpReadHeader_stamped (datagram : Stamped)
    : (udpReadHeader test datagram.bytes).2 = datagram.sentTime := by
  have fits (word : UInt32) : word.toNat < 256 ^ 4 := word.toNat_lt
  have secs : Buffer.slice datagram.bytes 0 4
      = BigEndian.encode 4 datagram.sentTime.secs.toNat := by
    rw [Buffer.slice, List.drop_zero, Stamped.bytes, List.append_assoc, List.take_left']
    exact BigEndian.length_encode ..
  have usecs : Buffer.slice datagram.bytes 4 4
      = BigEndian.encode 4 datagram.sentTime.usecs.toNat := by
    rw [Buffer.slice, Stamped.bytes, List.append_assoc, List.drop_left', List.take_left']
    · exact BigEndian.length_encode ..
    · exact BigEndian.length_encode ..
  simp only [udpReadHeader, secs, usecs, BigEndian.decode_encode_of_lt (fits _)]
  simp

/-- The transit time that `iperf_udp_recv` computes is the distance of the two clocks. -/
theorem iperfTimeDiff_transit {datagram : Stamped} (sound : datagram.Sound test)
    : iperfTimeInSecs (iperfTimeDiff datagram.arrivalTime datagram.sentTime).2
      = (|datagram.transit| : Int) / 1000000 := by
  have arrived := sound.arrived
  have sent := sound.sent
  rw [iperfTimeInSecs_eq, Stamped.transit]
  congr 1
  rw [← Int.cast_natCast, Int.cast_inj]
  rcases lt_trichotomy (iperfTimeInUsecs datagram.sentTime)
    (iperfTimeInUsecs datagram.arrivalTime) with later | equal | earlier
  · rw [iperfTimeDiff_inUsecs arrived sent later, abs_of_pos (by omega)]
    omega
  · have same : iperfTimeCompare datagram.arrivalTime datagram.sentTime = 0 := by
      rw [iperfTimeCompare_eq arrived sent, if_neg (by omega), if_pos equal.symm]
    rw [iperfTimeDiff, if_pos same, equal, sub_self, abs_zero]
    rfl
  · rw [iperfTimeDiff_inUsecs_earlier arrived sent earlier, abs_of_neg (by omega)]
    omega

theorem udpCountSequence_jitter (sp : Stream) (pcount : UInt64)
    : (udpCountSequence sp pcount).jitter = sp.jitter
      ∧ (udpCountSequence sp pcount).prevTransit = sp.prevTransit := by
  unfold udpCountSequence
  dsimp only
  split_ifs <;> exact ⟨rfl, rfl⟩

/-- What a datagram does to the jitter of a stream. -/
structure Jittered (test : Test) (sp : Stream) (datagram : Stamped) (after : Stream) : Prop where
  room : after.buffer.length = blockSize test
  bytesReceived : after.result.bytesReceived
    = sp.result.bytesReceived + UInt64.ofNat (udpRecvSize test)
  prevTransit : after.prevTransit = (|datagram.transit| : Int) / 1000000
  jitter : after.jitter = sp.jitter
    + (|after.prevTransit - if sp.result.bytesReceived = 0 then after.prevTransit
      else sp.prevTransit|
      - sp.jitter) / 16

theorem jitterStep_datagram (minimum : 16 ≤ blockSize test) (running : test.state = .testRunning)
    (room : sp.buffer.length = blockSize test) {datagram : Stamped} (sound : datagram.Sound test)
    : ∃ after, jitterStep test sp (.datagram datagram) = some after
      ∧ Jittered test sp datagram after := by
  obtain ⟨received, call, ret, front, length⟩ := nrecvNoSelect_datagram minimum room sound.full
  have low := (udpRecvSize_bounds minimum).1
  have header : (udpReadHeader test received.buffer).2 = datagram.sentTime := by
    rw [udpReadHeader_congr front]
    exact udpReadHeader_stamped datagram
  unfold jitterStep iperfUdpRecv
  dsimp only
  rw [call, Option.map_some, if_neg (by omega), ret, Int.toNat_natCast, if_pos running]
  refine ⟨_, rfl, ?_, ?_, ?_, ?_⟩
  · exact (congrArg List.length (udpCountSequence_rest _ _).1).trans (length.trans room)
  · exact congrArg StreamResult.bytesReceived (udpCountSequence_rest _ _).2
  · rw [header]
    exact iperfTimeDiff_transit sound
  · simp only [udpJitter, udpCountSequence_jitter, decide_eq_true_eq]

-----------------------------------------------------------------------------------------
-- Two runs
-----------------------------------------------------------------------------------------

/-- Two streams in step: the transit time before was `previous` for the one and `previous - c` for
the other.
-/
structure InStep (test : Test) (c previous : Int) (sp sp' : Stream) : Prop where
  room : sp.buffer.length = blockSize test
  roomToo : sp'.buffer.length = blockSize test
  bytesReceived : sp'.result.bytesReceived = sp.result.bytesReceived
  jitter : sp.jitter = sp'.jitter
  first : sp.result.bytesReceived ≠ 0 → sp.prevTransit = (|previous| : Int) / 1000000
  second : sp.result.bytesReceived ≠ 0 → sp'.prevTransit = (|previous - c| : Int) / 1000000

theorem sameJitter_cons {event event' : JitterEvent} {rest rest' : List JitterEvent}
    {after after' : Stream} (step : jitterStep test sp event = some after)
    (step' : jitterStep test sp' event' = some after') (same : sp.jitter = sp'.jitter)
    : SameJitter test sp sp' (event :: rest) (event' :: rest')
      ↔ SameJitter test after after' rest rest' := by
  constructor
  · intro all n
    have one := all (n + 1)
    simp only [List.take_succ_cons, jitterRun, step, step', Option.bind_some] at one
    exact one
  · intro all n
    cases n with
    | zero => exact ⟨sp, sp', rfl, rfl, same⟩
    | succ n =>
        simp only [List.take_succ_cons, jitterRun, step, step', Option.bind_some]
        exact all n

theorem SameJitter.start {events events' : List JitterEvent}
    (same : SameJitter test sp sp' events events')
    : sp.jitter = sp'.jitter := by
  obtain ⟨after, after', ran, ran', equal⟩ := same 0
  obtain rfl := Option.some.inj ran
  obtain rfl := Option.some.inj ran'
  exact equal

theorem InStep.reset {previous : Int} (inStep : InStep test c previous sp sp') (now : IperfTime)
    : InStep test c previous (resetStreamStats now sp) (resetStreamStats now sp') :=
  ⟨inStep.room, inStep.roomToo, rfl, rfl, fun some => absurd rfl some, fun some => absurd rfl some⟩

theorem Ahead.transit {first second : Stamped}
    (ahead : Ahead test c (.datagram first) (.datagram second))
    : second.transit = first.transit - c := by
  cases ahead with
  | datagram sound soundToo arrivalTime rest ahead =>
      rw [Stamped.transit, Stamped.transit, arrivalTime, ahead]
      ring

/-- Scaling keeps differences of distances apart. -/
theorem scaled_distances (first second third fourth : Int)
    : |((|first| : Int) / 1000000 : ℚ) - (|second| : Int) / 1000000|
        = |((|third| : Int) / 1000000 : ℚ) - (|fourth| : Int) / 1000000|
      ↔ |(|first| - |second|)| = |(|third| - |fourth|)| := by
  rw [← sub_div, ← sub_div, abs_div, abs_div, div_left_inj' (by norm_num)]
  exact_mod_cast Iff.rfl

/-- The two jitters stay equal exactly when the offset is not noticed. -/
theorem InStep.jittered {previous : Int} (inStep : InStep test c previous sp sp')
    {first second : Stamped} (transit : second.transit = first.transit - c) {after after' : Stream}
    (here : Jittered test sp first after) (there : Jittered test sp' second after')
    : after.jitter = after'.jitter
      ↔ (sp.result.bytesReceived ≠ 0 → Unnoticed c first.transit previous) := by
  rw [here.jitter, there.jitter, inStep.jitter, inStep.bytesReceived, here.prevTransit,
    there.prevTransit, transit, smoothed_inj (by norm_num)]
  by_cases start : sp.result.bytesReceived = 0
  · rw [if_pos start, if_pos start, sub_self, sub_self]
    exact iff_of_true rfl fun some => absurd start some
  · rw [if_neg start, if_neg start, inStep.first start, inStep.second start, scaled_distances,
      ← unnoticed_iff]
    exact ⟨fun unnoticed _ => unnoticed, fun unnoticed => unnoticed start⟩

/-- By induction on the events, with the streams in step as long as the jitters agree. -/
theorem InStep.agrees_iff {previous : Int} {events events' : List JitterEvent}
    (minimum : 16 ≤ blockSize test) (running : test.state = .testRunning)
    (inStep : InStep test c previous sp sp') (ahead : List.Forall₂ (Ahead test c) events events')
    : SameJitter test sp sp' events events'
      ↔ OffsetUnnoticed c (UInt64.ofNat (udpRecvSize test)) sp.result.bytesReceived previous
        events := by
  induction ahead generalizing sp sp' previous with
  | nil =>
      refine iff_of_true (fun n => ?_) trivial
      rw [List.take_nil]
      exact ⟨sp, sp', rfl, rfl, inStep.jitter⟩
  | cons one rest ih =>
      cases one with
      | reset now =>
          refine (sameJitter_cons rfl rfl inStep.jitter).trans ?_
          exact ih (inStep.reset now)
      | datagram sound soundToo arrivalTime tail shift =>
          obtain ⟨after, step, here⟩ := jitterStep_datagram minimum running inStep.room sound
          obtain ⟨after', step', there⟩ :=
            jitterStep_datagram minimum running inStep.roomToo soundToo
          have transit := (Ahead.datagram sound soundToo arrivalTime tail shift).transit
          have jitters := inStep.jittered transit here there
          rw [sameJitter_cons step step' inStep.jitter, OffsetUnnoticed, ← jitters,
            ← here.bytesReceived]
          have next (equal : after.jitter = after'.jitter) : InStep test c _ after after' := {
            room := here.room
            roomToo := there.room
            bytesReceived := by
              rw [here.bytesReceived, there.bytesReceived, inStep.bytesReceived]
            jitter := equal
            first := fun _ => here.prevTransit
            second := fun _ => transit ▸ there.prevTransit
          }
          constructor
          · intro same
            exact ⟨same.start, (ih (next same.start)).mp same⟩
          · rintro ⟨equal, later⟩
            exact (ih (next equal)).mpr later

/-- The offset of a clock is not seen in the jitter exactly when no two successive datagrams of a
period notice it.
-/
theorem sameJitter_iff {events events' : List JitterEvent} (minimum : 16 ≤ blockSize test)
    (running : test.state = .testRunning) (room : sp.buffer.length = blockSize test)
    (fresh : sp.result.bytesReceived = 0) (ahead : List.Forall₂ (Ahead test c) events events')
    : SameJitter test sp sp events events'
      ↔ OffsetUnnoticed c (UInt64.ofNat (udpRecvSize test)) 0 0 events := by
  have start : InStep test c 0 sp sp :=
    ⟨room, room, rfl, rfl, fun some => absurd fresh some, fun some => absurd fresh some⟩
  rw [start.agrees_iff minimum running ahead, fresh]

/-- A datagram of sixteen bytes that is sent and arrives on whole seconds. -/
def secondsDatagram (arrived sent : UInt32) : Stamped :=
  {
    arrivalTime := { secs := arrived, usecs := 0 }
    sentTime := { secs := sent, usecs := 0 }
    rest := List.replicate 8 0
  }

theorem secondsDatagram_sound (arrived sent : UInt32)
    : (secondsDatagram arrived sent).Sound smallestUdpTest := by
  refine ⟨?_, ?_, ?_⟩
  · exact (by decide : (0 : UInt32).toNat < 1000000)
  · exact (by decide : (0 : UInt32).toNat < 1000000)
  · simp [Stamped.bytes, secondsDatagram, blockSize, smallestUdpTest]
    decide

/-- Two datagrams, one and three seconds on their way. -/
def slowing : List JitterEvent :=
  [.datagram (secondsDatagram 10 9), .datagram (secondsDatagram 12 9)]

/-- The same two datagrams when the clock of the sender is ahead. -/
def slowingAhead (seconds : UInt32) : List JitterEvent :=
  [.datagram (secondsDatagram 10 (9 + seconds)), .datagram (secondsDatagram 12 (9 + seconds))]

theorem slowing_ahead {seconds : UInt32} (small : seconds.toNat ≤ 2)
    : List.Forall₂ (Ahead smallestUdpTest (seconds.toNat * 1000000)) slowing
        (slowingAhead seconds) := by
  have shift (arrived : UInt32) : Ahead smallestUdpTest (seconds.toNat * 1000000)
      (.datagram (secondsDatagram arrived 9))
          (.datagram (secondsDatagram arrived (9 + seconds))) := by
    refine .datagram (secondsDatagram_sound _ _) (secondsDatagram_sound _ _) rfl rfl ?_
    have sum : (9 + seconds).toNat = 9 + seconds.toNat := by
      rw [UInt32.toNat_add, Nat.mod_eq_of_lt (by simp; omega)]
      rfl
    simp only [iperfTimeInUsecs, secondsDatagram, sum]
    simp
    omega
  exact .cons (shift 10) (.cons (shift 12) .nil)

/-- Witness: an offset of one second keeps both transit times on one side. -/
theorem sameJitter_one_second
    : SameJitter smallestUdpTest (smallestUdpStream false) (smallestUdpStream false) slowing
      (slowingAhead 1) := by
  refine (sameJitter_iff (by decide) rfl rfl rfl (slowing_ahead (by decide))).mpr ?_
  refine ⟨fun some => absurd rfl some, fun _ => ?_, trivial⟩
  unfold Unnoticed
  decide

/-- An offset of two seconds changes the sign of one transit time, and the jitter disappears. -/
theorem sameJitter_fails
    : ¬ ∀ (test : Test) (sp : Stream) (c : Int) (events events' : List JitterEvent),
        16 ≤ blockSize test → test.state = .testRunning → sp.buffer.length = blockSize test
        → sp.result.bytesReceived = 0 → List.Forall₂ (Ahead test c) events events'
        → SameJitter test sp sp events events' := by
  intro all
  have same := all smallestUdpTest (smallestUdpStream false) _ _ _ (by decide) rfl rfl rfl
    (slowing_ahead (show (2 : UInt32).toNat ≤ 2 by decide))
  obtain ⟨after, after', ran, ran', equal⟩ := same 2
  have differ : (jitterRun smallestUdpTest (smallestUdpStream false) slowing).map Stream.jitter
      ≠ (jitterRun smallestUdpTest (smallestUdpStream false)
          (slowingAhead 2)).map Stream.jitter := by
    decide +kernel
  refine differ ?_
  have first : slowing = slowing.take 2 := rfl
  have second : slowingAhead 2 = (slowingAhead 2).take 2 := rfl
  rw [first, ran, second, ran', Option.map_some, Option.map_some, equal]

end Iperf
