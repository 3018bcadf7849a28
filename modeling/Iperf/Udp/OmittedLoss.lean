import Iperf.Stats.Workers
import Iperf.Udp.LossAccounting

/-! Losses after an omit period: what a receiver reports is the distance of its counters from
their values at the end of that period, and a late datagram belongs to both.
-/

namespace Iperf

open SequenceTally

/-- The reported losses are not negative and no more than the reported packets. -/
structure LossInRange (sp : Stream) : Prop where
  nonneg : 0 ≤ sp.cntError.toInt - sp.omittedCntError.toInt
  within : sp.cntError.toInt - sp.omittedCntError.toInt
    ≤ sp.packetCount.toInt - sp.omittedPacketCount.toInt

/-- The late datagrams from before the reset are no more than the ones missing since. -/
def LateCovered (first second : List Nat) : Prop := lateFrom first second ≤ skipped first second

variable {test : Test} {sp sp' : Stream}

theorem iperfUdpRecv_baseline {arrivalTime : IperfTime} {results : List RecvResult} {r : Int}
    (got : iperfUdpRecv test sp arrivalTime results = some (r, sp'))
    : SameBaseline sp sp' :=
  (iperfUdpRecv_accounts got).1

/-- The values at the end of the omit period stay, by induction on the deliveries. -/
theorem udpRecvRun_omitted {deliveries : List (IperfTime × List UInt8)}
    (ran : udpRecvRun test sp deliveries = some sp')
    : sp'.omittedPacketCount = sp.omittedPacketCount
      ∧ sp'.omittedCntError = sp.omittedCntError := by
  induction deliveries generalizing sp with
  | nil =>
      obtain rfl := Option.some.inj ran
      exact ⟨rfl, rfl⟩
  | cons delivery rest ih =>
      obtain ⟨⟨r, middle⟩, got, later⟩ := Option.bind_eq_some_iff.mp ran
      have baseline := iperfUdpRecv_baseline got
      obtain ⟨packets, errors⟩ := ih later
      exact ⟨packets.trans baseline.omittedPacketCount, errors.trans baseline.omittedCntError⟩

theorem ReceiverAt.reset {tally : Tally} (at_ : ReceiverAt test sp tally) (now : IperfTime)
    : ReceiverAt test (resetStreamStats now sp) tally :=
  ⟨at_.highest, at_.missing, at_.late, at_.buffer⟩

/-- The reported numbers are in range exactly when the late datagrams are covered. -/
theorem lossInRange_iff {first second : List Nat} (before : ExactLoss first sp)
    (after : ExactLoss (first ++ second) sp') (distinct : second.Nodup)
    (packets : sp'.omittedPacketCount = sp.packetCount) (errors : sp'.omittedCntError = sp.cntError)
    : LossInRange sp' ↔ LateCovered first second := by
  have advance := highestOf_advance first distinct
  have lostBefore := before.lost
  have lostAfter := after.lost
  rw [before.highest] at lostBefore
  rw [after.highest, List.length_append] at lostAfter
  unfold LateCovered
  constructor
  · intro range
    have nonneg := range.nonneg
    rw [errors] at nonneg
    omega
  · intro covered
    constructor
    · rw [errors]
      omega
    · rw [errors, packets, before.highest, after.highest]
      omega

/-- A receiver that has not counted anything yet, with a buffer of one block. -/
structure FreshReceiver (test : Test) (sp : Stream) : Prop where
  packets : sp.packetCount = 0
  errors : sp.cntError = 0
  late : sp.outoforderPackets = 0
  buffer : sp.buffer.length = test.settings.blksize.toInt.toNat

/-- Numbered datagrams, each delivered at most once in any order, with an end-of-omit reset after
the `first` of them: the losses are in range at every moment behind it exactly if at every such
moment the late datagrams are no more than the ones missing since the reset.
-/
theorem loss_after_reset_iff {wire : List (List UInt8)} (numbered : Numbered test wire)
    (minimum : 16 ≤ test.settings.blksize.toInt.toNat) (running : test.state = .testRunning)
    (limit : wire.length < 2 ^ 63) (fresh : FreshReceiver test sp)
    {first second : List (IperfTime × Fin wire.length)}
    (distinct : ((first ++ second).map Prod.snd).Nodup) (now : IperfTime)
    : ∃ before, udpRecvRun test sp (delivered wire first) = some before
      ∧ ((∀ taken, taken <+: second →
          ∃ after, udpRecvRun test (resetStreamStats now before) (delivered wire taken) = some after
            ∧ LossInRange after)
        ↔ ∀ taken, taken <+: second →
          LateCovered (deliveredNumbers first) (deliveredNumbers taken)) := by
  have start := ReceiverAt.fresh fresh.packets fresh.errors fresh.late fresh.buffer
  have firstDistinct : (first.map Prod.snd).Nodup := by
    rw [List.map_append] at distinct
    exact (List.nodup_append.mp distinct).1
  obtain ⟨before, ran, beforeAt⟩ :=
    @ReceiverAt.run test wire numbered minimum running limit sp [] first start firstDistinct
  rw [List.nil_append] at beforeAt
  have exactBefore := beforeAt.exact (deliveredNumbers_nodup firstDistinct) deliveredNumbers_bounds
    limit
  have moment (taken : List (IperfTime × Fin wire.length)) (isPrefix : taken <+: second)
      : ∃ after, udpRecvRun test (resetStreamStats now before) (delivered wire taken) = some after
        ∧ (LossInRange after
          ↔ LateCovered (deliveredNumbers first) (deliveredNumbers taken)) := by
    have together : ((first ++ taken).map Prod.snd).Nodup := by
      obtain ⟨rest, rfl⟩ := isPrefix
      rw [← List.append_assoc, List.map_append] at distinct
      exact (List.nodup_append.mp distinct).1
    obtain ⟨after, ranToo, afterAt⟩ := ReceiverAt.run numbered minimum running limit
      (beforeAt.reset now) together
    have exactAfter := afterAt.exact (deliveredNumbers_nodup together) deliveredNumbers_bounds limit
    obtain ⟨packets, errors⟩ := udpRecvRun_omitted ranToo
    have parts : deliveredNumbers (first ++ taken)
        = deliveredNumbers first ++ deliveredNumbers taken :=
      List.map_append ..
    rw [parts] at exactAfter
    have takenDistinct : (deliveredNumbers taken).Nodup := by
      rw [List.map_append] at together
      exact deliveredNumbers_nodup (List.nodup_append.mp together).2.1
    exact ⟨after, ranToo, lossInRange_iff exactBefore exactAfter takenDistinct packets errors⟩
  refine ⟨before, ran, fun all taken isPrefix => ?_, fun all taken isPrefix => ?_⟩
  · obtain ⟨after, ranToo, iff⟩ := moment taken isPrefix
    obtain ⟨other, ranOther, range⟩ := all taken isPrefix
    obtain rfl := Option.some.inj (ranOther.symm.trans ranToo)
    exact iff.mp range
  · obtain ⟨after, ranToo, iff⟩ := moment taken isPrefix
    exact ⟨after, ranToo, iff.mpr (all taken isPrefix)⟩

/-- Sixteen bytes with a small number in the place of a 32-bit counter. -/
def smallDatagram (number : UInt8) : List UInt8 :=
  List.replicate 11 0 ++ number :: List.replicate 4 0

def twoDatagrams : List (List UInt8) := [smallDatagram 1, smallDatagram 2]

theorem twoDatagrams_numbered : Numbered smallestUdpTest twoDatagrams := by
  intro k datagram found
  match k with
  | 0 =>
      obtain rfl := Option.some.inj found
      decide
  | 1 =>
      obtain rfl := Option.some.inj found
      decide
  | k + 2 => cases found

theorem smallestUdpStream_fresh : FreshReceiver smallestUdpTest (smallestUdpStream false) :=
  ⟨rfl, rfl, rfl, rfl⟩

def arrival (k : Fin 2) : IperfTime × Fin twoDatagrams.length := ({ secs := 1, usecs := 0 }, k)

/-- The theorem at an order without a late datagram. -/
theorem loss_after_reset_in_order
    : ∃ before,
        udpRecvRun smallestUdpTest (smallestUdpStream false) (delivered twoDatagrams [arrival 0])
          = some before
        ∧ ∃ after,
          udpRecvRun smallestUdpTest (resetStreamStats { secs := 1, usecs := 0 } before)
              (delivered twoDatagrams [arrival 1])
            = some after
          ∧ LossInRange after := by
  obtain ⟨before, ran, iff⟩ := @loss_after_reset_iff smallestUdpTest (smallestUdpStream false)
    twoDatagrams twoDatagrams_numbered (by decide) rfl (by decide) smallestUdpStream_fresh
    [arrival 0] [arrival 1] (by decide) { secs := 1, usecs := 0 }
  refine ⟨before, ran, iff.mpr (fun taken isPrefix => ?_) _ List.prefix_rfl⟩
  rcases List.prefix_cons_iff.mp isPrefix with rfl | ⟨rest, rfl, isRest⟩
  · unfold LateCovered
    decide
  · obtain rfl := List.prefix_nil.mp isRest
    unfold LateCovered
    decide

/-- The second datagram comes before the reset and the first behind it: one loss less than none.
-/
theorem loss_after_reset_negative
    : ¬ ∀ (test : Test) (sp : Stream) (wire : List (List UInt8)) (first second :
          List (IperfTime × Fin wire.length)) (now : IperfTime) (before after : Stream),
        Numbered test wire → test.state = .testRunning → FreshReceiver test sp
        → ((first ++ second).map Prod.snd).Nodup
        → udpRecvRun test sp (delivered wire first) = some before
        → udpRecvRun test (resetStreamStats now before) (delivered wire second) = some after
        → LossInRange after := by
  intro all
  have runs : (udpRecvRun smallestUdpTest (smallestUdpStream false)
      (delivered twoDatagrams [arrival 1])).any (fun before =>
        (udpRecvRun smallestUdpTest (resetStreamStats { secs := 1, usecs := 0 } before)
          (delivered twoDatagrams [arrival 0])).any (fun after =>
            after.cntError.toInt - after.omittedCntError.toInt < 0)) = true := by
    decide +kernel
  obtain ⟨before, ran, rest⟩ := (Option.any_eq_true _ _).mp runs
  obtain ⟨after, ranToo, negative⟩ := (Option.any_eq_true _ _).mp rest
  have range := all smallestUdpTest (smallestUdpStream false) twoDatagrams [arrival 1] [arrival 0]
    { secs := 1, usecs := 0 } before after twoDatagrams_numbered rfl smallestUdpStream_fresh
    (by decide) ran ranToo
  exact absurd range.nonneg (not_le.mpr (of_decide_eq_true negative))

end Iperf
