import Iperf.Udp.LossAccounting

/-! The sequence counters of a receiver that is sent datagrams with any header: which of the
64-bit numbers they survive.
-/

namespace Iperf

open SequenceTally

variable {test : Test} {sp : Stream}

/-- The number in the header of a datagram. -/
def headerNumber (test : Test) (datagram : List UInt8)
    : Nat :=
  (udpReadHeader test datagram).1.toNat

def arrivedNumbers (test : Test) (deliveries : List (IperfTime × List UInt8)) : List Nat :=
  deliveries.map fun delivery => headerNumber test delivery.2

/-- Every datagram is as long as a block, whatever it says. -/
def FullSize (test : Test) (deliveries : List (IperfTime × List UInt8)) : Prop :=
  ∀ delivery ∈ deliveries, delivery.2.length = test.settings.blksize.toInt.toNat

/-- Numbers of 32 bits are small. -/
theorem headerNumber_narrow (narrow : test.udpCounters64bit = false) (datagram : List UInt8)
    : headerNumber test datagram < 2 ^ 32 := by
  have decoded := BigEndian.decode_lt (Buffer.slice datagram 8 4)
  have size : (Buffer.slice datagram 8 4).length ≤ 4 := List.length_take_le _ _
  have power : 256 ^ (Buffer.slice datagram 8 4).length ≤ 256 ^ 4 :=
    Nat.pow_le_pow_right (by norm_num) size
  have whole : (256 : Nat) ^ 4 = 2 ^ 32 := by norm_num
  unfold headerNumber udpReadHeader
  rw [if_neg (by rw [narrow]; decide)]
  dsimp only
  rw [UInt64.toNat_ofNat', Nat.mod_eq_of_lt (by omega)]
  omega

/-- Small numbers are tallied, by induction on the deliveries with those already counted in front.
-/
theorem ReceiverAt.runAny (minimum : 16 ≤ test.settings.blksize.toInt.toNat)
    (running : test.state = .testRunning) {earlier deliveries : List (IperfTime × List UInt8)}
    (at_ : ReceiverAt test sp ((arrivedNumbers test earlier).foldl Tally.arrive Tally.zero))
    (full : FullSize test deliveries)
    (small : ∀ n ∈ arrivedNumbers test (earlier ++ deliveries), n < 2 ^ 63)
    : ∃ sp', udpRecvRun test sp deliveries = some sp'
      ∧ ReceiverAt test sp'
        ((arrivedNumbers test (earlier ++ deliveries)).foldl Tally.arrive Tally.zero) := by
  induction deliveries generalizing sp earlier with
  | nil => exact ⟨sp, rfl, by simpa using at_⟩
  | cons delivery rest ih =>
      obtain ⟨highest, within, -⟩ := foldl_arrive_bounds (arrivedNumbers test earlier)
      have top : highestOf (arrivedNumbers test earlier) < 2 ^ 63 := by
        rcases highestOf_mem_or_zero (arrivedNumbers test earlier) with isOne | zero
        · refine small _ ?_
          unfold arrivedNumbers at isOne ⊢
          rw [List.map_append]
          exact List.mem_append_left _ isOne
        · omega
      have number : headerNumber test delivery.2 < 2 ^ 63 :=
        small _ (List.mem_map.mpr ⟨delivery, by simp, rfl⟩)
      have header : (udpReadHeader test delivery.2).1
          = UInt64.ofNat (headerNumber test delivery.2) := UInt64.ofNat_toNat.symm
      obtain ⟨r, sp', called, next⟩ := at_.step minimum running (full delivery (by simp)) header
        (by omega) (by omega) number delivery.1
      have shifted : earlier ++ delivery :: rest = (earlier ++ [delivery]) ++ rest := by simp
      rw [shifted] at small ⊢
      have counted : ReceiverAt test sp'
          ((arrivedNumbers test (earlier ++ [delivery])).foldl Tally.arrive Tally.zero) := by
        simpa [arrivedNumbers] using next
      obtain ⟨final, ran, finalAt⟩ := ih counted (fun other isOne => full other (by simp [isOne]))
        small
      refine ⟨final, ?_, finalAt⟩
      simp only [udpRecvRun, called, Option.bind_eq_bind, Option.bind_some]
      exact ran

/-- The counters after datagrams with these numbers. -/
structure CountersSound (numbers : List Nat) (sp : Stream) : Prop where
  highest : sp.packetCount.toInt = highestOf numbers
  nonneg : 0 ≤ sp.cntError.toInt
  within : sp.cntError.toInt ≤ sp.packetCount.toInt
  received : sp.packetCount.toInt - sp.cntError.toInt ≤ numbers.length

theorem ReceiverAt.sound {numbers : List Nat}
    (at_ : ReceiverAt test sp (numbers.foldl Tally.arrive Tally.zero))
    (small : ∀ n ∈ numbers, n < 2 ^ 63)
    : CountersSound numbers sp := by
  obtain ⟨highest, within, covered⟩ := foldl_arrive_bounds numbers
  have top : highestOf numbers < 2 ^ 63 := by
    rcases highestOf_mem_or_zero numbers with isOne | zero
    · exact small _ isOne
    · omega
  have packets : sp.packetCount.toInt = highestOf numbers := by
    rw [at_.highest, highest, Int64.toInt_ofNat_of_lt top]
  have errors : sp.cntError.toInt = (numbers.foldl Tally.arrive Tally.zero).missing := by
    rw [at_.missing, Int64.toInt_ofNat_of_lt (by omega)]
  constructor <;> omega

/-- The counters are sound at every moment of a run, and the packet count never decreases. -/
def SoundThroughout (test : Test) (sp : Stream) (deliveries : List (IperfTime × List UInt8))
    : Prop :=
  ∀ earlier taken, earlier <+: taken → taken <+: deliveries →
    ∃ before after, udpRecvRun test sp earlier = some before
      ∧ udpRecvRun test sp taken = some after
      ∧ before.packetCount.toInt ≤ after.packetCount.toInt
      ∧ CountersSound (arrivedNumbers test taken) after

theorem arrivedNumbers_append (test : Test) (earlier rest : List (IperfTime × List UInt8))
    : arrivedNumbers test (earlier ++ rest)
      = arrivedNumbers test earlier ++ arrivedNumbers test rest :=
  List.map_append

/-- Whatever datagrams of full size arrive, the counters of a fresh receiver are sound exactly
when all numbers are below `2 ^ 63`; 32-bit numbers always are.
-/
theorem soundThroughout_iff (minimum : 16 ≤ test.settings.blksize.toInt.toNat)
    (running : test.state = .testRunning) (packets : sp.packetCount = 0) (errors : sp.cntError = 0)
    (late : sp.outoforderPackets = 0)
    (buffer : sp.buffer.length = test.settings.blksize.toInt.toNat)
    {deliveries : List (IperfTime × List UInt8)} (full : FullSize test deliveries)
    : SoundThroughout test sp deliveries
      ↔ test.udpCounters64bit = false ∨ ∀ n ∈ arrivedNumbers test deliveries, n < 2 ^ 63 := by
  have start := ReceiverAt.fresh packets errors late buffer
  constructor
  · intro sound
    refine .inr fun n isOne => ?_
    obtain ⟨before, after, -, -, -, counters⟩ := sound deliveries deliveries List.prefix_rfl
      List.prefix_rfl
    have bound := after.packetCount.toInt_lt
    have top := le_highestOf isOne
    rw [counters.highest] at bound
    omega
  · intro either earlier taken isEarlier isTaken
    have small : ∀ n ∈ arrivedNumbers test deliveries, n < 2 ^ 63 := by
      rcases either with narrow | small
      · intro n isOne
        obtain ⟨delivery, -, rfl⟩ := List.mem_map.mp isOne
        have bound := headerNumber_narrow narrow delivery.2
        omega
      · exact small
    have moment (part : List (IperfTime × List UInt8)) (isPart : part <+: deliveries)
        : ∃ after, udpRecvRun test sp part = some after
          ∧ CountersSound (arrivedNumbers test part) after := by
      have within : ∀ n ∈ arrivedNumbers test part, n < 2 ^ 63 := by
        obtain ⟨rest, rfl⟩ := isPart
        intro n isOne
        rw [arrivedNumbers_append] at small
        exact small n (List.mem_append_left _ isOne)
      obtain ⟨after, ran, afterAt⟩ := @ReceiverAt.runAny test sp minimum running [] part start
        (fun delivery isOne => full delivery (isPart.subset isOne)) within
      exact ⟨after, ran, afterAt.sound within⟩
    obtain ⟨before, ran, soundBefore⟩ := moment earlier (isEarlier.trans isTaken)
    obtain ⟨after, ranToo, soundAfter⟩ := moment taken isTaken
    refine ⟨before, after, ran, ranToo, ?_, soundAfter⟩
    obtain ⟨rest, rfl⟩ := isEarlier
    have top := highestOf_append (arrivedNumbers test earlier) (arrivedNumbers test rest)
    rw [soundBefore.highest, soundAfter.highest, arrivedNumbers_append, top]
    exact_mod_cast le_max_left _ _

/-- Sixteen bytes, with the given 64-bit number in the header. -/
def wideDatagram (number : Nat) : IperfTime × List UInt8 :=
  ({ secs := 1, usecs := 0 }, List.replicate 8 0 ++ BigEndian.encode 8 number)

def wideUdpTest : Test := { smallestUdpTest with udpCounters64bit := true }

/-- The theorem at a datagram that comes twice. -/
theorem soundThroughout_duplicate
    : SoundThroughout wideUdpTest (smallestUdpStream false) [wideDatagram 2, wideDatagram 2] := by
  refine (soundThroughout_iff (by decide) rfl rfl rfl rfl rfl ?_).mpr (.inr ?_)
  · unfold FullSize
    decide
  · decide +kernel

/-- The number `2 ^ 63` makes the packet count negative. -/
theorem soundThroughout_fails
    : ¬ ∀ (test : Test) (sp : Stream) (deliveries : List (IperfTime × List UInt8)),
        16 ≤ test.settings.blksize.toInt.toNat → test.state = .testRunning → sp.packetCount = 0
        → sp.cntError = 0 → sp.outoforderPackets = 0
        → sp.buffer.length = test.settings.blksize.toInt.toNat → FullSize test deliveries
        → SoundThroughout test sp deliveries := by
  intro all
  have full : FullSize wideUdpTest [wideDatagram (2 ^ 63)] := by
    unfold FullSize
    decide +kernel
  obtain ⟨-, after, -, ran, -, sound⟩ := all wideUdpTest (smallestUdpStream false)
    [wideDatagram (2 ^ 63)] (by decide) rfl rfl rfl rfl rfl full _ _ List.prefix_rfl List.prefix_rfl
  have negative : (udpRecvRun wideUdpTest (smallestUdpStream false)
      [wideDatagram (2 ^ 63)]).any (fun after => after.packetCount.toInt < 0) = true := by
    decide +kernel
  rw [ran] at negative
  have below : after.packetCount.toInt < 0 := of_decide_eq_true negative
  rw [sound.highest] at below
  exact absurd below (not_lt.mpr (Int.natCast_nonneg _))

end Iperf
