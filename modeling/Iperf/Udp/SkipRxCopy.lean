import Iperf.Model.Api
import Iperf.Udp.LossAccounting
import Mathlib.Data.Nat.ModEq

/-! `--skip-rx-copy`: when a receiver that only looks at the headers of the datagrams measures what
one that copies them measures.
-/

namespace Iperf

variable {test next : Test} {sp sp' : Stream} {position : Nat}

-----------------------------------------------------------------------------------------
-- Calls of `iperf_recv_mt`
-----------------------------------------------------------------------------------------

/-- The datagrams that arrive, with the time of each, are received one after the other. -/
def recvMtRun (position : Nat) : Test → List (IperfTime × List UInt8) → Option Test
  | test, [] => some test
  | test, (arrivalTime, datagram) :: rest =>
      let msgTrunc : Bool := test.settings.skipRxCopy ≠ 0
      (iperfRecvMt test position arrivalTime
        [recvDatagram msgTrunc (udpRecvSize test) datagram]).bind
        fun (_, test) => recvMtRun position test rest

/-- A test with or without `--skip-rx-copy`. -/
def Test.skipping (test : Test) (skipRxCopy : Int32) : Test :=
  { test with settings := { test.settings with skipRxCopy } }

/-- The sequence counters of a stream. -/
def Stream.sequence (sp : Stream) : Int64 × Int64 × Int64 :=
  (sp.packetCount, sp.cntError, sp.outoforderPackets)

/-- The numbers that a receiver finds in the headers. -/
def headerNumbers (test : Test) (datagrams : List (IperfTime × List UInt8)) : List UInt64 :=
  datagrams.map fun arrival => (udpReadHeader test arrival.2).1

/-- The bytes that are counted for the stream while the test is running. -/
def countedReceipts (test : Test) (bytes : UInt64) : UInt64 :=
  if test.state = .testRunning then bytes else 0

/-- The sequence counters of two streams go on in the same way. -/
theorem udpCountSequence_congr (same : sp.sequence = sp'.sequence) (pcount : UInt64)
    : (udpCountSequence sp pcount).sequence = (udpCountSequence sp' pcount).sequence := by
  obtain ⟨packets, rest⟩ := Prod.mk.inj same
  obtain ⟨lost, late⟩ := Prod.mk.inj rest
  simp only [udpCountSequence, Stream.sequence, packets, lost]
  split_ifs <;> simp [lost, late]

theorem foldl_udpCountSequence_congr (numbers : List UInt64) (same : sp.sequence = sp'.sequence)
    : (numbers.foldl udpCountSequence sp).sequence
      = (numbers.foldl udpCountSequence sp').sequence := by
  induction numbers generalizing sp sp' with
  | nil => exact same
  | cons number rest ih => exact ih (udpCountSequence_congr same number)

theorem udpCountSequence_rest (sp : Stream) (pcount : UInt64)
    : (udpCountSequence sp pcount).buffer = sp.buffer
      ∧ (udpCountSequence sp pcount).result = sp.result := by
  unfold udpCountSequence
  dsimp only
  split_ifs <;> exact ⟨rfl, rfl⟩

theorem udpJitter_sequence (sp : Stream) (firstPacket : Bool) (sentTime arrivalTime : IperfTime)
    : (udpJitter sp firstPacket sentTime arrivalTime).sequence = sp.sequence := rfl

/-- A full-size datagram is consumed by one `recv(2)`. -/
theorem iperfUdpRecv_full (minimum : 16 ≤ blockSize test) (room : sp.buffer.length = blockSize test)
    {datagram : List UInt8} (full : datagram.length = blockSize test) (arrivalTime : IperfTime)
    : ∃ sp', iperfUdpRecv test sp arrivalTime
          [recvDatagram (test.settings.skipRxCopy ≠ 0) (udpRecvSize test) datagram]
        = some ((udpRecvSize test : Int), sp')
      ∧ sp'.buffer.length = sp.buffer.length
      ∧ sp'.result.bytesReceived
        = sp.result.bytesReceived + countedReceipts test (UInt64.ofNat (udpRecvSize test))
      ∧ sp'.result.bytesReceivedThisInterval
        = sp.result.bytesReceivedThisInterval
          + countedReceipts test (UInt64.ofNat (udpRecvSize test))
      ∧ sp'.sequence = if test.state = .testRunning
          then (udpCountSequence sp (udpReadHeader test datagram).1).sequence
          else sp.sequence := by
  obtain ⟨received, call, ret, front, length⟩ := nrecvNoSelect_datagram minimum room full
  have low := (udpRecvSize_bounds minimum).1
  unfold iperfUdpRecv countedReceipts
  dsimp only
  rw [call, Option.map_some, if_neg (by omega), ret, Int.toNat_natCast,
    udpReadHeader_congr front]
  by_cases running : test.state = .testRunning
  · rw [if_pos running, if_pos running, if_pos running]
    refine ⟨_, rfl, ?_, ?_, ?_, ?_⟩
    · exact (congrArg List.length (udpCountSequence_rest _ _).1).trans length
    · exact congrArg StreamResult.bytesReceived (udpCountSequence_rest _ _).2
    · exact congrArg StreamResult.bytesReceivedThisInterval (udpCountSequence_rest _ _).2
    · refine (udpJitter_sequence ..).trans (udpCountSequence_congr ?_ _)
      rfl
  · rw [if_neg running, if_neg running, if_neg running]
    exact ⟨_, rfl, length, by simp, by simp, rfl⟩

/-- What full-size datagrams change in the stream at a position and in its test. -/
structure Took (test : Test) (position : Nat) (sp : Stream)
    (datagrams : List (IperfTime × List UInt8)) (next : Test) (sp' : Stream) : Prop where
  stream : next.streams[position]? = some sp'
  settings : next.settings = test.settings
  protocol : next.protocol = test.protocol
  state : next.state = test.state
  counters64bit : next.udpCounters64bit = test.udpCounters64bit
  room : sp'.buffer.length = sp.buffer.length
  total : next.bytesReceived
    = test.bytesReceived + UInt64.ofNat (datagrams.length * udpRecvSize test)
  bytes : sp'.result.bytesReceived = sp.result.bytesReceived
    + countedReceipts test (UInt64.ofNat (datagrams.length * udpRecvSize test))
  interval : sp'.result.bytesReceivedThisInterval = sp.result.bytesReceivedThisInterval
    + countedReceipts test (UInt64.ofNat (datagrams.length * udpRecvSize test))
  sequence : sp'.sequence = if test.state = .testRunning
    then ((headerNumbers test datagrams).foldl udpCountSequence sp).sequence else sp.sequence

theorem iperfRecvMt_took (udp : test.protocol = .udp) (minimum : 16 ≤ blockSize test)
    (found : test.streams[position]? = some sp) (room : sp.buffer.length = blockSize test)
    {datagram : List UInt8} (full : datagram.length = blockSize test) (arrivalTime : IperfTime)
    : ∃ next sp', iperfRecvMt test position arrivalTime
          [recvDatagram (test.settings.skipRxCopy ≠ 0) (udpRecvSize test) datagram]
        = some ((udpRecvSize test : Int), next)
      ∧ Took test position sp [(arrivalTime, datagram)] next sp' := by
  obtain ⟨sp', received, room', bytes, interval, sequence⟩ :=
    iperfUdpRecv_full minimum room full arrivalTime
  have low := (udpRecvSize_bounds minimum).1
  have inside := (List.getElem?_eq_some_iff.mp found).1
  refine ⟨{
    test with
    streams := test.streams.set position sp'
    bytesReceived := test.bytesReceived + UInt64.ofNat (udpRecvSize test)
    blocksReceived := test.blocksReceived + 1
  }, sp', ?_, ?_, rfl, rfl, rfl, rfl, room', ?_, ?_, ?_, sequence⟩
  · unfold iperfRecvMt
    rw [found]
    unfold protocolRecv
    rw [udp]
    simp only [Option.bind_eq_bind, Option.bind_some]
    rw [received]
    simp only [Option.bind_some]
    rw [if_pos (by omega), Int.toNat_natCast]
    rfl
  · exact List.getElem?_set_self inside
  · simp only [List.length_singleton, Nat.one_mul]
  · simp only [List.length_singleton, Nat.one_mul]
    exact bytes
  · simp only [List.length_singleton, Nat.one_mul]
    exact interval

theorem countedReceipts_add (test : Test) (first second : UInt64)
    : countedReceipts test first + countedReceipts test second
      = countedReceipts test (first + second) := by
  unfold countedReceipts
  split
  · rfl
  · exact UInt64.add_zero 0

theorem headerNumbers_congr (same : next.udpCounters64bit = test.udpCounters64bit)
    (datagrams : List (IperfTime × List UInt8))
    : headerNumbers next datagrams = headerNumbers test datagrams := by
  unfold headerNumbers udpReadHeader
  rw [same]

theorem Took.andThen {datagram : IperfTime × List UInt8} {rest : List (IperfTime × List UInt8)}
    {middle last : Test} {spMiddle spLast : Stream}
    (first : Took test position sp [datagram] middle spMiddle)
    (second : Took middle position spMiddle rest last spLast)
    : Took test position sp (datagram :: rest) last spLast := by
  have size : udpRecvSize middle = udpRecvSize test := by
    unfold udpRecvSize
    rw [first.settings]
  have counted (bytes : UInt64) : countedReceipts middle bytes = countedReceipts test bytes := by
    unfold countedReceipts
    rw [first.state]
  have sum : UInt64.ofNat (1 * udpRecvSize test) + UInt64.ofNat (rest.length * udpRecvSize test)
      = UInt64.ofNat ((datagram :: rest).length * udpRecvSize test) := by
    rw [← UInt64.ofNat_add, List.length_cons]
    exact congrArg _ (by ring)
  refine ⟨second.stream, second.settings.trans first.settings, second.protocol.trans first.protocol,
    second.state.trans first.state, second.counters64bit.trans first.counters64bit,
    second.room.trans first.room, ?_, ?_, ?_, ?_⟩
  · rw [second.total, first.total, size, List.length_singleton, UInt64.add_assoc, sum]
  · rw [second.bytes, first.bytes, size, counted, List.length_singleton, UInt64.add_assoc,
      countedReceipts_add, sum]
  · rw [second.interval, first.interval, size, counted, List.length_singleton, UInt64.add_assoc,
      countedReceipts_add, sum]
  · rw [second.sequence, first.state, headerNumbers_congr first.counters64bit]
    have one := first.sequence
    split
    · next running =>
        rw [if_pos running] at one
        exact foldl_udpCountSequence_congr _ one
    · next stopped =>
        rw [if_neg stopped] at one
        exact one

/-- By induction on the datagrams. -/
theorem recvMtRun_took {datagrams : List (IperfTime × List UInt8)} (udp : test.protocol = .udp)
    (minimum : 16 ≤ blockSize test) (found : test.streams[position]? = some sp)
    (room : sp.buffer.length = blockSize test)
    (full : ∀ arrival ∈ datagrams, arrival.2.length = blockSize test)
    : ∃ next sp', recvMtRun position test datagrams = some next
      ∧ Took test position sp datagrams next sp' := by
  induction datagrams generalizing test sp with
  | nil =>
      refine ⟨test, sp, rfl, found, rfl, rfl, rfl, rfl, rfl, ?_, ?_, ?_, ?_⟩
      · simp
      · simp [countedReceipts]
      · simp [countedReceipts]
      · simp [headerNumbers]
  | cons datagram rest ih =>
      obtain ⟨arrivalTime, bytes⟩ := datagram
      obtain ⟨middle, spMiddle, received, first⟩ :=
        iperfRecvMt_took udp minimum found room (full _ List.mem_cons_self) arrivalTime
      have sameSize : blockSize middle = blockSize test := by
        unfold blockSize
        rw [first.settings]
      obtain ⟨last, spLast, later, second⟩ := @ih middle spMiddle (first.protocol.trans udp)
        (sameSize ▸ minimum) first.stream (first.room.trans (room.trans sameSize.symm))
        (fun arrival isOne => sameSize ▸ full arrival (List.mem_cons_of_mem _ isOne))
      refine ⟨last, spLast, ?_, first.andThen second⟩
      unfold recvMtRun
      dsimp only
      rw [received]
      exact later

-----------------------------------------------------------------------------------------
-- The two receivers
-----------------------------------------------------------------------------------------

/-- The same bytes and the same sequence counters, for the stream and the test. -/
def SameMeasurement (position : Nat) (first second : Test) : Prop :=
  ∃ sp sp', first.streams[position]? = some sp ∧ second.streams[position]? = some sp'
    ∧ sp.result.bytesReceived = sp'.result.bytesReceived
    ∧ sp.result.bytesReceivedThisInterval = sp'.result.bytesReceivedThisInterval
    ∧ sp.packetCount = sp'.packetCount
    ∧ sp.cntError = sp'.cntError
    ∧ sp.outoforderPackets = sp'.outoforderPackets
    ∧ first.bytesReceived = second.bytesReceived

theorem ofNat_eq_iff_dvd {small large : Nat} (order : small ≤ large)
    : UInt64.ofNat small = UInt64.ofNat large ↔ 2 ^ 64 ∣ large - small := by
  rw [← UInt64.toNat_inj, UInt64.toNat_ofNat', UInt64.toNat_ofNat']
  exact Nat.modEq_iff_dvd' order

/-- `--skip-rx-copy` measures the same exactly for blocks of the size of a header, up to what the
64-bit counters cannot tell apart.
-/
theorem skipRxCopy_measures_iff {datagrams : List (IperfTime × List UInt8)} {skip : Int32}
    (udp : test.protocol = .udp) (minimum : 16 ≤ blockSize test)
    (found : test.streams[position]? = some sp) (room : sp.buffer.length = blockSize test)
    (full : ∀ arrival ∈ datagrams, arrival.2.length = blockSize test) (skips : skip ≠ 0)
    : ∃ fast plain, recvMtRun position (test.skipping skip) datagrams = some fast
      ∧ recvMtRun position (test.skipping 0) datagrams = some plain
      ∧ (SameMeasurement position fast plain
        ↔ 2 ^ 64 ∣ datagrams.length * (blockSize test - 16)) := by
  obtain ⟨fast, spFast, ranFast, tookFast⟩ :=
    @recvMtRun_took (test.skipping skip) sp position datagrams udp minimum found room full
  obtain ⟨plain, spPlain, ranPlain, tookPlain⟩ :=
    @recvMtRun_took (test.skipping 0) sp position datagrams udp minimum found room full
  have sizeFast : udpRecvSize (test.skipping skip) = 16 := if_pos skips
  have sizePlain : udpRecvSize (test.skipping 0) = blockSize test := if_neg (not_not.mpr rfl)
  have totals : fast.bytesReceived = plain.bytesReceived
      ↔ 2 ^ 64 ∣ datagrams.length * (blockSize test - 16) := by
    rw [tookFast.total, tookPlain.total, sizeFast, sizePlain, Nat.mul_sub]
    refine Iff.trans ?_ (ofNat_eq_iff_dvd (Nat.mul_le_mul_left _ minimum))
    exact UInt64.add_right_inj _
  have sequences : spFast.sequence = spPlain.sequence :=
    tookFast.sequence.trans tookPlain.sequence.symm
  obtain ⟨packets, rest⟩ := Prod.mk.inj sequences
  obtain ⟨lost, late⟩ := Prod.mk.inj rest
  refine ⟨fast, plain, ranFast, ranPlain, ?_, ?_⟩
  · rintro ⟨_, _, _, _, _, _, _, _, _, total⟩
    exact totals.mp total
  · intro wraps
    have total := totals.mpr wraps
    have amounts : UInt64.ofNat (datagrams.length * udpRecvSize (test.skipping skip))
        = UInt64.ofNat (datagrams.length * udpRecvSize (test.skipping 0)) := by
      rw [tookFast.total, tookPlain.total] at total
      exact (UInt64.add_right_inj _).mp total
    refine ⟨spFast, spPlain, tookFast.stream, tookPlain.stream, ?_, ?_, packets, lost, late, total⟩
    · rw [tookFast.bytes, tookPlain.bytes, amounts]
      rfl
    · rw [tookFast.interval, tookPlain.interval, amounts]
      rfl

/-- A running test with blocks of the given size and one stream. -/
def receivingTest (blksize : Int32) : Test :=
  {
    protocol := .udp
    state := .testRunning
    settings := { blksize }
    streams := [{
      socket := 5
      id := 1
      sender := false
      buffer := List.replicate blksize.toInt.toNat 0
    }]
  }

def oneDatagram (size : Nat) : List (IperfTime × List UInt8) :=
  [({ secs := 1, usecs := 0 }, List.replicate size 0)]

/-- Witness: at the smallest block size a datagram measures the same. -/
theorem skipRxCopy_measures_smallest
    : ∃ fast plain,
        recvMtRun 0 ((receivingTest minUdpBlocksize).skipping 1) (oneDatagram 16) = some fast
        ∧ recvMtRun 0 ((receivingTest minUdpBlocksize).skipping 0) (oneDatagram 16) = some plain
        ∧ SameMeasurement 0 fast plain := by
  obtain ⟨fast, plain, ranFast, ranPlain, same⟩ :=
    @skipRxCopy_measures_iff (receivingTest minUdpBlocksize) _ 0 (oneDatagram 16) 1 rfl (by decide)
      rfl (by decide) (by decide) (by decide)
  exact ⟨fast, plain, ranFast, ranPlain, same.mpr (by decide)⟩

/-- A datagram of the default size counts as sixteen bytes under `--skip-rx-copy`. -/
theorem skipRxCopy_counts_header
    : ((recvMtRun 0 ((receivingTest defaultUdpBlksize).skipping 1) (oneDatagram 1460)).map
        Test.bytesReceived) = some 16
      ∧ ((recvMtRun 0 ((receivingTest defaultUdpBlksize).skipping 0) (oneDatagram 1460)).map
        Test.bytesReceived) = some 1460 := by
  decide +kernel

end Iperf
