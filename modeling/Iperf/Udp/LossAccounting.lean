import Iperf.Library.SequenceTally
import Iperf.Udp.Datagrams
import Mathlib.Data.List.Nodup

/-! Loss accounting over a network that drops and reorders datagrams but never duplicates
them. The sender numbers what it puts on the wire, and the receiver's three counters follow
the tally of the numbers it sees.
-/

namespace Iperf

open SequenceTally

-----------------------------------------------------------------------------------------
-- Runs of the sender and of the receiver
-----------------------------------------------------------------------------------------

/-- A `write(2)` of a datagram sends all of it or fails. -/
inductive DatagramWrite where
  | sent
  | failed (errno : Errno)

def DatagramWrite.results (size : Nat) : DatagramWrite → List WriteResult
  | .sent => [.accepted size]
  | .failed errno => [.failed errno]

/-- One call of `iperf_udp_send`: the time it reads and what becomes of its datagram. -/
structure SendCall where
  before : IperfTime
  write : DatagramWrite

/-- How many of the calls put a datagram on the wire. -/
def sentCount (calls : List SendCall) : Nat :=
  calls.countP (fun call => match call.write with | .sent => true | .failed _ => false)

/-- Successive calls of `iperf_udp_send`, with the datagrams put on the wire in order. -/
def udpSendRun (test : Test)
    : Stream → List (List UInt8) → List SendCall → Option (Stream × List (List UInt8))
  | sp, wire, [] => some (sp, wire)
  | sp, wire, call :: rest => do
      let results := call.write.results test.settings.blksize.toInt.toNat
      let (sent, sp) ← iperfUdpSend test sp call.before results
      udpSendRun test sp (if sent.accepted = [] then wire else wire ++ [sent.accepted]) rest

/-- Successive calls of `iperf_udp_recv`, one for each datagram, with their arrival times. -/
def udpRecvRun (test : Test) : Stream → List (IperfTime × List UInt8) → Option Stream
  | sp, [] => some sp
  | sp, (arrivalTime, datagram) :: rest => do
      let msgTrunc : Bool := test.settings.skipRxCopy ≠ 0
      let (_, sp) ← iperfUdpRecv test sp arrivalTime
        [recvDatagram msgTrunc (udpRecvSize test) datagram]
      udpRecvRun test sp rest

/-- The packet counts for which each counter width is exact. -/
def packetLimit (test : Test) : Nat := if test.udpCounters64bit then 2 ^ 63 else 2 ^ 32

theorem packetLimit_le (test : Test) : packetLimit test ≤ 2 ^ 63 := by
  unfold packetLimit
  split <;> norm_num

/-- Both ends of one UDP test: the same block size and counter width, a block size that
`iperf_parse_arguments` accepts, and a receiver that is running.
-/
structure UdpPath (sender receiver : Test) : Prop where
  size : receiver.settings.blksize = sender.settings.blksize
  minimum : minUdpBlocksize.toInt ≤ sender.settings.blksize.toInt
  width : receiver.udpCounters64bit = sender.udpCounters64bit
  running : receiver.state = .testRunning

-----------------------------------------------------------------------------------------
-- The header survives the wire
-----------------------------------------------------------------------------------------

theorem length_udpWriteTime {buffer : List UInt8} (before : IperfTime)
    (room : 16 ≤ buffer.length)
    : (udpWriteTime buffer before).length = buffer.length := by
  have first : (Buffer.copyAt buffer 0 (BigEndian.encode 4 before.secs.toNat)).length
      = buffer.length :=
    Buffer.length_copyAt (by simp only [BigEndian.length_encode]; omega)
  rw [udpWriteTime,
    Buffer.length_copyAt (by simp only [BigEndian.length_encode]; omega), first]

theorem length_udpWriteHeader {test : Test} {buffer : List UInt8} {before : IperfTime}
    {count : Int64} (room : 16 ≤ buffer.length)
    : (udpWriteHeader test buffer before count).length = buffer.length := by
  have time := length_udpWriteTime before room
  unfold udpWriteHeader
  split <;> rw [Buffer.length_copyAt (by simp only [BigEndian.length_encode]; omega), time]

/-- A number copied behind the send time is decoded again when it fits its width. -/
theorem decode_slice_number {buffer : List UInt8} {before : IperfTime} {width n : Nat}
    (room : 16 ≤ buffer.length) (fits : n < 256 ^ width)
    : BigEndian.decode (Buffer.slice
        (Buffer.copyAt (udpWriteTime buffer before) 8 (BigEndian.encode width n)) 8 width)
      = n := by
  have time := length_udpWriteTime before room
  have block : Buffer.slice
      (Buffer.copyAt (udpWriteTime buffer before) 8 (BigEndian.encode width n)) 8
      (BigEndian.encode width n).length = BigEndian.encode width n :=
    Buffer.slice_copyAt_same (by omega)
  rw [BigEndian.length_encode] at block
  rw [block, BigEndian.decode_encode_of_lt fits]

/-- The receiver decodes the number the sender wrote, in both widths. -/
theorem udpReadHeader_writeHeader {test : Test} {buffer : List UInt8} {before : IperfTime}
    {n : Nat} (room : 16 ≤ buffer.length) (fits : n < packetLimit test)
    : (udpReadHeader test (udpWriteHeader test buffer before (Int64.ofNat n))).1
      = UInt64.ofNat n := by
  have number : (Int64.ofNat n).toUInt64.toNat = n := by
    have limit := packetLimit_le test
    rw [Int64.toUInt64_ofNat', UInt64.toNat_ofNat', Nat.mod_eq_of_lt (by omega)]
  simp only [udpReadHeader, udpWriteHeader, number]
  split <;> rename_i width <;> simp only [packetLimit, width] at fits
  · rw [decode_slice_number room (by norm_num at fits ⊢; omega)]
  · rw [decode_slice_number room (by norm_num at fits ⊢; omega)]

/-- Only the first sixteen bytes of a buffer are looked at. -/
theorem udpReadHeader_congr {test : Test} {left right : List UInt8}
    (same : left.take 16 = right.take 16)
    : udpReadHeader test left = udpReadHeader test right := by
  have slices {offset size : Nat} (inside : offset + size ≤ 16)
      : Buffer.slice left offset size = Buffer.slice right offset size := by
    have cut (buffer : List UInt8)
        : Buffer.slice buffer offset size = Buffer.slice (buffer.take 16) offset size := by
      rw [Buffer.slice, Buffer.slice, List.drop_take, List.take_take,
        Nat.min_eq_left (by omega)]
    rw [cut left, cut right, same]
  simp only [udpReadHeader, slices (show 0 + 4 ≤ 16 by omega),
    slices (show 4 + 4 ≤ 16 by omega), slices (show 8 + 8 ≤ 16 by omega),
    slices (show 8 + 4 ≤ 16 by omega)]

-----------------------------------------------------------------------------------------
-- The sender numbers the wire
-----------------------------------------------------------------------------------------

/-- Full datagrams, each carrying its position on the wire, counted from one. -/
def Numbered (test : Test) (wire : List (List UInt8)) : Prop :=
  ∀ k datagram, wire[k]? = some datagram
    → datagram.length = test.settings.blksize.toInt.toNat
      ∧ (udpReadHeader test datagram).1 = UInt64.ofNat (k + 1)

/-- What a run of the sender keeps: the counter is the length of the wire. -/
structure SenderAt (test : Test) (sp : Stream) (wire : List (List UInt8)) : Prop where
  count : sp.packetCount = Int64.ofNat wire.length
  buffer : sp.buffer.length = test.settings.blksize.toInt.toNat
  numbered : Numbered test wire

theorem Numbered.append {test : Test} {wire : List (List UInt8)} {datagram : List UInt8}
    (numbered : Numbered test wire)
    (size : datagram.length = test.settings.blksize.toInt.toNat)
    (number : (udpReadHeader test datagram).1 = UInt64.ofNat (wire.length + 1))
    : Numbered test (wire ++ [datagram]) := by
  intro k other found
  rw [List.getElem?_append] at found
  split at found
  · exact numbered k other found
  · obtain ⟨rfl, rfl⟩ : k = wire.length ∧ other = datagram := by
      rw [List.getElem?_singleton] at found
      split at found
      · exact ⟨by omega, (Option.some.inj found).symm⟩
      · simp at found
    exact ⟨size, number⟩

/-- A stream whose buffer holds one block, as the header writer needs it. -/
structure HoldsBlock (test : Test) (sp : Stream) : Prop where
  minimum : 16 ≤ test.settings.blksize.toInt.toNat
  buffer : sp.buffer.length = test.settings.blksize.toInt.toNat

theorem HoldsBlock.small {test : Test} {sp : Stream} (_ : HoldsBlock test sp)
    : test.settings.blksize.toInt.toNat < 2 ^ 31 := by
  have := test.settings.blksize.toInt_lt
  omega

/-- The datagram of a call is the whole buffer, with the next number in its header. -/
theorem HoldsBlock.datagram {test : Test} {sp : Stream} (holds : HoldsBlock test sp)
    (before : IperfTime) (count : Int64)
    : (udpWriteHeader test sp.buffer before count).length
        = test.settings.blksize.toInt.toNat
      ∧ (udpWriteHeader test sp.buffer before count).take test.settings.blksize.toInt.toNat
        = udpWriteHeader test sp.buffer before count
      ∧ udpWriteHeader test sp.buffer before count ≠ [] := by
  have room : 16 ≤ sp.buffer.length := holds.buffer ▸ holds.minimum
  have length : (udpWriteHeader test sp.buffer before count).length
      = test.settings.blksize.toInt.toNat := by
    rw [length_udpWriteHeader room, holds.buffer]
  refine ⟨length, List.take_of_length_le length.le, ?_⟩
  intro empty
  have minimum := holds.minimum
  rw [empty, List.length_nil] at length
  omega

/-- A datagram that goes out is counted. -/
theorem iperfUdpSend_sent {test : Test} {sp : Stream} (holds : HoldsBlock test sp)
    (before : IperfTime)
    : ∃ sent sp',
        iperfUdpSend test sp before [.accepted test.settings.blksize.toInt.toNat]
          = some (sent, sp')
        ∧ sent.accepted = udpWriteHeader test sp.buffer before (sp.packetCount + 1)
        ∧ sp'.packetCount = sp.packetCount + 1
        ∧ sp'.buffer = udpWriteHeader test sp.buffer before (sp.packetCount + 1) := by
  obtain ⟨length, whole, nonempty⟩ := holds.datagram before (sp.packetCount + 1)
  have accepted := nwrite_whole nonempty
  rw [length, toInt_of_lt holds.small] at accepted
  have positive : ¬ (test.settings.blksize.toInt.toNat : Int) ≤ 0 := by
    have := holds.minimum
    omega
  unfold iperfUdpSend
  dsimp only
  rw [whole, accepted, Option.map_some, if_neg positive,
    if_neg (fun negative => positive (le_of_lt negative))]
  exact ⟨_, _, rfl, rfl, rfl, rfl⟩

/-- A datagram that fails to go out is not: its number is given back. -/
theorem iperfUdpSend_failed {test : Test} {sp : Stream} (holds : HoldsBlock test sp)
    (before : IperfTime) (errno : Errno)
    : ∃ sent sp',
        iperfUdpSend test sp before [.failed errno] = some (sent, sp')
        ∧ sent.accepted = []
        ∧ sp'.packetCount = sp.packetCount
        ∧ sp'.buffer = udpWriteHeader test sp.buffer before (sp.packetCount + 1) := by
  obtain ⟨length, whole, nonempty⟩ := holds.datagram before (sp.packetCount + 1)
  obtain ⟨ret, negative, failed⟩ := nwrite_failed nonempty errno
  unfold iperfUdpSend
  dsimp only
  rw [whole, failed, Option.map_some, if_pos negative, if_pos negative.le]
  exact ⟨_, _, rfl, rfl, Int64.add_sub_cancel sp.packetCount 1, rfl⟩

/-- One call extends the wire by the next number, or leaves counter and wire as they were. -/
theorem SenderAt.step {test : Test} {sp : Stream} {wire : List (List UInt8)}
    (at_ : SenderAt test sp wire) (call : SendCall)
    (minimum : 16 ≤ test.settings.blksize.toInt.toNat)
    (limit : wire.length + sentCount [call] < packetLimit test)
    : ∃ sent sp',
        iperfUdpSend test sp call.before
            (call.write.results test.settings.blksize.toInt.toNat)
          = some (sent, sp')
        ∧ SenderAt test sp' (if sent.accepted = [] then wire else wire ++ [sent.accepted])
        ∧ (if sent.accepted = [] then wire else wire ++ [sent.accepted]).length
          = wire.length + sentCount [call] := by
  have holds : HoldsBlock test sp := ⟨minimum, at_.buffer⟩
  obtain ⟨length, -, nonempty⟩ := holds.datagram call.before (sp.packetCount + 1)
  cases outcome : call.write with
  | sent =>
      obtain ⟨sent, sp', called, accepted, count, buffer⟩ := iperfUdpSend_sent holds call.before
      have next : sp.packetCount + 1 = Int64.ofNat (wire.length + 1) := by
        rw [at_.count, Int64.ofNat_add]
        rfl
      refine ⟨sent, sp', called, ?_, ?_⟩
      · rw [accepted, if_neg nonempty]
        refine ⟨by rw [count, next, List.length_append]; rfl, by rw [buffer, length], ?_⟩
        refine at_.numbered.append length ?_
        rw [next]
        refine udpReadHeader_writeHeader (holds.buffer ▸ minimum) ?_
        simpa [sentCount, outcome] using limit
      · rw [accepted, if_neg nonempty]
        simp [sentCount, outcome]
  | failed errno =>
      obtain ⟨sent, sp', called, accepted, count, buffer⟩ :=
        iperfUdpSend_failed holds call.before errno
      refine ⟨sent, sp', called, ?_, ?_⟩
      · rw [if_pos accepted]
        exact ⟨count.trans at_.count, by rw [buffer, length], at_.numbered⟩
      · rw [if_pos accepted]
        simp [sentCount, outcome]

/-- A whole run of the sender: its counter is the number of datagrams put on the wire, and
the k-th of them carries number k. Witness: induction on the calls with `SenderAt`.
-/
theorem SenderAt.run {test : Test} {sp : Stream} {wire : List (List UInt8)}
    (at_ : SenderAt test sp wire) (calls : List SendCall)
    (minimum : 16 ≤ test.settings.blksize.toInt.toNat)
    (limit : wire.length + sentCount calls < packetLimit test)
    : ∃ sp' wire',
        udpSendRun test sp wire calls = some (sp', wire')
        ∧ SenderAt test sp' wire'
        ∧ wire'.length = wire.length + sentCount calls := by
  induction calls generalizing sp wire with
  | nil => exact ⟨sp, wire, rfl, at_, by simp [sentCount]⟩
  | cons call rest ih =>
      have split : sentCount (call :: rest) = sentCount [call] + sentCount rest := by
        simp [sentCount, List.countP_cons, Nat.add_comm]
      obtain ⟨sent, sp', called, next, length⟩ := at_.step call minimum (by omega)
      obtain ⟨final, wire', ran, finalAt, total⟩ := ih next (by omega)
      refine ⟨final, wire', ?_, finalAt, by omega⟩
      simp only [udpSendRun, called, Option.bind_eq_bind, Option.bind_some]
      exact ran

-----------------------------------------------------------------------------------------
-- The receiver keeps the tally
-----------------------------------------------------------------------------------------

/-- The receiver's counters are those of a tally, and one block fits its buffer. -/
structure ReceiverAt (test : Test) (sp : Stream) (tally : Tally) : Prop where
  highest : sp.packetCount = Int64.ofNat tally.highest
  missing : sp.cntError = Int64.ofNat tally.missing
  late : sp.outoforderPackets = Int64.ofNat tally.late
  buffer : sp.buffer.length = test.settings.blksize.toInt.toNat

theorem udpRecvSize_bounds {test : Test} (minimum : 16 ≤ test.settings.blksize.toInt.toNat)
    : 16 ≤ udpRecvSize test ∧ udpRecvSize test ≤ test.settings.blksize.toInt.toNat := by
  unfold udpRecvSize
  split <;> omega

/-- A full-size datagram is consumed by one `recv(2)`, which leaves its header in front. -/
theorem nrecvNoSelect_datagram {test : Test} {buffer datagram : List UInt8}
    (minimum : 16 ≤ test.settings.blksize.toInt.toNat)
    (room : buffer.length = test.settings.blksize.toInt.toNat)
    (full : datagram.length = test.settings.blksize.toInt.toNat)
    : ∃ received,
        nrecvNoSelect (test.settings.skipRxCopy ≠ 0) buffer (udpRecvSize test)
            [recvDatagram (test.settings.skipRxCopy ≠ 0) (udpRecvSize test) datagram]
          = some received
        ∧ received.ret = (udpRecvSize test : Int)
        ∧ received.buffer.take 16 = datagram.take 16
        ∧ received.buffer.length = buffer.length := by
  obtain ⟨low, high⟩ := udpRecvSize_bounds minimum
  have small := test.settings.blksize.toInt_lt
  obtain ⟨left, sizeEq⟩ : ∃ left, udpRecvSize test = left + 1 := ⟨udpRecvSize test - 1, by omega⟩
  have copied : (datagram.take (left + 1)).length = left + 1 := by
    rw [List.length_take]
    omega
  have ret : toInt (left + 1) = (udpRecvSize test : Int) := by
    rw [toInt_of_lt (show left + 1 < 2 ^ 31 by omega), sizeEq]
  refine ⟨{
    ret := toInt (left + 1),
    buffer := Buffer.copyAt buffer 0 (datagram.take (left + 1))
  }, ?_, ?_, ?_, Buffer.length_copyAt (by omega)⟩
  · -- the loop ends after one pass, because the whole request was served
    rw [sizeEq, nrecvNoSelect, recvDatagram, nrecvLoop]
    by_cases skip : test.settings.skipRxCopy ≠ 0
    · have covered : min datagram.length (left + 1) = left + 1 := by omega
      have nonzero : datagram.length ≠ 0 := by omega
      simp [skip, covered, nonzero, nrecvLoop]
    · have whole : datagram.length = left + 1 := by
        rw [← sizeEq, full, udpRecvSize, if_neg skip]
      simp [skip, whole, nrecvLoop]
  · dsimp only
    exact ret
  · rw [Buffer.copyAt_zero, List.take_append_of_le_length (by omega), List.take_take,
      Nat.min_eq_left (by omega)]

/-- The counter update of the source is the tally's, while the numbers fit 63 bits. -/
theorem ReceiverAt.count {test : Test} {sp : Stream} {tally : Tally} {n : Nat}
    (at_ : ReceiverAt test sp tally) (top : tally.highest < 2 ^ 63)
    (gaps : tally.missing < 2 ^ 63) (number : n < 2 ^ 63)
    : ReceiverAt test (udpCountSequence sp (UInt64.ofNat n)) (tally.arrive n) := by
  have next : (sp.packetCount + 1).toUInt64 = UInt64.ofNat (tally.highest + 1) := by
    rw [at_.highest, ← Int64.toUInt64_ofNat', Int64.ofNat_add]
    rfl
  have nextNat : (UInt64.ofNat (tally.highest + 1)).toNat = tally.highest + 1 := by
    rw [UInt64.toNat_ofNat', Nat.mod_eq_of_lt (by omega)]
  have numberNat : (UInt64.ofNat n).toNat = n := by
    rw [UInt64.toNat_ofNat', Nat.mod_eq_of_lt (by omega)]
  unfold udpCountSequence Tally.arrive
  simp only [next, ge_iff_le, gt_iff_lt, UInt64.le_iff_toNat_le, UInt64.lt_iff_toNat_lt,
    nextNat, numberNat]
  by_cases forward : tally.highest + 1 ≤ n
  · rw [if_pos forward, if_pos forward]
    have gap : (UInt64.ofNat n - 1 - sp.packetCount.toUInt64).toInt64
        = Int64.ofNat (n - 1 - tally.highest) := by
      rw [at_.highest, Int64.toUInt64_ofNat', ← UInt64.toInt64_ofNat',
        UInt64.ofNat_sub (by omega), UInt64.ofNat_sub (by omega)]
      rfl
    split_ifs with skipped
    · exact ⟨UInt64.toInt64_ofNat', by rw [gap, at_.missing, Int64.ofNat_add], at_.late, at_.buffer⟩
    · have none : n - 1 - tally.highest = 0 := by omega
      exact ⟨UInt64.toInt64_ofNat', by rw [none]; exact at_.missing, at_.late, at_.buffer⟩
  · rw [if_neg forward, if_neg forward]
    have late : sp.outoforderPackets + 1 = Int64.ofNat (tally.late + 1) := by
      rw [at_.late, Int64.ofNat_add]
      rfl
    have positive : sp.cntError > 0 ↔ 0 < tally.missing := by
      rw [at_.missing, gt_iff_lt, Int64.lt_iff_toInt_lt, Int64.toInt_ofNat_of_lt gaps]
      exact Int.natCast_pos
    split_ifs with lost
    · refine ⟨at_.highest, ?_, late, at_.buffer⟩
      rw [Int64.ofNat_sub _ _ (positive.mp lost), at_.missing]
      rfl
    · have none : tally.missing - 1 = tally.missing := by
        have := mt positive.mpr lost
        omega
      exact ⟨at_.highest, by rw [none]; exact at_.missing, late, at_.buffer⟩

/-- One call of `iperf_udp_recv` counts the arrival of the datagram's number. -/
theorem ReceiverAt.step {test : Test} {sp : Stream} {tally : Tally} {n : Nat}
    {datagram : List UInt8} (at_ : ReceiverAt test sp tally)
    (minimum : 16 ≤ test.settings.blksize.toInt.toNat) (running : test.state = .testRunning)
    (full : datagram.length = test.settings.blksize.toInt.toNat)
    (header : (udpReadHeader test datagram).1 = UInt64.ofNat n)
    (top : tally.highest < 2 ^ 63) (gaps : tally.missing < 2 ^ 63) (number : n < 2 ^ 63)
    (arrivalTime : IperfTime)
    : ∃ r sp',
        iperfUdpRecv test sp arrivalTime
            [recvDatagram (test.settings.skipRxCopy ≠ 0) (udpRecvSize test) datagram]
          = some (r, sp')
        ∧ ReceiverAt test sp' (tally.arrive n) := by
  obtain ⟨received, call, ret, front, length⟩ :=
    nrecvNoSelect_datagram minimum at_.buffer full
  have low := (udpRecvSize_bounds minimum).1
  unfold iperfUdpRecv
  dsimp only
  rw [call, Option.map_some, if_neg (by omega), if_pos running,
    udpReadHeader_congr front, header]
  refine ⟨_, _, rfl, ?_⟩
  -- the result record and the jitter are no counters of the tally
  have counted (result : StreamResult)
      : ReceiverAt test
          (udpCountSequence { sp with buffer := received.buffer, result } (UInt64.ofNat n))
          (tally.arrive n) :=
    ReceiverAt.count ⟨at_.highest, at_.missing, at_.late, length.trans at_.buffer⟩ top gaps
      number
  exact ⟨(counted _).highest, (counted _).missing, (counted _).late, (counted _).buffer⟩

/-- The numbers of the delivered datagrams; `k` is a position on the wire. -/
def deliveredNumbers {n : Nat} (order : List (IperfTime × Fin n)) : List Nat :=
  order.map (fun arrival => arrival.2.val + 1)

/-- The datagrams as the network hands them over: any of those on the wire, in any order. -/
def delivered (wire : List (List UInt8)) (order : List (IperfTime × Fin wire.length))
    : List (IperfTime × List UInt8) :=
  order.map (fun arrival => (arrival.1, wire[arrival.2]))

theorem deliveredNumbers_bounds {n : Nat} {order : List (IperfTime × Fin n)}
    : ∀ number ∈ deliveredNumbers order, 1 ≤ number ∧ number ≤ n := by
  intro number member
  obtain ⟨arrival, -, rfl⟩ := List.mem_map.mp member
  have := arrival.2.isLt
  omega

theorem deliveredNumbers_eq {n : Nat} (order : List (IperfTime × Fin n))
    : deliveredNumbers order = (order.map Prod.snd).map (fun k => k.val + 1) := by
  rw [deliveredNumbers, List.map_map]
  rfl

theorem deliveredNumbers_nodup {n : Nat} {order : List (IperfTime × Fin n)}
    (distinct : (order.map Prod.snd).Nodup)
    : (deliveredNumbers order).Nodup := by
  have injective : Function.Injective (fun k : Fin n => k.val + 1) := by
    intro left right same
    exact Fin.ext (Nat.succ.inj same)
  rw [deliveredNumbers_eq]
  exact List.Nodup.map injective distinct

/-- A tally of some of the numbers up to `n` stays within `n`. -/
theorem tally_bounds {n : Nat} {numbers : List Nat} (distinct : numbers.Nodup)
    (bounds : ∀ number ∈ numbers, 1 ≤ number ∧ number ≤ n)
    : (numbers.foldl Tally.arrive Tally.zero).highest ≤ n
      ∧ (numbers.foldl Tally.arrive Tally.zero).missing ≤ n := by
  rw [(foldl_arrive distinct (fun number member => (bounds number member).1)).1]
  have top : highestOf numbers ≤ n := by
    rcases highestOf_mem_or_zero numbers with member | zero
    · exact (bounds _ member).2
    · omega
  exact ⟨top, le_trans (Nat.sub_le _ _) top⟩

/-- A whole run of the receiver is a fold of the tally. Witness: induction on the deliveries,
with those already counted in front.
-/
theorem ReceiverAt.run {test : Test} {wire : List (List UInt8)} (numbered : Numbered test wire)
    (minimum : 16 ≤ test.settings.blksize.toInt.toNat) (running : test.state = .testRunning)
    (limit : wire.length < 2 ^ 63) {sp : Stream}
    {earlier order : List (IperfTime × Fin wire.length)}
    (at_ : ReceiverAt test sp ((deliveredNumbers earlier).foldl Tally.arrive Tally.zero))
    (distinct : ((earlier ++ order).map Prod.snd).Nodup)
    : ∃ sp',
        udpRecvRun test sp (delivered wire order) = some sp'
        ∧ ReceiverAt test sp'
            ((deliveredNumbers (earlier ++ order)).foldl Tally.arrive Tally.zero) := by
  induction order generalizing sp earlier with
  | nil => exact ⟨sp, rfl, by simpa using at_⟩
  | cons arrival rest ih =>
      obtain ⟨full, header⟩ := numbered arrival.2 wire[arrival.2] (by simp)
      have sofar : (earlier.map Prod.snd).Nodup := by
        rw [List.map_append] at distinct
        exact (List.nodup_append.mp distinct).1
      obtain ⟨top, gaps⟩ := tally_bounds (deliveredNumbers_nodup sofar) deliveredNumbers_bounds
      have index := arrival.2.isLt
      obtain ⟨r, sp', called, next⟩ := at_.step minimum running full header (by omega)
        (by omega) (by omega) arrival.1
      have shifted : earlier ++ arrival :: rest = (earlier ++ [arrival]) ++ rest := by simp
      rw [shifted] at distinct ⊢
      have counted : ReceiverAt test sp'
          ((deliveredNumbers (earlier ++ [arrival])).foldl Tally.arrive Tally.zero) := by
        simpa [deliveredNumbers] using next
      obtain ⟨final, ran, finalAt⟩ := ih counted distinct
      refine ⟨final, ?_, finalAt⟩
      simp only [delivered, List.map_cons, udpRecvRun, called, Option.bind_eq_bind,
        Option.bind_some]
      exact ran

-----------------------------------------------------------------------------------------
-- Exact loss accounting
-----------------------------------------------------------------------------------------

/-- The receiver's counters say exactly which share of `numbers` is missing or late. -/
structure ExactLoss (numbers : List Nat) (sp : Stream) : Prop where
  highest : sp.packetCount.toInt = highestOf numbers
  lost : sp.cntError.toInt = sp.packetCount.toInt - numbers.length
  lostNonneg : 0 ≤ sp.cntError.toInt
  late : sp.outoforderPackets.toInt = lateArrivals numbers

theorem lateAfter_le_length (earlier order : List Nat)
    : lateAfter earlier order ≤ order.length := by
  induction order generalizing earlier with
  | nil => simp [lateAfter]
  | cons n rest ih =>
      have step := ih (n :: earlier)
      simp only [lateAfter, List.length_cons]
      split_ifs <;> omega

theorem ReceiverAt.exact {test : Test} {sp : Stream} {numbers : List Nat} {n : Nat}
    (at_ : ReceiverAt test sp (numbers.foldl Tally.arrive Tally.zero))
    (distinct : numbers.Nodup) (bounds : ∀ number ∈ numbers, 1 ≤ number ∧ number ≤ n)
    (limit : n < 2 ^ 63)
    : ExactLoss numbers sp := by
  obtain ⟨top, gaps⟩ := tally_bounds distinct bounds
  obtain ⟨state, enough⟩ :=
    foldl_arrive distinct (fun number member => (bounds number member).1)
  obtain ⟨highest, missing, late, -⟩ := at_
  rw [state] at top gaps highest missing late
  dsimp only at top gaps highest missing late
  have lateBound : lateArrivals numbers ≤ numbers.length := lateAfter_le_length [] numbers
  have packets : sp.packetCount.toInt = highestOf numbers := by
    rw [highest, Int64.toInt_ofNat_of_lt (by omega)]
  have errors : sp.cntError.toInt = (highestOf numbers - numbers.length : Nat) := by
    rw [missing, Int64.toInt_ofNat_of_lt (by omega)]
  refine ⟨packets, ?_, ?_, ?_⟩
  · rw [errors, packets]
    omega
  · rw [errors]
    omega
  · rw [late, Int64.toInt_ofNat_of_lt (by omega)]

/-- The fresh counters are those of the empty tally. -/
theorem ReceiverAt.fresh {test : Test} {sp : Stream} (packets : sp.packetCount = 0)
    (errors : sp.cntError = 0) (late : sp.outoforderPackets = 0)
    (buffer : sp.buffer.length = test.settings.blksize.toInt.toNat)
    : ReceiverAt test sp Tally.zero :=
  ⟨packets, errors, late, buffer⟩

/-- A number that goes backward fills a gap that is still counted as lost. -/
theorem ReceiverAt.gap {test : Test} {sp : Stream} {numbers : List Nat} {n number : Nat}
    (at_ : ReceiverAt test sp (numbers.foldl Tally.arrive Tally.zero))
    (distinct : (number :: numbers).Nodup)
    (bounds : ∀ m ∈ number :: numbers, 1 ≤ m ∧ m ≤ n) (limit : n < 2 ^ 63)
    (backward : ¬ UInt64.ofNat number ≥ (sp.packetCount + 1).toUInt64)
    : sp.cntError > 0 := by
  have rest : ∀ m ∈ numbers, 1 ≤ m ∧ m ≤ n := fun m member => bounds m (by simp [member])
  have exact_ := at_.exact (List.nodup_cons.mp distinct).2 rest limit
  have top := (tally_bounds (List.nodup_cons.mp distinct).2 rest).1
  have state := (foldl_arrive (List.nodup_cons.mp distinct).2 (fun m member => (rest m member).1)).1
  have small := (bounds number (by simp)).2
  have below : number ≤ highestOf numbers := by
    have next : (sp.packetCount + 1).toUInt64 = UInt64.ofNat (highestOf numbers + 1) := by
      rw [at_.highest, state, ← Int64.toUInt64_ofNat', Int64.ofNat_add]
      rfl
    rw [state] at top
    dsimp only at top
    rw [next, ge_iff_le, UInt64.le_iff_toNat_le, UInt64.toNat_ofNat', UInt64.toNat_ofNat',
      Nat.mod_eq_of_lt (by omega), Nat.mod_eq_of_lt (by omega)] at backward
    omega
  have gap := length_lt_highestOf distinct (fun m member => (bounds m member).1) below
  rw [gt_iff_lt, Int64.lt_iff_toInt_lt, exact_.lost, exact_.highest]
  have zero : (0 : Int64).toInt = 0 := rfl
  omega

theorem highestOf_perm {left right : List Nat} (perm : left.Perm right)
    : highestOf left = highestOf right :=
  perm.foldl_eq 0

/-- Loss accounting is exact: for every mix of sends that succeed and fail, every choice of
delivered datagrams and every order of theirs, the receiver's counters describe what was
delivered, the guard on `cnt_error` holds at every decrement, the losses do not depend on the
order, and the sender counted what it put on the wire.
-/
theorem udpLossAccounting_exact {sender receiver : Test} (path : UdpPath sender receiver)
    {snd rcv : Stream} (sndPackets : snd.packetCount = 0)
    (sndBuffer : snd.buffer.length = sender.settings.blksize.toInt.toNat)
    (rcvPackets : rcv.packetCount = 0) (rcvErrors : rcv.cntError = 0)
    (rcvLate : rcv.outoforderPackets = 0)
    (rcvBuffer : rcv.buffer.length = receiver.settings.blksize.toInt.toNat)
    (calls : List SendCall) (limit : sentCount calls < packetLimit sender)
    : ∃ snd' wire,
        udpSendRun sender snd [] calls = some (snd', wire)
        ∧ wire.length = sentCount calls
        ∧ snd'.packetCount.toInt = wire.length
        ∧ ∀ order : List (IperfTime × Fin wire.length), (order.map Prod.snd).Nodup
          → ∃ rcv',
              udpRecvRun receiver rcv (delivered wire order) = some rcv'
              ∧ ExactLoss (deliveredNumbers order) rcv'
              ∧ rcv'.packetCount.toInt ≤ snd'.packetCount.toInt
              ∧ (∀ earlier next later, order = earlier ++ next :: later
                  → ∃ before,
                      udpRecvRun receiver rcv (delivered wire earlier) = some before
                      ∧ (¬ (udpReadHeader receiver wire[next.2]).1
                            ≥ (before.packetCount + 1).toUInt64
                          → before.cntError > 0))
              ∧ ∀ other : List (IperfTime × Fin wire.length),
                  (other.map Prod.snd).Perm (order.map Prod.snd)
                  → ∃ rcv'',
                      udpRecvRun receiver rcv (delivered wire other) = some rcv''
                      ∧ rcv''.cntError = rcv'.cntError := by
  have minimum : 16 ≤ sender.settings.blksize.toInt.toNat := by
    have bound := path.minimum
    have sixteen : minUdpBlocksize.toInt = 16 := rfl
    omega
  have empty : SenderAt sender snd [] :=
    ⟨sndPackets, sndBuffer, fun k datagram found => by simp at found⟩
  obtain ⟨snd', wire, ran, sent, total⟩ := empty.run calls minimum (by simpa using limit)
  have widths := packetLimit_le sender
  rw [List.length_nil, Nat.zero_add] at total
  have counted : snd'.packetCount.toInt = wire.length := by
    rw [sent.count, Int64.toInt_ofNat_of_lt (by omega)]
  have numbered : Numbered receiver wire := by
    have readSame (buffer : List UInt8)
        : udpReadHeader receiver buffer = udpReadHeader sender buffer := by
      simp only [udpReadHeader, path.width]
    intro k datagram found
    rw [path.size, readSame]
    exact sent.numbered k datagram found
  -- every run of the receiver, from its fresh counters
  have receives (order : List (IperfTime × Fin wire.length))
      (distinct : (order.map Prod.snd).Nodup)
      : ∃ sp, udpRecvRun receiver rcv (delivered wire order) = some sp
        ∧ ReceiverAt receiver sp ((deliveredNumbers order).foldl Tally.arrive Tally.zero) := by
    have fresh : ReceiverAt receiver rcv
        ((deliveredNumbers ([] : List (IperfTime × Fin wire.length))).foldl Tally.arrive
          Tally.zero) :=
      ReceiverAt.fresh rcvPackets rcvErrors rcvLate rcvBuffer
    exact fresh.run numbered (path.size ▸ minimum) path.running (by omega) distinct
  refine ⟨snd', wire, ran, total, counted, ?_⟩
  intro order distinct
  obtain ⟨rcv', received, at_⟩ := receives order distinct
  have loss := at_.exact (deliveredNumbers_nodup distinct) deliveredNumbers_bounds (by omega)
  refine ⟨rcv', received, loss, ?_, ?_, ?_⟩
  · rw [loss.highest, counted]
    rcases highestOf_mem_or_zero (deliveredNumbers order) with member | zero
    · exact_mod_cast (deliveredNumbers_bounds _ member).2
    · omega
  · rintro earlier next later rfl
    have front : ((next :: earlier).map Prod.snd).Nodup := by
      have sub : (earlier ++ [next]).Sublist (earlier ++ next :: later) :=
        List.Sublist.append_left (by simp) earlier
      have nodup := (sub.map Prod.snd).nodup distinct
      exact ((List.perm_append_singleton next earlier).map Prod.snd).nodup_iff.mp nodup
    obtain ⟨before, ranBefore, atBefore⟩ :=
      receives earlier (List.nodup_cons.mp (by simpa using front)).2
    refine ⟨before, ranBefore, ?_⟩
    intro backward
    rw [(numbered next.2 wire[next.2] (by simp)).2] at backward
    exact atBefore.gap (deliveredNumbers_nodup front)
      (@deliveredNumbers_bounds _ (next :: earlier)) (by omega) backward
  · intro other perm
    have distinctOther := perm.nodup_iff.mpr distinct
    obtain ⟨rcv'', receivedOther, atOther⟩ := receives other distinctOther
    have lossOther :=
      atOther.exact (deliveredNumbers_nodup distinctOther) deliveredNumbers_bounds (by omega)
    refine ⟨rcv'', receivedOther, Int64.toInt_inj.mp ?_⟩
    have numbers : (deliveredNumbers other).Perm (deliveredNumbers order) := by
      rw [deliveredNumbers_eq, deliveredNumbers_eq]
      exact perm.map _
    rw [loss.lost, lossOther.lost, loss.highest, lossOther.highest, highestOf_perm numbers,
      numbers.length_eq]

/-- A test at the smallest block size, for either end. -/
def smallestUdpTest : Test :=
  { protocol := .udp, state := .testRunning, settings := { blksize := minUdpBlocksize } }

/-- A stream of it with fresh counters. -/
def smallestUdpStream (sender : Bool) : Stream :=
  { socket := 5, id := 1, sender, buffer := List.replicate 16 0 }

/-- A datagram, a full kernel buffer and another datagram: both that went out can be lost,
delivered or swapped.
-/
theorem udpLossAccounting_exact_three_calls
    : ∃ snd' wire,
        udpSendRun smallestUdpTest (smallestUdpStream true) []
            [
              { before := ⟨1, 0⟩, write := .sent },
              { before := ⟨1, 10⟩, write := .failed .enobufs },
              { before := ⟨1, 20⟩, write := .sent }
            ]
          = some (snd', wire)
        ∧ wire.length = 2
        ∧ snd'.packetCount.toInt = 2
        ∧ ∀ order : List (IperfTime × Fin wire.length), (order.map Prod.snd).Nodup
          → ∃ rcv',
              udpRecvRun smallestUdpTest (smallestUdpStream false) (delivered wire order)
                = some rcv'
              ∧ ExactLoss (deliveredNumbers order) rcv' := by
  have path : UdpPath smallestUdpTest smallestUdpTest := ⟨rfl, by decide, rfl, rfl⟩
  obtain ⟨snd', wire, ran, total, counted, receives⟩ :=
    @udpLossAccounting_exact _ _ path (smallestUdpStream true) (smallestUdpStream false) rfl
      (by decide) rfl rfl rfl (by decide)
      [
        { before := ⟨1, 0⟩, write := .sent },
        { before := ⟨1, 10⟩, write := .failed .enobufs },
        { before := ⟨1, 20⟩, write := .sent }
      ]
      (by decide)
  have two : wire.length = 2 := total
  refine ⟨snd', wire, ran, two, by rw [counted, two]; rfl, ?_⟩
  intro order distinct
  obtain ⟨rcv', received, loss, -⟩ := receives order distinct
  exact ⟨rcv', received, loss⟩

end Iperf
