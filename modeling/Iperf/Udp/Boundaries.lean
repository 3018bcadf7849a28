import Iperf.Udp.SkipRxCopy

/-! Calls of `iperf_udp_recv` against the datagrams on its socket: when each call takes one datagram
and nothing of its neighbours.
-/

namespace Iperf

variable {test : Test} {sp : Stream} {bytes : List UInt8}

-----------------------------------------------------------------------------------------
-- The socket of a stream
-----------------------------------------------------------------------------------------

/-- What the next `recv(2)` finds: a datagram, or a wait that ends without one. -/
inductive Arrival where
  | datagram (bytes : List UInt8)
  | interrupted
deriving DecidableEq, Repr

def datagrams : List Arrival → List (List UInt8)
  | [] => []
  | .datagram bytes :: rest => bytes :: datagrams rest
  | .interrupted :: rest => datagrams rest

/-- The `recv(2)` calls of one call of `Nrecv_no_select`. -/
structure Reads where
  results : List RecvResult
  consumed : List (List UInt8)
  rest : List Arrival

/-- What is read while `left` bytes are wanted. The socket blocks, so a call that wants more than
arrives never ends.
-/
def readsFor : Nat → List Arrival → Option Reads
  | 0, arrivals => some { results := [], consumed := [], rest := arrivals }
  | _ + 1, [] => none
  | _ + 1, .interrupted :: rest => some { results := [.failed .eintr], consumed := [], rest }
  | left + 1, .datagram bytes :: rest =>
      if bytes.length = 0 then
        some { results := [recvDatagram false (left + 1) bytes], consumed := [bytes], rest }
      else
        (readsFor (left + 1 - bytes.length) rest).map fun later => {
          results := recvDatagram false (left + 1) bytes :: later.results
          consumed := bytes :: later.consumed
          rest := later.rest
        }
termination_by structural _ arrivals => arrivals

/-- One call of `iperf_udp_recv`, with the stream before and after it. -/
structure UdpCall where
  ret : Int
  before : Stream
  after : Stream
  consumed : List (List UInt8)

def udpCall (test : Test) (sp : Stream) (now : IperfTime) (arrivals : List Arrival)
    : Option (UdpCall × List Arrival) := do
  let reads ← readsFor (udpRecvSize test) arrivals
  let (ret, after) ← iperfUdpRecv test sp now reads.results
  some ({ ret, before := sp, after, consumed := reads.consumed }, reads.rest)

/-- The calls that return, one for each time, until one waits for ever. -/
def udpCalls (test : Test) : Stream → List IperfTime → List Arrival → List UdpCall
  | _, [], _ => []
  | sp, now :: later, arrivals =>
      match udpCall test sp now arrivals with
      | none => []
      | some (call, rest) => call :: udpCalls test call.after later rest

def successfulCalls (test : Test) (sp : Stream) (times : List IperfTime) (arrivals : List Arrival)
    : List UdpCall :=
  (udpCalls test sp times arrivals).filter fun call => 0 < call.ret

-----------------------------------------------------------------------------------------
-- Boundaries
-----------------------------------------------------------------------------------------

/-- The counters change by what one datagram says, whatever the buffer held before it. -/
structure CountsOnly (test : Test) (before after : Stream) (bytes : List UInt8) : Prop where
  received : after.result.bytesReceived
    = before.result.bytesReceived + countedReceipts test (UInt64.ofNat bytes.length)
  sequence : test.state = .testRunning → ∃ number,
    (∀ buffer : List UInt8, buffer.length = blockSize test
      → (udpReadHeader test (Buffer.copyAt buffer 0 bytes)).1 = number)
    ∧ after.sequence = (udpCountSequence before number).sequence
  idle : test.state ≠ .testRunning → after.sequence = before.sequence

/-- The k-th successful call takes exactly the k-th datagram. -/
def BoundariesKept (test : Test) (sp : Stream) (arrivals : List Arrival) : Prop :=
  ∀ (times : List IperfTime) (k : Nat) (call : UdpCall),
    (successfulCalls test sp times arrivals)[k]? = some call →
    ∃ bytes, (datagrams arrivals)[k]? = some bytes ∧ call.consumed = [bytes]
      ∧ CountsOnly test call.before call.after bytes

/-- The bytes of a datagram up to the end of its sequence number. -/
def udpHeaderSize (test : Test) : Nat := if test.udpCounters64bit then 16 else 12

/-- Every datagram fills a block, or holds a whole header and is followed by an interruption; short
datagrams that no call ever returns may come last.
-/
inductive Separated (test : Test) : List Arrival → Prop where
  | starved {arrivals : List Arrival} (never : .interrupted ∉ arrivals)
      (scarce : (datagrams arrivals).flatten.length < blockSize test) : Separated test arrivals
  | interrupted {rest : List Arrival} (later : Separated test rest)
      : Separated test (.interrupted :: rest)
  | full {bytes : List UInt8} {rest : List Arrival} (full : bytes.length = blockSize test)
      (later : Separated test rest) : Separated test (.datagram bytes :: rest)
  | short {bytes : List UInt8} {rest : List Arrival} (short : bytes.length < blockSize test)
      (header : test.state = .testRunning → udpHeaderSize test ≤ bytes.length)
      (later : Separated test rest) : Separated test (.datagram bytes :: .interrupted :: rest)

/-- Datagrams that carry something and fit a block. -/
def Fitting (test : Test) (arrivals : List Arrival) : Prop :=
  ∀ bytes ∈ datagrams arrivals, 0 < bytes.length ∧ bytes.length ≤ blockSize test

theorem Fitting.tail {arrival : Arrival} {rest : List Arrival}
    (fitting : Fitting test (arrival :: rest))
    : Fitting test rest := by
  intro bytes isOne
  refine fitting bytes ?_
  cases arrival with
  | datagram first => exact List.mem_cons_of_mem _ isOne
  | interrupted => exact isOne

-----------------------------------------------------------------------------------------
-- Headers
-----------------------------------------------------------------------------------------

/-- A whole header is read from the datagram itself. -/
theorem headerNumber_whole (header : udpHeaderSize test ≤ bytes.length) (buffer : List UInt8)
    : (udpReadHeader test (Buffer.copyAt buffer 0 bytes)).1 = (udpReadHeader test bytes).1 := by
  have slices {width : Nat} (inside : 8 + width ≤ bytes.length)
      : Buffer.slice (Buffer.copyAt buffer 0 bytes) 8 width = Buffer.slice bytes 8 width := by
    rw [Buffer.copyAt_zero, Buffer.slice, Buffer.slice, List.drop_append_of_le_length (by omega),
      List.take_append_of_le_length (by rw [List.length_drop]; omega)]
  unfold udpHeaderSize at header
  unfold udpReadHeader
  cases wide : test.udpCounters64bit with
  | true =>
      rw [wide, if_pos rfl] at header
      simp only [if_true, slices (show 8 + 8 ≤ bytes.length from header)]
  | false =>
      rw [wide, if_neg (by decide)] at header
      simp only [Bool.false_eq_true, if_false, slices (show 8 + 4 ≤ bytes.length from header)]

/-- The last byte of a number that ends behind the datagram is that of the buffer. -/
theorem decode_stale {buffer : List UInt8} {value : UInt8} {width : Nat}
    (old : ∀ byte ∈ buffer, byte = value) (room : 8 + (width + 1) ≤ buffer.length)
    (cut : bytes.length < 8 + (width + 1))
    : BigEndian.decode (Buffer.slice (Buffer.copyAt buffer 0 bytes) 8 (width + 1)) % 256
      = value.toNat := by
  obtain ⟨last, found⟩ : ∃ last, (Buffer.copyAt buffer 0 bytes)[8 + width]? = some last := by
    refine ⟨_, List.getElem?_eq_getElem ?_⟩
    rw [Buffer.length_copyAt (by omega)]
    omega
  have isValue : last = value := by
    rw [Buffer.copyAt_zero, List.getElem?_append_right (by omega), List.getElem?_drop] at found
    exact old last (List.mem_of_getElem? found)
  have split : Buffer.slice (Buffer.copyAt buffer 0 bytes) 8 (width + 1)
      = Buffer.slice (Buffer.copyAt buffer 0 bytes) 8 width ++ [last] := by
    rw [Buffer.slice, List.take_add_one, List.getElem?_drop, found]
    rfl
  have small := last.toNat_lt
  rw [split, BigEndian.decode_append_singleton, ← isValue]
  omega

/-- A number that does not depend on the buffer is whole in the datagram. -/
theorem udpHeaderSize_le_of_fixed (minimum : 16 ≤ blockSize test) {number : UInt64}
    (fixed : ∀ buffer : List UInt8, buffer.length = blockSize test
      → (udpReadHeader test (Buffer.copyAt buffer 0 bytes)).1 = number)
    : udpHeaderSize test ≤ bytes.length := by
  by_contra cut
  have narrow {width : Nat} (wide : width ≤ 8) (buffer : List UInt8)
      : BigEndian.decode (Buffer.slice buffer 8 width) < 2 ^ 64 := by
    have decoded := BigEndian.decode_lt (Buffer.slice buffer 8 width)
    have size : (Buffer.slice buffer 8 width).length ≤ 8 :=
      (List.length_take_le _ _).trans wide
    have power : 256 ^ (Buffer.slice buffer 8 width).length ≤ 256 ^ 8 :=
      Nat.pow_le_pow_right (by norm_num) size
    omega
  have zeros := fixed (List.replicate (blockSize test) 0) (List.length_replicate ..)
  have ones := fixed (List.replicate (blockSize test) 1) (List.length_replicate ..)
  have differ {width : Nat} (wide : width + 1 ≤ 8) (behind : bytes.length < 8 + (width + 1))
      (same : UInt64.ofNat (BigEndian.decode (Buffer.slice
          (Buffer.copyAt (List.replicate (blockSize test) 0) 0 bytes) 8 (width + 1)))
        = UInt64.ofNat (BigEndian.decode (Buffer.slice
          (Buffer.copyAt (List.replicate (blockSize test) 1) 0 bytes) 8 (width + 1))))
      : False := by
    rw [← UInt64.toNat_inj, UInt64.toNat_ofNat', UInt64.toNat_ofNat',
      Nat.mod_eq_of_lt (narrow wide _), Nat.mod_eq_of_lt (narrow wide _)] at same
    have low := @decode_stale bytes (List.replicate (blockSize test) 0) 0 width
      (fun _ => List.eq_of_mem_replicate) (by rw [List.length_replicate]; omega) behind
    have high := @decode_stale bytes (List.replicate (blockSize test) 1) 1 width
      (fun _ => List.eq_of_mem_replicate) (by rw [List.length_replicate]; omega) behind
    rw [same, high] at low
    exact absurd low (by decide)
  have equal := zeros.trans ones.symm
  unfold udpReadHeader at equal
  unfold udpHeaderSize at cut
  cases wide : test.udpCounters64bit with
  | true =>
      rw [wide, if_pos rfl] at cut
      simp only [wide, if_true] at equal
      exact differ (by norm_num) (by omega) equal
  | false =>
      rw [wide, if_neg (by decide)] at cut
      simp only [wide, Bool.false_eq_true, if_false] at equal
      exact differ (by norm_num) (by omega) equal

-----------------------------------------------------------------------------------------
-- One call
-----------------------------------------------------------------------------------------

theorem nrecvLoop_datagram {count left offset : Nat} {buffer : List UInt8}
    {results : List RecvResult} (carries : 0 < bytes.length)
    : nrecvLoop false count buffer offset (left + 1)
        (recvDatagram false (left + 1) bytes :: results)
      = nrecvLoop false count (Buffer.copyAt buffer offset (bytes.take (left + 1)))
        (offset + min bytes.length (left + 1)) (left + 1 - bytes.length) results := by
  have something : min bytes.length (left + 1) ≠ 0 := by omega
  have unread : left + 1 - min bytes.length (left + 1) = left + 1 - bytes.length := by omega
  rw [recvDatagram, nrecvLoop]
  simp only [Bool.false_eq_true, if_false, if_neg something, unread]

/-- The loop ends with what was read, by induction on the arrivals. -/
theorem nrecvLoop_reads {count left offset : Nat} {buffer : List UInt8} {arrivals : List Arrival}
    {reads : Reads} (carries : ∀ bytes ∈ datagrams arrivals, 0 < bytes.length)
    (read : readsFor left arrivals = some reads) (room : offset + left ≤ buffer.length)
    : ∃ unread buffer', unread ≤ left
      ∧ nrecvLoop false count buffer offset left reads.results
        = some { ret := toInt (count - unread), buffer := buffer' }
      ∧ buffer'.length = buffer.length := by
  induction arrivals generalizing left offset buffer reads with
  | nil =>
      cases left with
      | zero =>
          obtain rfl := Option.some.inj read
          exact ⟨0, buffer, le_rfl, rfl, rfl⟩
      | succ left => exact absurd read nofun
  | cons arrival rest ih =>
      cases left with
      | zero =>
          obtain rfl := Option.some.inj read
          exact ⟨0, buffer, le_rfl, rfl, rfl⟩
      | succ left =>
          cases arrival with
          | interrupted =>
              obtain rfl := Option.some.inj read
              exact ⟨left + 1, buffer, le_rfl, rfl, rfl⟩
          | datagram bytes =>
              have some := carries bytes List.mem_cons_self
              rw [readsFor, if_neg (by omega)] at read
              obtain ⟨later, readLater, rfl⟩ := Option.map_eq_some_iff.mp read
              have size : (Buffer.copyAt buffer offset (bytes.take (left + 1))).length
                  = buffer.length := Buffer.length_copyAt (by rw [List.length_take]; omega)
              obtain ⟨unread, buffer', below, ran, kept⟩ :=
                @ih (left + 1 - bytes.length) (offset + min bytes.length (left + 1))
                  (Buffer.copyAt buffer offset (bytes.take (left + 1))) later
                  (fun other isOne => carries other (List.mem_cons_of_mem _ isOne)) readLater
                  (by omega)
              refine ⟨unread, buffer', by omega, ?_, kept.trans size⟩
              exact (nrecvLoop_datagram some).trans ran

/-- A call that never ends is given too little. -/
theorem readsFor_none {left : Nat} {arrivals : List Arrival}
    (carries : ∀ bytes ∈ datagrams arrivals, 0 < bytes.length)
    : readsFor left arrivals = none
      ↔ .interrupted ∉ arrivals ∧ (datagrams arrivals).flatten.length < left := by
  induction arrivals generalizing left with
  | nil => cases left <;> simp [readsFor, datagrams]
  | cons arrival rest ih =>
      cases left with
      | zero => simp [readsFor]
      | succ left =>
          cases arrival with
          | interrupted => simp [readsFor]
          | datagram bytes =>
              have some := carries bytes List.mem_cons_self
              have later := @ih (left + 1 - bytes.length)
                (fun other isOne => carries other (List.mem_cons_of_mem _ isOne))
              rw [readsFor, if_neg (by omega), Option.map_eq_none_iff, later, datagrams,
                List.flatten_cons, List.length_append, List.mem_cons]
              constructor
              · rintro ⟨never, scarce⟩
                exact ⟨by simpa using never, by omega⟩
              · rintro ⟨never, scarce⟩
                exact ⟨fun isOne => never (.inr isOne), by omega⟩

theorem iperfUdpRecv_ret {received : Received} {results : List RecvResult} {now : IperfTime}
    (call : nrecvNoSelect (test.settings.skipRxCopy ≠ 0) sp.buffer (udpRecvSize test) results
      = some received)
    : ∃ after, iperfUdpRecv test sp now results = some (received.ret, after)
      ∧ after.buffer = received.buffer := by
  unfold iperfUdpRecv
  dsimp only
  rw [call, Option.map_some]
  split_ifs
  · exact ⟨_, rfl, rfl⟩
  · exact ⟨_, rfl, (udpCountSequence_rest _ _).1⟩
  · exact ⟨_, rfl, rfl⟩

/-- A call that reads one datagram with a whole header counts only this datagram. -/
theorem iperfUdpRecv_one {results : List RecvResult} {now : IperfTime}
    (carries : 0 < bytes.length)
    (header : test.state = .testRunning → udpHeaderSize test ≤ bytes.length)
    (call : nrecvNoSelect (test.settings.skipRxCopy ≠ 0) sp.buffer (udpRecvSize test) results
      = some { ret := bytes.length, buffer := Buffer.copyAt sp.buffer 0 bytes })
    : ∃ after, iperfUdpRecv test sp now results = some ((bytes.length : Int), after)
      ∧ after.buffer = Buffer.copyAt sp.buffer 0 bytes
      ∧ CountsOnly test sp after bytes := by
  unfold iperfUdpRecv
  dsimp only
  rw [call, Option.map_some]
  dsimp only
  rw [if_neg (by omega), Int.toNat_natCast]
  by_cases running : test.state = .testRunning
  · rw [if_pos running]
    refine ⟨_, rfl, (udpCountSequence_rest _ _).1, ?_, fun _ => ?_, fun idle => absurd running idle⟩
    · refine (congrArg StreamResult.bytesReceived (udpCountSequence_rest _ _).2).trans ?_
      rw [countedReceipts, if_pos running]
    · refine ⟨(udpReadHeader test bytes).1,
        fun buffer _ => headerNumber_whole (header running) buffer,
        ?_⟩
      rw [udpJitter_sequence, headerNumber_whole (header running)]
      refine udpCountSequence_congr ?_ _
      rfl
  · rw [if_neg running]
    refine ⟨_, rfl, rfl, ?_, fun is => absurd is running, fun _ => rfl⟩
    rw [countedReceipts, if_neg running]
    exact (UInt64.add_zero _).symm

theorem udpCall_eq {now : IperfTime} {arrivals : List Arrival} {reads : Reads} {ret : Int}
    {after : Stream} (plain : test.settings.skipRxCopy = 0)
    (read : readsFor (blockSize test) arrivals = some reads)
    (called : iperfUdpRecv test sp now reads.results = some (ret, after))
    : udpCall test sp now arrivals
      = some ({ ret, before := sp, after, consumed := reads.consumed }, reads.rest) := by
  have size : udpRecvSize test = blockSize test := if_neg (not_not.mpr plain)
  unfold udpCall
  rw [size, read]
  simp only [Option.bind_eq_bind, Option.bind_some, called]

/-- A call whose loop reads one datagram. -/
theorem udpCall_one {now : IperfTime} {arrivals : List Arrival} {reads : Reads}
    (plain : test.settings.skipRxCopy = 0) (room : sp.buffer.length = blockSize test)
    (carries : 0 < bytes.length) (fits : bytes.length ≤ blockSize test)
    (header : test.state = .testRunning → udpHeaderSize test ≤ bytes.length)
    (read : readsFor (blockSize test) arrivals = some reads)
    (loop : nrecvNoSelect false sp.buffer (blockSize test) reads.results
      = some { ret := bytes.length, buffer := Buffer.copyAt sp.buffer 0 bytes })
    : ∃ after, udpCall test sp now arrivals = some ({
          ret := bytes.length
          before := sp
          after
          consumed := reads.consumed
        }, reads.rest)
      ∧ after.buffer.length = blockSize test
      ∧ CountsOnly test sp after bytes := by
  have size : udpRecvSize test = blockSize test := if_neg (not_not.mpr plain)
  obtain ⟨after, called, buffer, counts⟩ :=
    @iperfUdpRecv_one test sp bytes reads.results now carries header
        (by simpa [plain, size] using loop)
  refine ⟨after, udpCall_eq plain read called, ?_, counts⟩
  rw [buffer, Buffer.length_copyAt (by omega), room]

/-- A datagram that fills a block. -/
theorem udpCall_full {now : IperfTime} {rest : List Arrival}
    (plain : test.settings.skipRxCopy = 0) (minimum : 16 ≤ blockSize test)
    (room : sp.buffer.length = blockSize test) (full : bytes.length = blockSize test)
    : ∃ after, udpCall test sp now (.datagram bytes :: rest) = some ({
          ret := bytes.length
          before := sp
          after
          consumed := [bytes]
        }, rest)
      ∧ after.buffer.length = blockSize test
      ∧ CountsOnly test sp after bytes := by
  obtain ⟨left, size⟩ : ∃ left, blockSize test = left + 1 := ⟨blockSize test - 1, by omega⟩
  have small := blockSize_lt test
  have whole : left + 1 - bytes.length = 0 := by omega
  have read : readsFor (blockSize test) (.datagram bytes :: rest)
      = some { results := [recvDatagram false (left + 1) bytes], consumed := [bytes], rest } := by
    rw [size, readsFor, if_neg (by omega), whole]
    cases rest <;> rfl
  refine udpCall_one plain room (by omega) (by omega) (fun _ => ?_) read ?_
  · unfold udpHeaderSize
    split <;> omega
  · rw [size, nrecvNoSelect, nrecvLoop_datagram (by omega), whole,
      List.take_of_length_le (by omega),
      nrecvLoop, toInt_of_lt (by omega)]
    simp [full, size]

/-- A shorter datagram, when the call is interrupted behind it. -/
theorem udpCall_short {now : IperfTime} {rest : List Arrival}
    (plain : test.settings.skipRxCopy = 0) (room : sp.buffer.length = blockSize test)
    (carries : 0 < bytes.length) (short : bytes.length < blockSize test)
    (header : test.state = .testRunning → udpHeaderSize test ≤ bytes.length)
    : ∃ after, udpCall test sp now (.datagram bytes :: .interrupted :: rest) = some ({
          ret := bytes.length
          before := sp
          after
          consumed := [bytes]
        }, rest)
      ∧ after.buffer.length = blockSize test
      ∧ CountsOnly test sp after bytes := by
  obtain ⟨left, size⟩ : ∃ left, blockSize test = left + 1 := ⟨blockSize test - 1, by omega⟩
  obtain ⟨unread, more⟩ : ∃ unread, left + 1 - bytes.length = unread + 1 :=
    ⟨left - bytes.length, by omega⟩
  have small := blockSize_lt test
  have read : readsFor (blockSize test) (.datagram bytes :: .interrupted :: rest)
      = some {
        results := [recvDatagram false (left + 1) bytes, .failed .eintr]
        consumed := [bytes]
        rest
      } := by
    rw [size, readsFor, if_neg (by omega), more]
    rfl
  refine udpCall_one plain room carries (by omega) header read ?_
  have taken : left + 1 - (unread + 1) = bytes.length := by omega
  have bound : bytes.length < 2 ^ 31 := by omega
  have int := toInt_of_lt bound
  rw [size, nrecvNoSelect, nrecvLoop_datagram carries, more, List.take_of_length_le (by omega),
    nrecvLoop]
  simp only [taken, int]

/-- A call that reads nothing. -/
theorem udpCall_interrupted {now : IperfTime} {rest : List Arrival}
    (plain : test.settings.skipRxCopy = 0) (minimum : 16 ≤ blockSize test)
    : ∃ after, udpCall test sp now (.interrupted :: rest) = some ({
          ret := 0
          before := sp
          after
          consumed := []
        }, rest)
      ∧ after.buffer = sp.buffer := by
  obtain ⟨left, size⟩ : ∃ left, blockSize test = left + 1 := ⟨blockSize test - 1, by omega⟩
  have read : readsFor (blockSize test) (.interrupted :: rest)
      = some { results := [.failed .eintr], consumed := [], rest } := by
    rw [size]
    rfl
  have recvSize : udpRecvSize test = left + 1 := (if_neg (not_not.mpr plain)).trans size
  have loop (msgTrunc : Bool) : nrecvNoSelect msgTrunc sp.buffer (udpRecvSize test) [.failed .eintr]
      = some { ret := 0, buffer := sp.buffer } := by
    have zero : toInt (left + 1 - (left + 1)) = 0 := by
      rw [Nat.sub_self]
      exact (toInt_of_lt (Nat.two_pow_pos 31)).trans Nat.cast_zero
    simp only [recvSize, nrecvNoSelect, nrecvLoop, zero]
  obtain ⟨after, called, buffer⟩ := @iperfUdpRecv_ret test sp _ _ now (loop _)
  exact ⟨after, udpCall_eq plain read called, buffer⟩

-----------------------------------------------------------------------------------------
-- Runs of calls
-----------------------------------------------------------------------------------------

theorem udpCalls_cons {now : IperfTime} {later : List IperfTime} {arrivals rest : List Arrival}
    {call : UdpCall} (called : udpCall test sp now arrivals = some (call, rest))
    : udpCalls test sp (now :: later) arrivals = call :: udpCalls test call.after later rest := by
  rw [udpCalls, called]

theorem successfulCalls_cons {now : IperfTime} {later : List IperfTime}
    {arrivals rest : List Arrival} {call : UdpCall}
    (called : udpCall test sp now arrivals = some (call, rest)) (success : 0 < call.ret)
    : successfulCalls test sp (now :: later) arrivals
      = call :: successfulCalls test call.after later rest := by
  rw [successfulCalls, udpCalls_cons called, List.filter_cons_of_pos (by simpa using success)]
  rfl

theorem successfulCalls_skip {now : IperfTime} {later : List IperfTime}
    {arrivals rest : List Arrival} {call : UdpCall}
    (called : udpCall test sp now arrivals = some (call, rest)) (failure : call.ret ≤ 0)
    : successfulCalls test sp (now :: later) arrivals
      = successfulCalls test call.after later rest := by
  rw [successfulCalls, udpCalls_cons called, List.filter_cons_of_neg (by simpa using failure)]
  rfl

/-- What a call that takes the first datagram leaves to the calls behind it. -/
theorem boundariesKept_cons {arrivals rest : List Arrival}
    (front : datagrams arrivals = bytes :: datagrams rest)
    (called : ∀ now, ∃ call, udpCall test sp now arrivals = some (call, rest) ∧ 0 < call.ret
      ∧ call.consumed = [bytes] ∧ CountsOnly test call.before call.after bytes
      ∧ BoundariesKept test call.after rest)
    : BoundariesKept test sp arrivals := by
  intro times k call found
  cases times with
  | nil => simp [successfulCalls, udpCalls] at found
  | cons now later =>
      obtain ⟨first, isFirst, success, consumed, counts, kept⟩ := called now
      rw [successfulCalls_cons isFirst success] at found
      rw [front]
      cases k with
      | zero =>
          obtain rfl := Option.some.inj found
          exact ⟨bytes, rfl, consumed, counts⟩
      | succ k => exact kept later k call found

theorem boundariesKept_skip {arrivals rest : List Arrival}
    (same : datagrams arrivals = datagrams rest)
    (called : ∀ now, ∃ call, udpCall test sp now arrivals = some (call, rest) ∧ call.ret ≤ 0
      ∧ BoundariesKept test call.after rest)
    : BoundariesKept test sp arrivals := by
  intro times k call found
  cases times with
  | nil => simp [successfulCalls, udpCalls] at found
  | cons now later =>
      obtain ⟨first, isFirst, failure, kept⟩ := called now
      rw [successfulCalls_skip isFirst failure] at found
      rw [same]
      exact kept later k call found

theorem BoundariesKept.tail {now : IperfTime} {arrivals rest : List Arrival} {call : UdpCall}
    (kept : BoundariesKept test sp arrivals)
    (called : udpCall test sp now arrivals = some (call, rest)) (success : 0 < call.ret)
    (front : datagrams arrivals = bytes :: datagrams rest)
    : BoundariesKept test call.after rest := by
  intro times k later found
  have one := kept (now :: times) (k + 1) later
  rw [successfulCalls_cons called success, front] at one
  exact one found

theorem BoundariesKept.skip {now : IperfTime} {arrivals rest : List Arrival} {call : UdpCall}
    (kept : BoundariesKept test sp arrivals)
    (called : udpCall test sp now arrivals = some (call, rest)) (failure : call.ret ≤ 0)
    (same : datagrams arrivals = datagrams rest)
    : BoundariesKept test call.after rest := by
  intro times k later found
  have one := kept (now :: times) k later
  rw [successfulCalls_skip called failure, same] at one
  exact one found

/-- By induction on how the datagrams are separated. -/
theorem Separated.kept {arrivals : List Arrival} (plain : test.settings.skipRxCopy = 0)
    (minimum : 16 ≤ blockSize test) (separated : Separated test arrivals)
    (fitting : Fitting test arrivals) (room : sp.buffer.length = blockSize test)
    : BoundariesKept test sp arrivals := by
  induction separated generalizing sp with
  | starved never scarce =>
      intro times k call found
      have waits := (readsFor_none fun bytes isOne => (fitting bytes isOne).1).mpr ⟨never, scarce⟩
      have size : udpRecvSize test = blockSize test := if_neg (not_not.mpr plain)
      cases times with
      | nil => simp [successfulCalls, udpCalls] at found
      | cons now later => simp [successfulCalls, udpCalls, udpCall, size, waits] at found
  | @interrupted rest later ih =>
      refine @boundariesKept_skip test sp (.interrupted :: rest) rest rfl fun now => ?_
      obtain ⟨after, called, buffer⟩ := udpCall_interrupted plain minimum
      exact ⟨_, called, le_rfl, ih fitting.tail (buffer ▸ room)⟩
  | @full bytes rest full later ih =>
      refine @boundariesKept_cons test sp bytes (.datagram bytes :: rest) rest rfl fun now => ?_
      obtain ⟨after, called, buffer, counts⟩ := udpCall_full plain minimum room full
      refine ⟨_, called, ?_, rfl, counts, ih fitting.tail buffer⟩
      exact Int.natCast_pos.mpr (by omega)
  | @short bytes rest short header later ih =>
      have carries := (fitting bytes List.mem_cons_self).1
      refine @boundariesKept_cons test sp bytes (.datagram bytes :: .interrupted :: rest) rest rfl
        fun now => ?_
      obtain ⟨after, called, buffer, counts⟩ := udpCall_short plain room carries short header
      exact ⟨_, called, Int.natCast_pos.mpr carries, rfl, counts, ih fitting.tail.tail buffer⟩

/-- A short datagram that is read is followed by an interruption, and holds its whole header. -/
theorem BoundariesKept.short {rest : List Arrival} {reads : Reads}
    (kept : BoundariesKept test sp (.datagram bytes :: rest))
    (plain : test.settings.skipRxCopy = 0) (minimum : 16 ≤ blockSize test)
    (fitting : Fitting test (.datagram bytes :: rest)) (room : sp.buffer.length = blockSize test)
    (short : bytes.length < blockSize test)
    (read : readsFor (blockSize test) (.datagram bytes :: rest) = some reads)
    : (∃ later, rest = .interrupted :: later)
      ∧ (test.state = .testRunning → udpHeaderSize test ≤ bytes.length) := by
  have carries := (fitting bytes List.mem_cons_self).1
  have small := blockSize_lt test
  have size : udpRecvSize test = blockSize test := if_neg (not_not.mpr plain)
  obtain ⟨left, more⟩ : ∃ left, blockSize test = left + 1 := ⟨blockSize test - 1, by omega⟩
  obtain ⟨unread, wants⟩ : ∃ unread, left + 1 - bytes.length = unread + 1 :=
    ⟨left - bytes.length, by omega⟩
  have readFirst := read
  rw [more, readsFor, if_neg (by omega), wants] at readFirst
  obtain ⟨behind, readLater, rfl⟩ := Option.map_eq_some_iff.mp readFirst
  -- the call reads the datagram, so it succeeds
  have copied : (Buffer.copyAt sp.buffer 0 (bytes.take (left + 1))).length = sp.buffer.length :=
    Buffer.length_copyAt (by rw [List.length_take]; omega)
  obtain ⟨remains, buffer', below, loop, -⟩ :=
    @nrecvLoop_reads (left + 1) (unread + 1) (0 + min bytes.length (left + 1))
      (Buffer.copyAt sp.buffer 0 (bytes.take (left + 1))) rest behind
      (fun other isOne => (fitting other (List.mem_cons_of_mem _ isOne)).1) readLater (by omega)
  have positive : 0 < left + 1 - remains := by omega
  have bound : left + 1 - remains < 2 ^ 31 := by omega
  obtain ⟨received, whole, success⟩ : ∃ received,
      nrecvNoSelect (test.settings.skipRxCopy ≠ 0) sp.buffer (udpRecvSize test)
          (recvDatagram false (left + 1) bytes :: behind.results) = some received
        ∧ 0 < received.ret := by
    refine ⟨{ ret := toInt (left + 1 - remains), buffer := buffer' }, ?_, ?_⟩
    · rw [size, more, nrecvNoSelect]
      simp only [plain, ne_eq, not_true_eq_false, decide_false]
      rw [nrecvLoop_datagram carries, wants]
      exact loop
    · dsimp only
      rw [toInt_of_lt bound]
      exact Int.natCast_pos.mpr positive
  obtain ⟨after, called, -⟩ := @iperfUdpRecv_ret test sp _ _ { secs := 0, usecs := 0 } whole
  have isFirst := udpCall_eq plain read called
  have first := @successfulCalls_cons test sp _ [] _ _ _ isFirst success
  obtain ⟨taken, isTaken, consumed, counts⟩ := kept [_] 0 _ (by rw [first, List.getElem?_cons_zero])
  obtain rfl := Option.some.inj isTaken
  refine ⟨?_, fun running => ?_⟩
  · cases rest with
    | nil => cases readLater
    | cons arrival later =>
        cases arrival with
        | interrupted => exact ⟨later, rfl⟩
        | datagram other =>
            have some := (fitting other (List.mem_cons_of_mem _ List.mem_cons_self)).1
            rw [readsFor, if_neg (by omega)] at readLater
            obtain ⟨last, -, rfl⟩ := Option.map_eq_some_iff.mp readLater
            cases consumed
  · obtain ⟨number, fixed, -⟩ := counts.sequence running
    exact udpHeaderSize_le_of_fixed minimum fixed

/-- By strong induction on the number of arrivals, since a short datagram takes an interruption
with it.
-/
theorem BoundariesKept.separated {arrivals : List Arrival} (plain : test.settings.skipRxCopy = 0)
    (minimum : 16 ≤ blockSize test) (kept : BoundariesKept test sp arrivals)
    (fitting : Fitting test arrivals) (room : sp.buffer.length = blockSize test)
    : Separated test arrivals := by
  induction count : arrivals.length using Nat.strong_induction_on generalizing arrivals sp with
  | _ n ih =>
      subst count
      let now : IperfTime := { secs := 0, usecs := 0 }
      rcases arrivals with _ | ⟨⟨bytes⟩ | _, rest⟩
      · exact .starved List.not_mem_nil (by simp [datagrams]; omega)
      · have carries := (fitting bytes List.mem_cons_self).1
        rcases (fitting bytes List.mem_cons_self).2.eq_or_lt with full | short
        · obtain ⟨after, called, buffer, -⟩ := @udpCall_full test sp bytes now rest plain minimum
            room full
          have behind := @BoundariesKept.tail test sp bytes now _ rest _ kept called
            (Int.natCast_pos.mpr carries) rfl
          exact .full full (ih _ (by simp) behind fitting.tail buffer rfl)
        · cases read : readsFor (blockSize test) (.datagram bytes :: rest) with
          | none =>
              obtain ⟨never, scarce⟩ :=
                (readsFor_none fun bytes isOne => (fitting bytes isOne).1).mp read
              exact .starved never scarce
          | some reads =>
              obtain ⟨⟨later, rfl⟩, header⟩ := kept.short plain minimum fitting room short read
              obtain ⟨after, called, buffer, -⟩ :=
                @udpCall_short test sp bytes now later plain room carries short header
              have behind := @BoundariesKept.tail test sp bytes now _ later _ kept called
                (Int.natCast_pos.mpr carries) rfl
              exact .short short header
                (ih _ (by simp only [List.length_cons]; omega) behind fitting.tail.tail buffer rfl)
      · obtain ⟨after, called, buffer⟩ := @udpCall_interrupted test sp now rest plain minimum
        exact .interrupted (ih _ (by simp) (kept.skip called le_rfl rfl) fitting.tail
          (buffer ▸ room) rfl)

/-- A receiver whose blocks have at least `MIN_UDP_BLOCKSIZE` bytes keeps the boundaries of its
datagrams exactly when they fill its blocks or arrive one by one.
-/
theorem boundariesKept_iff {arrivals : List Arrival} (plain : test.settings.skipRxCopy = 0)
    (minimum : 16 ≤ blockSize test) (room : sp.buffer.length = blockSize test)
    (fitting : Fitting test arrivals)
    : BoundariesKept test sp arrivals ↔ Separated test arrivals :=
  ⟨fun kept => kept.separated plain minimum fitting room,
    fun separated => separated.kept plain minimum fitting room⟩

/-- Witness: two datagrams that fill their blocks. -/
theorem boundariesKept_blocks
    : BoundariesKept smallestUdpTest (smallestUdpStream false)
      [.datagram (List.replicate 16 1), .datagram (List.replicate 16 2)] := by
  refine (boundariesKept_iff rfl (by decide) rfl ?_).mpr ?_
  · unfold Fitting
    decide
  · exact .full rfl (.full rfl (.starved List.not_mem_nil (by decide)))

/-- A datagram of eight bytes: the first call goes on into the datagram behind it. -/
theorem boundariesKept_fails
    : ¬ ∀ (test : Test) (sp : Stream) (arrivals : List Arrival), test.settings.skipRxCopy = 0
        → 16 ≤ blockSize test → sp.buffer.length = blockSize test → Fitting test arrivals
        → BoundariesKept test sp arrivals := by
  intro all
  have fitting : Fitting smallestUdpTest
      [.datagram (List.replicate 8 1), .datagram (List.replicate 16 2)] := by
    unfold Fitting
    decide
  have kept := all smallestUdpTest (smallestUdpStream false) _ rfl (by decide) rfl fitting
  have joined : ((successfulCalls smallestUdpTest (smallestUdpStream false)
      [{ secs := 1, usecs := 0 }]
      [.datagram (List.replicate 8 1), .datagram (List.replicate 16 2)])[0]?).map UdpCall.consumed
      = some [List.replicate 8 1, List.replicate 16 2] := by
    decide +kernel
  obtain ⟨call, found, both⟩ := Option.map_eq_some_iff.mp joined
  obtain ⟨bytes, -, consumed, -⟩ := kept _ _ _ found
  rw [both] at consumed
  exact absurd consumed (by simp)

end Iperf
