import Iperf.Library.DoubleRounding
import Iperf.Model.Net
import Iperf.Model.Test
import Iperf.Tcp.Streams
import Iperf.Udp.Datagrams

/-! The functions of `iperf_api.c` that both ends call while a test is set up and runs. -/

namespace Iperf

-----------------------------------------------------------------------------------------
-- Streams
-----------------------------------------------------------------------------------------

/-- The id of a stream that is added behind `count` others: `1`, `3`, `4`, ... -/
def streamId (count : Nat) : Int32 := if count = 0 then 1 else Int32.ofNat (count + 2)

def iperfAddStream (test : Test) (sp : Stream) : Test :=
  { test with streams := test.streams ++ [{ sp with id := streamId test.streams.length }] }

/-- What `iperf_new_stream` finds: an error of one of its system calls, and the random bytes
of the buffer.
-/
structure NewStreamIo where
  failed : Option SetupError := none
  entropy : List UInt8 := []

/-- `fill_with_repeating_pattern`: the digits in turn. -/
def fillWithRepeatingPattern (outsize : Nat) : List UInt8 :=
  (List.range outsize).map fun i => UInt8.ofNat (48 + i % 10)

/-- What `iperf_new_stream` fills the buffer with: `readentropy` fills all of it or exits. -/
def newStreamBuffer (test : Test) (io : NewStreamIo) : List UInt8 :=
  if test.repeatingPayload then fillWithRepeatingPattern (blockSize test)
  else io.entropy.take (blockSize test)

/-- `iperf_new_stream`. The buffer maps a temporary file of one block of zeros. -/
def iperfNewStream (test : Test) (s : Int) (sender : Bool) (io : NewStreamIo)
    : Except IError Test :=
  match io.failed with
  | some error => .error error.toIError
  | none =>
      .ok (iperfAddStream test {
        socket := s
        sender
        buffer := newStreamBuffer test io
        bufferFile := List.replicate (blockSize test) 0
      })

/-- `iperf_init_test`; the protocols' own `init` functions do nothing that is modelled. -/
def iperfInitTest (test : Test) (now : IperfTime) : Test :=
  {
    test with
    streams := test.streams.map (fun sp => {
      sp with
      result := { sp.result with startTime := now, startTimeFixed := now }
    })
  }

-----------------------------------------------------------------------------------------
-- State messages
-----------------------------------------------------------------------------------------

/-- `iperf_set_send_state`: nothing happens without a control connection; `sent` tells whether
the write succeeded.
-/
def iperfSetSendState (test : Test) (state : TestState) (sent : Bool) : Except IError Test :=
  if test.ctrlSck ≥ 0 then
    if sent then .ok { test with state } else .error .iesendmessage
  else
    .ok test

theorem iperfSetSendState_ok {test next : Test} {state : TestState} {sent : Bool}
    (sent : iperfSetSendState test state sent = .ok next)
    : next = { test with state } ∧ 0 ≤ test.ctrlSck ∨ next = test ∧ test.ctrlSck < 0 := by
  unfold iperfSetSendState at sent
  split_ifs at sent with connected written
  · exact .inl ⟨(Except.ok.inj sent).symm, connected⟩
  · exact .inr ⟨(Except.ok.inj sent).symm, by omega⟩

-----------------------------------------------------------------------------------------
-- Statistics
-----------------------------------------------------------------------------------------

/-- The counters of one stream after the omit period. -/
def resetStreamStats (now : IperfTime) (sp : Stream) : Stream :=
  {
    sp with
    omittedPacketCount := sp.packetCount
    omittedCntError := sp.cntError
    omittedOutoforderPackets := sp.outoforderPackets
    jitter := 0
    result := {
      sp.result with
      bytesSentOmit := sp.result.bytesSent
      bytesReceived := 0
      bytesSentThisInterval := 0
      bytesReceivedThisInterval := 0
      streamRetrans := 0
      startTime := now
    }
  }

def iperfResetStats (test : Test) (now : IperfTime) : Test :=
  {
    test with
    bytesSent := 0
    blocksSent := 0
    streams := test.streams.map (resetStreamStats now)
  }

/-- The conversion of an `int` that C compares with a 64-bit unsigned number. -/
def unsignedOfInt (n : Int32) : UInt64 := n.toInt64.toUInt64

/-- The conversion of a `double` to a 64-bit unsigned number, which saturates on this platform. -/
def sizeOfDouble (x : ℚ) : UInt64 := UInt64.ofNat (min x.floor.toNat (2 ^ 64 - 1))

/-- `iperf_check_total_rate`: the average over the last intervals against the limit. It is computed
in `double`, with a rounding at each step.
-/
def iperfCheckTotalRate (test : Test) (lastIntervalBytesTransferred : UInt64) : Test :=
  if test.done ∨ test.settings.bitrateLimit = 0 then
    test
  else
    let perInterval := test.settings.bitrateLimitStatsPerInterval
    let next := test.bitrateLimitLastIntervalIndex + 1
    let index := if next ≥ unsignedOfInt perInterval then 0 else next
    let traffic :=
      test.bitrateLimitIntervalsTrafficBytes.set index.toNat lastIntervalBytesTransferred
    let count := test.bitrateLimitStatsCount + 1
    let test := {
      test with
      bitrateLimitLastIntervalIndex := index
      bitrateLimitIntervalsTrafficBytes := traffic
      bitrateLimitStatsCount := count
    }
    if count < unsignedOfInt perInterval then
      test
    else
      let totalBytes := (traffic.take perInterval.toInt.toNat).sum
      let seconds := DoubleRounding.nearest (test.statsInterval * perInterval.toInt)
      let bits := DoubleRounding.nearest (totalBytes * 8).toNat
      let bitsPerSecond := sizeOfDouble (DoubleRounding.nearest (bits / seconds))
      if bitsPerSecond > test.settings.bitrateLimit then
        { test with bitrateLimitExceeded := true }
      else
        test

/-- `total_interval_bytes_transferred`: both directions of every stream. -/
def intervalBytes (test : Test) : UInt64 :=
  (test.streams.map (fun sp =>
    sp.result.bytesSentThisInterval + sp.result.bytesReceivedThisInterval)).sum

/-- `add_to_interval_list`: "Only the last interval result is needed". -/
def addToIntervalList (rp : StreamResult) (new : IntervalResults) : StreamResult :=
  { rp with intervalResults := rp.intervalResults.dropLast ++ [new] }

/-- The counts since the last interval, or since the beginning when there is none. -/
def udpInterval (sp : Stream) (irp : Option IntervalResults) : UdpInterval :=
  let counted := irp.bind IntervalResults.udp
  {
    intervalPacketCount := sp.packetCount - (counted.map UdpInterval.packetCount).getD 0
    intervalOutoforderPackets :=
      sp.outoforderPackets - (counted.map UdpInterval.outoforderPackets).getD 0
    intervalCntError := sp.cntError - (counted.map UdpInterval.cntError).getD 0
    packetCount := sp.packetCount
    jitter := sp.jitter
    outoforderPackets := sp.outoforderPackets
    cntError := sp.cntError
  }

/-- The record of the interval that ends now. A first interval begins with the test, every
other where the last one ended.
-/
def intervalRecord (test : Test) (now : IperfTime) (sp : Stream) : IntervalResults :=
  let irp := sp.result.intervalResults.getLast?
  let intervalStartTime := if irp.isSome then sp.result.endTime else sp.result.startTime
  {
    bytesTransferred :=
      if sp.sender then sp.result.bytesSentThisInterval else sp.result.bytesReceivedThisInterval
    intervalStartTime
    intervalEndTime := now
    intervalDuration := iperfTimeInSecs (iperfTimeDiff intervalStartTime now).2
    udp := if test.protocol = .tcp then none else some (udpInterval sp irp)
    omitted := test.omitting
  }

/-- One stream after an interval was taken. -/
def closeInterval (test : Test) (now : IperfTime) (sp : Stream) : Stream :=
  let rp := addToIntervalList { sp.result with endTime := now } (intervalRecord test now sp)
  { sp with result := { rp with bytesSentThisInterval := 0, bytesReceivedThisInterval := 0 } }

/-- `iperf_stats_callback`; one clock reading stands for those of all streams. -/
def iperfStatsCallback (test : Test) (now : IperfTime) : Test :=
  let total := intervalBytes test
  let test := { test with streams := test.streams.map (closeInterval test now) }
  if test.role = .server then iperfCheckTotalRate test total else test

/-- The statistics touch the streams and the bitrate limiter, nothing else. -/
theorem iperfCheckTotalRate_frame (test : Test) (bytes : UInt64)
    : ∃ index traffic count exceeded, iperfCheckTotalRate test bytes = {
        test with
        bitrateLimitLastIntervalIndex := index
        bitrateLimitIntervalsTrafficBytes := traffic
        bitrateLimitStatsCount := count
        bitrateLimitExceeded := exceeded
      } := by
  unfold iperfCheckTotalRate
  dsimp only
  split_ifs <;> exact ⟨_, _, _, _, rfl⟩

theorem iperfStatsCallback_shape (test : Test) (now : IperfTime)
    : ∃ index traffic count exceeded, iperfStatsCallback test now = {
        test with
        streams := test.streams.map (closeInterval test now)
        bitrateLimitLastIntervalIndex := index
        bitrateLimitIntervalsTrafficBytes := traffic
        bitrateLimitStatsCount := count
        bitrateLimitExceeded := exceeded
      } := by
  unfold iperfStatsCallback
  dsimp only
  split
  · exact iperfCheckTotalRate_frame _ _
  · exact ⟨_, _, _, _, rfl⟩

-----------------------------------------------------------------------------------------
-- Workers
-----------------------------------------------------------------------------------------

/-- `sp->rcv`, which follows the protocol. Under `-F` it also writes the file. -/
def protocolRecv (test : Test) (sp : Stream) (arrivalTime : IperfTime)
    (results : List RecvResult)
    : Option (Int × Stream) :=
  match test.protocol with
  | .udp => iperfUdpRecv test sp arrivalTime results
  | .tcp | .sctp => iperfTcpRecv test sp results

/-- `iperf_recv_mt` on the stream at the given position; `none` while it blocks. -/
def iperfRecvMt (test : Test) (position : Nat) (arrivalTime : IperfTime)
    (results : List RecvResult)
    : Option (Int × Test) := do
  let sp ← test.streams[position]?
  let (r, sp) ← protocolRecv test sp arrivalTime results
  let test := { test with streams := test.streams.set position sp }
  if r > 0 then
    return (r, {
      test with
      bytesReceived := test.bytesReceived + UInt64.ofNat r.toNat
      blocksReceived := test.blocksReceived + 1
    })
  else
    return (r, test)

/-- `sp->snd`, which follows the protocol. -/
def protocolSend (test : Test) (sp : Stream) (before : IperfTime) (io : SendIo)
    : Option (Sent × Stream) :=
  match test.protocol with
  | .udp => iperfUdpSend test sp before io.writes
  | .tcp | .sctp => iperfTcpSend test sp io

/-- One message of the sending loop in `iperf_send_mt`. -/
def iperfSendMt (test : Test) (position : Nat) (before : IperfTime) (io : SendIo)
    : Option (Int × Test) := do
  let sp ← test.streams[position]?
  let (sent, sp) ← protocolSend test sp before io
  let test := { test with streams := test.streams.set position sp }
  if sent.ret < 0 then
    return (sent.ret, test)
  else
    return (sent.ret, {
      test with
      bytesSent := test.bytesSent + UInt64.ofNat sent.ret.toNat
      blocksSent := if sp.pendingSize = 0 then test.blocksSent + 1 else test.blocksSent
    })

end Iperf
