import Iperf.Library.BigEndian
import Iperf.Model.Net
import Iperf.Model.Test

/-! `iperf_udp_send` and `iperf_udp_recv`: the datagram header and the counters it feeds. -/

namespace Iperf

/-- The send time in the first eight bytes of the buffer, in network order. -/
def udpWriteTime (buffer : List UInt8) (before : IperfTime) : List UInt8 :=
  Buffer.copyAt (Buffer.copyAt buffer 0 (BigEndian.encode 4 before.secs.toNat)) 4
    (BigEndian.encode 4 before.usecs.toNat)

/-- The whole header: the send time, then the sequence number in eight bytes or in its
low-order four.
-/
def udpWriteHeader (test : Test) (buffer : List UInt8) (before : IperfTime) (count : Int64)
    : List UInt8 :=
  if test.udpCounters64bit then
    Buffer.copyAt (udpWriteTime buffer before) 8 (BigEndian.encode 8 count.toUInt64.toNat)
  else
    Buffer.copyAt (udpWriteTime buffer before) 8 (BigEndian.encode 4 count.toUInt64.toNat)

/-- One call of `iperf_udp_send` at time `before`; `results` are those of its `write(2)`. -/
def iperfUdpSend (test : Test) (sp : Stream) (before : IperfTime)
    (results : List WriteResult)
    : Option (Sent × Stream) :=
  let size := test.settings.blksize.toInt.toNat
  let packetCount := sp.packetCount + 1
  let buffer := udpWriteHeader test sp.buffer before packetCount
  (nwrite (buffer.take size) results).map fun sent =>
    -- nothing sent: the number is used again for the next datagram
    let packetCount := if sent.ret ≤ 0 then packetCount - 1 else packetCount
    let sp := { sp with packetCount, buffer }
    if sent.ret < 0 then
      (sent, sp)
    else
      let r := UInt64.ofNat sent.ret.toNat
      (sent, {
        sp with
        result := {
          sp.result with
          bytesSent := sp.result.bytesSent + r
          bytesSentThisInterval := sp.result.bytesSentThisInterval + r
        }
      })

/-- The sequence number and the send time in the front of a received buffer. -/
def udpReadHeader (test : Test) (buffer : List UInt8) : UInt64 × IperfTime :=
  let sec := UInt32.ofNat (BigEndian.decode (Buffer.slice buffer 0 4))
  let usec := UInt32.ofNat (BigEndian.decode (Buffer.slice buffer 4 4))
  let pcount :=
    if test.udpCounters64bit then
      UInt64.ofNat (BigEndian.decode (Buffer.slice buffer 8 8))
    else
      UInt64.ofNat (BigEndian.decode (Buffer.slice buffer 8 4))
  (pcount, { secs := sec, usecs := usec })

/-- The sequence-number bookkeeping. `pcount` is unsigned, so the comparisons convert the
signed counter; the gap is added to a signed count of lost packets.
-/
def udpCountSequence (sp : Stream) (pcount : UInt64) : Stream :=
  if pcount ≥ (sp.packetCount + 1).toUInt64 then
    let sp :=
      if pcount > (sp.packetCount + 1).toUInt64 then
        { sp with cntError := sp.cntError + ((pcount - 1) - sp.packetCount.toUInt64).toInt64 }
      else
        sp
    { sp with packetCount := pcount.toInt64 }
  else
    let sp := { sp with outoforderPackets := sp.outoforderPackets + 1 }
    if sp.cntError > 0 then { sp with cntError := sp.cntError - 1 } else sp

/-- The jitter estimate of RFC 1889; the first packet initialises the previous transit. -/
def udpJitter (sp : Stream) (firstPacket : Bool) (sentTime arrivalTime : IperfTime)
    : Stream :=
  let transit := iperfTimeInSecs (iperfTimeDiff arrivalTime sentTime).2
  let prevTransit := if firstPacket then transit else sp.prevTransit
  let d := |transit - prevTransit|
  { sp with prevTransit := transit, jitter := sp.jitter + (d - sp.jitter) / 16 }

/-- The number of bytes `iperf_udp_recv` asks for: under `--skip-rx-copy` only the header. -/
def udpRecvSize (test : Test) : Nat :=
  if test.settings.skipRxCopy ≠ 0 then 16 else test.settings.blksize.toInt.toNat

/-- One call of `iperf_udp_recv`: its return value and the stream it leaves. -/
def iperfUdpRecv (test : Test) (sp : Stream) (arrivalTime : IperfTime)
    (results : List RecvResult)
    : Option (Int × Stream) :=
  let msgTrunc : Bool := test.settings.skipRxCopy ≠ 0
  (nrecvNoSelect msgTrunc sp.buffer (udpRecvSize test) results).map fun received =>
    let r := received.ret
    let sp := { sp with buffer := received.buffer }
    if r ≤ 0 then
      (r, sp)
    else if test.state = .testRunning then
      let firstPacket : Bool := sp.result.bytesReceived = 0
      let size := UInt64.ofNat r.toNat
      let sp := {
        sp with
        result := {
          sp.result with
          bytesReceived := sp.result.bytesReceived + size
          bytesReceivedThisInterval := sp.result.bytesReceivedThisInterval + size
        }
      }
      let (pcount, sentTime) := udpReadHeader test sp.buffer
      (r, udpJitter (udpCountSequence sp pcount) firstPacket sentTime arrivalTime)
    else
      (r, sp)

/-- What `recv(2)` gives for a queued datagram: it copies at most the requested bytes and
drops the rest; under `MSG_TRUNC` it returns the full length all the same.
-/
def recvDatagram (msgTrunc : Bool) (size : Nat) (datagram : List UInt8) : RecvResult :=
  .got (datagram.take size) (if msgTrunc then datagram.length else min datagram.length size)

end Iperf
