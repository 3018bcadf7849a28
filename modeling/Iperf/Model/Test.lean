import Iperf.Model.Time
import Iperf.Model.Types

/-! The records of `iperf.h` and their initial values. Integers have the width the source
gives them, C flags that only ever hold `0` and `1` are booleans, doubles are exact rationals,
and `NULL` strings are `none`.
-/

namespace Iperf

/-- The UDP fields of `struct iperf_interval_results`: the counts of the interval, and the
counters of the stream at its end.
-/
structure UdpInterval where
  intervalPacketCount : Int64
  intervalOutoforderPackets : Int64
  intervalCntError : Int64
  packetCount : Int64
  jitter : ℚ
  outoforderPackets : Int64
  cntError : Int64
deriving DecidableEq

/-- `struct iperf_interval_results`. TCP leaves the UDP fields unset. -/
structure IntervalResults where
  bytesTransferred : UInt64
  intervalStartTime : IperfTime
  intervalEndTime : IperfTime
  intervalDuration : ℚ
  udp : Option UdpInterval
  omitted : Bool
deriving DecidableEq

/-- `struct iperf_stream_result`. -/
structure StreamResult where
  bytesReceived : UInt64 := 0
  bytesSent : UInt64 := 0
  bytesReceivedThisInterval : UInt64 := 0
  bytesSentThisInterval : UInt64 := 0
  bytesSentOmit : UInt64 := 0
  streamRetrans : Int64 := 0
  startTime : IperfTime := { secs := 0, usecs := 0 }
  endTime : IperfTime := { secs := 0, usecs := 0 }
  startTimeFixed : IperfTime := { secs := 0, usecs := 0 }
  senderTime : ℚ := 0
  receiverTime : ℚ := 0
  intervalResults : List IntervalResults := []
deriving DecidableEq

/-- `struct iperf_stream`, zeroed by default as `iperf_new_stream` leaves it. -/
structure Stream where
  socket : Int
  id : Int32 := 0
  sender : Bool
  done : Bool := false
  threadCreated : Bool := false
  buffer : List UInt8 := []
  /-- The file behind `buffer_fd`. The buffer maps it privately, so stores into the buffer do
  not reach it.
  -/
  bufferFile : List UInt8 := []
  pendingSize : Nat := 0
  diskfileLeft : Nat := 0
  packetCount : Int64 := 0
  peerPacketCount : Int64 := 0
  peerOmittedPacketCount : Int64 := 0
  omittedPacketCount : Int64 := 0
  jitter : ℚ := 0
  prevTransit : ℚ := 0
  outoforderPackets : Int64 := 0
  omittedOutoforderPackets : Int64 := 0
  cntError : Int64 := 0
  omittedCntError : Int64 := 0
  result : StreamResult := {}
deriving DecidableEq

/-- `struct iperf_settings`. -/
structure Settings where
  socketBufsize : Int32 := 0
  blksize : Int32 := 0
  rate : UInt64 := 0
  bitrateLimit : UInt64 := 0
  bitrateLimitInterval : ℚ := 0
  bitrateLimitStatsPerInterval : Int32 := 0
  fqrate : UInt64 := 0
  pacingTimer : Int32 := 0
  burst : Int32 := 0
  mss : Int32 := 0
  tos : Int32 := 0
  flowlabel : Int32 := 0
  bytes : UInt64 := 0
  blocks : UInt64 := 0
  dontFragment : Int32 := 0
  skipRxCopy : Int32 := 0
  connectTimeout : Int32 := 0
  idleTimeout : Int32 := 0
  rcvTimeout : IperfTime := { secs := 0, usecs := 0 }
deriving DecidableEq

/-- `struct iperf_test`. The defaults are the zeroed memory of `iperf_new_test`; only the
fields that a modelled function reads or writes are kept.
-/
structure Test where
  role : Role := .unset
  mode : Mode := .receiver
  senderHasRetransmits : Int32 := 0
  otherSideHasRetransmits : Int32 := 0
  protocol : ProtocolId := .tcp
  state : TestState := .zero
  omitPeriod : Int32 := 0
  duration : Int32 := 0
  diskfileName : Option String := none
  serverAffinity : Int32 := 0
  title : Option String := none
  extraData : Option String := none
  congestion : Option String := none
  congestionUsed : Option String := none
  remoteCongestionUsed : Option String := none
  ctrlSck : Int := 0
  listener : Int := 0
  protListener : Int := 0
  ctrlSckMss : Int32 := 0
  mappedV4 : Bool := false
  noDelay : Bool := false
  reverse : Bool := false
  bidirectional : Bool := false
  zerocopy : Int32 := 0
  getServerOutput : Bool := false
  udpCounters64bit : Bool := false
  repeatingPayload : Bool := false
  omitting : Bool := false
  statsInterval : ℚ := 0
  done : Bool := false
  cpuUtil : ℚ × ℚ × ℚ := (0, 0, 0)
  remoteCpuUtil : ℚ × ℚ × ℚ := (0, 0, 0)
  numStreams : Int32 := 0
  bytesSent : UInt64 := 0
  blocksSent : UInt64 := 0
  bytesReceived : UInt64 := 0
  blocksReceived : UInt64 := 0
  bitrateLimitStatsCount : UInt64 := 0
  bitrateLimitIntervalsTrafficBytes : List UInt64 := List.replicate 60 0
  bitrateLimitLastIntervalIndex : UInt64 := 0
  bitrateLimitExceeded : Bool := false
  cookie : List UInt8 := List.replicate cookieSize 0
  streams : List Stream := []
  settings : Settings := {}
deriving DecidableEq

def iperfNewTest : Test := {}

-----------------------------------------------------------------------------------------
-- Protocol, role and direction setters
-----------------------------------------------------------------------------------------

/-- `tcp_info.c` has no retransmit counter on this platform. -/
def hasTcpinfoRetransmits : Bool := false

def checkSenderHasRetransmits (test : Test) : Test :=
  if test.mode ≠ .receiver ∧ test.protocol = .tcp ∧ hasTcpinfoRetransmits then
    { test with senderHasRetransmits := 1 }
  else
    { test with senderHasRetransmits := 0 }

/-- The protocol list holds TCP and UDP; SCTP support is not configured, so looking it up
fails and leaves the test as it is.
-/
def setProtocol (test : Test) (id : ProtocolId) : Test :=
  match id with
  | .tcp => checkSenderHasRetransmits { test with protocol := .tcp }
  | .udp => checkSenderHasRetransmits { test with protocol := .udp }
  | .sctp => test

/-- The mode a role has in a one-directional test; an unset role keeps the current mode. -/
def roleMode (role : Role) (reverse : Bool) (current : Mode) : Mode :=
  match role, reverse with
  | .client, false => .sender
  | .server, false => .receiver
  | .client, true => .receiver
  | .server, true => .sender
  | .unset, _ => current

def iperfSetTestRole (test : Test) (role : Role) : Test :=
  let mode :=
    if !test.reverse && test.bidirectional then Mode.bidirectional
    else roleMode role test.reverse test.mode
  checkSenderHasRetransmits { test with role, mode }

def iperfSetTestReverse (test : Test) (reverse : Bool) : Test :=
  checkSenderHasRetransmits
    { test with reverse, mode := roleMode test.role reverse test.mode }

def iperfSetTestBidirectional (test : Test) (bidirectional : Bool) : Test :=
  if bidirectional then
    { test with bidirectional, mode := .bidirectional }
  else
    iperfSetTestReverse { test with bidirectional } test.reverse

/-- The assignments of `iperf_defaults`; `set_protocol(testp, Ptcp)` comes last. -/
def iperfDefaults (test : Test) : Test :=
  setProtocol
    {
      test with
      omitPeriod := omitDefault
      duration := durationDefault
      diskfileName := none
      serverAffinity := -1
      title := none
      extraData := none
      congestion := none
      congestionUsed := none
      remoteCongestionUsed := none
      ctrlSck := -1
      listener := -1
      protListener := -1
      otherSideHasRetransmits := 0
      statsInterval := 1
      numStreams := 1
      zerocopy := 0
      cookie := List.replicate cookieSize 0
      streams := []
      settings := {
        test.settings with
        socketBufsize := 0
        blksize := defaultTcpBlksize
        rate := 0
        bitrateLimit := 0
        bitrateLimitInterval := 5
        bitrateLimitStatsPerInterval := 0
        fqrate := 0
        pacingTimer := defaultPacingTimer
        burst := 0
        mss := 0
        bytes := 0
        blocks := 0
        connectTimeout := -1
        rcvTimeout := { secs := 120, usecs := 0 }
        skipRxCopy := 0
      }
    }
    .tcp

end Iperf
