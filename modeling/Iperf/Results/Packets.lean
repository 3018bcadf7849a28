import Iperf.Results.Agreement

/-! The UDP part of `iperf_print_results`: the packets of a stream and of all streams, counted from
the numbers of two hosts with different omit periods.
-/

namespace Iperf

-----------------------------------------------------------------------------------------
-- One stream
-----------------------------------------------------------------------------------------

/-- The packet counts of a stream by the role of the host that counted them. -/
structure PacketCounts where
  sender : Int64
  senderOmitted : Int64
  receiver : Int64
  receiverOmitted : Int64
deriving DecidableEq

def packetCounts (sp : Stream) : PacketCounts :=
  if sp.sender then
    {
      sender := sp.packetCount
      senderOmitted := sp.omittedPacketCount
      receiver := sp.peerPacketCount
      receiverOmitted := sp.peerOmittedPacketCount
    }
  else
    {
      sender := sp.peerPacketCount
      senderOmitted := sp.peerOmittedPacketCount
      receiver := sp.packetCount
      receiverOmitted := sp.omittedPacketCount
    }

/-- The count of the sender if it is there, else that of the receiver. -/
def PacketCounts.packetCount (counts : PacketCounts) : Int64 :=
  if counts.sender ≠ 0 then counts.sender else counts.receiver

/-- The losses in percent of the packets; none when there are no packets. -/
def lostPercent (lost packets : Int64) : ℚ :=
  if packets > 0 then 100 * lost.toInt / packets.toInt else 0

/-- The object `udp` of a stream, without its times. -/
structure UdpStreamReport where
  socket : Int
  bytes : UInt64
  jitterMs : ℚ
  lostPackets : Int64
  packets : Int64
  lostPercent : ℚ
  outOfOrder : Int64
  sender : Bool
deriving DecidableEq

def udpStreamReport (streamMustBeSender : Bool) (sp : Stream) : UdpStreamReport :=
  let counts := packetCounts sp
  {
    socket := sp.socket
    bytes := sp.result.bytesSent - sp.result.bytesSentOmit
    jitterMs := sp.jitter * 1000
    lostPackets := sp.cntError - sp.omittedCntError
    packets := counts.packetCount - sp.omittedPacketCount
    lostPercent :=
      lostPercent (sp.cntError - sp.omittedCntError) (counts.sender - counts.senderOmitted)
    outOfOrder := sp.outoforderPackets - sp.omittedOutoforderPackets
    sender := streamMustBeSender
  }

-----------------------------------------------------------------------------------------
-- All streams of one direction
-----------------------------------------------------------------------------------------

/-- The running totals. -/
structure UdpTotals where
  totalSent : UInt64 := 0
  totalReceived : UInt64 := 0
  totalPackets : Int64 := 0
  senderTotalPackets : Int64 := 0
  receiverTotalPackets : Int64 := 0
  lostPackets : Int64 := 0
  avgJitter : ℚ := 0
deriving DecidableEq

def UdpTotals.add (totals : UdpTotals) (sp : Stream) : UdpTotals :=
  let counts := packetCounts sp
  let lostPackets := totals.lostPackets + sp.cntError
  {
    totalSent := totals.totalSent + (sp.result.bytesSent - sp.result.bytesSentOmit)
    totalReceived := totals.totalReceived + sp.result.bytesReceived
    totalPackets := totals.totalPackets + (counts.packetCount - sp.omittedPacketCount)
    senderTotalPackets := totals.senderTotalPackets + (counts.sender - counts.senderOmitted)
    receiverTotalPackets := totals.receiverTotalPackets + (counts.receiver - counts.receiverOmitted)
    -- `-1` stands for an unknown number
    lostPackets :=
      if sp.omittedCntError > -1 then lostPackets - sp.omittedCntError else lostPackets
    avgJitter := totals.avgJitter + sp.jitter
  }

/-- One of the three sums, without its times. -/
structure UdpSum where
  bytes : UInt64
  jitterMs : ℚ
  lostPackets : Int64
  packets : Int64
  lostPercent : ℚ
  sender : Bool
deriving DecidableEq

/-- What is printed for the streams of one direction. -/
structure UdpDirection where
  streams : List UdpStreamReport
  sum : UdpSum
  sumSent : UdpSum
  sumReceived : UdpSum
deriving DecidableEq

/-- Whether the streams of a pass must be senders. A client prints its sending streams first. -/
def summaryPasses (test : Test) : List Bool :=
  match test.mode with
  | .bidirectional => if test.role = .client then [true, false] else [false, true]
  | .sender => [true]
  | .receiver => [false]

def passStreams (test : Test) (streamMustBeSender : Bool) : List Stream :=
  test.streams.filter fun sp => sp.sender == streamMustBeSender

def udpTotals (test : Test) (streamMustBeSender : Bool) : UdpTotals :=
  (passStreams test streamMustBeSender).foldl UdpTotals.add {}

/-- A pass of `iperf_print_results` with `--json`, as far as UDP streams are concerned. -/
def udpDirection (test : Test) (streamMustBeSender : Bool) : UdpDirection :=
  let totals := udpTotals test streamMustBeSender
  let jitterMs := totals.avgJitter / test.numStreams.toInt * 1000
  let percent := lostPercent totals.lostPackets totals.totalPackets
  {
    streams := (passStreams test streamMustBeSender).map (udpStreamReport streamMustBeSender)
    sum := {
      bytes := totals.totalSent
      jitterMs
      lostPackets := totals.lostPackets
      packets := totals.totalPackets
      lostPercent := percent
      sender := streamMustBeSender
    }
    sumSent := {
      bytes := totals.totalSent
      jitterMs := 0
      lostPackets := 0
      packets := totals.senderTotalPackets
      lostPercent := 0
      sender := true
    }
    sumReceived := {
      bytes := totals.totalReceived
      jitterMs
      lostPackets := totals.lostPackets
      packets := totals.receiverTotalPackets
      lostPercent := percent
      sender := false
    }
  }

-----------------------------------------------------------------------------------------
-- Packets of the sender
-----------------------------------------------------------------------------------------

/-- What the sender counted outside its omit period. -/
def PacketCounts.sent (counts : PacketCounts) : Int64 := counts.sender - counts.senderOmitted

/-- The sender of a stream has told its count. -/
def SenderKnown (sp : Stream) : Prop := (packetCounts sp).sender ≠ 0

/-- The same traffic seen from the other end. -/
def Stream.turned (sp : Stream) : Stream :=
  {
    sp with
    sender := !sp.sender
    packetCount := sp.peerPacketCount
    omittedPacketCount := sp.peerOmittedPacketCount
    peerPacketCount := sp.packetCount
    peerOmittedPacketCount := sp.omittedPacketCount
  }

/-- A normal test with the traffic of a reverse test. -/
def Test.normal (test : Test) : Test :=
  { test with mode := .sender, streams := test.streams.map Stream.turned }

/-- The packets of a pass are those of the sender: for each stream whose sender is known, in what it
adds to the total, in the total, and in the total of a normal test against that of a reverse test.
-/
structure SenderReported (test : Test) (streamMustBeSender : Bool) : Prop where
  reported : ∀ sp ∈ passStreams test streamMustBeSender, SenderKnown sp →
    (udpStreamReport streamMustBeSender sp).packets = (packetCounts sp).sent
  added : ∀ sp ∈ passStreams test streamMustBeSender, SenderKnown sp → ∀ totals : UdpTotals,
    (totals.add sp).totalPackets = totals.totalPackets + (packetCounts sp).sent
  total : (∀ sp ∈ passStreams test streamMustBeSender, SenderKnown sp) →
    (udpDirection test streamMustBeSender).sum.packets
      = (udpDirection test streamMustBeSender).sumSent.packets
  normal : (∀ sp ∈ passStreams test false, SenderKnown sp) → streamMustBeSender = false →
    (udpDirection test false).sum.packets = (udpDirection test.normal true).sum.packets

/-- A receiving end whose sender is known has omitted as many packets as the sender. -/
def OmitsAlike (sp : Stream) : Prop :=
  SenderKnown sp → sp.sender = false → sp.omittedPacketCount = sp.peerOmittedPacketCount

variable {test : Test} {sp : Stream} {streamMustBeSender : Bool}

theorem packetCount_known (known : SenderKnown sp)
    : (packetCounts sp).packetCount = (packetCounts sp).sender :=
  if_pos known

/-- The stream and the sender subtract the same, exactly when the omitted counts are alike. -/
theorem packets_eq_sent_iff (known : SenderKnown sp)
    : (packetCounts sp).packetCount - sp.omittedPacketCount = (packetCounts sp).sent
      ↔ OmitsAlike sp := by
  rw [packetCount_known known, PacketCounts.sent, Int64.sub_right_inj]
  unfold OmitsAlike packetCounts
  cases role : sp.sender with
  | true => simp
  | false => simp [known]

/-- The totals of streams that omit alike, by induction on the streams. -/
theorem totals_of_alike {streams : List Stream} (known : ∀ sp ∈ streams, SenderKnown sp)
    (alike : ∀ sp ∈ streams, OmitsAlike sp) {totals : UdpTotals}
    (start : totals.totalPackets = totals.senderTotalPackets)
    : (streams.foldl UdpTotals.add totals).totalPackets
      = (streams.foldl UdpTotals.add totals).senderTotalPackets := by
  induction streams generalizing totals with
  | nil => exact start
  | cons sp rest ih =>
      refine ih (fun other isOne => known other (List.mem_cons_of_mem _ isOne))
        (fun other isOne => alike other (List.mem_cons_of_mem _ isOne)) ?_
      have own :=
        (packets_eq_sent_iff (known sp List.mem_cons_self)).mpr (alike sp List.mem_cons_self)
      rw [UdpTotals.add]
      dsimp only
      rw [own, start]
      rfl

theorem packetCounts_turned (sp : Stream) : packetCounts sp.turned = packetCounts sp := by
  unfold packetCounts Stream.turned
  cases sp.sender <;> rfl

theorem senderTotalPackets_eq (streams : List Stream) (totals : UdpTotals)
    : (streams.foldl UdpTotals.add totals).senderTotalPackets
      = (streams.map packetCounts).foldl (fun total counts => total + counts.sent)
        totals.senderTotalPackets := by
  induction streams generalizing totals with
  | nil => rfl
  | cons sp rest ih => exact ih (totals.add sp)

/-- The receiving streams of a reverse test are the sending ones of the normal test. -/
theorem passStreams_normal (test : Test)
    : passStreams test.normal true = (passStreams test false).map Stream.turned := by
  unfold passStreams Test.normal
  rw [List.filter_map]
  congr 2
  funext sp
  cases role : sp.sender <;> simp [Stream.turned, role]

theorem senderKnown_turned : SenderKnown sp.turned ↔ SenderKnown sp := by
  unfold SenderKnown
  rw [packetCounts_turned]

/-- A normal test reports what the senders count. -/
theorem udpTotals_normal (known : ∀ sp ∈ passStreams test false, SenderKnown sp)
    : (udpTotals test.normal true).totalPackets = (udpTotals test false).senderTotalPackets := by
  have knownTurned : ∀ sp ∈ passStreams test.normal true, SenderKnown sp := by
    intro sp isOne
    rw [passStreams_normal] at isOne
    obtain ⟨other, isOther, rfl⟩ := List.mem_map.mp isOne
    exact senderKnown_turned.mpr (known other isOther)
  have alike : ∀ sp ∈ passStreams test.normal true, OmitsAlike sp := by
    intro sp isOne _ receives
    have sends := (List.mem_filter.mp isOne).2
    rw [receives] at sends
    exact absurd sends (by decide)
  have counts : packetCounts ∘ Stream.turned = packetCounts := funext packetCounts_turned
  unfold udpTotals
  rw [totals_of_alike knownTurned alike rfl, senderTotalPackets_eq, senderTotalPackets_eq,
    passStreams_normal, List.map_map, counts]

theorem SenderReported.of_alike (alike : ∀ sp ∈ passStreams test streamMustBeSender, OmitsAlike sp)
    : SenderReported test streamMustBeSender := by
  constructor
  · intro sp isOne known
    exact (packets_eq_sent_iff known).mpr (alike sp isOne)
  · intro sp isOne known totals
    exact congrArg (totals.totalPackets + ·) ((packets_eq_sent_iff known).mpr (alike sp isOne))
  · intro known
    exact totals_of_alike known alike rfl
  · rintro known rfl
    exact (totals_of_alike known alike rfl).trans (udpTotals_normal known).symm

/-- A client reports the packets of the senders exactly when every receiving stream has omitted as
many packets as its sender says it has.
-/
theorem senderReported_iff (test : Test)
    : (∀ streamMustBeSender ∈ summaryPasses test, SenderReported test streamMustBeSender)
      ↔ ∀ streamMustBeSender ∈ summaryPasses test,
        ∀ sp ∈ passStreams test streamMustBeSender, OmitsAlike sp := by
  constructor
  · intro all streamMustBeSender isPass sp isOne known
    exact (packets_eq_sent_iff known).mp ((all _ isPass).reported sp isOne known) known
  · intro alike streamMustBeSender isPass
    exact .of_alike (alike _ isPass)

-----------------------------------------------------------------------------------------
-- Two hosts
-----------------------------------------------------------------------------------------

theorem getResults_passes {error : Option IError} {reader reader' : Test} {json : CJson}
    (read : getResults reader json = (error, reader'))
    : summaryPasses reader' = summaryPasses reader := by
  have kept (cpuUtil : ℚ × ℚ × ℚ) (hasRetransmits : Int32)
      : (takePeerTest reader json cpuUtil hasRetransmits).mode = reader.mode
        ∧ (takePeerTest reader json cpuUtil hasRetransmits).role = reader.role := by
    unfold takePeerTest
    dsimp only
    split <;> split <;> exact ⟨rfl, rfl⟩
  have same (mode : reader'.mode = reader.mode) (role : reader'.role = reader.role)
      : summaryPasses reader' = summaryPasses reader := by
    unfold summaryPasses
    rw [mode, role]
  unfold getResults at read
  dsimp only at read
  split at read
  · split at read
    · obtain ⟨-, rfl⟩ := Prod.mk.inj read
      exact same (kept _ _).1 (kept _ _).2
    · obtain ⟨-, rfl⟩ := Prod.mk.inj read
      exact same (kept _ _).1 (kept _ _).2
  · split at read
    · obtain ⟨-, rfl⟩ := Prod.mk.inj read
      rfl
    · obtain ⟨-, rfl⟩ := Prod.mk.inj read
      rfl

theorem deliverResults_passes {text : JsonText} {output : ServerOutput}
    {sender reader reader' : Test}
    (delivered : deliverResults text output sender reader = some reader')
    : summaryPasses reader' = summaryPasses reader := by
  obtain ⟨json, -, rest⟩ := Option.bind_eq_some_iff.mp delivered
  cases read : getResults reader json with
  | mk error next =>
      rw [read] at rest
      cases error with
      | some error => exact absurd rest nofun
      | none =>
          obtain rfl := Option.some.inj rest
          exact getResults_passes read

/-- Where a stream of the reader comes from. -/
theorem Taken.origin {remotes streams streams' : List Stream} {i : Nat} {sp' : Stream}
    (taken : Taken Carries remotes streams streams') (found : streams'[i]? = some sp')
    : ∃ remote sp peer, remotes[i]? = some remote ∧ streams[i]? = some sp ∧ Carries remote peer
      ∧ sp' = takePeerResult peer sp := by
  induction taken generalizing i with
  | nil => simp at found
  | cons carries rest ih =>
      cases i with
      | zero => exact ⟨_, _, _, rfl, rfl, carries, (Option.some.inj found).symm⟩
      | succ i => exact ih found

/-- What a stream of the client has when it took over the report of its counterpart. -/
theorem omitsAlike_taken {remote : Stream} {peer : PeerResult} (carries : Carries remote peer)
    : OmitsAlike (takePeerResult peer sp)
      ↔ (sp.sender = false → remote.packetCount ≠ 0 →
        sp.omittedPacketCount = remote.omittedPacketCount) := by
  unfold OmitsAlike SenderKnown takePeerResult
  cases role : sp.sender with
  | true => simp [senderTakes, role]
  | false => simp [packetCounts, receiverTakes, role, carries.pcount, carries.omitted]

/-- The client reads the document of a server: its report is that of the senders exactly when its
own omit counts are those of the sending streams of the server.
-/
theorem senderReported_delivered {text : JsonText} {output : ServerOutput} {server client : Test}
    (keeps : text.KeepsIntegers (sendResults server output))
    (ids : client.streams.map Stream.id = server.streams.map Stream.id)
    (distinct : (client.streams.map Stream.id).Nodup)
    (exactly : ∀ sp ∈ server.streams, ReportsExactly sp)
    : ∃ client', deliverResults text output server client = some client'
      ∧ ((∀ streamMustBeSender ∈ summaryPasses client', SenderReported client' streamMustBeSender)
        ↔ (false ∈ summaryPasses client → ∀ (i : Nat) (sp remote : Stream),
          client.streams[i]? = some sp → server.streams[i]? = some remote → sp.sender = false →
            remote.packetCount ≠ 0 → sp.omittedPacketCount = remote.omittedPacketCount)) := by
  obtain ⟨client', delivered, taken⟩ := deliverResults_taken keeps ids distinct exactly
  have passes := deliverResults_passes delivered
  refine ⟨client', delivered, (senderReported_iff client').trans ?_⟩
  rw [passes]
  constructor
  · intro alike receives i sp remote spAt remoteAt role
    obtain ⟨peer, carries, found⟩ := taken.getElem? remoteAt spAt
    have isOne : takePeerResult peer sp ∈ passStreams client' false := by
      refine List.mem_filter.mpr ⟨List.mem_of_getElem? found, ?_⟩
      rw [takePeerResult_sender, role]
      rfl
    exact (omitsAlike_taken carries).mp (alike false receives _ isOne) role
  · intro alike streamMustBeSender isPass sp' isOne
    obtain ⟨isStream, role⟩ := List.mem_filter.mp isOne
    obtain ⟨i, found⟩ := List.mem_iff_getElem?.mp isStream
    obtain ⟨remote, sp, peer, remoteAt, spAt, carries, rfl⟩ := taken.origin found
    refine (omitsAlike_taken carries).mpr fun receives => ?_
    rw [takePeerResult_sender, receives] at role
    obtain rfl : streamMustBeSender = false := (beq_iff_eq.mp role).symm
    exact alike isPass i sp remote spAt remoteAt receives

/-- Both ends of a reverse test, where the server omitted five packets and the client three. -/
def omittingServer : Test :=
  {
    role := .server
    mode := .sender
    protocol := .udp
    reverse := true
    streams :=
      [{ socket := 5, id := 1, sender := true, packetCount := 100, omittedPacketCount := 5 }]
  }

def omittingClient : Test :=
  {
    role := .client
    mode := .receiver
    protocol := .udp
    reverse := true
    streams :=
      [{ socket := 5, id := 1, sender := false, packetCount := 100, omittedPacketCount := 3 }]
  }

/-- The document of the server. -/
def omittingText : List UInt8 :=
  ("\x7b\"cpu_util_total\":0,\"cpu_util_user\":0,\"cpu_util_system\":0,"
    ++ "\"sender_has_retransmits\":0,\"streams\":[\x7b\"id\":1,\"bytes\":0,"
    ++ "\"retransmits\":-1,\"jitter\":0,\"errors\":0,\"omitted_errors\":0,\"packets\":100,"
    ++ "\"omitted_packets\":5,\"start_time\":0,\"end_time\":0\x7d]\x7d").toList.map
    (fun c => UInt8.ofNat c.toNat)

/-- cJSON on that document. -/
def omittingJson : JsonText where
  print _ := omittingText
  parse bytes :=
    if bytes = omittingText then some (sendResults omittingServer (.text "")) else none

/-- A hundred packets, five of them omitted by the sender, are reported as ninety-seven. -/
theorem senderReported_fails
    : ¬ ∀ (text : JsonText) (output : ServerOutput) (server client client' : Test),
        deliverResults text output server client = some client'
        → ∀ streamMustBeSender ∈ summaryPasses client',
          SenderReported client' streamMustBeSender := by
  intro all
  have keeps : omittingJson.KeepsIntegers (sendResults omittingServer (.text "")) :=
    ⟨_, by simp only [omittingJson, if_true], Reproduced.refl _⟩
  have exactly : ∀ sp ∈ omittingServer.streams, ReportsExactly sp := by
    intro sp isOne
    obtain rfl := List.mem_singleton.mp isOne
    exact ⟨by decide, by decide, by decide, by decide, by decide⟩
  obtain ⟨client', delivered, iff⟩ :=
    @senderReported_delivered omittingJson (.text "") omittingServer omittingClient keeps rfl
      (by decide) exactly
  have alike := iff.mp (all _ _ _ _ _ delivered) (by decide) 0 _ _ rfl rfl rfl (by decide)
  exact absurd alike (by decide)

end Iperf
