import Iperf.Library.KeyedUpdate
import Iperf.Model.Json
import Iperf.Model.Test

/-! `send_results` and `get_results`: the documents in which the two ends tell each other what
they measured.
-/

namespace Iperf

open CJson

/-- The bytes a stream reports: sent outside the omit period, or received. -/
def bytesTransferred (sp : Stream) : UInt64 :=
  if sp.sender then sp.result.bytesSent - sp.result.bytesSentOmit else sp.result.bytesReceived

/-- The retransmits a stream reports, an `int`; `-1` stands for unknown. -/
def reportedRetransmits (test : Test) (sp : Stream) : Int32 :=
  if sp.sender ∧ test.senderHasRetransmits ≠ 0 then sp.result.streamRetrans.toInt32 else -1

/-- One element of the `streams` array. The start time is the difference of the start time to
itself.
-/
def sendStreamResult (test : Test) (sp : Stream) : CJson :=
  .object [
    (.id, .ofInt32 sp.id),
    (.bytes, .ofUInt64 (bytesTransferred sp)),
    (.retransmits, .ofInt32 (reportedRetransmits test sp)),
    (.jitter, .number sp.jitter),
    (.errors, .ofInt64 sp.cntError),
    (.omittedErrors, .ofInt64 sp.omittedCntError),
    (.packets, .ofInt64 sp.packetCount),
    (.omittedPackets, .ofInt64 sp.omittedPacketCount),
    (.startTime, .number (iperfTimeInSecs
      (iperfTimeDiff sp.result.startTime sp.result.startTime).2)),
    (.endTime, .number (iperfTimeInSecs
      (iperfTimeDiff sp.result.startTime sp.result.endTime).2))
  ]

/-- The output a server sends along when its client asked for it: the lines it printed, or
its JSON under `--json`.
-/
inductive ServerOutput where
  | text (lines : String)
  | json (top : CJson)

def ServerOutput.key : ServerOutput → Key
  | text _ => .serverOutputText
  | json _ => .serverOutputJson

def ServerOutput.value : ServerOutput → CJson
  | text lines => .string lines
  | json top => top

/-- The members `send_results` adds, in its order. -/
def resultEntries (test : Test) (output : ServerOutput) : List (Key × Option CJson) :=
  [
    (.cpuUtilTotal, some (.number test.cpuUtil.1)),
    (.cpuUtilUser, some (.number test.cpuUtil.2.1)),
    (.cpuUtilSystem, some (.number test.cpuUtil.2.2)),
    (.senderHasRetransmits,
      some (.ofInt32 (if test.mode = .receiver then -1 else test.senderHasRetransmits))),
    (.congestionUsed, test.congestionUsed.map .string),
    (output.key, if test.role = .server ∧ test.getServerOutput then some output.value else none),
    (.streams, some (.array (test.streams.map (sendStreamResult test))))
  ]

/-- The document of `send_results`. -/
def sendResults (test : Test) (output : ServerOutput) : CJson :=
  .object (OptionalMembers.present (resultEntries test output))

theorem resultEntries_keys (test : Test) (output : ServerOutput)
    : ((resultEntries test output).map Prod.fst).Nodup := by
  simp only [resultEntries, List.map_cons, List.map_nil]
  cases output <;> simp [ServerOutput.key]

/-- A member of the document is the listed one. -/
theorem getObjectItem_sendResults {test : Test} {output : ServerOutput} {key : Key}
    {value : Option CJson} (listed : (resultEntries test output).lookup key = some value)
    : (sendResults test output).getObjectItem key = value := by
  rw [sendResults, getObjectItem,
    OptionalMembers.lookup_present (resultEntries_keys test output), listed, Option.join_some]

/-- The fields of one element of the `streams` array, as the peer sent them. -/
structure PeerResult where
  bytesTransferred : UInt64
  retransmits : Int32
  jitter : ℚ
  cerror : Int64
  pcount : Int64
  /-- The omitted errors and packets; older peers send neither. -/
  omitted : Option (Int64 × Int64)
  /-- The duration between the peer's start and end times, if it sent both. -/
  duration : Option ℚ

/-- What a sending stream takes over: how much arrived, and with which losses. -/
def senderTakes (peer : PeerResult) (sp : Stream) : Stream :=
  let peerOmittedPacketCount :=
    match peer.omitted with
    | some (_, omittedPcount) => omittedPcount
    | none => sp.omittedPacketCount
  {
    sp with
    jitter := peer.jitter
    cntError := peer.cerror
    peerPacketCount := peer.pcount
    peerOmittedPacketCount
    omittedCntError :=
      match peer.omitted with
      | some (omittedCerror, _) => omittedCerror
      | none =>
          -- the error count includes the omitted ones, whose number is unknown
          if peerOmittedPacketCount > 0 then (if peer.cerror > 0 then -1 else 0)
          else peer.cerror
    result := {
      sp.result with
      bytesReceived := peer.bytesTransferred
      receiverTime := peer.duration.getD 0
    }
  }

/-- What a receiving stream takes over: how much was sent. -/
def receiverTakes (peer : PeerResult) (sp : Stream) : Stream :=
  {
    sp with
    peerPacketCount := peer.pcount
    peerOmittedPacketCount :=
      match peer.omitted with
      | some (_, omittedPcount) => omittedPcount
      | none => peer.pcount
    result := {
      sp.result with
      bytesSent := peer.bytesTransferred
      streamRetrans := peer.retransmits.toInt64
      senderTime := peer.duration.getD 0
    }
  }

def takePeerResult (peer : PeerResult) (sp : Stream) : Stream :=
  if sp.sender then senderTakes peer sp else receiverTakes peer sp

theorem takePeerResult_sender (peer : PeerResult) (sp : Stream)
    : (takePeerResult peer sp).sender = sp.sender := by
  unfold takePeerResult
  split <;> rfl

/-- Read one element of the `streams` array: its stream id and its fields. -/
def readPeerResult (json : CJson) : Option (Int32 × PeerResult) :=
  match json.getObjectItemType .id .number, json.getObjectItemType .bytes .number,
    json.getObjectItemType .retransmits .number, json.getObjectItemType .jitter .number,
    json.getObjectItemType .errors .number, json.getObjectItemType .packets .number with
  | some id, some bytes, some retransmits, some jitter, some errors, some packets =>
      let fields := fun omitted => (id.valueint.toInt32, {
        bytesTransferred := bytes.valueint.toUInt64
        retransmits := retransmits.valueint.toInt32
        jitter := jitter.valuedouble
        cerror := errors.valueint
        pcount := packets.valueint
        omitted
        duration :=
          match json.getObjectItemType .startTime .number,
            json.getObjectItemType .endTime .number with
          | some startTime, some endTime => some (endTime.valuedouble - startTime.valuedouble)
          | _, _ => none
      })
      match json.getObjectItemType .omittedErrors .number,
        json.getObjectItemType .omittedPackets .number with
      | some omittedErrors, some omittedPackets =>
          some (fields (some (omittedErrors.valueint, omittedPackets.valueint)))
      | none, none => some (fields none)
      | _, _ => none
  | _, _, _, _, _, _ => none

/-- One pass of the loop over the `streams` array. An element that cannot be used sets the
error, and the loop goes on.
-/
def getStreamResult (state : Option IError × List Stream) (json : CJson)
    : Option IError × List Stream :=
  match readPeerResult json with
  | none => (some .ierecvresults, state.2)
  | some (sid, peer) =>
      match KeyedUpdate.updateFirst Stream.id sid (takePeerResult peer) state.2 with
      | none => (some .iestreamid, state.2)
      | some streams => (state.1, streams)

/-- The members of the document besides the streams. -/
def takePeerTest (test : Test) (json : CJson) (cpuUtil : ℚ × ℚ × ℚ) (hasRetransmits : Int32)
    : Test :=
  let test := { test with remoteCpuUtil := cpuUtil }
  let test :=
    match test.mode with
    | .receiver =>
        { test with senderHasRetransmits := hasRetransmits, otherSideHasRetransmits := 0 }
    | .bidirectional => { test with otherSideHasRetransmits := hasRetransmits }
    | .sender => test
  match json.getObjectItemType .congestionUsed .string with
  | some (.string value) => { test with remoteCongestionUsed := some value }
  | _ => test

/-- `get_results` on a parsed document: the last error, if any, and the test. -/
def getResults (test : Test) (json : CJson) : Option IError × Test :=
  match json.getObjectItemType .cpuUtilTotal .number,
    json.getObjectItemType .cpuUtilUser .number,
    json.getObjectItemType .cpuUtilSystem .number,
    json.getObjectItemType .senderHasRetransmits .number with
  | some total, some user, some system, some retransmits =>
      let test := takePeerTest test json
        (total.valuedouble, user.valuedouble, system.valuedouble) retransmits.valueint.toInt32
      match json.getObjectItemType .streams .array with
      | some (.array items) =>
          let (error, streams) := items.foldl getStreamResult (none, test.streams)
          (error, { test with streams })
      | _ => (some .ierecvresults, test)
  | _, _, _, _ =>
      match json.getObjectItemType .congestionUsed .string with
      | some (.string value) =>
          (some .ierecvresults, { test with remoteCongestionUsed := some value })
      | _ => (some .ierecvresults, test)

/-- One end sends its results and the other reads them; `none` when the document cannot be
read or used.
-/
def deliverResults (text : JsonText) (output : ServerOutput) (sender reader : Test)
    : Option Test := do
  let json ← text.parse (text.print (sendResults sender output))
  match getResults reader json with
  | (some _, _) => none
  | (none, reader) => some reader

/-- `iperf_exchange_results` on both ends: the client sends and the server reads, then the
server sends and the client reads.
-/
def iperfExchangeResults (text : JsonText) (output : ServerOutput) (client server : Test)
    : Option (Test × Test) := do
  let server ← deliverResults text output client server
  let client ← deliverResults text output server client
  return (client, server)

end Iperf
