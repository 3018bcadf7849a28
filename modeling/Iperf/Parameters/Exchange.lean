import Iperf.Model.Json
import Iperf.Model.Test

/-! `send_parameters` and `get_parameters`: the document that carries a client's options to
the server.
-/

namespace Iperf

open CJson

def iperfVersion : String := "3.19.1"

/-- An optional member: present when the condition holds. -/
def memberIf (condition : Bool) (value : CJson) : Option CJson :=
  if condition then some value else none

/-- The members `send_parameters` adds, in its order; `none` is a member it leaves out. -/
def parameterEntries (test : Test) : List (Key × Option CJson) :=
  [
    (.tcp, memberIf (test.protocol = .tcp) (.bool true)),
    (.udp, memberIf (test.protocol = .udp) (.bool true)),
    (.sctp, memberIf (test.protocol = .sctp) (.bool true)),
    (.omit, some (.ofInt32 test.omitPeriod)),
    (.serverAffinity, memberIf (test.serverAffinity ≠ -1) (.ofInt32 test.serverAffinity)),
    (.time, some (.ofInt32 test.duration)),
    (.num, some (.ofUInt64 test.settings.bytes)),
    (.blockcount, some (.ofUInt64 test.settings.blocks)),
    (.mss, memberIf (test.settings.mss ≠ 0) (.ofInt32 test.settings.mss)),
    (.nodelay, memberIf test.noDelay (.bool true)),
    (.parallel, some (.ofInt32 test.numStreams)),
    (.reverse, memberIf test.reverse (.bool true)),
    (.bidirectional, memberIf test.bidirectional (.bool true)),
    (.window,
      memberIf (test.settings.socketBufsize ≠ 0) (.ofInt32 test.settings.socketBufsize)),
    (.len, memberIf (test.settings.blksize ≠ 0) (.ofInt32 test.settings.blksize)),
    (.bandwidth, memberIf (test.settings.rate ≠ 0) (.ofUInt64 test.settings.rate)),
    (.fqrate, memberIf (test.settings.fqrate ≠ 0) (.ofUInt64 test.settings.fqrate)),
    (.pacingTimer,
      memberIf (test.settings.pacingTimer ≠ 0) (.ofInt32 test.settings.pacingTimer)),
    (.burst, memberIf (test.settings.burst ≠ 0) (.ofInt32 test.settings.burst)),
    (.tos, memberIf (test.settings.tos ≠ 0) (.ofInt32 test.settings.tos)),
    (.flowlabel, memberIf (test.settings.flowlabel ≠ 0) (.ofInt32 test.settings.flowlabel)),
    (.title, test.title.map .string),
    (.extraData, test.extraData.map .string),
    (.congestion, test.congestion.map .string),
    (.congestionUsed, test.congestionUsed.map .string),
    (.getServerOutput, memberIf test.getServerOutput (.number 1)),
    (.udpCounters64bit, memberIf test.udpCounters64bit (.number 1)),
    (.repeatingPayload, memberIf test.repeatingPayload (.number 1)),
    (.zerocopy, memberIf (test.zerocopy ≠ 0) (.ofInt32 test.zerocopy)),
    (.dontFragment,
      memberIf (test.settings.dontFragment ≠ 0) (.ofInt32 test.settings.dontFragment)),
    (.skipRxCopy, memberIf (test.settings.skipRxCopy ≠ 0) (.ofInt32 test.settings.skipRxCopy)),
    (.clientVersion, some (.string iperfVersion))
  ]

/-- The document of `send_parameters`. -/
def sendParameters (test : Test) : CJson :=
  .object (OptionalMembers.present (parameterEntries test))

theorem parameterEntries_keys (test : Test)
    : ((parameterEntries test).map Prod.fst).Nodup := by
  simp only [parameterEntries, List.map_cons, List.map_nil]
  decide

/-- A member of the document is the listed one. -/
theorem getObjectItem_sendParameters {test : Test} {key : Key} {value : Option CJson}
    (listed : (parameterEntries test).lookup key = some value)
    : (sendParameters test).getObjectItem key = value := by
  rw [sendParameters, getObjectItem,
    OptionalMembers.lookup_present (parameterEntries_keys test), listed, Option.join_some]

/-- A flag that a member of the given type sets, whatever its value. -/
def flagMember (json : CJson) (key : Key) (type : ItemType) (current : Bool) : Bool :=
  (json.getObjectItemType key type).isSome || current

/-- An `int` that a number sets. -/
def intMember (json : CJson) (key : Key) (current : Int32) : Int32 :=
  match json.getObjectItemType key .number with
  | some item => item.valueint.toInt32
  | none => current

/-- An `iperf_size_t` that a number sets. -/
def sizeMember (json : CJson) (key : Key) (current : UInt64) : UInt64 :=
  match json.getObjectItemType key .number with
  | some item => item.valueint.toUInt64
  | none => current

/-- A string that a member replaces. -/
def textMember (json : CJson) (key : Key) (current : Option String) : Option String :=
  match json.getObjectItemType key .string with
  | some (.string value) => some value
  | _ => current

/-- The protocol members; a later one overrides an earlier one. -/
def getProtocol (test : Test) (json : CJson) : Test :=
  let test := if flagMember json .tcp .true false then setProtocol test .tcp else test
  let test := if flagMember json .udp .true false then setProtocol test .udp else test
  if flagMember json .sctp .true false then setProtocol test .sctp else test

/-- The direction members, through the setters that also choose the mode. -/
def getDirection (test : Test) (json : CJson) : Test :=
  let test :=
    if flagMember json .reverse .true false then iperfSetTestReverse test true else test
  if flagMember json .bidirectional .true false then iperfSetTestBidirectional test true
  else test

/-- `get_parameters` on a parsed document. Byte and block counts are cleared first; the member
`skip_rx_copy` is taken whatever its type.
-/
def getParameters (test : Test) (json : CJson) : Test :=
  let test := getProtocol test json
  let test := {
    test with
    omitPeriod := intMember json .omit test.omitPeriod
    serverAffinity := intMember json .serverAffinity test.serverAffinity
    duration := intMember json .time test.duration
    noDelay := flagMember json .nodelay .true test.noDelay
    numStreams := intMember json .parallel test.numStreams
    settings := {
      test.settings with
      bytes := sizeMember json .num 0
      blocks := sizeMember json .blockcount 0
      mss := intMember json .mss test.settings.mss
    }
  }
  let test := getDirection test json
  let test := {
    test with
    title := textMember json .title test.title
    extraData := textMember json .extraData test.extraData
    congestion := textMember json .congestion test.congestion
    congestionUsed := textMember json .congestionUsed test.congestionUsed
    getServerOutput := flagMember json .getServerOutput .number test.getServerOutput
    udpCounters64bit := flagMember json .udpCounters64bit .number test.udpCounters64bit
    repeatingPayload := flagMember json .repeatingPayload .number test.repeatingPayload
    zerocopy := intMember json .zerocopy test.zerocopy
    settings := {
      test.settings with
      socketBufsize := intMember json .window test.settings.socketBufsize
      blksize := intMember json .len test.settings.blksize
      rate := sizeMember json .bandwidth test.settings.rate
      fqrate := sizeMember json .fqrate test.settings.fqrate
      pacingTimer := intMember json .pacingTimer test.settings.pacingTimer
      burst := intMember json .burst test.settings.burst
      tos := intMember json .tos test.settings.tos
      flowlabel := intMember json .flowlabel test.settings.flowlabel
      dontFragment := intMember json .dontFragment test.settings.dontFragment
      skipRxCopy :=
        match json.getObjectItem .skipRxCopy with
        | some item => item.valueint.toInt32
        | none => test.settings.skipRxCopy
    }
  }
  if test.mode ≠ .receiver ∧ test.protocol = .tcp ∧ hasTcpinfoRetransmits then
    { test with senderHasRetransmits := 1 }
  else
    test

/-- `get_parameters` on the control connection: the test and the bytes left unread, or the
error that is reported with the test unchanged.
-/
def getParametersFrom (text : JsonText) (test : Test) (stream : List UInt8)
    : Except IError Test × List UInt8 :=
  match jsonRead text maxParamsJsonString stream with
  | (some json, rest) => (.ok (getParameters test json), rest)
  | (none, rest) => (.error .ierecvparams, rest)

end Iperf
