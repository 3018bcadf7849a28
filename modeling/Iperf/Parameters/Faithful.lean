import Iperf.Parameters.Arguments
import Iperf.Parameters.Exchange

/-! The parameter exchange is faithful: what `send_parameters` leaves out is what a fresh
server already has.
-/

namespace Iperf

open CJson

-----------------------------------------------------------------------------------------
-- `get_parameters` field by field
-----------------------------------------------------------------------------------------

/-- The protocol after the protocol members. A lookup of SCTP finds no protocol. -/
def protocolMember (json : CJson) (current : ProtocolId) : ProtocolId :=
  if flagMember json .udp .true false then .udp
  else if flagMember json .tcp .true false then .tcp
  else current

/-- The mode after the direction members. -/
def modeMember (json : CJson) (role : Role) (current : Mode) : Mode :=
  if flagMember json .bidirectional .true false then .bidirectional
  else if flagMember json .reverse .true false then roleMode role true current
  else current

/-- `skip_rx_copy`, whose type is not checked. -/
def skipRxCopyMember (json : CJson) (current : Int32) : Int32 :=
  match json.getObjectItem .skipRxCopy with
  | some item => item.valueint.toInt32
  | none => current

theorem flagMember_eq_or (json : CJson) (key : Key) (type : ItemType) (current : Bool)
    : flagMember json key type current = (flagMember json key type false || current) := by
  simp [flagMember]

theorem getProtocol_eq (test : Test) (json : CJson)
    : ∃ retransmits, getProtocol test json = {
        test with
        protocol := protocolMember json test.protocol
        senderHasRetransmits := retransmits
      } := by
  unfold getProtocol protocolMember
  simp only [setProtocol, checkSenderHasRetransmits_eq]
  by_cases udp : flagMember json .udp .true false
    <;> by_cases tcp : flagMember json .tcp .true false
    <;> simp only [udp, tcp, if_true, if_false, ite_self, Bool.false_eq_true]
    <;> exact ⟨_, rfl⟩

theorem getDirection_eq (test : Test) (json : CJson)
    : ∃ retransmits, getDirection test json = {
        test with
        reverse := flagMember json .reverse .true test.reverse
        bidirectional := flagMember json .bidirectional .true test.bidirectional
        mode := modeMember json test.role test.mode
        senderHasRetransmits := retransmits
      } := by
  unfold getDirection modeMember
  rw [flagMember_eq_or json .reverse .true test.reverse,
    flagMember_eq_or json .bidirectional .true test.bidirectional]
  simp only [iperfSetTestReverse, iperfSetTestBidirectional, checkSenderHasRetransmits_eq]
  by_cases reverse : flagMember json .reverse .true false
    <;> by_cases bidirectional : flagMember json .bidirectional .true false
    <;> simp only [reverse, bidirectional, if_true, if_false, Bool.false_eq_true, Bool.true_or,
      Bool.false_or]
    <;> exact ⟨_, rfl⟩

/-- The settings that `get_parameters` can write, except mode and pacing timer. -/
structure Exchanged where
  protocol : ProtocolId
  omitPeriod : Int32
  duration : Int32
  bytes : UInt64
  blocks : UInt64
  mss : Int32
  noDelay : Bool
  numStreams : Int32
  reverse : Bool
  bidirectional : Bool
  socketBufsize : Int32
  blksize : Int32
  rate : UInt64
  fqrate : UInt64
  burst : Int32
  tos : Int32
  flowlabel : Int32
  title : Option String
  extraData : Option String
  congestion : Option String
  serverAffinity : Int32
  getServerOutput : Bool
  udpCounters64bit : Bool
  repeatingPayload : Bool
  zerocopy : Int32
  dontFragment : Int32
  skipRxCopy : Int32
deriving DecidableEq

def exchanged (test : Test) : Exchanged where
  protocol := test.protocol
  omitPeriod := test.omitPeriod
  duration := test.duration
  bytes := test.settings.bytes
  blocks := test.settings.blocks
  mss := test.settings.mss
  noDelay := test.noDelay
  numStreams := test.numStreams
  reverse := test.reverse
  bidirectional := test.bidirectional
  socketBufsize := test.settings.socketBufsize
  blksize := test.settings.blksize
  rate := test.settings.rate
  fqrate := test.settings.fqrate
  burst := test.settings.burst
  tos := test.settings.tos
  flowlabel := test.settings.flowlabel
  title := test.title
  extraData := test.extraData
  congestion := test.congestion
  serverAffinity := test.serverAffinity
  getServerOutput := test.getServerOutput
  udpCounters64bit := test.udpCounters64bit
  repeatingPayload := test.repeatingPayload
  zerocopy := test.zerocopy
  dontFragment := test.settings.dontFragment
  skipRxCopy := test.settings.skipRxCopy

/-- What `get_parameters` makes of the settings it is given. -/
def Exchanged.read (json : CJson) (settings : Exchanged) : Exchanged where
  protocol := protocolMember json settings.protocol
  omitPeriod := intMember json .omit settings.omitPeriod
  duration := intMember json .time settings.duration
  bytes := sizeMember json .num 0
  blocks := sizeMember json .blockcount 0
  mss := intMember json .mss settings.mss
  noDelay := flagMember json .nodelay .true settings.noDelay
  numStreams := intMember json .parallel settings.numStreams
  reverse := flagMember json .reverse .true settings.reverse
  bidirectional := flagMember json .bidirectional .true settings.bidirectional
  socketBufsize := intMember json .window settings.socketBufsize
  blksize := intMember json .len settings.blksize
  rate := sizeMember json .bandwidth settings.rate
  fqrate := sizeMember json .fqrate settings.fqrate
  burst := intMember json .burst settings.burst
  tos := intMember json .tos settings.tos
  flowlabel := intMember json .flowlabel settings.flowlabel
  title := textMember json .title settings.title
  extraData := textMember json .extraData settings.extraData
  congestion := textMember json .congestion settings.congestion
  serverAffinity := intMember json .serverAffinity settings.serverAffinity
  getServerOutput := flagMember json .getServerOutput .number settings.getServerOutput
  udpCounters64bit := flagMember json .udpCounters64bit .number settings.udpCounters64bit
  repeatingPayload := flagMember json .repeatingPayload .number settings.repeatingPayload
  zerocopy := intMember json .zerocopy settings.zerocopy
  dontFragment := intMember json .dontFragment settings.dontFragment
  skipRxCopy := skipRxCopyMember json settings.skipRxCopy

/-- The session the settings belong to: the connections, the streams and the state. -/
structure SameSession (test next : Test) : Prop where
  role : next.role = test.role
  state : next.state = test.state
  ctrlSck : next.ctrlSck = test.ctrlSck
  listener : next.listener = test.listener
  cookie : next.cookie = test.cookie
  streams : next.streams = test.streams
  blocksReceived : next.blocksReceived = test.blocksReceived

/-- What `get_parameters` does, one setting at a time. -/
theorem getParameters_exchanged (test : Test) (json : CJson)
    : exchanged (getParameters test json) = (exchanged test).read json
      ∧ (getParameters test json).mode = modeMember json test.role test.mode
      ∧ (getParameters test json).settings.pacingTimer
        = intMember json .pacingTimer test.settings.pacingTimer
      ∧ (getParameters test json).congestionUsed
        = textMember json .congestionUsed test.congestionUsed
      ∧ SameSession test (getParameters test json) := by
  obtain ⟨first, protocol⟩ := getProtocol_eq test json
  unfold getParameters
  simp only [protocol, hasTcpinfoRetransmits, Bool.false_eq_true, and_false, if_false]
  obtain ⟨second, direction⟩ := getDirection_eq
    {
      test with
      protocol := protocolMember json test.protocol
      senderHasRetransmits := first
      omitPeriod := intMember json .omit test.omitPeriod
      serverAffinity := intMember json .serverAffinity test.serverAffinity
      duration := intMember json .time test.duration
      noDelay := flagMember json .nodelay .true test.noDelay
      numStreams := intMember json .parallel test.numStreams
      settings := {
        test.settings with
        bytes := sizeMember json .num 0
        blocks := sizeMember json .blockcount 0
        mss := intMember json .mss test.settings.mss
      }
    }
    json
  rw [direction]
  exact ⟨rfl, rfl, rfl, rfl, ⟨rfl, rfl, rfl, rfl, rfl, rfl, rfl⟩⟩

-----------------------------------------------------------------------------------------
-- A member that was left out is the receiver's own value
-----------------------------------------------------------------------------------------

section Members

variable {json : CJson} {key : Key}

theorem intMember_sent {n current : Int32} (found : json.getObjectItem key = some (.ofInt32 n))
    : intMember json key current = n := by
  simp only [intMember, getObjectItemType, found]
  exact valueint_ofInt32 n

theorem intMember_default {n current : Int32}
    (found : json.getObjectItem key = memberIf (n ≠ current) (.ofInt32 n))
    : intMember json key current = n := by
  by_cases same : n = current
  · simp [intMember, getObjectItemType, found, memberIf, same]
  · exact intMember_sent (by simpa [memberIf, same] using found)

theorem sizeMember_sent {n current : UInt64} (small : n.toNat ≤ 2 ^ 53)
    (found : json.getObjectItem key = some (.ofUInt64 n))
    : sizeMember json key current = n := by
  simp only [sizeMember, getObjectItemType, found]
  exact valueint_ofUInt64 small

theorem sizeMember_default {n current : UInt64} (small : n.toNat ≤ 2 ^ 53)
    (found : json.getObjectItem key = memberIf (n ≠ current) (.ofUInt64 n))
    : sizeMember json key current = n := by
  by_cases same : n = current
  · simp [sizeMember, getObjectItemType, found, memberIf, same]
  · exact sizeMember_sent small (by simpa [memberIf, same] using found)

theorem flagMember_set {flag : Bool} {type : ItemType} {value : CJson}
    (typed : hasType type value = true)
    (found : json.getObjectItem key = memberIf flag value)
    : flagMember json key type false = flag := by
  cases flag <;> simp [flagMember, getObjectItemType, found, memberIf, typed, Option.filter]

theorem textMember_set {text : Option String}
    (found : json.getObjectItem key = text.map .string)
    : textMember json key none = text := by
  cases text <;> simp [textMember, getObjectItemType, found, hasType, Option.filter]

theorem skipRxCopyMember_default {n current : Int32}
    (found : json.getObjectItem .skipRxCopy = memberIf (n ≠ current) (.ofInt32 n))
    : skipRxCopyMember json current = n := by
  by_cases same : n = current
  · simp [skipRxCopyMember, found, memberIf, same]
  · simp only [skipRxCopyMember, found, memberIf, ne_eq, same, not_false_eq_true, decide_true,
      if_true]
    exact valueint_ofInt32 n

end Members

/-- A server as `iperf_new_test`, `iperf_defaults` and the role leave it. -/
def freshServer : Test := iperfSetTestRole (iperfDefaults iperfNewTest) .server

/-- Every 64-bit setting is a `double` exactly. -/
structure SmallIntegers (test : Test) : Prop where
  bytes : test.settings.bytes.toNat ≤ 2 ^ 53
  blocks : test.settings.blocks.toNat ≤ 2 ^ 53
  rate : test.settings.rate.toNat ≤ 2 ^ 53
  fqrate : test.settings.fqrate.toNat ≤ 2 ^ 53

theorem protocolMember_sent {test : Test} (known : test.protocol ≠ .sctp)
    : protocolMember (sendParameters test) .tcp = test.protocol := by
  have udp : flagMember (sendParameters test) .udp .true false
      = decide (test.protocol = .udp) :=
    flagMember_set rfl (getObjectItem_sendParameters rfl)
  rw [protocolMember, udp, ite_self]
  cases protocol : test.protocol with
  | tcp => simp
  | udp => simp
  | sctp => exact absurd protocol known

/-- The settings of a fresh server that reads the client's document are the client's. The
block size must be known, since zero means the server's own default.
-/
theorem read_sendParameters {client : Test} (small : SmallIntegers client)
    (known : client.protocol ≠ .sctp) (blksize : client.settings.blksize ≠ 0)
    : (exchanged freshServer).read (sendParameters client) = exchanged client := by
  have sent {key : Key} {value : Option CJson}
      (listed : (parameterEntries client).lookup key = some value)
      : (sendParameters client).getObjectItem key = value :=
    getObjectItem_sendParameters listed
  have len : (sendParameters client).getObjectItem .len
      = some (.ofInt32 client.settings.blksize) := by
    have listed : (sendParameters client).getObjectItem .len
        = memberIf (client.settings.blksize ≠ 0) (.ofInt32 client.settings.blksize) := sent rfl
    rw [listed]
    simp [memberIf, blksize]
  unfold Exchanged.read exchanged
  congr 1
  · exact protocolMember_sent known
  · exact intMember_sent (sent rfl)
  · exact intMember_sent (sent rfl)
  · exact sizeMember_sent small.bytes (sent rfl)
  · exact sizeMember_sent small.blocks (sent rfl)
  · exact intMember_default (sent rfl)
  · exact flagMember_set rfl (sent rfl)
  · exact intMember_sent (sent rfl)
  · exact flagMember_set rfl (sent rfl)
  · exact flagMember_set rfl (sent rfl)
  · exact intMember_default (sent rfl)
  · exact intMember_sent len
  · exact sizeMember_default small.rate (sent rfl)
  · exact sizeMember_default small.fqrate (sent rfl)
  · exact intMember_default (sent rfl)
  · exact intMember_default (sent rfl)
  · exact intMember_default (sent rfl)
  · exact textMember_set (sent rfl)
  · exact textMember_set (sent rfl)
  · exact textMember_set (sent rfl)
  · exact intMember_default (sent rfl)
  · exact flagMember_set rfl (sent rfl)
  · exact flagMember_set rfl (sent rfl)
  · exact flagMember_set rfl (sent rfl)
  · exact intMember_default (sent rfl)
  · exact intMember_default (sent rfl)
  · exact skipRxCopyMember_default (sent rfl)

/-- The mode the server derives from the client's direction options. -/
theorem modeMember_sent (client : Test)
    : modeMember (sendParameters client) .server .receiver
      = if client.bidirectional then .bidirectional
        else if client.reverse then .sender
        else .receiver := by
  have bidirectional : flagMember (sendParameters client) .bidirectional .true false
      = client.bidirectional :=
    flagMember_set rfl (getObjectItem_sendParameters rfl)
  have reverse : flagMember (sendParameters client) .reverse .true false = client.reverse :=
    flagMember_set rfl (getObjectItem_sendParameters rfl)
  rw [modeMember, bidirectional, reverse]
  rfl

-----------------------------------------------------------------------------------------
-- The document is one that cJSON reproduces
-----------------------------------------------------------------------------------------

theorem flatValue_ofInt32 (n : Int32) : FlatValue (.ofInt32 n) := by
  have low := n.le_toInt
  have high := n.toInt_lt
  exact ⟨n.toInt, rfl, by omega⟩

theorem flatValue_ofUInt64 {n : UInt64} (small : n.toNat ≤ 2 ^ 53)
    : FlatValue (.ofUInt64 n) := by
  refine ⟨n.toNat, ?_, by omega⟩
  rw [doubleOfNat, if_pos small]
  rfl

/-- Every member of the parameter document is a boolean, a string or a small integer. -/
theorem parameterEntries_flat {client : Test} (small : SmallIntegers client)
    : ∀ entry ∈ parameterEntries client, ∀ value, entry.2 = some value → FlatValue value := by
  have guarded {condition : Bool} {inner value : CJson} (flat : FlatValue inner)
      (found : memberIf condition inner = some value) : FlatValue value := by
    cases condition
    · cases found
    · obtain rfl := Option.some.inj found
      exact flat
  have text {content : Option String} {value : CJson}
      (found : content.map CJson.string = some value) : FlatValue value := by
    obtain ⟨inner, -, rfl⟩ := Option.map_eq_some_iff.mp found
    trivial
  have always {inner value : CJson} (flat : FlatValue inner) (found : some inner = some value)
      : FlatValue value := Option.some.inj found ▸ flat
  have one : FlatValue (.number 1) := ⟨1, by norm_num, by norm_num⟩
  simp only [parameterEntries, List.forall_mem_cons, List.not_mem_nil, false_implies,
    implies_true, and_true]
  exact ⟨
    fun _ => guarded trivial, fun _ => guarded trivial, fun _ => guarded trivial,
    fun _ => always (flatValue_ofInt32 _), fun _ => guarded (flatValue_ofInt32 _),
    fun _ => always (flatValue_ofInt32 _), fun _ => always (flatValue_ofUInt64 small.bytes),
    fun _ => always (flatValue_ofUInt64 small.blocks), fun _ => guarded (flatValue_ofInt32 _),
    fun _ => guarded trivial, fun _ => always (flatValue_ofInt32 _), fun _ => guarded trivial,
    fun _ => guarded trivial, fun _ => guarded (flatValue_ofInt32 _),
    fun _ => guarded (flatValue_ofInt32 _), fun _ => guarded (flatValue_ofUInt64 small.rate),
    fun _ => guarded (flatValue_ofUInt64 small.fqrate), fun _ => guarded (flatValue_ofInt32 _),
    fun _ => guarded (flatValue_ofInt32 _), fun _ => guarded (flatValue_ofInt32 _),
    fun _ => guarded (flatValue_ofInt32 _), fun _ => text, fun _ => text, fun _ => text,
    fun _ => text, fun _ => guarded one, fun _ => guarded one, fun _ => guarded one,
    fun _ => guarded (flatValue_ofInt32 _), fun _ => guarded (flatValue_ofInt32 _),
    fun _ => guarded (flatValue_ofInt32 _), fun _ => always trivial
  ⟩

theorem sendParameters_flat {client : Test} (small : SmallIntegers client)
    : Flat (sendParameters client) := by
  intro member found
  obtain ⟨entry, listed, value⟩ := List.mem_filterMap.mp found
  obtain ⟨inner, some_, rfl⟩ := Option.map_eq_some_iff.mp value
  exact parameterEntries_flat small entry listed inner some_

-----------------------------------------------------------------------------------------
-- The exchange
-----------------------------------------------------------------------------------------

/-- What the exchange assumes of cJSON for a document: if it is flat, printing and parsing it
gives it back; and the empty text is no document.
-/
structure JsonText.Reproduces (text : JsonText) (json : CJson) : Prop where
  roundTrip : Flat json → text.parse (text.print json) = some json
  empty : text.parse [] = none

/-- The two modes of one test: one end sends what the other receives, or both do both. -/
structure Complementary (client server : Mode) : Prop where
  sender : client = .sender ↔ server = .receiver
  receiver : client = .receiver ↔ server = .sender
  bidirectional : client = .bidirectional ↔ server = .bidirectional

/-- A configuration that the command line accepts and `iperf_connect` completes reaches a
fresh server unchanged, whatever bytes follow on the connection.
-/
theorem parameterExchange_faithful {text : JsonText} {options : List CliOption}
    {fileSize : Option UInt64} {parsed client : Test} {maxseg : Option Int32}
    (accepted : iperfParseArguments (iperfDefaults iperfNewTest) options fileSize = .ok parsed)
    (role : parsed.role = .client) (connected : client = iperfConnectSettings parsed maxseg)
    (small : SmallIntegers client) (reproduces : text.Reproduces (sendParameters client))
    (fits : (text.print (sendParameters client)).length ≤ maxParamsJsonString)
    (behind : List UInt8)
    : ∃ server,
        getParametersFrom text freshServer (jsonWrite text (sendParameters client) ++ behind)
          = (.ok server, behind)
        ∧ exchanged server = exchanged client
        ∧ Complementary client.mode server.mode := by
  obtain ⟨directed, known⟩ := iperfParseArguments_accepted accepted
  have clientDirected : Directed client := connected ▸ directed.connect maxseg
  have blksize : client.settings.blksize ≠ 0 :=
    connected ▸ iperfConnectSettings_blksize maxseg known
  have clientRole : client.role = .client := by
    rw [connected]
    unfold iperfConnectSettings
    dsimp only
    split_ifs <;> exact role
  have parse := reproduces.roundTrip (sendParameters_flat small)
  have nonempty : text.print (sendParameters client) ≠ [] := by
    intro none_
    rw [none_, reproduces.empty] at parse
    cases parse
  have limit : maxParamsJsonString = 8192 := rfl
  have read := jsonRead_jsonWrite nonempty (by omega) (Or.inr fits) behind
  obtain ⟨settings, mode, -⟩ := getParameters_exchanged freshServer (sendParameters client)
  refine ⟨getParameters freshServer (sendParameters client), ?_, ?_, ?_⟩
  · rw [getParametersFrom, read, parse]
  · rw [settings]
    exact read_sendParameters small clientDirected.protocol blksize
  · rw [mode, clientDirected.mode clientRole]
    have server := modeMember_sent client
    have freshMode : freshServer.mode = .receiver := rfl
    have freshRole : freshServer.role = .server := rfl
    rw [freshMode, freshRole, server, clientMode]
    cases client.reverse <;> cases client.bidirectional <;> constructor <;> simp

/-- The text cJSON prints for `iperf3 -c host -R -P 4`. -/
def reverseParallelText : List UInt8 :=
  ("\x7b\"tcp\":true,\"omit\":0,\"time\":10,\"num\":0,\"blockcount\":0,\"parallel\":4,"
    ++ "\"reverse\":true,\"len\":131072,\"pacing_timer\":1000,"
    ++ "\"client_version\":\"3.19.1\"\x7d").toList.map (fun c => UInt8.ofNat c.toNat)

theorem length_reverseParallelText : reverseParallelText.length = 141 := by decide +kernel

/-- The configuration that command line leaves. -/
def reverseParallelClient : Test :=
  match iperfParseArguments (iperfDefaults iperfNewTest) [.client, .reverse, .parallel 4] none with
  | .ok test => test
  | .error _ => iperfNewTest

/-- cJSON on that document. -/
def reverseParallelJson : JsonText where
  print _ := reverseParallelText
  parse bytes :=
    if bytes = reverseParallelText then
      some (sendParameters (iperfConnectSettings reverseParallelClient (some 1448)))
    else
      none

/-- A reverse test of four streams arrives as such. -/
theorem parameterExchange_faithful_reverseParallel
    : ∃ server,
        getParametersFrom reverseParallelJson freshServer
            (jsonWrite reverseParallelJson
              (sendParameters (iperfConnectSettings reverseParallelClient (some 1448))) ++ [])
          = (.ok server, [])
        ∧ exchanged server = exchanged (iperfConnectSettings reverseParallelClient (some 1448))
        ∧ Complementary .receiver server.mode := by
  have nonempty : [] ≠ reverseParallelText := by
    intro empty
    have length := congrArg List.length empty
    rw [length_reverseParallelText, List.length_nil] at length
    omega
  have small : SmallIntegers (iperfConnectSettings reverseParallelClient (some 1448)) :=
    ⟨by decide, by decide, by decide, by decide⟩
  have reproduces : reverseParallelJson.Reproduces
      (sendParameters (iperfConnectSettings reverseParallelClient (some 1448))) := by
    refine ⟨fun _ => ?_, ?_⟩
    · simp only [reverseParallelJson, if_true]
    · simp only [reverseParallelJson, nonempty, if_false]
  have fits : (reverseParallelJson.print (sendParameters
      (iperfConnectSettings reverseParallelClient (some 1448)))).length
      ≤ maxParamsJsonString := by
    simp only [reverseParallelJson, length_reverseParallelText]
    decide
  have accepted : iperfParseArguments (iperfDefaults iperfNewTest)
      [.client, .reverse, .parallel 4] none = .ok reverseParallelClient := rfl
  exact parameterExchange_faithful accepted rfl rfl small reproduces fits []

end Iperf
