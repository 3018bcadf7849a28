import Iperf.Results.Exchange
import Mathlib.Data.List.Forall2

/-! After the result exchange both ends of every stream hold the same counters, and neither
has lost what it measured itself.
-/

namespace Iperf

open CJson

-----------------------------------------------------------------------------------------
-- What the transfer keeps
-----------------------------------------------------------------------------------------

/-- A document as cJSON gives it back: the same shape, the same texts, and the same integers
of magnitude at most `2 ^ 53`; other numbers may come back rounded.
-/
inductive Reproduced : CJson → CJson → Prop
  | null : Reproduced .null .null
  | bool (value : Bool) : Reproduced (.bool value) (.bool value)
  | string (value : String) : Reproduced (.string value) (.string value)
  | number (value value' : ℚ)
      (small : ∀ n : Int, value = n → n.natAbs ≤ 2 ^ 53 → value' = value)
      : Reproduced (.number value) (.number value')
  | array {items items' : List CJson} (same : List.Forall₂ Reproduced items items')
      : Reproduced (.array items) (.array items')
  | object {members members' : List (Key × CJson)}
      (keys : members'.map Prod.fst = members.map Prod.fst)
      (same : List.Forall₂ Reproduced (members.map Prod.snd) (members'.map Prod.snd))
      : Reproduced (.object members) (.object members')

/-- A document that comes back unchanged is reproduced. -/
theorem Reproduced.refl (json : CJson) : Reproduced json json := by
  match json with
  | .null => exact .null
  | .bool value => exact .bool value
  | .string value => exact .string value
  | .number value => exact .number value value (fun _ _ _ => rfl)
  | .array items =>
      exact .array (List.forall₂_same.mpr (fun item _ => Reproduced.refl item))
  | .object members =>
      refine .object rfl (List.forall₂_same.mpr ?_)
      intro item found
      obtain ⟨member, listed, rfl⟩ := List.mem_map.mp found
      exact Reproduced.refl member.2
termination_by sizeOf json
decreasing_by
  · have smaller := List.sizeOf_lt_of_mem ‹_ ∈ items›
    simp only [CJson.array.sizeOf_spec]
    omega
  · have smaller := List.sizeOf_lt_of_mem listed
    have inner : sizeOf member = 1 + sizeOf member.1 + sizeOf member.2 := by
      cases member
      rfl
    simp only [CJson.object.sizeOf_spec]
    omega

/-- A reproduced member is found under the same key. -/
theorem Reproduced.lookup {members members' : List (Key × CJson)} (key : Key)
    (keys : members'.map Prod.fst = members.map Prod.fst)
    (same : List.Forall₂ Reproduced (members.map Prod.snd) (members'.map Prod.snd))
    : Option.Rel Reproduced (members.lookup key) (members'.lookup key) := by
  induction members generalizing members' with
  | nil =>
      obtain rfl : members' = [] := by simpa using keys
      exact .none
  | cons head rest ih =>
      obtain ⟨name, value⟩ := head
      cases members' with
      | nil => simp at keys
      | cons head' rest' =>
          obtain ⟨name', value'⟩ := head'
          obtain ⟨rfl, restKeys⟩ := List.cons.inj keys
          obtain ⟨valueSame, restSame⟩ := List.forall₂_cons.mp same
          by_cases found : key = name'
          · subst found
            simpa using Option.Rel.some valueSame
          · have different : (key == name') = false := by simpa using found
            simpa only [List.lookup_cons, different] using ih restKeys restSame

/-- A member that was sent comes back under its key. -/
theorem Reproduced.getItem {json json' item : CJson} {key : Key}
    (same : Reproduced json json') (sent : json.getObjectItem key = some item)
    : ∃ item', json'.getObjectItem key = some item' ∧ Reproduced item item' := by
  cases same with
  | object keys members =>
      have found := Reproduced.lookup key keys members
      rw [getObjectItem] at sent
      rw [sent] at found
      cases result : List.lookup key _ with
      | none =>
          rw [result] at found
          cases found
      | some item' =>
          rw [result] at found
          cases found with
          | some related => exact ⟨item', result, related⟩
  | _ => simp [getObjectItem] at sent

/-- A number comes back as a number, a small integer as itself. -/
theorem Reproduced.getNumber {json json' : CJson} {value : ℚ}
    (same : Reproduced json json') (key : Key)
    (sent : json.getObjectItem key = some (.number value))
    : ∃ value', json'.getObjectItemType key .number = some (.number value')
      ∧ ∀ n : Int, value = n → n.natAbs ≤ 2 ^ 53 → value' = value := by
  obtain ⟨item', found, related⟩ := same.getItem sent
  cases related with
  | number _ value' small =>
      refine ⟨value', ?_, small⟩
      rw [getObjectItemType, found]
      rfl

/-- An `int`, and the integers up to `2 ^ 53` of the other counters, come back exactly. -/
theorem Reproduced.getInt32 {json json' : CJson} {n : Int32}
    (same : Reproduced json json') (key : Key)
    (sent : json.getObjectItem key = some (.ofInt32 n))
    : json'.getObjectItemType key .number = some (.ofInt32 n) := by
  obtain ⟨value', found, small⟩ := same.getNumber _ sent
  have low := n.le_toInt
  have high := n.toInt_lt
  rw [found, small n.toInt rfl (by omega)]
  rfl

theorem Reproduced.getInt64 {json json' : CJson} {n : Int64}
    (same : Reproduced json json') (key : Key) (small : n.toInt.natAbs ≤ 2 ^ 53)
    (sent : json.getObjectItem key = some (.ofInt64 n))
    : json'.getObjectItemType key .number = some (.ofInt64 n) := by
  obtain ⟨value', found, keeps⟩ := same.getNumber _ sent
  have exactly : (if n.toInt < 0 then -doubleOfNat n.toInt.natAbs
      else doubleOfNat n.toInt.natAbs) = (n.toInt : ℚ) := by
    have := ofInt64_eq small
    simpa [ofInt64] using this
  rw [found, keeps n.toInt exactly small]
  rfl

theorem Reproduced.getUInt64 {json json' : CJson} {n : UInt64}
    (same : Reproduced json json') (key : Key) (small : n.toNat ≤ 2 ^ 53)
    (sent : json.getObjectItem key = some (.ofUInt64 n))
    : json'.getObjectItemType key .number = some (.ofUInt64 n) := by
  obtain ⟨value', found, keeps⟩ := same.getNumber _ sent
  have exactly : doubleOfNat n.toNat = ((n.toNat : Int) : ℚ) := by
    rw [doubleOfNat, if_pos small]
    rfl
  rw [found, keeps n.toNat exactly (by omega)]
  rfl

-----------------------------------------------------------------------------------------
-- One element of the streams array
-----------------------------------------------------------------------------------------

/-- The counters that a stream reports are exact as `double`s. -/
structure ReportsExactly (sp : Stream) : Prop where
  bytes : (bytesTransferred sp).toNat ≤ 2 ^ 53
  cntError : sp.cntError.toInt.natAbs ≤ 2 ^ 53
  omittedCntError : sp.omittedCntError.toInt.natAbs ≤ 2 ^ 53
  packetCount : sp.packetCount.toInt.natAbs ≤ 2 ^ 53
  omittedPacketCount : sp.omittedPacketCount.toInt.natAbs ≤ 2 ^ 53

/-- What is read from the element of `sp` carries its counters. -/
structure Carries (sp : Stream) (peer : PeerResult) : Prop where
  bytes : peer.bytesTransferred = bytesTransferred sp
  cerror : peer.cerror = sp.cntError
  pcount : peer.pcount = sp.packetCount
  omitted : peer.omitted = some (sp.omittedCntError, sp.omittedPacketCount)

theorem readPeerResult_sent {test : Test} {sp : Stream} {json : CJson}
    (exactly : ReportsExactly sp) (same : Reproduced (sendStreamResult test sp) json)
    : ∃ peer, readPeerResult json = some (sp.id, peer) ∧ Carries sp peer := by
  have id := same.getInt32 (n := sp.id) .id rfl
  have bytes := same.getUInt64 .bytes exactly.bytes rfl
  have retransmits :=
    same.getInt32 (n := reportedRetransmits test sp) .retransmits rfl
  obtain ⟨jitter, jitterFound, -⟩ := same.getNumber .jitter rfl
  have errors := same.getInt64 .errors exactly.cntError rfl
  have omittedErrors := same.getInt64 .omittedErrors exactly.omittedCntError rfl
  have packets := same.getInt64 .packets exactly.packetCount rfl
  have omittedPackets := same.getInt64 .omittedPackets exactly.omittedPacketCount rfl
  simp only [readPeerResult, id, bytes, retransmits, jitterFound, errors, packets, omittedErrors,
    omittedPackets, valueint_ofInt32]
  refine ⟨_, rfl, ?_⟩
  exact {
    bytes := valueint_ofUInt64 exactly.bytes
    cerror := valueint_ofInt64 exactly.cntError
    pcount := valueint_ofInt64 exactly.packetCount
    omitted := by
      rw [valueint_ofInt64 exactly.omittedCntError,
        valueint_ofInt64 exactly.omittedPacketCount]
  }

theorem takePeerResult_id (peer : PeerResult) (sp : Stream)
    : (takePeerResult peer sp).id = sp.id := by
  unfold takePeerResult
  split <;> rfl

-----------------------------------------------------------------------------------------
-- The whole array
-----------------------------------------------------------------------------------------

/-- Each stream of the reader took over what its counterpart reported. -/
inductive Taken (carries : Stream → PeerResult → Prop)
    : List Stream → List Stream → List Stream → Prop
  | nil : Taken carries [] [] []
  | cons {remote sp : Stream} {peer : PeerResult} {remotes streams streams' : List Stream}
      (carried : carries remote peer) (rest : Taken carries remotes streams streams')
      : Taken carries (remote :: remotes) (sp :: streams) (takePeerResult peer sp :: streams')

variable {carries : Stream → PeerResult → Prop}

/-- The loop of `get_results` over the array of a peer with the same ids updates every stream
in place. By induction on the array, with the streams already updated in front.
-/
theorem foldl_getStreamResult {front remotes streams : List Stream} {items : List CJson}
    (ids : streams.map Stream.id = remotes.map Stream.id)
    (distinct : ((front ++ streams).map Stream.id).Nodup)
    (reads : List.Forall₂
      (fun remote json => ∃ peer, readPeerResult json = some (remote.id, peer)
        ∧ carries remote peer)
      remotes items)
    : ∃ streams',
        items.foldl getStreamResult (none, front ++ streams) = (none, front ++ streams')
        ∧ Taken carries remotes streams streams' := by
  induction remotes generalizing front streams items with
  | nil =>
      obtain rfl : streams = [] := by simpa using ids
      obtain rfl : items = [] := by simpa using reads
      exact ⟨[], rfl, .nil⟩
  | cons remote remotes ih =>
      cases streams with
      | nil => simp at ids
      | cons sp streams =>
          obtain ⟨id, restIds⟩ := List.cons.inj ids
          cases reads with
          | cons head tail =>
              obtain ⟨peer, read, carried⟩ := head
              have fresh : remote.id ∉ front.map Stream.id := by
                rw [List.map_append] at distinct
                intro member
                have apart := (List.nodup_append.mp distinct).2.2 _ member
                exact apart _ (by simp [id]) rfl
              have updated : KeyedUpdate.updateFirst Stream.id remote.id (takePeerResult peer)
                  (front ++ sp :: streams) = some (front ++ takePeerResult peer sp :: streams) :=
                KeyedUpdate.updateFirst_append fresh id
              have shifted : front ++ takePeerResult peer sp :: streams
                  = (front ++ [takePeerResult peer sp]) ++ streams := by simp
              obtain ⟨streams', loop, taken⟩ := @ih (front ++ [takePeerResult peer sp]) streams _
                restIds (by simpa [takePeerResult_id] using distinct) tail
              refine ⟨takePeerResult peer sp :: streams', ?_, .cons carried taken⟩
              rw [List.foldl_cons, getStreamResult, read]
              dsimp only
              rw [updated]
              dsimp only
              rw [shifted, loop]
              simp

theorem Taken.getElem? {remotes streams streams' : List Stream} {i : Nat} {remote sp : Stream}
    (taken : Taken carries remotes streams streams') (remoteAt : remotes[i]? = some remote)
    (spAt : streams[i]? = some sp)
    : ∃ peer, carries remote peer ∧ streams'[i]? = some (takePeerResult peer sp) := by
  induction taken generalizing i with
  | nil => simp at spAt
  | cons carried rest ih =>
      cases i with
      | zero =>
          obtain rfl : _ = remote := by simpa using remoteAt
          obtain rfl : _ = sp := by simpa using spAt
          exact ⟨_, carried, rfl⟩
      | succ i => exact ih (by simpa using remoteAt) (by simpa using spAt)

-----------------------------------------------------------------------------------------
-- One direction of the exchange
-----------------------------------------------------------------------------------------

/-- What the exchange assumes of cJSON for a document: it comes back with its integers. -/
def JsonText.KeepsIntegers (text : JsonText) (json : CJson) : Prop :=
  ∃ json', text.parse (text.print json) = some json' ∧ Reproduced json json'

theorem takePeerTest_streams (test : Test) (json : CJson) (cpuUtil : ℚ × ℚ × ℚ)
    (hasRetransmits : Int32)
    : (takePeerTest test json cpuUtil hasRetransmits).streams = test.streams := by
  unfold takePeerTest
  dsimp only
  split <;> split <;> rfl

/-- A delivered document is used completely. -/
theorem deliverResults_used {text : JsonText} {output : ServerOutput} {sender reader : Test}
    {json : CJson} (parsed : text.parse (text.print (sendResults sender output)) = some json)
    (same : Reproduced (sendResults sender output) json)
    (ids : reader.streams.map Stream.id = sender.streams.map Stream.id)
    (distinct : (reader.streams.map Stream.id).Nodup)
    (reads : ∀ items, json.getObjectItem .streams = some (.array items)
      → List.Forall₂ Reproduced (sender.streams.map (sendStreamResult sender)) items
      → List.Forall₂
          (fun remote json => ∃ peer, readPeerResult json = some (remote.id, peer)
            ∧ carries remote peer)
          sender.streams items)
    : ∃ reader',
        deliverResults text output sender reader = some reader'
        ∧ Taken carries sender.streams reader.streams reader'.streams := by
  -- the output member comes before the streams, so its key decides the lookup of theirs
  have streamsListed : (resultEntries sender output).lookup .streams
      = some (some (.array (sender.streams.map (sendStreamResult sender)))) := by
    cases output <;> rfl
  obtain ⟨total, totalFound, -⟩ :=
    same.getNumber .cpuUtilTotal (getObjectItem_sendResults rfl)
  obtain ⟨user, userFound, -⟩ :=
    same.getNumber .cpuUtilUser (getObjectItem_sendResults rfl)
  obtain ⟨system, systemFound, -⟩ :=
    same.getNumber .cpuUtilSystem (getObjectItem_sendResults rfl)
  obtain ⟨retransmits, retransmitsFound, -⟩ :=
    same.getNumber .senderHasRetransmits (getObjectItem_sendResults rfl)
  obtain ⟨item, itemFound, related⟩ :=
    same.getItem (getObjectItem_sendResults streamsListed)
  cases related with
  | array elements =>
      rename_i items
      have streamsFound : json.getObjectItemType .streams .array = some (.array items) := by
        rw [getObjectItemType, itemFound]
        rfl
      have alone : (([] ++ reader.streams).map Stream.id).Nodup := distinct
      obtain ⟨streams', loop, taken⟩ :=
        foldl_getStreamResult ids alone (reads items itemFound elements)
      simp only [List.nil_append] at loop
      simp only [deliverResults, parsed, Option.bind_eq_bind, Option.bind_some, getResults,
        totalFound, userFound, systemFound, retransmitsFound, streamsFound,
        takePeerTest_streams, loop]
      exact ⟨_, rfl, taken⟩

/-- The integers of a delivered document are taken over. -/
theorem deliverResults_taken {text : JsonText} {output : ServerOutput} {sender reader : Test}
    (keeps : text.KeepsIntegers (sendResults sender output))
    (ids : reader.streams.map Stream.id = sender.streams.map Stream.id)
    (distinct : (reader.streams.map Stream.id).Nodup)
    (exactly : ∀ sp ∈ sender.streams, ReportsExactly sp)
    : ∃ reader',
        deliverResults text output sender reader = some reader'
        ∧ Taken Carries sender.streams reader.streams reader'.streams := by
  obtain ⟨json, parsed, same⟩ := keeps
  refine deliverResults_used parsed same ids distinct fun items _ elements => ?_
  have each := (List.forall₂_and_left _ _).mpr ⟨exactly, List.forall₂_map_left_iff.mp elements⟩
  exact each.imp fun remote item both => readPeerResult_sent both.1 both.2

/-- A stream still reports exactly after it took over an exact report. -/
theorem ReportsExactly.take {remote sp : Stream} {peer : PeerResult}
    (own : ReportsExactly sp) (theirs : ReportsExactly remote) (carries : Carries remote peer)
    : ReportsExactly (takePeerResult peer sp) := by
  unfold takePeerResult
  split
  · next sender =>
      have bytes := own.bytes
      simp only [bytesTransferred, sender, if_true] at bytes
      simp only [senderTakes, carries.omitted, carries.cerror]
      refine ⟨?_, theirs.cntError, theirs.omittedCntError, own.packetCount,
        own.omittedPacketCount⟩
      simpa only [bytesTransferred, sender, if_true] using bytes
  · next receiver =>
      have bytes := own.bytes
      simp only [bytesTransferred, receiver, if_false, Bool.false_eq_true] at bytes
      refine ⟨?_, own.cntError, own.omittedCntError, own.packetCount, own.omittedPacketCount⟩
      simpa only [receiverTakes, bytesTransferred, receiver, if_false, Bool.false_eq_true]
        using bytes

theorem Taken.exactly {remotes streams streams' : List Stream}
    (taken : Taken carries remotes streams streams')
    (integers : ∀ remote peer, carries remote peer → Carries remote peer)
    (theirs : ∀ sp ∈ remotes, ReportsExactly sp) (own : ∀ sp ∈ streams, ReportsExactly sp)
    : ∀ sp ∈ streams', ReportsExactly sp := by
  induction taken with
  | nil => simp
  | cons carried rest ih =>
      simp only [List.forall_mem_cons] at theirs own ⊢
      exact ⟨own.1.take theirs.1 (integers _ _ carried), ih theirs.2 own.2⟩

theorem Taken.ids {remotes streams streams' : List Stream}
    (taken : Taken carries remotes streams streams')
    : streams'.map Stream.id = streams.map Stream.id := by
  induction taken with
  | nil => rfl
  | cons _ _ ih => simp [takePeerResult_id, ih]

-----------------------------------------------------------------------------------------
-- Both directions
-----------------------------------------------------------------------------------------

/-- The stream lists of the two ends of a test: the same ids, all different, and opposite
directions.
-/
structure PairedStreams (client server : List Stream) : Prop where
  ids : client.map Stream.id = server.map Stream.id
  distinct : (client.map Stream.id).Nodup
  opposite : server.map Stream.sender = client.map (fun sp => !sp.sender)

/-- Counters of at most `2 ^ 53`. The bytes of the omit period are some of those sent, as
`iperf_reset_stats` leaves them.
-/
structure SmallCounters (sp : Stream) : Prop where
  bytesSent : sp.result.bytesSent.toNat ≤ 2 ^ 53
  bytesSentOmit : sp.result.bytesSentOmit ≤ sp.result.bytesSent
  bytesReceived : sp.result.bytesReceived.toNat ≤ 2 ^ 53
  cntError : sp.cntError.toInt.natAbs ≤ 2 ^ 53
  omittedCntError : sp.omittedCntError.toInt.natAbs ≤ 2 ^ 53
  packetCount : sp.packetCount.toInt.natAbs ≤ 2 ^ 53
  omittedPacketCount : sp.omittedPacketCount.toInt.natAbs ≤ 2 ^ 53

theorem SmallCounters.reportsExactly {sp : Stream} (small : SmallCounters sp)
    : ReportsExactly sp := by
  refine ⟨?_, small.cntError, small.omittedCntError, small.packetCount,
    small.omittedPacketCount⟩
  unfold bytesTransferred
  split
  · have sent := small.bytesSent
    rw [UInt64.toNat_sub_of_le _ _ small.bytesSentOmit]
    omega
  · exact small.bytesReceived

/-- The two ends of one stream before (`snd`, `rcv`) and after (`snd'`, `rcv'`) the exchange. -/
structure Agreement (snd snd' rcv rcv' : Stream) : Prop where
  bytesReceived : snd'.result.bytesReceived = rcv.result.bytesReceived
  cntError : snd'.cntError = rcv.cntError
  omittedCntError : snd'.omittedCntError = rcv.omittedCntError
  peerPacketCount : snd'.peerPacketCount = rcv.packetCount
  peerOmittedPacketCount : snd'.peerOmittedPacketCount = rcv.omittedPacketCount
  bytesSent : rcv'.result.bytesSent = snd.result.bytesSent - snd.result.bytesSentOmit
  sentPacketCount : rcv'.peerPacketCount = snd.packetCount
  sentOmittedPacketCount : rcv'.peerOmittedPacketCount = snd.omittedPacketCount
  ownBytesSent : snd'.result.bytesSent = snd.result.bytesSent
  ownSentPacketCount : snd'.packetCount = snd.packetCount
  ownBytesReceived : rcv'.result.bytesReceived = rcv.result.bytesReceived
  ownPacketCount : rcv'.packetCount = rcv.packetCount
  ownCntError : rcv'.cntError = rcv.cntError

/-- Both ends agree when each took over what the other reported. The report of the end that
answers second may be built after it took over the first one: `sndReport` and `rcvReport` are
the streams the reports were built from.
-/
theorem agreement_of_carries {snd rcv sndReport rcvReport : Stream}
    {sndPeer rcvPeer : PeerResult} (sender : snd.sender = true) (receiver : rcv.sender = false)
    (fromRcv : Carries rcvReport sndPeer) (fromSnd : Carries sndReport rcvPeer)
    (rcvSame : rcvReport = rcv ∨ ∃ peer, rcvReport = takePeerResult peer rcv)
    (sndSame : sndReport = snd ∨ ∃ peer, sndReport = takePeerResult peer snd)
    : Agreement snd (takePeerResult sndPeer snd) rcv (takePeerResult rcvPeer rcv) := by
  have sends (peer : PeerResult) : takePeerResult peer snd = senderTakes peer snd := by
    rw [takePeerResult, if_pos sender]
  have receives (peer : PeerResult) : takePeerResult peer rcv = receiverTakes peer rcv := by
    simp [takePeerResult, receiver]
  -- what the receiver reports is what it measured
  have rcvBytes : bytesTransferred rcvReport = rcv.result.bytesReceived
      ∧ rcvReport.cntError = rcv.cntError ∧ rcvReport.packetCount = rcv.packetCount
      ∧ rcvReport.omittedCntError = rcv.omittedCntError
      ∧ rcvReport.omittedPacketCount = rcv.omittedPacketCount := by
    rcases rcvSame with rfl | ⟨peer, rfl⟩
    · simp [bytesTransferred, receiver]
    · rw [receives]
      simp [receiverTakes, bytesTransferred, receiver]
  -- what the sender reports is what it measured, whatever errors it was told about
  have sndBytes : bytesTransferred sndReport
        = snd.result.bytesSent - snd.result.bytesSentOmit
      ∧ sndReport.packetCount = snd.packetCount
      ∧ sndReport.omittedPacketCount = snd.omittedPacketCount := by
    rcases sndSame with rfl | ⟨peer, rfl⟩
    · simp [bytesTransferred, sender]
    · rw [sends]
      simp [senderTakes, bytesTransferred, sender]
  rw [sends, receives]
  simp only [senderTakes, receiverTakes, fromRcv.omitted, fromSnd.omitted]
  exact {
    bytesReceived := fromRcv.bytes.trans rcvBytes.1
    cntError := fromRcv.cerror.trans rcvBytes.2.1
    omittedCntError := rcvBytes.2.2.2.1
    peerPacketCount := fromRcv.pcount.trans rcvBytes.2.2.1
    peerOmittedPacketCount := rcvBytes.2.2.2.2
    bytesSent := fromSnd.bytes.trans sndBytes.1
    sentPacketCount := fromSnd.pcount.trans sndBytes.2.1
    sentOmittedPacketCount := sndBytes.2.2
    ownBytesSent := rfl
    ownSentPacketCount := rfl
    ownBytesReceived := rfl
    ownPacketCount := rfl
    ownCntError := rfl
  }

theorem PairedStreams.getElem? {client server : List Stream} {i : Nat} {c s : Stream}
    (paired : PairedStreams client server) (clientAt : client[i]? = some c)
    (serverAt : server[i]? = some s)
    : s.sender = !c.sender := by
  have flags := congrArg (fun flags => flags[i]?) paired.opposite
  simpa [clientAt, serverAt] using flags

/-- After both ends completed `iperf_exchange_results`, every stream's two ends agree on what
was sent, received and lost, and each end still has what it measured itself.
-/
theorem resultExchange_agrees {text : JsonText} {output : ServerOutput} {client server : Test}
    (paired : PairedStreams client.streams server.streams)
    (clientSmall : ∀ sp ∈ client.streams, SmallCounters sp)
    (serverSmall : ∀ sp ∈ server.streams, SmallCounters sp)
    (keepsClient : text.KeepsIntegers (sendResults client output))
    (keepsServer : ∀ server', deliverResults text output client server = some server'
      → text.KeepsIntegers (sendResults server' output))
    : ∃ client' server',
        iperfExchangeResults text output client server = some (client', server')
        ∧ ∀ (i : Nat) (c s : Stream), client.streams[i]? = some c → server.streams[i]? = some s
          → ∃ c' s', client'.streams[i]? = some c' ∧ server'.streams[i]? = some s'
              ∧ (c.sender = true → Agreement c c' s s')
              ∧ (c.sender = false → Agreement s s' c c') := by
  have clientExactly := fun sp member => (clientSmall sp member).reportsExactly
  have serverExactly := fun sp member => (serverSmall sp member).reportsExactly
  obtain ⟨server', read, serverTook⟩ :=
    deliverResults_taken keepsClient paired.ids.symm (paired.ids ▸ paired.distinct) clientExactly
  obtain ⟨client', answered, clientTook⟩ :=
    deliverResults_taken (keepsServer server' read)
      (paired.ids.trans serverTook.ids.symm) paired.distinct
      (serverTook.exactly (fun _ _ => id) clientExactly serverExactly)
  refine ⟨client', server', ?_, ?_⟩
  · simp only [iperfExchangeResults, read, answered, Option.bind_eq_bind, Option.bind_some]
    rfl
  · intro i c s clientAt serverAt
    have opposite := paired.getElem? clientAt serverAt
    obtain ⟨serverPeer, fromClient, serverNext⟩ := serverTook.getElem? clientAt serverAt
    obtain ⟨clientPeer, fromServer, clientNext⟩ := clientTook.getElem? serverNext clientAt
    refine ⟨_, _, clientNext, serverNext, ?_, ?_⟩
    · intro sends
      exact agreement_of_carries sends (by simp [opposite, sends]) fromServer fromClient
        (Or.inr ⟨serverPeer, rfl⟩) (Or.inl rfl)
    · intro receives
      exact agreement_of_carries (by simp [opposite, receives]) receives fromClient fromServer
        (Or.inl rfl) (Or.inr ⟨serverPeer, rfl⟩)

/-- A bidirectional test without losses: the two ends' documents are the same text. -/
def losslessText : List UInt8 :=
  ("\x7b\"cpu_util_total\":0,\"cpu_util_user\":0,\"cpu_util_system\":0,"
    ++ "\"sender_has_retransmits\":0,\"streams\":[\x7b\"id\":1,\"bytes\":100,"
    ++ "\"retransmits\":-1,\"jitter\":0,\"errors\":0,\"omitted_errors\":0,\"packets\":5,"
    ++ "\"omitted_packets\":0,\"start_time\":0,\"end_time\":0\x7d,\x7b\"id\":3,\"bytes\":200,"
    ++ "\"retransmits\":-1,\"jitter\":0,\"errors\":0,\"omitted_errors\":0,\"packets\":7,"
    ++ "\"omitted_packets\":0,\"start_time\":0,\"end_time\":0\x7d]\x7d").toList.map
    (fun c => UInt8.ofNat c.toNat)

/-- One end of that test; `first` says whether its first stream sends. -/
def losslessEnd (role : Role) (first : Bool) : Test :=
  {
    role
    mode := .bidirectional
    streams := [
      {
        socket := 5
        id := 1
        sender := first
        packetCount := 5
        result := if first then { bytesSent := 100 } else { bytesReceived := 100 }
      },
      {
        socket := 6
        id := 3
        sender := !first
        packetCount := 7
        result := if first then { bytesReceived := 200 } else { bytesSent := 200 }
      }
    ]
  }

/-- cJSON on that document. -/
def losslessJson : JsonText where
  print _ := losslessText
  parse bytes :=
    if bytes = losslessText then some (sendResults (losslessEnd .client true) (.text ""))
    else none

theorem losslessJson_transfer (json : CJson)
    : losslessJson.parse (losslessJson.print json)
      = some (sendResults (losslessEnd .client true) (.text "")) := by
  simp only [losslessJson, if_true]

/-- The server's document after it read the client's is the client's again. -/
theorem lossless_answer
    : (deliverResults losslessJson (.text "") (losslessEnd .client true)
        (losslessEnd .server false)).map (fun server => sendResults server (.text ""))
      = some (sendResults (losslessEnd .client true) (.text "")) := by
  simp only [deliverResults, losslessJson_transfer]
  rfl

theorem losslessEnd_small (role : Role) (first : Bool)
    : ∀ sp ∈ (losslessEnd role first).streams, SmallCounters sp := by
  cases first <;> simp only [losslessEnd, List.forall_mem_cons, List.not_mem_nil, false_implies,
    implies_true, and_true]
    <;> exact ⟨⟨by decide, by decide, by decide, by decide, by decide, by decide, by decide⟩,
      ⟨by decide, by decide, by decide, by decide, by decide, by decide, by decide⟩⟩

/-- The exchange of that test. -/
theorem resultExchange_agrees_lossless
    : ∃ client' server',
        iperfExchangeResults losslessJson (.text "") (losslessEnd .client true)
            (losslessEnd .server false)
          = some (client', server')
        ∧ (∃ c s c' s', (losslessEnd .client true).streams[0]? = some c
            ∧ (losslessEnd .server false).streams[0]? = some s
            ∧ client'.streams[0]? = some c' ∧ server'.streams[0]? = some s'
            ∧ Agreement c c' s s') := by
  have keepsClient : losslessJson.KeepsIntegers
      (sendResults (losslessEnd .client true) (.text "")) :=
    ⟨_, losslessJson_transfer _, Reproduced.refl _⟩
  have keepsServer (server' : Test)
      (read : deliverResults losslessJson (.text "") (losslessEnd .client true)
        (losslessEnd .server false) = some server')
      : losslessJson.KeepsIntegers (sendResults server' (.text "")) := by
    have answer := lossless_answer
    rw [read, Option.map_some] at answer
    rw [Option.some.inj answer]
    exact keepsClient
  have paired : PairedStreams (losslessEnd .client true).streams
      (losslessEnd .server false).streams :=
    ⟨rfl, by decide, rfl⟩
  obtain ⟨client', server', completed, agree⟩ :=
    resultExchange_agrees paired (losslessEnd_small .client true)
      (losslessEnd_small .server false) keepsClient keepsServer
  obtain ⟨c', s', clientAt, serverAt, sends, -⟩ := agree 0 _ _ rfl rfl
  exact ⟨client', server', completed, _, _, c', s', rfl, rfl, clientAt, serverAt, sends rfl⟩

end Iperf
