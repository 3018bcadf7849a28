import Iperf.Cjson.Transfer

/-! The result exchange with the texts that cJSON prints.
-/

namespace Iperf.Cjson

open Checked DecimalText Doubles

/-- What an end needs to send its results: its numbers survive, and its strings are C strings. -/
structure SendsResults (test : Test) (output : ServerOutput) : Prop where
  cpuTotal : Survives test.cpuUtil.1
  cpuUser : Survives test.cpuUtil.2.1
  cpuSystem : Survives test.cpuUtil.2.2
  jitter : ∀ sp ∈ test.streams, Survives sp.jitter
  congestionUsed : ∀ text ∈ test.congestionUsed, Plain text
  serverOutput : Writable output.value
  shallow : nesting (itemOf output.value) < cjsonNestingLimit

-----------------------------------------------------------------------------------------
-- The document
-----------------------------------------------------------------------------------------

theorem survives_time (time : IperfTime) : Survives (iperfTimeInSecs time) := by
  have secs : (time.secs.toNat : ℚ) < 2 ^ 32 := by exact_mod_cast time.secs.toNat_lt
  have usecs : (time.usecs.toNat : ℚ) < 2 ^ 32 := by exact_mod_cast time.usecs.toNat_lt
  have nonneg : 0 ≤ iperfTimeInSecs time := by
    unfold iperfTimeInSecs
    positivity
  refine survives_small ?_
  rw [abs_of_nonneg nonneg, iperfTimeInSecs]
  linarith

theorem canonical_of_known {members : List (Key × CJson)}
    (known : ∀ key ∈ members.map Prod.fst, key ∈ Key.known)
    : ∀ member ∈ members, Canonical member.1 :=
  fun _ found => canonical_known (known _ (List.mem_map_of_mem found))

theorem writable_sendStreamResult (test : Test) {sp : Stream} (jitter : Survives sp.jitter)
    : Writable (sendStreamResult test sp) := by
  refine .object (canonical_of_known ?_) ?_
  · simp only [List.map_cons, List.map_nil]
    decide
  · simp only [List.forall_mem_cons, List.not_mem_nil, false_implies, implies_true, and_true]
    exact ⟨writable_ofInt32 _, writable_ofUInt64 _, writable_ofInt32 _, .number jitter,
      writable_ofInt64 _, writable_ofInt64 _, writable_ofInt64 _, writable_ofInt64 _,
      .number (survives_time _), .number (survives_time _)⟩

theorem nesting_number (value : ℚ) : nesting (itemOf (.number value)) = 0 := by
  simp only [itemOf, nesting]

theorem nesting_sendStreamResult (test : Test) (sp : Stream)
    : nesting (itemOf (sendStreamResult test sp)) ≤ 1 := by
  rw [sendStreamResult, itemOf, nesting]
  refine Nat.succ_le_succ (nestingMembers_le fun member found => ?_)
  simp only [List.mem_cons, List.not_mem_nil, or_false] at found
  rcases found with rfl | rfl | rfl | rfl | rfl | rfl | rfl | rfl | rfl | rfl
    <;> exact (nesting_number _).le

variable {test : Test} {output : ServerOutput}

theorem resultEntries_canonical : ∀ entry ∈ resultEntries test output, Canonical entry.1 := by
  have known : ∀ key ∈ (resultEntries test output).map Prod.fst, key ∈ Key.known := by
    cases output
    · simp only [resultEntries, ServerOutput.key, List.map_cons, List.map_nil]
      decide
    · simp only [resultEntries, ServerOutput.key, List.map_cons, List.map_nil]
      decide
  exact fun _ found => canonical_known (known _ (List.mem_map_of_mem found))

theorem writable_sendResults (sends : SendsResults test output)
    : Writable (sendResults test output) := by
  refine writable_present resultEntries_canonical ?_
  have always {inner value : CJson} (writable : Writable inner) (found : some inner = some value)
      : Writable value := Option.some.inj found ▸ writable
  simp only [resultEntries, List.forall_mem_cons, List.not_mem_nil, false_implies, implies_true,
    and_true]
  refine ⟨fun _ => always (.number sends.cpuTotal), fun _ => always (.number sends.cpuUser),
    fun _ => always (.number sends.cpuSystem), fun _ => always (writable_ofInt32 _),
    fun value found => ?_, fun value found => ?_, fun _ => always (.array fun item member => ?_)⟩
  · obtain ⟨text, some_, rfl⟩ := Option.map_eq_some_iff.mp found
    exact .string (sends.congestionUsed text some_)
  · split_ifs at found
    exact always sends.serverOutput found
  · obtain ⟨sp, inside, rfl⟩ := List.mem_map.mp member
    exact writable_sendStreamResult test (sends.jitter sp inside)

theorem nesting_sendResults (sends : SendsResults test output)
    : nesting (itemOf (sendResults test output)) ≤ cjsonNestingLimit := by
  have limit : cjsonNestingLimit = 1000 := rfl
  have shallow := sends.shallow
  rw [sendResults, itemOf, nesting]
  have members : nestingMembers (membersOf (OptionalMembers.present (resultEntries test output)))
      ≤ max 2 (nesting (itemOf output.value)) := by
    refine nestingMembers_le fun member found => ?_
    obtain ⟨entry, inside, value⟩ := List.mem_filterMap.mp found
    obtain ⟨inner, some_, rfl⟩ := Option.map_eq_some_iff.mp value
    have scalar {inner value : CJson} (flat : nesting (itemOf inner) = 0)
        (found : some inner = some value)
        : nesting (itemOf value) ≤ max 2 (nesting (itemOf output.value)) := by
      rw [← Option.some.inj found, flat]
      exact Nat.zero_le _
    simp only [resultEntries, List.mem_cons, List.not_mem_nil, or_false] at inside
    rcases inside with rfl | rfl | rfl | rfl | rfl | rfl | rfl
    · exact scalar (nesting_number _) some_
    · exact scalar (nesting_number _) some_
    · exact scalar (nesting_number _) some_
    · exact scalar (nesting_number _) some_
    · obtain ⟨text, -, rfl⟩ := Option.map_eq_some_iff.mp some_
      exact scalar (by simp only [itemOf, nesting]) rfl
    · dsimp only at some_
      split_ifs at some_
      rw [← Option.some.inj some_]
      exact le_max_right _ _
    · rw [← Option.some.inj some_, itemOf, nesting]
      refine le_max_of_le_left (Nat.succ_le_succ (nestingElements_le fun item member => ?_))
      obtain ⟨sp, -, rfl⟩ := List.mem_map.mp member
      exact nesting_sendStreamResult test sp
  omega

/-- The text of the results is parsed to what arrives of them. -/
theorem parse_sendResults (sends : SendsResults test output)
    : cjsonText.parse (cjsonText.print (sendResults test output))
      = some (transferred (sendResults test output)) := by
  rw [parse_print, if_pos (nesting_sendResults sends)]

-----------------------------------------------------------------------------------------
-- An end that has read results may send its own
-----------------------------------------------------------------------------------------

/-- Where the fields of an element come from. -/
theorem readPeerResult_fields {json : CJson} {sid : Int32} {peer : PeerResult}
    (read : readPeerResult json = some (sid, peer))
    : ∃ retransmits jitter, json.getObjectItemType .retransmits .number = some retransmits
      ∧ json.getObjectItemType .jitter .number = some jitter
      ∧ peer.retransmits = retransmits.valueint.toInt32 ∧ peer.jitter = jitter.valuedouble
      ∧ ∀ startTime endTime, json.getObjectItemType .startTime .number = some startTime
        → json.getObjectItemType .endTime .number = some endTime
        → peer.duration = some (endTime.valuedouble - startTime.valuedouble) := by
  unfold readPeerResult at read
  split at read
  · next id bytes retransmits jitter errors packets idAt bytesAt retransmitsAt jitterAt _ _ =>
      dsimp only at read
      split at read
      · cases read
        refine ⟨_, _, retransmitsAt, jitterAt, rfl, rfl, ?_⟩
        intro startTime endTime startAt endAt
        simp only [startAt, endAt]
      · cases read
        refine ⟨_, _, retransmitsAt, jitterAt, rfl, rfl, ?_⟩
        intro startTime endTime startAt endAt
        simp only [startAt, endAt]
      · cases read
  · cases read

theorem readPeerResult_jitter {json : CJson} (writable : Writable json) {sid : Int32}
    {peer : PeerResult} (read : readPeerResult json = some (sid, peer))
    : Survives peer.jitter := by
  obtain ⟨_, jitter, -, jitterAt, -, same, -⟩ := readPeerResult_fields read
  rw [same]
  exact (writable.getItemType jitterAt).valuedouble

theorem takePeerResult_jitter {peer : PeerResult} (arrived : Survives peer.jitter) {sp : Stream}
    (own : Survives sp.jitter)
    : Survives (takePeerResult peer sp).jitter := by
  unfold takePeerResult
  split_ifs
  · exact arrived
  · exact own

/-- The jitters stay what can be sent, by induction on the array. -/
theorem foldl_getStreamResult_jitter {items : List CJson} (each : ∀ item ∈ items, Writable item)
    {state : Option IError × List Stream} (own : ∀ sp ∈ state.2, Survives sp.jitter)
    : ∀ sp ∈ (items.foldl getStreamResult state).2, Survives sp.jitter := by
  induction items generalizing state with
  | nil => exact own
  | cons item next ih =>
      rw [List.foldl_cons]
      refine ih (fun item member => each item (List.mem_cons_of_mem _ member)) ?_
      unfold getStreamResult
      cases read : readPeerResult item with
      | none => exact own
      | some entry =>
          obtain ⟨sid, peer⟩ := entry
          have arrived := readPeerResult_jitter (each item List.mem_cons_self) read
          dsimp only
          cases updated : KeyedUpdate.updateFirst Stream.id sid (takePeerResult peer) state.2 with
          | none => exact own
          | some streams =>
              exact KeyedUpdate.updateFirst_forall own
                (fun _ own => takePeerResult_jitter arrived own) updated

/-- `get_results` changes neither the CPU times nor the congestion control of the end itself. -/
theorem takePeerTest_own (test : Test) (json : CJson) (cpuUtil : ℚ × ℚ × ℚ) (hasRetransmits : Int32)
    : (takePeerTest test json cpuUtil hasRetransmits).cpuUtil = test.cpuUtil
      ∧ (takePeerTest test json cpuUtil hasRetransmits).congestionUsed = test.congestionUsed := by
  unfold takePeerTest
  dsimp only
  split <;> split <;> exact ⟨rfl, rfl⟩

/-- What `get_results` leaves to an end that has read results. -/
theorem getResults_own {test test' : Test} {json : CJson} (writable : Writable json)
    (own : ∀ sp ∈ test.streams, Survives sp.jitter) (done : getResults test json = (none, test'))
    : test'.cpuUtil = test.cpuUtil ∧ test'.congestionUsed = test.congestionUsed
      ∧ ∀ sp ∈ test'.streams, Survives sp.jitter := by
  unfold getResults at done
  split at done
  · next total user system retransmits _ _ _ _ =>
      obtain ⟨cpuUtil, congestionUsed⟩ := takePeerTest_own test json
        (total.valuedouble, user.valuedouble, system.valuedouble) retransmits.valueint.toInt32
      have streams := takePeerTest_streams test json
        (total.valuedouble, user.valuedouble, system.valuedouble) retransmits.valueint.toInt32
      dsimp only at done
      split at done
      · next items streamsAt =>
          cases writable.getItemType streamsAt with
          | array each =>
              obtain ⟨-, rfl⟩ := Prod.mk.inj done
              exact ⟨cpuUtil, congestionUsed,
                foldl_getStreamResult_jitter each (fun sp member => own sp (streams ▸ member))⟩
      · cases done
  · split at done <;> cases done

/-- An end that has read the results of the other one can send its own. -/
theorem SendsResults.deliver {sender reader reader' : Test} (sends : SendsResults sender output)
    (own : SendsResults reader output)
    (read : deliverResults cjsonText output sender reader = some reader')
    : SendsResults reader' output := by
  have arrives := writable_transferred (writable_sendResults sends)
  simp only [deliverResults, parse_sendResults sends, Option.bind_eq_bind, Option.bind_some] at read
  split at read
  · cases read
  · next taken done =>
      obtain rfl := Option.some.inj read
      obtain ⟨cpuUtil, congestionUsed, jitter⟩ := getResults_own arrives own.jitter done
      exact {
        cpuTotal := cpuUtil ▸ own.cpuTotal
        cpuUser := cpuUtil ▸ own.cpuUser
        cpuSystem := cpuUtil ▸ own.cpuSystem
        jitter
        congestionUsed := congestionUsed ▸ own.congestionUsed
        serverOutput := own.serverOutput
        shallow := own.shallow
      }

-----------------------------------------------------------------------------------------
-- What a stream takes over
-----------------------------------------------------------------------------------------

/-- A number as the other end reads it: printed, parsed, and rounded by both. -/
@[irreducible]
def arriving (value : ℚ) : ℚ := (transferred (.number value)).valuedouble

theorem Survives.shape {value : ℚ} (survives : Survives value)
    : Cjson.transferred (.number value) = .number (arriving value) := by
  obtain ⟨value', shape, -⟩ := survives.transferred
  unfold arriving
  rw [shape]
  rfl

theorem arriving_intCast {n : ℤ} (small : n.natAbs ≤ 2 ^ 53) (survives : Survives n)
    : arriving n = n := by
  obtain ⟨value', shape, -, whole⟩ := survives.transferred
  have same := CJson.number.inj (survives.shape.symm.trans shape)
  exact same.trans (whole n rfl small)

/-- A member of a document arrives under its name, by induction on the members. -/
theorem getObjectItem_transferred {members : List (Key × CJson)}
    (names : ∀ member ∈ members, Canonical member.1) (key : Key)
    : (transferred (.object members)).getObjectItem key
      = ((CJson.object members).getObjectItem key).map transferred := by
  simp only [transferred, itemOf, readBack, documentOf, CJson.getObjectItem]
  induction members with
  | nil => rfl
  | cons member next ih =>
      obtain ⟨name, value⟩ := member
      have canonical : Canonical name := names (name, value) List.mem_cons_self
      have later := ih fun member found => names member (List.mem_cons_of_mem _ found)
      rw [membersOf, memberOf, readBackMembers, readBackMember, entriesOf, entryOf, canonical,
        List.lookup_cons, List.lookup_cons, later]
      cases key == name <;> rfl

/-- A number that is sent arrives as one. -/
theorem getNumber_transferred {json : CJson} (writable : Writable json) {key : Key} {value : ℚ}
    (sent : json.getObjectItem key = some (.number value))
    : (transferred json).getObjectItemType key .number = some (.number (arriving value)) := by
  cases writable with
  | @object members names each =>
      obtain ⟨front, rest, listed, -⟩ := List.lookup_eq_some_iff.mp sent
      have isOne : (key, CJson.number value) ∈ members := by simp [listed]
      cases each _ isOne with
      | number survives =>
          rw [CJson.getObjectItemType, getObjectItem_transferred names, sent, Option.map_some,
            survives.shape]
          rfl
  | _ => cases sent

/-- The elements of an array arrive in their order, by induction on them. -/
theorem transferred_items (items : List CJson)
    : documentsOf (readBackElements (itemsOf items)) = items.map transferred := by
  induction items with
  | nil => rfl
  | cons item next ih =>
      rw [itemsOf, readBackElements, documentsOf, ih, List.map_cons]
      rfl

/-- How long a stream took, as it reports it. -/
def lasted (sp : Stream) : ℚ :=
  iperfTimeInSecs (iperfTimeDiff sp.result.startTime sp.result.endTime).2

/-- What is read from the element of `sp` is what `sp` reports. -/
structure CarriesReport (test : Test) (sp : Stream) (peer : PeerResult) : Prop where
  counters : Carries sp peer
  retransmits : peer.retransmits = reportedRetransmits test sp
  jitter : peer.jitter = arriving sp.jitter
  duration : peer.duration = some (arriving (lasted sp))

theorem iperfTimeDiff_self (time : IperfTime)
    : iperfTimeInSecs (iperfTimeDiff time time).2 = ((0 : ℤ) : ℚ) := by
  have equal : iperfTimeCompare time time = 0 := by
    unfold iperfTimeCompare
    rw [if_neg (UInt32.lt_irrefl _), if_neg (UInt32.lt_irrefl _), if_neg (UInt32.lt_irrefl _),
      if_neg (UInt32.lt_irrefl _)]
  rw [iperfTimeDiff, if_pos equal, iperfTimeInSecs]
  norm_num

/-- The start time that is sent is zero, so the duration is the end time. -/
theorem readPeerResult_transferred {test : Test} {sp : Stream} (jitter : Survives sp.jitter)
    (exactly : ReportsExactly sp)
    : ∃ peer, readPeerResult (transferred (sendStreamResult test sp)) = some (sp.id, peer)
      ∧ CarriesReport test sp peer := by
  have writable := writable_sendStreamResult test jitter
  have same := reproduced_transferred writable
  obtain ⟨peer, read, counters⟩ := readPeerResult_sent exactly same
  have retransmitsAt := same.getInt32 (n := reportedRetransmits test sp) .retransmits rfl
  have jitterAt := @getNumber_transferred _ writable .jitter _ rfl
  have startAt := @getNumber_transferred _ writable .startTime _ rfl
  have endAt := @getNumber_transferred _ writable .endTime _ rfl
  obtain ⟨_, _, foundRetransmits, foundJitter, retransmits, isJitter, duration⟩ :=
    readPeerResult_fields read
  obtain rfl := Option.some.inj (foundRetransmits.symm.trans retransmitsAt)
  obtain rfl := Option.some.inj (foundJitter.symm.trans jitterAt)
  have start : arriving (iperfTimeInSecs
      (iperfTimeDiff sp.result.startTime sp.result.startTime).2) = ((0 : ℤ) : ℚ) := by
    have survives := survives_time (iperfTimeDiff sp.result.startTime sp.result.startTime).2
    rw [iperfTimeDiff_self] at survives ⊢
    exact arriving_intCast (by decide) survives
  have lasts := duration _ _ startAt endAt
  rw [CJson.valuedouble, CJson.valuedouble, start, Int.cast_zero, sub_zero, ← lasted] at lasts
  rw [CJson.valueint_ofInt32] at retransmits
  exact ⟨peer, read, counters, retransmits, isJitter, lasts⟩

/-- One end sends its results and the other one takes over all of them. -/
theorem deliverResults_reports {sender reader : Test} (sends : SendsResults sender output)
    (ids : reader.streams.map Stream.id = sender.streams.map Stream.id)
    (distinct : (reader.streams.map Stream.id).Nodup)
    (exactly : ∀ sp ∈ sender.streams, ReportsExactly sp)
    : ∃ reader', deliverResults cjsonText output sender reader = some reader'
      ∧ Taken (CarriesReport sender) sender.streams reader.streams reader'.streams := by
  have writable := writable_sendResults sends
  refine deliverResults_used (parse_sendResults sends) (reproduced_transferred writable) ids
    distinct fun items found _ => ?_
  have listed : (resultEntries sender output).lookup .streams
      = some (some (.array (sender.streams.map (sendStreamResult sender)))) := by
    cases output <;> rfl
  have names : ∀ member ∈ OptionalMembers.present (resultEntries sender output),
      Canonical member.1 := by
    rw [sendResults] at writable
    cases writable with
    | object names _ => exact names
  have arrived := getObjectItem_transferred names .streams
  rw [← sendResults, found, getObjectItem_sendResults listed, Option.map_some, transferred, itemOf,
    readBack, documentOf, transferred_items, List.map_map] at arrived
  obtain rfl := CJson.array.inj (Option.some.inj arrived)
  rw [List.forall₂_map_right_iff, List.forall₂_same]
  exact fun sp member => readPeerResult_transferred (sends.jitter sp member) (exactly sp member)

/-- The two ends of one stream before (`snd`, `rcv`) and after (`snd'`, `rcv'`) the exchange, with
the test of the sending end: besides the counters each end has the other one's jitter,
retransmits and duration, as far as a text carries them.
-/
structure Reported (test : Test) (snd snd' rcv rcv' : Stream) : Prop where
  agreement : Agreement snd snd' rcv rcv'
  jitter : snd'.jitter = arriving rcv.jitter
  ownJitter : rcv'.jitter = rcv.jitter
  retransmits : rcv'.result.streamRetrans = (reportedRetransmits test snd).toInt64
  ownRetransmits : snd'.result.streamRetrans = snd.result.streamRetrans
  receiverTime : snd'.result.receiverTime = arriving (lasted rcv)
  senderTime : rcv'.result.senderTime = arriving (lasted snd)

/-- Both ends have each other's report when each took over what the other one reported, which it
may have done after it took over the first report.
-/
theorem reported_of_carries {sender receiver : Test} {snd rcv sndReport rcvReport : Stream}
    {sndPeer rcvPeer : PeerResult} (sends : snd.sender = true) (receives : rcv.sender = false)
    (fromRcv : CarriesReport receiver rcvReport sndPeer)
    (fromSnd : CarriesReport sender sndReport rcvPeer)
    (rcvSame : rcvReport = rcv ∨ ∃ peer, rcvReport = takePeerResult peer rcv)
    (sndSame : sndReport = snd ∨ ∃ peer, sndReport = takePeerResult peer snd)
    : Reported sender snd (takePeerResult sndPeer snd) rcv (takePeerResult rcvPeer rcv) := by
  have agreement := agreement_of_carries sends receives fromRcv.counters fromSnd.counters rcvSame
    sndSame
  have isSender (peer : PeerResult) : takePeerResult peer snd = senderTakes peer snd := by
    rw [takePeerResult, if_pos sends]
  have isReceiver (peer : PeerResult) : takePeerResult peer rcv = receiverTakes peer rcv := by
    simp [takePeerResult, receives]
  have rcvReports : rcvReport.jitter = rcv.jitter ∧ lasted rcvReport = lasted rcv := by
    rcases rcvSame with rfl | ⟨peer, rfl⟩
    · exact ⟨rfl, rfl⟩
    · rw [isReceiver]
      exact ⟨rfl, rfl⟩
  have sndReports : reportedRetransmits sender sndReport = reportedRetransmits sender snd
      ∧ lasted sndReport = lasted snd := by
    rcases sndSame with rfl | ⟨peer, rfl⟩
    · exact ⟨rfl, rfl⟩
    · rw [isSender]
      exact ⟨rfl, rfl⟩
  rw [isSender, isReceiver] at agreement ⊢
  refine ⟨agreement, ?_, rfl, ?_, rfl, ?_, ?_⟩
  · exact fromRcv.jitter.trans (congrArg arriving rcvReports.1)
  · exact congrArg Int32.toInt64 (fromSnd.retransmits.trans sndReports.1)
  · exact (congrArg (·.getD 0) fromRcv.duration).trans (congrArg arriving rcvReports.2)
  · exact (congrArg (·.getD 0) fromSnd.duration).trans (congrArg arriving sndReports.2)

/-- Both ends complete the exchange of results through the texts that cJSON prints, the two ends
of every stream have each other's report, and both could send their results again.
-/
theorem resultTexts_exchanged {client server : Test}
    (paired : PairedStreams client.streams server.streams)
    (clientSmall : ∀ sp ∈ client.streams, SmallCounters sp)
    (serverSmall : ∀ sp ∈ server.streams, SmallCounters sp)
    (clientSends : SendsResults client output) (serverSends : SendsResults server output)
    : ∃ client' server',
        iperfExchangeResults cjsonText output client server = some (client', server')
        ∧ (∀ (i : Nat) (c s : Stream), client.streams[i]? = some c → server.streams[i]? = some s
          → ∃ c' s', client'.streams[i]? = some c' ∧ server'.streams[i]? = some s'
              ∧ (c.sender = true → Reported client c c' s s')
              ∧ (c.sender = false → Reported server' s s' c c'))
        ∧ SendsResults client' output ∧ SendsResults server' output := by
  have clientExactly := fun sp member => (clientSmall sp member).reportsExactly
  have serverExactly := fun sp member => (serverSmall sp member).reportsExactly
  obtain ⟨server', read, serverTook⟩ :=
    deliverResults_reports clientSends paired.ids.symm (paired.ids ▸ paired.distinct) clientExactly
  have serverSends' := clientSends.deliver serverSends read
  obtain ⟨client', answered, clientTook⟩ :=
    deliverResults_reports serverSends' (paired.ids.trans serverTook.ids.symm) paired.distinct
      (serverTook.exactly (fun _ _ carried => carried.counters) clientExactly serverExactly)
  refine ⟨client', server', ?_, ?_, serverSends'.deliver clientSends answered, serverSends'⟩
  · simp only [iperfExchangeResults, read, answered, Option.bind_eq_bind, Option.bind_some]
    rfl
  · intro i c s clientAt serverAt
    have opposite := paired.getElem? clientAt serverAt
    obtain ⟨serverPeer, fromClient, serverNext⟩ := serverTook.getElem? clientAt serverAt
    obtain ⟨clientPeer, fromServer, clientNext⟩ := clientTook.getElem? serverNext clientAt
    refine ⟨_, _, clientNext, serverNext, fun sends => ?_, fun receives => ?_⟩
    · exact reported_of_carries sends (by simp [opposite, sends]) fromServer fromClient
        (.inr ⟨serverPeer, rfl⟩) (.inl rfl)
    · exact reported_of_carries (by simp [opposite, receives]) receives fromClient fromServer
        (.inl rfl) (.inr ⟨serverPeer, rfl⟩)

theorem losslessEnd_sends (role : Role) (first : Bool)
    : SendsResults (losslessEnd role first) (.text "") := by
  have zero : Survives 0 := survives_of_abs_le (by norm_num)
  exact {
    cpuTotal := zero
    cpuUser := zero
    cpuSystem := zero
    jitter := by
      cases first <;> simp only [losslessEnd, List.forall_mem_cons, List.not_mem_nil,
        false_implies, implies_true, and_true] <;> exact ⟨zero, zero⟩
    congestionUsed := fun _ none_ => by cases none_
    serverOutput := .string fun c member => by
      cases member
    shallow := by decide
  }

/-- A bidirectional test without loss, its second stream from the server to the client. -/
theorem resultTexts_exchanged_lossless
    : ∃ client' server' c' s',
        iperfExchangeResults cjsonText (.text "") (losslessEnd .client true)
            (losslessEnd .server false)
          = some (client', server')
        ∧ client'.streams[1]? = some c' ∧ server'.streams[1]? = some s'
        ∧ c'.result.bytesReceived = 200 ∧ c'.result.bytesSent = 200 ∧ s'.result.bytesReceived = 200
        ∧ s'.jitter = arriving 0 := by
  have paired : PairedStreams (losslessEnd .client true).streams
      (losslessEnd .server false).streams :=
    ⟨rfl, by decide, rfl⟩
  obtain ⟨client', server', completed, reported, -, -⟩ :=
    resultTexts_exchanged paired (losslessEnd_small .client true)
      (losslessEnd_small .server false) (losslessEnd_sends .client true)
      (losslessEnd_sends .server false)
  obtain ⟨c', s', clientAt, serverAt, -, receives⟩ := reported 1 _ _ rfl rfl
  have back := receives rfl
  exact ⟨client', server', c', s', completed, clientAt, serverAt, back.agreement.ownBytesReceived,
    back.agreement.bytesSent, back.agreement.bytesReceived, back.jitter⟩

end Iperf.Cjson
