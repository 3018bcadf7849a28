import Iperf.Results.Agreement

/-! Which documents `get_results` accepts: elements are checked and applied one at a time, and
nothing looks for streams that are missing or named twice.
-/

namespace Iperf

open CJson

-----------------------------------------------------------------------------------------
-- Complete documents
-----------------------------------------------------------------------------------------

/-- The members of a document besides the elements of its `streams` array. -/
structure TopLevel (json : CJson) (items : List CJson) : Prop where
  cpuUtilTotal : (json.getObjectItemType .cpuUtilTotal .number).isSome
  cpuUtilUser : (json.getObjectItemType .cpuUtilUser .number).isSome
  cpuUtilSystem : (json.getObjectItemType .cpuUtilSystem .number).isSome
  senderHasRetransmits : (json.getObjectItemType .senderHasRetransmits .number).isSome
  streams : json.getObjectItemType .streams .array = some (.array items)

theorem TopLevel.unique {json : CJson} {items items' : List CJson}
    (one : TopLevel json items) (other : TopLevel json items')
    : items = items' := by
  have same := one.streams.symm.trans other.streams
  simpa using same

/-- An element has all its fields and names a stream. -/
def Usable (streams : List Stream) (item : CJson) : Prop :=
  ∃ sid peer, readPeerResult item = some (sid, peer) ∧ sid ∈ streams.map Stream.id

/-- The fields of the elements that name the stream with an id. -/
def elementsFor (items : List CJson) (id : Int32) : List PeerResult :=
  items.filterMap fun item =>
    match readPeerResult item with
    | some (sid, peer) => if sid = id then some peer else none
    | none => none

/-- Every element can be used, and every stream is named exactly once. -/
structure CompleteResults (streams : List Stream) (json : CJson) (items : List CJson)
    : Prop where
  topLevel : TopLevel json items
  usable : ∀ item ∈ items, Usable streams item
  once : ∀ sp ∈ streams, (elementsFor items sp.id).length = 1

/-- A sending stream has the values of an element. -/
structure SenderHolds (peer : PeerResult) (sp : Stream) : Prop where
  jitter : sp.jitter = peer.jitter
  cntError : sp.cntError = peer.cerror
  peerPacketCount : sp.peerPacketCount = peer.pcount
  bytesReceived : sp.result.bytesReceived = peer.bytesTransferred
  receiverTime : sp.result.receiverTime = peer.duration.getD 0
  omitted : ∀ cerror pcount, peer.omitted = some (cerror, pcount) →
    sp.omittedCntError = cerror ∧ sp.peerOmittedPacketCount = pcount
  unknown : peer.omitted = none →
    sp.peerOmittedPacketCount = sp.omittedPacketCount
    ∧ sp.omittedCntError = if sp.omittedPacketCount > 0 then (if peer.cerror > 0 then -1 else 0)
      else peer.cerror

/-- A receiving stream has the values of an element. -/
structure ReceiverHolds (peer : PeerResult) (sp : Stream) : Prop where
  peerPacketCount : sp.peerPacketCount = peer.pcount
  bytesSent : sp.result.bytesSent = peer.bytesTransferred
  streamRetrans : sp.result.streamRetrans = peer.retransmits.toInt64
  senderTime : sp.result.senderTime = peer.duration.getD 0
  omitted : sp.peerOmittedPacketCount = (peer.omitted.map Prod.snd).getD peer.pcount

/-- A stream has the values of an element. -/
def HoldsResult (peer : PeerResult) (sp : Stream) : Prop :=
  if sp.sender then SenderHolds peer sp else ReceiverHolds peer sp

/-- What a stream takes over it has afterwards. -/
theorem holdsResult_take (peer : PeerResult) (sp : Stream)
    : HoldsResult peer (takePeerResult peer sp) := by
  unfold HoldsResult
  rw [takePeerResult_sender]
  unfold takePeerResult
  split
  · refine ⟨rfl, rfl, rfl, rfl, rfl, fun cerror pcount known => ?_, fun unknown => ?_⟩
    · simp [senderTakes, known]
    · simp [senderTakes, unknown]
  · refine ⟨rfl, rfl, rfl, rfl, ?_⟩
    unfold receiverTakes
    cases peer.omitted <;> rfl

/-- A stream that has the values already does not change. -/
theorem senderTakes_eq_self {peer : PeerResult} {sp : Stream} (holds : SenderHolds peer sp)
    : senderTakes peer sp = sp := by
  obtain ⟨jitter, cntError, peerPacketCount, bytesReceived, receiverTime, omitted, unknown⟩ :=
    holds
  rcases sp with ⟨⟩
  rename_i result
  rcases result with ⟨⟩
  cases known : peer.omitted with
  | some counts =>
      obtain ⟨first, second⟩ := omitted counts.1 counts.2 known
      simp_all [senderTakes]
  | none =>
      obtain ⟨first, second⟩ := unknown known
      simp_all [senderTakes]

theorem receiverTakes_eq_self {peer : PeerResult} {sp : Stream} (holds : ReceiverHolds peer sp)
    : receiverTakes peer sp = sp := by
  obtain ⟨peerPacketCount, bytesSent, streamRetrans, senderTime, omitted⟩ := holds
  rcases sp with ⟨⟩
  rename_i result
  rcases result with ⟨⟩
  cases known : peer.omitted <;> simp_all [receiverTakes]

theorem takePeerResult_eq_self_iff (peer : PeerResult) (sp : Stream)
    : takePeerResult peer sp = sp ↔ HoldsResult peer sp := by
  constructor
  · intro same
    rw [← same]
    exact holdsResult_take peer sp
  · intro holds
    unfold HoldsResult at holds
    unfold takePeerResult
    split_ifs at holds ⊢
    · exact senderTakes_eq_self holds
    · exact receiverTakes_eq_self holds

-----------------------------------------------------------------------------------------
-- The loop over the elements
-----------------------------------------------------------------------------------------

/-- A stream takes over the values of the last element that names it. -/
def lastTaken (items : List CJson) (sp : Stream) : Stream :=
  match (elementsFor items sp.id).getLast? with
  | some peer => takePeerResult peer sp
  | none => sp

theorem lastTaken_id (items : List CJson) (sp : Stream) : (lastTaken items sp).id = sp.id := by
  unfold lastTaken
  split
  · exact takePeerResult_id _ sp
  · rfl

/-- Of two elements for a stream the second prevails. -/
theorem takePeerResult_take (peer earlier : PeerResult) (sp : Stream)
    : takePeerResult peer (takePeerResult earlier sp) = takePeerResult peer sp := by
  by_cases sender : sp.sender
  · have again : (senderTakes earlier sp).sender := sender
    simp only [takePeerResult, if_pos sender, if_pos again]
    rfl
  · have again : ¬ (receiverTakes earlier sp).sender := sender
    simp only [takePeerResult, if_neg sender, if_neg again]
    rfl

theorem elementsFor_append (items : List CJson) (item : CJson) (id : Int32)
    : elementsFor (items ++ [item]) id = elementsFor items id ++ elementsFor [item] id := by
  simp [elementsFor]

theorem elementsFor_unread {item : CJson} (unread : readPeerResult item = none) (id : Int32)
    : elementsFor [item] id = [] := by
  simp [elementsFor, unread]

theorem elementsFor_read {item : CJson} {sid : Int32} {peer : PeerResult}
    (read : readPeerResult item = some (sid, peer)) (id : Int32)
    : elementsFor [item] id = if sid = id then [peer] else [] := by
  simp only [elementsFor, List.filterMap_cons, read, List.filterMap_nil]
  split_ifs <;> rfl

/-- What one more element changes. -/
theorem lastTaken_append_unread {item : CJson} (unread : readPeerResult item = none)
    (items : List CJson) (sp : Stream)
    : lastTaken (items ++ [item]) sp = lastTaken items sp := by
  simp only [lastTaken, elementsFor_append, elementsFor_unread unread, List.append_nil]

theorem lastTaken_append_read {item : CJson} {sid : Int32} {peer : PeerResult}
    (read : readPeerResult item = some (sid, peer)) (items : List CJson) (sp : Stream)
    : lastTaken (items ++ [item]) sp
      = if sp.id = sid then takePeerResult peer (lastTaken items sp) else lastTaken items sp := by
  simp only [lastTaken, elementsFor_append, elementsFor_read read]
  by_cases named : sid = sp.id
  · rw [if_pos named, if_pos named.symm, List.getLast?_concat]
    dsimp only
    split
    · rw [takePeerResult_take]
    · rfl
  · have other : ¬ sp.id = sid := fun same => named same.symm
    rw [if_neg named, if_neg other, List.append_nil]

/-- The loop over the array updates each stream by the last element that names it, and sets the
error when an element cannot be used. Witness: induction on the array, from its last element.
-/
theorem foldl_getStreamResult_lastTaken (items : List CJson) {streams : List Stream}
    (distinct : (streams.map Stream.id).Nodup)
    : (items.foldl getStreamResult (none, streams)).2 = streams.map (lastTaken items)
      ∧ ((items.foldl getStreamResult (none, streams)).1 = none
        ↔ ∀ item ∈ items, Usable streams item) := by
  induction items using List.reverseRecOn with
  | nil =>
      have unchanged : streams.map (lastTaken []) = streams := by
        have same : ∀ sp ∈ streams, lastTaken [] sp = id sp := fun sp _ => rfl
        rw [List.map_congr_left same, List.map_id]
      simp [unchanged]
  | append_singleton items item ih =>
      obtain ⟨updated, accepted⟩ := ih
      simp only [List.foldl_append, List.foldl_cons, List.foldl_nil, List.forall_mem_append,
        List.forall_mem_singleton]
      generalize items.foldl getStreamResult (none, streams) = state at *
      obtain ⟨error, current⟩ := state
      simp only at updated accepted
      have ids : current.map Stream.id = streams.map Stream.id := by
        rw [updated, List.map_map]
        exact List.map_congr_left fun sp _ => lastTaken_id items sp
      cases read : readPeerResult item with
      | none =>
          have unusable : ¬ Usable streams item := by
            rintro ⟨sid, peer, found, -⟩
            rw [read] at found
            cases found
          have same := List.map_congr_left fun sp (_ : sp ∈ streams) =>
            lastTaken_append_unread read items sp
          simp [getStreamResult, read, updated, same, unusable]
      | some element =>
          obtain ⟨sid, peer⟩ := element
          have usable : Usable streams item ↔ sid ∈ streams.map Stream.id := by
            constructor
            · rintro ⟨sid', peer', found, named⟩
              rw [read] at found
              obtain ⟨rfl, rfl⟩ := Prod.mk.inj (Option.some.inj found)
              exact named
            · exact fun named => ⟨sid, peer, read, named⟩
          have step : KeyedUpdate.updateFirst Stream.id sid (takePeerResult peer) current = _ :=
            KeyedUpdate.updateFirst_eq_map (ids ▸ distinct)
          have same := List.map_congr_left fun sp (_ : sp ∈ streams) =>
            lastTaken_append_read read items sp
          by_cases named : sid ∈ streams.map Stream.id
          · rw [if_pos (ids ▸ named)] at step
            simp only [getStreamResult, read, step, usable, named, and_true]
            refine ⟨?_, accepted⟩
            rw [updated, List.map_map, same]
            refine List.map_congr_left fun sp _ => ?_
            simp only [Function.comp_apply, lastTaken_id]
          · rw [if_neg (ids ▸ named)] at step
            simp only [getStreamResult, read, step, usable, named, and_false, iff_false]
            refine ⟨?_, by simp⟩
            rw [updated, same]
            refine List.map_congr_left fun sp member => ?_
            have other : ¬ sp.id = sid := fun is => named (is ▸ List.mem_map_of_mem member)
            rw [if_neg other]

-----------------------------------------------------------------------------------------
-- Which documents are accepted
-----------------------------------------------------------------------------------------

/-- A document that lacks a top-level member is refused and no stream changes. -/
theorem getResults_incomplete {json : CJson} (test : Test)
    (incomplete : ¬ ∃ items, TopLevel json items)
    : (getResults test json).1 = some .ierecvresults
      ∧ (getResults test json).2.streams = test.streams := by
  unfold getResults
  split
  · rename_i total user system retransmits foundTotal foundUser foundSystem foundRetransmits
    dsimp only
    split
    · rename_i items found
      refine absurd ⟨items, ?_⟩ incomplete
      exact {
        cpuUtilTotal := by simp [foundTotal]
        cpuUtilUser := by simp [foundUser]
        cpuUtilSystem := by simp [foundSystem]
        senderHasRetransmits := by simp [foundRetransmits]
        streams := found
      }
    · exact ⟨rfl, takePeerTest_streams test json _ _⟩
  · split <;> exact ⟨rfl, rfl⟩

/-- Otherwise the elements decide. -/
theorem getResults_topLevel {json : CJson} {items : List CJson} {test : Test}
    (topLevel : TopLevel json items) (distinct : (test.streams.map Stream.id).Nodup)
    : (getResults test json).2.streams = test.streams.map (lastTaken items)
      ∧ ((getResults test json).1 = none ↔ ∀ item ∈ items, Usable test.streams item) := by
  obtain ⟨total, foundTotal⟩ := Option.isSome_iff_exists.mp topLevel.cpuUtilTotal
  obtain ⟨user, foundUser⟩ := Option.isSome_iff_exists.mp topLevel.cpuUtilUser
  obtain ⟨system, foundSystem⟩ := Option.isSome_iff_exists.mp topLevel.cpuUtilSystem
  obtain ⟨retransmits, foundRetransmits⟩ :=
    Option.isSome_iff_exists.mp topLevel.senderHasRetransmits
  have loop := foldl_getStreamResult_lastTaken items distinct
  simpa only [getResults, foundTotal, foundUser, foundSystem, foundRetransmits,
    topLevel.streams, takePeerTest_streams] using loop

/-- `get_results` returns 0 with every stream holding the one element that names it, or it
returns an error, the document was not complete, and no stream changed.
-/
def AcceptsExactly (test : Test) (json : CJson) : Prop :=
  ((getResults test json).1 = none
    ∧ ∃ items, CompleteResults test.streams json items
      ∧ List.Forall₂ (fun sp sp' => ∃ peer, elementsFor items sp.id = [peer] ∧ HoldsResult peer sp')
        test.streams (getResults test json).2.streams)
  ∨ ((getResults test json).1 ≠ none
    ∧ (¬ ∃ items, CompleteResults test.streams json items)
    ∧ (getResults test json).2.streams = test.streams)

/-- No stream changes exactly when each has the values of the last element that names it. -/
theorem map_lastTaken_eq_self_iff (items : List CJson) (streams : List Stream)
    : streams.map (lastTaken items) = streams
      ↔ ∀ sp ∈ streams, ∀ peer ∈ (elementsFor items sp.id).getLast?, HoldsResult peer sp := by
  have each : ∀ sp, lastTaken items sp = sp
      ↔ ∀ peer ∈ (elementsFor items sp.id).getLast?, HoldsResult peer sp := by
    intro sp
    unfold lastTaken
    cases (elementsFor items sp.id).getLast? with
    | none => simp
    | some peer => simp [takePeerResult_eq_self_iff]
  have identity := List.map_inj_left (l := streams) (f := lastTaken items) (g := id)
  rw [List.map_id] at identity
  simp only [identity, id_eq, each]

/-- The documents that are handled as they should be: those without a top-level member, the
complete ones, and those with an unusable element where every stream that is named holds the
values of the last element naming it already.
-/
theorem getResults_accepts_exactly_iff (test : Test) (json : CJson)
    (distinct : (test.streams.map Stream.id).Nodup)
    : AcceptsExactly test json
      ↔ ∀ items, TopLevel json items →
        CompleteResults test.streams json items
        ∨ ((∃ item ∈ items, ¬ Usable test.streams item)
          ∧ ∀ sp ∈ test.streams, ∀ peer ∈ (elementsFor items sp.id).getLast?,
            HoldsResult peer sp) := by
  constructor
  · rintro (⟨accepted, items', complete, -⟩ | ⟨refused, incomplete, unchanged⟩) items topLevel
    · obtain rfl := topLevel.unique complete.topLevel
      exact .inl complete
    · obtain ⟨streams, error⟩ := getResults_topLevel topLevel distinct
      refine .inr ⟨?_, ?_⟩
      · by_contra usable
        push Not at usable
        exact refused (error.mpr usable)
      · rw [← map_lastTaken_eq_self_iff, ← streams]
        exact unchanged
  · intro handled
    by_cases present : ∃ items, TopLevel json items
    · obtain ⟨items, topLevel⟩ := present
      obtain ⟨streams, error⟩ := getResults_topLevel topLevel distinct
      rcases handled items topLevel with complete | ⟨⟨item, member, unusable⟩, holds⟩
      · refine .inl ⟨error.mpr complete.usable, items, complete, ?_⟩
        rw [streams, List.forall₂_map_right_iff, List.forall₂_same]
        intro sp member
        obtain ⟨peer, named⟩ := List.length_eq_one_iff.mp (complete.once sp member)
        refine ⟨peer, named, ?_⟩
        simp only [lastTaken, named, List.getLast?_singleton]
        exact holdsResult_take peer sp
      · refine .inr ⟨fun accepted => unusable (error.mp accepted item member), ?_, ?_⟩
        · rintro ⟨items', complete⟩
          obtain rfl := topLevel.unique complete.topLevel
          exact unusable (complete.usable item member)
        · rw [streams]
          exact (map_lastTaken_eq_self_iff items test.streams).mpr holds
    · obtain ⟨error, streams⟩ := getResults_incomplete test present
      refine .inr ⟨by simp [error], ?_, streams⟩
      rintro ⟨items, complete⟩
      exact present ⟨items, complete.topLevel⟩

/-- An element with all its fields for the stream with id `1`. -/
def sampleElement : CJson :=
  .object [(.id, .number 1), (.bytes, .number 5), (.retransmits, .number 0),
    (.jitter, .number 0), (.errors, .number 0), (.packets, .number 0)]

/-- The members of a document around the elements of its array. -/
def sampleResults (items : List CJson) : CJson :=
  .object [(.cpuUtilTotal, .number 0), (.cpuUtilUser, .number 0), (.cpuUtilSystem, .number 0),
    (.senderHasRetransmits, .number 0), (.streams, .array items)]

theorem sampleResults_topLevel (items : List CJson) : TopLevel (sampleResults items) items :=
  ⟨rfl, rfl, rfl, rfl, rfl⟩

/-- A test with one receiving stream. -/
def sampleReader : Test :=
  {
    streams := [{
      socket := 5
      id := 1
      sender := false
    }]
  }

theorem getResults_accepts_sample
    : (sampleReader.streams.map Stream.id).Nodup
      ∧ AcceptsExactly sampleReader (sampleResults [sampleElement]) := by
  have distinct : (sampleReader.streams.map Stream.id).Nodup := by decide
  refine ⟨distinct, (getResults_accepts_exactly_iff _ _ distinct).mpr ?_⟩
  intro items topLevel
  obtain rfl := (sampleResults_topLevel _).unique topLevel
  refine .inl ⟨topLevel, ?_, ?_⟩
  · intro item member
    obtain rfl := List.mem_singleton.mp member
    exact ⟨_, _, rfl, by decide⟩
  · intro sp member
    obtain rfl := List.mem_singleton.mp member
    rfl

/-- Without an element for its stream the document is accepted all the same. -/
theorem getResults_accepts_missing_stream
    : (getResults sampleReader (sampleResults [])).1 = none
      ∧ ¬ AcceptsExactly sampleReader (sampleResults []) := by
  refine ⟨rfl, ?_⟩
  rintro (⟨-, items, complete, -⟩ | ⟨refused, -, -⟩)
  · obtain rfl := (sampleResults_topLevel _).unique complete.topLevel
    have once := complete.once _ (List.mem_singleton_self _)
    cases once
  · exact refused rfl

end Iperf
