import Iperf.Library.Tiling
import Iperf.Stats.Workers

/-! The intervals that are recorded after the omit period, against the period that the final
summary measures.
-/

namespace Iperf

open Tiling

-----------------------------------------------------------------------------------------
-- Runs
-----------------------------------------------------------------------------------------

/-- A call of a worker, or the statistics at any time. -/
inductive StatsEvent where
  | receive (position : Nat) (arrivalTime : IperfTime) (results : List RecvResult)
  | send (position : Nat) (before : IperfTime) (io : SendIo)
  | stats (now : IperfTime)

/-- One event, taken as atomic; a call that blocks changes nothing. -/
def Test.account (test : Test) : StatsEvent → Test
  | .receive position arrivalTime results =>
      ((iperfRecvMt test position arrivalTime results).map Prod.snd).getD test
  | .send position before io => ((iperfSendMt test position before io).map Prod.snd).getD test
  | .stats now => iperfStatsCallback test now

/-- A test, and all intervals that were recorded for one of its streams since the log began.
The stream itself keeps only the last.
-/
structure Logged where
  test : Test
  records : List IntervalResults := []

/-- The record that an event adds for the stream at the position. -/
def addedRecord (position : Nat) (next : Test) : StatsEvent → List IntervalResults
  | .stats _ =>
      (next.streams[position]?.bind fun sp => sp.result.intervalResults.getLast?).toList
  | _ => []

def Logged.step (position : Nat) (logged : Logged) (event : StatsEvent) : Logged :=
  let next := logged.test.account event
  { test := next, records := logged.records ++ addedRecord position next event }

-----------------------------------------------------------------------------------------
-- What the records should say
-----------------------------------------------------------------------------------------

/-- The counters of UDP packets that a stream keeps, with their values at the end of the omit
period, and that every record keeps twice.
-/
inductive PacketCounter where
  | packets
  | outoforder
  | errors

namespace PacketCounter

def current : PacketCounter → Stream → Int64
  | packets, sp => sp.packetCount
  | outoforder, sp => sp.outoforderPackets
  | errors, sp => sp.cntError

def omitted : PacketCounter → Stream → Int64
  | packets, sp => sp.omittedPacketCount
  | outoforder, sp => sp.omittedOutoforderPackets
  | errors, sp => sp.omittedCntError

def atEnd : PacketCounter → UdpInterval → Int64
  | packets, interval => interval.packetCount
  | outoforder, interval => interval.outoforderPackets
  | errors, interval => interval.cntError

def ofInterval : PacketCounter → UdpInterval → Int64
  | packets, interval => interval.intervalPacketCount
  | outoforder, interval => interval.intervalOutoforderPackets
  | errors, interval => interval.intervalCntError

/-- The packets of one record. -/
def recorded (counter : PacketCounter) (record : IntervalResults) : Int64 :=
  (record.udp.map counter.ofInterval).getD 0

/-- The counter at the end of the last record, and zero before the first. -/
def lastRecorded (counter : PacketCounter) (sp : Stream) : Int64 :=
  ((sp.result.intervalResults.getLast?.bind IntervalResults.udp).map counter.atEnd).getD 0

end PacketCounter

/-- The bytes of a stream since the end of the omit period. -/
def Stream.measuredBytes (sp : Stream) : UInt64 :=
  if sp.sender then sp.result.bytesSent - sp.result.bytesSentOmit else sp.result.bytesReceived

/-- The records of a stream are exactly about the measured period. Only UDP counts packets. -/
structure Describes (test : Test) (sp : Stream) (records : List IntervalResults) : Prop where
  tiles : Tiles IntervalResults.intervalStartTime IntervalResults.intervalEndTime
    sp.result.startTime sp.result.endTime records
  bytes : (records.map IntervalResults.bytesTransferred).sum = sp.measuredBytes
  packets : test.protocol ≠ .tcp → ∀ counter : PacketCounter,
    (records.map counter.recorded).sum = counter.current sp - counter.omitted sp

/-- The reset finds no interval begun: no statistics were taken yet or they were taken just now,
and no packet was counted since, or at all when none were taken.
-/
structure CleanReset (test : Test) (now : IperfTime) (sp : Stream) : Prop where
  time : sp.result.intervalResults = [] ∨ sp.result.endTime = now
  packets : test.protocol ≠ .tcp → ∀ counter : PacketCounter,
    counter.lastRecorded sp = counter.current sp

-----------------------------------------------------------------------------------------
-- One event
-----------------------------------------------------------------------------------------

/-- Where the next record of a stream will begin. -/
def Stream.boundary (sp : Stream) : IperfTime :=
  if sp.result.intervalResults = [] then sp.result.startTime else sp.result.endTime

/-- The bytes of the interval that is not recorded yet. -/
def Stream.pendingBytes (sp : Stream) : UInt64 :=
  if sp.sender then sp.result.bytesSentThisInterval else sp.result.bytesReceivedThisInterval

/-- The records since a stream was `first`: what they describe goes on from where it was. -/
structure Recorded (test : Test) (first sp : Stream) (records : List IntervalResults)
    : Prop where
  startTime : sp.result.startTime = first.result.startTime
  tiles : Tiles IntervalResults.intervalStartTime IntervalResults.intervalEndTime
    first.boundary sp.boundary records
  bytes : (records.map IntervalResults.bytesTransferred).sum + sp.pendingBytes
    = sp.measuredBytes
  omitted : ∀ counter : PacketCounter, counter.omitted sp = counter.omitted first
  packets : test.protocol ≠ .tcp → ∀ counter : PacketCounter,
    (records.map counter.recorded).sum = counter.lastRecorded sp - counter.lastRecorded first

variable {test next : Test} {first sp sp' : Stream} {records : List IntervalResults}

/-- A worker adds the same to the bytes of the interval and to those of the stream. -/
theorem Recorded.transfer (recorded : Recorded test first sp records)
    (same : SameBaseline sp sp') (protocol : next.protocol = test.protocol)
    (result : (∃ size, sp'.result = sp.result.receive size)
      ∨ ∃ size, sp'.result = sp.result.send size)
    : Recorded next first sp' records := by
  have counters (counter : PacketCounter) : counter.omitted sp' = counter.omitted sp := by
    cases counter with
    | packets => exact same.omittedPacketCount
    | outoforder => exact same.omittedOutoforderPackets
    | errors => exact same.omittedCntError
  have bytes := recorded.bytes
  have kept : sp'.result.intervalResults = sp.result.intervalResults
      ∧ sp'.result.startTime = sp.result.startTime ∧ sp'.result.endTime = sp.result.endTime := by
    rcases result with ⟨size, result⟩ | ⟨size, result⟩ <;> rw [result] <;> exact ⟨rfl, rfl, rfl⟩
  obtain ⟨intervals, startTime, endTime⟩ := kept
  have boundary : sp'.boundary = sp.boundary := by
    rw [Stream.boundary, Stream.boundary, intervals, startTime, endTime]
  refine ⟨startTime.trans recorded.startTime, boundary ▸ recorded.tiles, ?_,
    fun counter => (counters counter).trans (recorded.omitted counter), ?_⟩
  · simp only [Stream.pendingBytes, Stream.measuredBytes, same.sender] at bytes ⊢
    rcases result with ⟨size, result⟩ | ⟨size, result⟩ <;> rw [result]
    · cases isSender : sp.sender with
      | true => simpa [isSender, StreamResult.receive] using bytes
      | false =>
          simp only [isSender, Bool.false_eq_true, if_false, StreamResult.receive] at bytes ⊢
          rw [← bytes, UInt64.add_assoc]
    · cases isSender : sp.sender with
      | true =>
          simp only [isSender, if_true, StreamResult.send] at bytes ⊢
          rw [← UInt64.add_assoc, bytes, UInt64.sub_eq_add_neg, UInt64.sub_eq_add_neg]
          ac_rfl
      | false => simpa [isSender, StreamResult.send] using bytes
  · intro udp counter
    rw [recorded.packets (protocol ▸ udp) counter, PacketCounter.lastRecorded,
      PacketCounter.lastRecorded, PacketCounter.lastRecorded, intervals]

theorem closeInterval_intervals (test : Test) (now : IperfTime) (sp : Stream)
    : (closeInterval test now sp).result.intervalResults
      = sp.result.intervalResults.dropLast ++ [intervalRecord test now sp] := rfl

theorem closeInterval_getLast (test : Test) (now : IperfTime) (sp : Stream)
    : (closeInterval test now sp).result.intervalResults.getLast?
      = some (intervalRecord test now sp) := by
  rw [closeInterval_intervals, List.getLast?_concat]

theorem closeInterval_boundary (test : Test) (now : IperfTime) (sp : Stream)
    : (closeInterval test now sp).boundary = (closeInterval test now sp).result.endTime := by
  rw [Stream.boundary, closeInterval_intervals]
  exact if_neg (by simp)

theorem intervalRecord_start (test : Test) (now : IperfTime) (sp : Stream)
    : (intervalRecord test now sp).intervalStartTime = sp.boundary := by
  unfold intervalRecord Stream.boundary
  dsimp only
  cases intervals : sp.result.intervalResults with
  | nil => rfl
  | cons record rest => simp

/-- The packets of a record are those since the last one. -/
theorem intervalRecord_packets (udp : test.protocol ≠ .tcp) (now : IperfTime) (sp : Stream)
    (counter : PacketCounter)
    : counter.recorded (intervalRecord test now sp)
        = counter.current sp - counter.lastRecorded sp
      ∧ counter.lastRecorded (closeInterval test now sp) = counter.current sp := by
  have fields : (intervalRecord test now sp).udp
      = some (udpInterval sp sp.result.intervalResults.getLast?) := if_neg udp
  constructor
  · rw [PacketCounter.recorded, fields]
    cases counter <;> rfl
  · rw [PacketCounter.lastRecorded, closeInterval_getLast, Option.bind_some, fields]
    cases counter <;> rfl

/-- The statistics record the interval and begin the next one. -/
theorem Recorded.close (recorded : Recorded test first sp records)
    (protocol : next.protocol = test.protocol) (now : IperfTime)
    : Recorded next first (closeInterval test now sp)
      (records ++ [intervalRecord test now sp]) where
  startTime := recorded.startTime
  tiles := by
    rw [closeInterval_boundary]
    exact recorded.tiles.concat (intervalRecord_start test now sp)
  bytes := by
    have bytes := recorded.bytes
    have nothing : (closeInterval test now sp).pendingBytes = 0 := ite_self _
    have transferred : (intervalRecord test now sp).bytesTransferred = sp.pendingBytes := rfl
    have same : (closeInterval test now sp).measuredBytes = sp.measuredBytes := rfl
    rw [nothing, same, List.map_append, List.sum_append, List.map_singleton,
      List.sum_singleton, transferred, UInt64.add_zero]
    exact bytes
  omitted := by
    intro counter
    rw [← recorded.omitted counter]
    cases counter <;> rfl
  packets := by
    intro udp counter
    have udpToo : test.protocol ≠ .tcp := protocol ▸ udp
    obtain ⟨taken, last⟩ := intervalRecord_packets udpToo now sp counter
    rw [last, List.map_append, List.sum_append, List.map_singleton, List.sum_singleton, taken,
      recorded.packets udpToo counter]
    generalize counter.lastRecorded sp = a
    generalize counter.current sp = b
    generalize counter.lastRecorded first = c
    rw [Int64.sub_eq_add_neg, Int64.sub_eq_add_neg, Int64.sub_eq_add_neg, Int64.add_comm a,
      Int64.add_assoc, ← Int64.add_assoc a, Int64.add_comm a, Int64.add_assoc b,
      Int64.add_right_neg, Int64.add_zero, Int64.add_comm]

-----------------------------------------------------------------------------------------
-- Whole runs
-----------------------------------------------------------------------------------------

/-- The log of a stream says what was recorded since it was `first`. -/
def Logged.Sound (position : Nat) (first : Stream) (logged : Logged) : Prop :=
  ∃ sp, logged.test.streams[position]? = some sp
    ∧ Recorded logged.test first sp logged.records

variable {position : Nat} {logged : Logged}

theorem getElem?_set_cases {α : Type} {list : List α} {i j : Nat} {a b : α}
    (found : list[j]? = some a) (there : list[i]? = some b) (b' : α)
    : (i = j ∧ a = b ∧ (list.set i b')[j]? = some b') ∨ (list.set i b')[j]? = some a := by
  by_cases same : i = j
  · subst same
    have inside : i < list.length := (List.getElem?_eq_some_iff.mp found).1
    exact .inl ⟨rfl, Option.some.inj (found.symm.trans there), List.getElem?_set_self inside⟩
  · exact .inr ((List.getElem?_set_ne same).trans found)

theorem iperfStatsCallback_streams (test : Test) (now : IperfTime)
    : (iperfStatsCallback test now).streams = test.streams.map (closeInterval test now)
      ∧ (iperfStatsCallback test now).protocol = test.protocol := by
  obtain ⟨_, _, _, _, shape⟩ := iperfStatsCallback_shape test now
  rw [shape]
  exact ⟨rfl, rfl⟩

/-- The statistics log the record of the interval that they close. -/
theorem Logged.step_stats (found : logged.test.streams[position]? = some sp) (now : IperfTime)
    : (logged.step position (.stats now)).test.streams[position]?
        = some (closeInterval logged.test now sp)
      ∧ (logged.step position (.stats now)).records
        = logged.records ++ [intervalRecord logged.test now sp] := by
  have closed : (iperfStatsCallback logged.test now).streams[position]?
      = some (closeInterval logged.test now sp) := by
    rw [(iperfStatsCallback_streams logged.test now).1, List.getElem?_map, found,
      Option.map_some]
  refine ⟨closed, ?_⟩
  unfold Logged.step Test.account addedRecord
  dsimp only
  rw [closed, Option.bind_some, closeInterval_getLast]
  rfl

theorem Test.account_protocol (test : Test) (event : StatsEvent)
    : (test.account event).protocol = test.protocol := by
  cases event with
  | receive at' arrivalTime results =>
      unfold Test.account
      dsimp only
      cases called : iperfRecvMt test at' arrivalTime results with
      | none => rfl
      | some out =>
          obtain ⟨_, _, -, -, shape⟩ := iperfRecvMt_frame called
          rw [Option.map_some, Option.getD_some, shape]
  | send at' before io =>
      unfold Test.account
      dsimp only
      cases called : iperfSendMt test at' before io with
      | none => rfl
      | some out =>
          obtain ⟨_, _, _, shape⟩ := iperfSendMt_frame called
          rw [Option.map_some, Option.getD_some, shape]
  | stats now => exact (iperfStatsCallback_streams test now).2

/-- Every event keeps the log sound. -/
theorem Logged.Sound.step (sound : logged.Sound position first) (event : StatsEvent)
    : (logged.step position event).Sound position first := by
  obtain ⟨sp, found, recorded⟩ := sound
  have stays : Recorded logged.test first sp (logged.records ++ []) := by
    rwa [List.append_nil]
  cases event with
  | receive at' arrivalTime results =>
      unfold Logged.step Test.account addedRecord Logged.Sound
      dsimp only
      cases called : iperfRecvMt logged.test at' arrivalTime results with
      | none => exact ⟨sp, found, stays⟩
      | some out =>
          obtain ⟨worker, worker', there, got, shape⟩ := iperfRecvMt_frame called
          obtain ⟨same, result⟩ := protocolRecv_accounts got
          rw [Option.map_some, Option.getD_some, shape]
          rcases getElem?_set_cases found there worker' with ⟨rfl, rfl, now⟩ | other
          · exact ⟨worker', now, stays.transfer same rfl (.inl ⟨_, result⟩)⟩
          · exact ⟨sp, other, ⟨stays.startTime, stays.tiles, stays.bytes, stays.omitted,
              stays.packets⟩⟩
  | send at' before io =>
      unfold Logged.step Test.account addedRecord Logged.Sound
      dsimp only
      cases called : iperfSendMt logged.test at' before io with
      | none => exact ⟨sp, found, stays⟩
      | some out =>
          obtain ⟨worker, worker', sent, there, got, -, shape⟩ := iperfSendMt_accounts called
          obtain ⟨same, result⟩ := protocolSend_accounts got
          rw [Option.map_some, Option.getD_some, shape]
          rcases getElem?_set_cases found there worker' with ⟨rfl, rfl, now⟩ | other
          · exact ⟨worker', now, stays.transfer same rfl (.inr ⟨_, result⟩)⟩
          · exact ⟨sp, other, ⟨stays.startTime, stays.tiles, stays.bytes, stays.omitted,
              stays.packets⟩⟩
  | stats now =>
      obtain ⟨closed, logs⟩ := Logged.step_stats found now
      refine ⟨_, closed, ?_⟩
      rw [logs]
      exact recorded.close (logged.test.account_protocol (.stats now)) now

/-- By induction on the events. -/
theorem Logged.Sound.run (events : List StatsEvent) (sound : logged.Sound position first)
    : (events.foldl (Logged.step position) logged).Sound position first
      ∧ (events.foldl (Logged.step position) logged).test.protocol = logged.test.protocol := by
  induction events generalizing logged with
  | nil => exact ⟨sound, rfl⟩
  | cons event rest ih =>
      obtain ⟨sound, protocol⟩ := ih (sound.step event)
      exact ⟨sound, protocol.trans (logged.test.account_protocol event)⟩

/-- The log begins at the reset. -/
theorem Logged.Sound.ofReset (found : test.streams[position]? = some sp) (now : IperfTime)
    : Logged.Sound position (resetStreamStats now sp) { test := iperfResetStats test now } := by
  refine ⟨resetStreamStats now sp, ?_, rfl, rfl, ?_, fun _ => rfl, fun _ _ => ?_⟩
  · exact (List.getElem?_map).trans (by rw [found]; rfl)
  · have nothing : (resetStreamStats now sp).pendingBytes = 0 := ite_self _
    have measured : (resetStreamStats now sp).measuredBytes = 0 := by
      unfold Stream.measuredBytes resetStreamStats
      dsimp only
      rw [UInt64.sub_self, ite_self]
    rw [nothing, measured]
    rfl
  · rw [Int64.sub_self]
    rfl

/-- Right after the statistics, the records describe the measured period if and only if they
go on from where the measured period began.
-/
theorem Recorded.describes_iff (recorded : Recorded test first sp records)
    (nonempty : records ≠ []) (closed : sp.boundary = sp.result.endTime)
    (nothing : sp.pendingBytes = 0)
    (counted : test.protocol ≠ .tcp → ∀ counter : PacketCounter,
      counter.lastRecorded sp = counter.current sp)
    : Describes test sp records
      ↔ first.boundary = first.result.startTime
        ∧ (test.protocol ≠ .tcp → ∀ counter : PacketCounter,
          counter.lastRecorded first = counter.omitted first) := by
  have tiles := recorded.tiles
  have bytes := recorded.bytes
  rw [closed] at tiles
  rw [nothing, UInt64.add_zero] at bytes
  constructor
  · intro describes
    refine ⟨?_, fun udp counter => ?_⟩
    · rw [← recorded.startTime]
      exact Tiles.first_eq nonempty tiles describes.tiles
    · have total := describes.packets udp counter
      rw [recorded.packets udp counter, counted udp counter, recorded.omitted counter] at total
      exact (Int64.sub_right_inj _).mp total
  · rintro ⟨begins, counters⟩
    refine ⟨?_, bytes, fun udp counter => ?_⟩
    · rw [recorded.startTime, ← begins]
      exact tiles
    · rw [recorded.packets udp counter, counted udp counter, counters udp counter,
        recorded.omitted counter]

/-- The test and the log of a stream after the reset and some events. -/
def logAfterReset (position : Nat) (test : Test) (resetTime : IperfTime)
    (events : List StatsEvent)
    : Logged :=
  events.foldl (Logged.step position) { test := iperfResetStats test resetTime }

/-- A TCP test with one stream that sends. -/
def senderTest : Test := { streams := [{ socket := 5, sender := true }], state := .testRunning }

/-- After any reset, the intervals recorded until a last call of the statistics describe the
measured period of a stream if and only if the reset was clean.
-/
theorem omittedIntervals_describe_iff {test : Test} {before : List StatsEvent} {position : Nat}
    {sp : Stream} (present : (before.foldl Test.account test).streams[position]? = some sp)
    (after : List StatsEvent) (resetTime lastTime : IperfTime)
    : ∃ sp', (logAfterReset position (before.foldl Test.account test) resetTime
          (after ++ [.stats lastTime])).test.streams[position]? = some sp'
      ∧ (Describes
          (logAfterReset position (before.foldl Test.account test) resetTime
            (after ++ [.stats lastTime])).test sp'
          (logAfterReset position (before.foldl Test.account test) resetTime
            (after ++ [.stats lastTime])).records
        ↔ CleanReset (before.foldl Test.account test) resetTime sp) := by
  generalize before.foldl Test.account test = reset at present
  obtain ⟨⟨last, found, recorded⟩, protocol⟩ :=
    (Logged.Sound.ofReset present resetTime).run after
  obtain ⟨closed, logs⟩ := Logged.step_stats found lastTime
  unfold logAfterReset
  rw [List.foldl_concat]
  refine ⟨_, closed, ?_⟩
  generalize after.foldl (Logged.step position) { test := iperfResetStats reset resetTime }
    = logged at *
  have same := logged.test.account_protocol (.stats lastTime)
  have counted : logged.test.protocol ≠ .tcp → ∀ counter : PacketCounter,
      counter.lastRecorded (closeInterval logged.test lastTime last)
        = counter.current (closeInterval logged.test lastTime last) := by
    intro udp counter
    rw [(intervalRecord_packets udp lastTime last counter).2]
    cases counter <;> rfl
  rw [logs]
  refine ((recorded.close same lastTime).describes_iff (by simp)
    (closeInterval_boundary _ _ _) (ite_self _) (fun udp => counted (same ▸ udp))).trans ?_
  constructor
  · rintro ⟨begins, counters⟩
    refine ⟨?_, fun udp counter => ?_⟩
    · by_contra started
      rw [not_or] at started
      exact started.2 ((if_neg started.1).symm.trans begins)
    · have total := counters (by rwa [same, protocol]) counter
      cases counter <;> exact total
  · rintro ⟨begins, counters⟩
    refine ⟨?_, fun udp counter => ?_⟩
    · rcases begins with none | now
      · exact if_pos none
      · have both : (resetStreamStats resetTime sp).result.endTime = resetTime := now
        unfold Stream.boundary
        rw [both]
        exact ite_self _
    · have total := counters (by rwa [same, protocol] at udp) counter
      cases counter <;> exact total

/-- A TCP test with one stream that sends blocks of four bytes. -/
def blockSender : Test :=
  {
    streams := [{ socket := 5, sender := true, buffer := [1, 2, 3, 4] }]
    state := .testRunning
    settings := { blksize := 4 }
  }

/-- The worker sends a whole block. -/
def sendsBlock : StatsEvent := .send 0 ⟨0, 0⟩ { writes := [.accepted 4] }

/-- Witness: a block in the omit period, with the statistics and the reset at its end, and two
blocks in the measured period, with statistics behind each.
-/
theorem omittedIntervals_describe_iff_sameTime
    : ∃ sp', (logAfterReset 0 ([sendsBlock, .stats ⟨1, 0⟩].foldl Test.account blockSender) ⟨1, 0⟩
          ([sendsBlock, .stats ⟨2, 0⟩, sendsBlock] ++ [.stats ⟨3, 0⟩])).test.streams[0]? = some sp'
      ∧ Describes
          (logAfterReset 0 ([sendsBlock, .stats ⟨1, 0⟩].foldl Test.account blockSender) ⟨1, 0⟩
            ([sendsBlock, .stats ⟨2, 0⟩, sendsBlock] ++ [.stats ⟨3, 0⟩])).test sp'
          (logAfterReset 0 ([sendsBlock, .stats ⟨1, 0⟩].foldl Test.account blockSender) ⟨1, 0⟩
            ([sendsBlock, .stats ⟨2, 0⟩, sendsBlock] ++ [.stats ⟨3, 0⟩])).records
      ∧ sp'.result.bytesSent = 12 ∧ sp'.measuredBytes = 8 := by
  obtain ⟨sp, present, time⟩
      : ∃ sp, ([sendsBlock, .stats ⟨1, 0⟩].foldl Test.account blockSender).streams[0]? = some sp
        ∧ sp.result.endTime = ⟨1, 0⟩ := ⟨_, rfl, rfl⟩
  obtain ⟨sp', found, exactly⟩ :=
    omittedIntervals_describe_iff present [sendsBlock, .stats ⟨2, 0⟩, sendsBlock] ⟨1, 0⟩ ⟨3, 0⟩
  have counted := congrArg
    (Option.map fun sp : Stream => (sp.result.bytesSent, sp.measuredBytes)) found
  obtain ⟨sent, measured⟩ := Prod.mk.inj (Option.some.inj (counted.symm.trans rfl))
  exact ⟨sp', found, exactly.mpr ⟨.inr time, fun udp => absurd rfl udp⟩, sent, measured⟩

/-- With statistics at one second and a reset half a second later, the next interval begins half
a second before the measured period.
-/
theorem omittedIntervals_overlap
    : ¬ ∀ (test : Test) (before after : List StatsEvent) (resetTime lastTime : IperfTime)
        (position : Nat) (sp : Stream),
      (logAfterReset position (before.foldl Test.account test) resetTime
          (after ++ [.stats lastTime])).test.streams[position]? = some sp
      → Describes
          (logAfterReset position (before.foldl Test.account test) resetTime
            (after ++ [.stats lastTime])).test sp
          (logAfterReset position (before.foldl Test.account test) resetTime
            (after ++ [.stats lastTime])).records := by
  intro claim
  have describes := claim senderTest [.stats ⟨1, 0⟩] [] ⟨1, 500000⟩ ⟨2, 500000⟩ 0 _ rfl
  have begins : (⟨1, 0⟩ : IperfTime) = ⟨1, 500000⟩ := describes.tiles.1
  cases begins

end Iperf
