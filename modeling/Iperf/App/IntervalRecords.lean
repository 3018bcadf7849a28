import Iperf.App.TimerOwnership
import Iperf.Stats.Workers

/-! The interval records of the streams, the calls that change them, and what the app's report
handler needs of them.
-/

namespace Iperf

-----------------------------------------------------------------------------------------
-- Records
-----------------------------------------------------------------------------------------

/-- The part of a stream that its next interval depends on. -/
structure StreamRecord where
  intervalResults : List IntervalResults
  startTime : IperfTime
  endTime : IperfTime

def Stream.record (sp : Stream) : StreamRecord :=
  {
    intervalResults := sp.result.intervalResults
    startTime := sp.result.startTime
    endTime := sp.result.endTime
  }

def Test.records (test : Test) : List StreamRecord := test.streams.map Stream.record

/-- Where the next interval begins. -/
def StreamRecord.intervalStart (record : StreamRecord) : IperfTime :=
  if record.intervalResults.getLast?.isSome then record.endTime else record.startTime

/-- The handler dereferences the last interval of every stream and divides by the duration of the
first stream's.
-/
structure Presentable (test : Test) : Prop where
  nonempty : ∀ sp ∈ test.streams, sp.result.intervalResults ≠ []
  positive : ∀ sp ∈ test.streams.head?, ∀ interval ∈ sp.result.intervalResults.getLast?,
    0 < interval.intervalDuration

/-- The last interval took some time, and the next one begins no later than `last`. -/
structure StreamRecord.Sound (record : StreamRecord) (last : IperfTime) : Prop where
  positive : ∀ interval ∈ record.intervalResults.getLast?, 0 < interval.intervalDuration
  begun : record.intervalStart ≤ last
  normalised : record.intervalStart.Normalised

/-- An interval between two readings of a clock that has advanced. -/
theorem intervalDuration_pos {start now : IperfTime} (normalStart : start.Normalised)
    (normalNow : now.Normalised) (earlier : start < now)
    : 0 < iperfTimeInSecs (iperfTimeDiff start now).2 := by
  have order := (IperfTime.lt_iff_inUsecs normalStart normalNow).mp earlier
  have compared : iperfTimeCompare start now = -1 := by
    rw [iperfTimeCompare_eq normalStart normalNow, if_pos order]
  have exact_ := (iperfTimeBorrow_inUsecs normalNow normalStart order.le).2
  have diff : (iperfTimeDiff start now).2 = iperfTimeBorrow now start := by
    simp [iperfTimeDiff, compared]
  rw [diff]
  have usecs : 0 < iperfTimeInUsecs (iperfTimeBorrow now start) := by omega
  unfold iperfTimeInUsecs at usecs
  unfold iperfTimeInSecs
  rcases Nat.eq_zero_or_pos (iperfTimeBorrow now start).secs.toNat with zero | positive
  · rw [zero] at usecs ⊢
    have fraction : (0 : ℚ) < ((iperfTimeBorrow now start).usecs.toNat : ℚ) := by
      exact_mod_cast (by omega : 0 < (iperfTimeBorrow now start).usecs.toNat)
    have := div_pos fraction (by norm_num : (0 : ℚ) < 1000000)
    linarith [(by norm_num : ((0 : ℕ) : ℚ) = 0)]
  · have whole : (0 : ℚ) < ((iperfTimeBorrow now start).secs.toNat : ℚ) := by
      exact_mod_cast positive
    have := div_nonneg (Nat.cast_nonneg (iperfTimeBorrow now start).usecs.toNat)
      (by norm_num : (0 : ℚ) ≤ 1000000)
    linarith

/-- An interval that is closed leaves a sound record. -/
theorem closeInterval_sound {test : Test} {sp : Stream} {last now : IperfTime}
    (sound : sp.record.Sound last) (later : last < now) (normal : now.Normalised)
    : (closeInterval test now sp).record.Sound now
      ∧ (closeInterval test now sp).record.intervalResults ≠ [] := by
  have start : (intervalRecord test now sp).intervalDuration
      = iperfTimeInSecs (iperfTimeDiff sp.record.intervalStart now).2 := rfl
  have intervals : (closeInterval test now sp).record.intervalResults
      = sp.result.intervalResults.dropLast ++ [intervalRecord test now sp] := rfl
  have next : (closeInterval test now sp).record.intervalStart = now := by
    unfold StreamRecord.intervalStart
    rw [intervals, List.getLast?_concat]
    rfl
  refine ⟨⟨?_, ?_, ?_⟩, ?_⟩
  · rw [intervals, List.getLast?_concat]
    rintro interval ⟨⟩
    rw [start]
    exact intervalDuration_pos sound.normalised normal (sound.begun.trans_lt later)
  · rw [next]
  · rw [next]
    exact normal
  · rw [intervals]
    exact List.append_ne_nil_of_right_ne_nil _ (List.cons_ne_nil _ _)

namespace ClientRun

-----------------------------------------------------------------------------------------
-- Calls
-----------------------------------------------------------------------------------------

/-- No stream was created after the last statistics were taken. -/
def measured (calls : List Call) : Bool :=
  calls.foldl (fun measured call =>
    match call with
    | .newStream => false
    | .statsCallback _ => true
    | _ => measured) true

/-- The last clock that a start time or the statistics took. -/
def lastReading (calls : List Call) : IperfTime :=
  calls.foldl (fun last call =>
    match call with
    | .startTime now => now
    | .statsCallback now => now
    | _ => last) { secs := 0, usecs := 0 }

/-- What holds of the records after some calls. -/
structure Recorded (records : List StreamRecord) (calls : List Call) : Prop where
  reported : ∀ test, .reporterCallback test ∈ calls → Presentable test
  covered : measured calls = true → ∀ record ∈ records, record.intervalResults ≠ []
  sound : ∀ record ∈ records, record.Sound (lastReading calls)

variable {test : Test} {calls : List Call}

theorem Recorded.presentable (recorded : Recorded test.records calls)
    (covered : measured calls = true)
    : Presentable test := by
  refine ⟨fun sp isOne => ?_, fun sp isFirst => ?_⟩
  · exact recorded.covered covered sp.record (List.mem_map_of_mem isOne)
  · have isOne : sp ∈ test.streams := List.mem_of_mem_head? isFirst
    exact (recorded.sound sp.record (List.mem_map_of_mem isOne)).positive

theorem Recorded.report (recorded : Recorded test.records calls) {shown : Test}
    (presentable : Presentable shown)
    : Recorded test.records (calls ++ [.reporterCallback shown]) := by
  have sameMeasured : measured (calls ++ [.reporterCallback shown]) = measured calls := by
    simp [measured]
  have sameReading : lastReading (calls ++ [.reporterCallback shown]) = lastReading calls := by
    simp [lastReading]
  refine ⟨fun other isCall => ?_, ?_, ?_⟩
  · rcases List.mem_append.mp isCall with before | isLast
    · exact recorded.reported other before
    · cases List.mem_singleton.mp isLast
      exact presentable
  · rw [sameMeasured]
    exact recorded.covered
  · rw [sameReading]
    exact recorded.sound

theorem records_statsCallback (test : Test) (reading : IperfTime)
    : (iperfStatsCallback test reading).records
      = test.streams.map (fun sp => (closeInterval test reading sp).record) := by
  obtain ⟨_, _, _, _, shape⟩ := iperfStatsCallback_shape test reading
  rw [shape]
  exact List.map_map

theorem Recorded.measure (recorded : Recorded test.records calls) {reading : IperfTime}
    (later : lastReading calls < reading) (normal : reading.Normalised)
    : Recorded (iperfStatsCallback test reading).records (calls ++ [.statsCallback reading]) := by
  have nowReading : lastReading (calls ++ [.statsCallback reading]) = reading := by
    simp [lastReading]
  have closed : ∀ record ∈ (iperfStatsCallback test reading).records,
      record.Sound reading ∧ record.intervalResults ≠ [] := by
    intro record isOne
    rw [records_statsCallback] at isOne
    obtain ⟨sp, isStream, rfl⟩ := List.mem_map.mp isOne
    exact closeInterval_sound (recorded.sound _ (List.mem_map_of_mem isStream)) later normal
  refine ⟨fun other isCall => ?_, fun _ record isOne => (closed record isOne).2, ?_⟩
  · rcases List.mem_append.mp isCall with before | isLast
    · exact recorded.reported other before
    · cases List.mem_singleton.mp isLast
  · rw [nowReading]
    exact fun record isOne => (closed record isOne).1

/-- New streams have no interval and no start time. -/
theorem Recorded.addStreams (recorded : Recorded test.records calls) {next : Test} {count : Nat}
    {added : List Stream} (streams : next.streams = test.streams ++ added)
    (isNew : ∀ sp ∈ added, sp.result = {}) (counted : added.length = count)
    : Recorded next.records (calls ++ List.replicate count .newStream) := by
  have records : next.records = test.records ++ added.map Stream.record := by
    unfold Test.records
    rw [streams, List.map_append]
  have sameReading : ∀ count, lastReading (calls ++ List.replicate count .newStream)
      = lastReading calls := by
    intro count
    induction count with
    | zero => simp
    | succ count ih =>
        rw [List.replicate_succ', ← List.append_assoc]
        rw [← ih]
        simp [lastReading]
  refine ⟨fun other isCall => ?_, fun covered => ?_, fun record isOne => ?_⟩
  · rcases List.mem_append.mp isCall with before | isNewStream
    · exact recorded.reported other before
    · cases (List.mem_replicate.mp isNewStream).2
  · cases count with
    | zero =>
        obtain rfl := List.length_eq_zero_iff.mp counted
        rw [records, List.map_nil, List.append_nil]
        exact recorded.covered (by simpa using covered)
    | succ count =>
        rw [List.replicate_succ', ← List.append_assoc] at covered
        simp [measured] at covered
  · rw [sameReading]
    rw [records] at isOne
    rcases List.mem_append.mp isOne with before | isAdded
    · exact recorded.sound record before
    · obtain ⟨sp, isStream, rfl⟩ := List.mem_map.mp isAdded
      unfold Stream.record
      rw [isNew sp isStream]
      have zero : IperfTime.Normalised { secs := 0, usecs := 0 } := by
        unfold IperfTime.Normalised
        decide
      refine ⟨nofun, ?_, zero⟩
      exact not_lt.mp fun earlier => Nat.not_lt_zero _ (IperfTime.lt_iff_rank.mp earlier)

theorem records_initTest (test : Test) (now : IperfTime)
    : (iperfInitTest test now).records
      = test.records.map (fun record => { record with startTime := now }) := by
  unfold Test.records iperfInitTest
  rw [List.map_map, List.map_map]
  rfl

theorem Recorded.initTest (recorded : Recorded test.records calls) {now : IperfTime}
    (later : lastReading calls < now) (normal : now.Normalised)
    : Recorded (iperfInitTest test now).records (calls ++ [.startTime now]) := by
  have sameMeasured : measured (calls ++ [.startTime now]) = measured calls := by simp [measured]
  have nowReading : lastReading (calls ++ [.startTime now]) = now := by simp [lastReading]
  rw [records_initTest]
  refine ⟨fun other isCall => ?_, fun covered record isOne => ?_, fun record isOne => ?_⟩
  · rcases List.mem_append.mp isCall with before | isLast
    · exact recorded.reported other before
    · cases List.mem_singleton.mp isLast
  · rw [sameMeasured] at covered
    obtain ⟨old, isOld, rfl⟩ := List.mem_map.mp isOne
    exact recorded.covered covered old isOld
  · obtain ⟨old, isOld, rfl⟩ := List.mem_map.mp isOne
    have sound := recorded.sound old isOld
    rw [nowReading]
    by_cases some_ : old.intervalResults.getLast?.isSome
    · have start : old.intervalStart = old.endTime := if_pos some_
      have start' : StreamRecord.intervalStart { old with startTime := now } = old.endTime :=
        if_pos some_
      refine ⟨sound.positive, ?_, ?_⟩
      · rw [start']
        exact (start ▸ sound.begun).trans later.le
      · rw [start']
        exact start ▸ sound.normalised
    · have start' : StreamRecord.intervalStart { old with startTime := now } = now := if_neg some_
      refine ⟨sound.positive, ?_, ?_⟩
      · rw [start']
      · rw [start']
        exact normal

-----------------------------------------------------------------------------------------
-- The functions that leave records and calls alone
-----------------------------------------------------------------------------------------

/-- The records and the calls of a run, and the settings that decide which timers it has. -/
structure Ledger where
  address : Nat
  records : List StreamRecord
  calls : List Call
  statsInterval : ℚ
  reporterInterval : ℚ
  omitPeriod : Int32

def ledger (r : ClientRun) : Ledger :=
  {
    address := r.address
    records := r.test.records
    calls := r.calls
    statsInterval := r.test.statsInterval
    reporterInterval := r.reporterInterval
    omitPeriod := r.test.omitPeriod
  }

variable {r : ClientRun}

theorem records_map {streams : List Stream} {f : Stream → Stream}
    (keeps : ∀ sp, (f sp).record = sp.record)
    : (streams.map f).map Stream.record = streams.map Stream.record := by
  rw [List.map_map]
  exact List.map_congr_left fun sp _ => keeps sp

theorem takePeerResult_record (peer : PeerResult) (sp : Stream)
    : (takePeerResult peer sp).record = sp.record := by
  unfold takePeerResult
  split <;> rfl

theorem exchangeResults_ledger (r : ClientRun) (io : RunMessageIo)
    : (left (r.exchangeResults io)).ledger = r.ledger := by
  unfold exchangeResults
  split
  · rfl
  · split
    · rfl
    · next json _ =>
        obtain ⟨streams, _, _, _, _, takes, shape⟩ := getResults_shape r.test json
        have records : streams.map Stream.record = r.test.streams.map Stream.record :=
          map_eq_of_forall₂
              (takes.imp fun sp sp' took => took.kept Stream.record takePeerResult_record)
        split
        · next test result =>
            have isTest : test = (getResults r.test json).2 := (congrArg Prod.snd result).symm
            rw [isTest, shape]
            exact congrArg (fun records => { r.ledger with records }) records
        · next test result =>
            have isTest : test = (getResults r.test json).2 := (congrArg Prod.snd result).symm
            rw [isTest, shape]
            exact congrArg (fun records => { r.ledger with records }) records

theorem connect_ledger (r : ClientRun) (io : DialIo) (now : IperfTime)
    : (r.connect io now).ledger = r.ledger := by
  unfold connect
  split
  · rfl
  · next test connected =>
      unfold iperfConnect at connected
      dsimp only at connected
      generalize (if r.test.ctrlSck < 0 then io.dialed else r.test.ctrlSck) = ctrlSck at connected
      split_ifs at connected
      obtain rfl := Except.ok.inj connected
      unfold iperfConnectSettings
      dsimp only
      split <;> rfl

theorem startThreads_ledger (r : ClientRun) (io : ThreadsIo)
    : (r.startThreads io).ledger = r.ledger := by
  have created (r : ClientRun) (count : Nat) : (r.createThreads count).ledger = r.ledger := by
    have records : (r.createThreads count).test.records = r.test.records := by
      have started : ((r.test.streams.take count).map fun sp =>
          { sp with threadCreated := true }).map Stream.record
          = (r.test.streams.take count).map Stream.record := records_map fun _ => rfl
      unfold createThreads Test.records
      dsimp only
      rw [List.map_append, started, ← List.map_append, List.take_append_drop]
    exact congrArg (fun records => { r.ledger with records }) records
  unfold startThreads
  dsimp only
  split_ifs
  · rfl
  · exact created { r with startup := false } io.created
  · exact created { r with startup := false } io.created
  · exact created { r with startup := false } io.created
  · rfl

/-- By induction on the streams. -/
theorem stopThreads_records (selected : Stream → Bool) (failure : Nat → Option ThreadFailure)
    (position : Nat) (streams : List Stream)
    : (stopThreads selected failure position streams).1.map Stream.record
      = streams.map Stream.record := by
  induction streams generalizing position with
  | nil => rfl
  | cons sp rest ih =>
      have others := ih (position + 1)
      unfold stopThreads
      dsimp only
      split
      · exact congrArg (sp.record :: ·) others
      · split
        · exact congrArg (sp.record :: ·) others
        · split
          · rfl
          · exact congrArg (sp.record :: ·) others

theorem stopWorkers_ledger (r : ClientRun) (sender : Bool)
    (failure : Nat → Option ThreadFailure)
    : (left (r.stopWorkers sender failure)).ledger = r.ledger := by
  have records := stopThreads_records (fun sp => sp.sender = sender) failure 0 r.test.streams
  unfold stopWorkers
  dsimp only
  split <;> exact congrArg (fun records => { r.ledger with records }) records

theorem join_ledger (r : ClientRun) (failure : Nat → Option ThreadFailure)
    : (r.join failure).ledger = r.ledger := by
  obtain ⟨_, shape⟩ := join_eq r failure
  rw [shape]
  exact stopWorkers_ledger r false failure

theorem stopAll_ledger (r : ClientRun) (failure : Nat → Option ThreadFailure) (saved : Int32)
    : (r.stopAll failure saved).ledger = r.ledger := by
  have records : (r.stopAll failure saved).test.records = r.test.records := by
    refine records_map fun sp => ?_
    split <;> rfl
  exact congrArg (fun records => { r.ledger with records }) records

/-- A worker counts bytes and packets. -/
theorem work_ledger (r : ClientRun) (position : Nat) (event : WorkerEvent)
    : (r.work position event).ledger = r.ledger := by
  have set {streams : List Stream} {sp sp' : Stream} (found : streams[position]? = some sp)
      (same : sp'.record = sp.record)
      : (streams.set position sp').map Stream.record = streams.map Stream.record := by
    obtain ⟨bound, rfl⟩ := List.getElem?_eq_some_iff.mp found
    rw [List.map_set, same, ← List.getElem_map Stream.record (h := by simpa using bound)]
    exact List.set_getElem_self _
  cases event with
  | sigmaskFailed => rfl
  | receive arrivalTime results =>
      unfold work
      dsimp only
      split
      · rfl
      · next n test received =>
          obtain ⟨sp, sp', found, got, rfl⟩ := iperfRecvMt_frame received
          have result := (protocolRecv_accounts got).2
          have same : sp'.record = sp.record := by
            unfold Stream.record
            rw [result]
            rfl
          split <;> exact congrArg (fun records => { r.ledger with records }) (set found same)
  | send before io =>
      unfold work
      dsimp only
      split
      · rfl
      · next n test called =>
          obtain ⟨sp, sp', sent, found, got, -, rfl⟩ := iperfSendMt_accounts called
          have result := (protocolSend_accounts got).2
          have same : sp'.record = sp.record := by
            unfold Stream.record
            rw [result]
            rfl
          split <;> exact congrArg (fun records => { r.ledger with records }) (set found same)

theorem arm_ledger (r : ClientRun) (x : Except Timing Timing)
    : (left (r.arm x)).ledger = r.ledger := by
  cases x <;> rfl

theorem createClientTimers_ledger (r : ClientRun) (io : TimersIo)
    : (left (r.createClientTimers io)).ledger = r.ledger := by
  unfold createClientTimers
  split
  · rfl
  · refine left_bind ledger (arm_ledger ..) fun next => ?_
    unfold createReportTimers
    exact left_bind ledger (arm_ledger ..) fun last => arm_ledger ..

end ClientRun

end Iperf
