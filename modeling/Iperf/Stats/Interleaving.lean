import Iperf.Stats.OmittedIntervals

/-! The workers and the statistics as interleaved accesses to the atomic counters. A worker adds
to the total of its stream and then to its interval; `iperf_stats_callback` loads the interval
early in its loop body and clears it at the end.
-/

namespace Iperf

-----------------------------------------------------------------------------------------
-- The two threads
-----------------------------------------------------------------------------------------

/-- Where a worker is in a call that transferred `size` bytes: `iperf_udp_recv` first looks
whether the total is zero, then every call adds to the total, and last to the interval.
-/
inductive WorkerAt where
  | idle
  | first (size : UInt64)
  | total (size : UInt64)
  | interval (size : UInt64)

/-- Where `iperf_stats_callback` is in its loop, with the stream it is at, the sum over all
streams so far, and `temp.bytes_transferred` once it is loaded.
-/
inductive CallbackAt where
  | idle
  | load (position : Nat) (sum : UInt64)
  | addSent (position : Nat) (sum transferred : UInt64)
  | addReceived (position : Nat) (sum transferred : UInt64)
  | append (position : Nat) (sum transferred : UInt64)
  | clearReceived (position : Nat) (sum : UInt64)
  | clearSent (position : Nat) (sum : UInt64)

/-- The threads, the test they share, and `bytes_transferred` of all intervals that were
recorded for each stream.
-/
structure Interleaved where
  test : Test
  workers : Nat → WorkerAt := fun _ => .idle
  callback : CallbackAt := .idle
  recorded : Nat → List UInt64 := fun _ => []

/-- The scheduler's choice: a worker returns from a transfer that counts or makes its next
access, or the main thread calls the statistics or makes its next access, at some time.
-/
inductive Turn where
  | transfer (position : Nat) (size : UInt64)
  | worker (position : Nat)
  | stats
  | main (now : IperfTime)

def Stream.addTotal (sp : Stream) (size : UInt64) : Stream :=
  if sp.sender then
    { sp with result := { sp.result with bytesSent := sp.result.bytesSent + size } }
  else
    { sp with result := { sp.result with bytesReceived := sp.result.bytesReceived + size } }

def Stream.addInterval (sp : Stream) (size : UInt64) : Stream :=
  if sp.sender then
    {
      sp with
      result := {
        sp.result with
        bytesSentThisInterval := sp.result.bytesSentThisInterval + size
      }
    }
  else
    {
      sp with
      result := {
        sp.result with
        bytesReceivedThisInterval := sp.result.bytesReceivedThisInterval + size
      }
    }

/-- The end of the interval with the bytes that were loaded for it. -/
def Stream.appendInterval (test : Test) (now : IperfTime) (transferred : UInt64) (sp : Stream)
    : Stream :=
  {
    sp with
    result := addToIntervalList { sp.result with endTime := now }
      { intervalRecord test now sp with bytesTransferred := transferred }
  }

def Stream.clearReceived (sp : Stream) : Stream :=
  { sp with result := { sp.result with bytesReceivedThisInterval := 0 } }

def Stream.clearSent (sp : Stream) : Stream :=
  { sp with result := { sp.result with bytesSentThisInterval := 0 } }

def Test.modifyStream (test : Test) (position : Nat) (f : Stream → Stream) : Test :=
  { test with streams := test.streams.modify position f }

/-- The next access of the worker at the position. -/
def Interleaved.workerStep (s : Interleaved) (position : Nat) : Interleaved :=
  match s.workers position with
  | .idle => s
  | .first size => { s with workers := Function.update s.workers position (.total size) }
  | .total size =>
      {
        s with
        test := s.test.modifyStream position (Stream.addTotal · size)
        workers := Function.update s.workers position (.interval size)
      }
  | .interval size =>
      {
        s with
        test := s.test.modifyStream position (Stream.addInterval · size)
        workers := Function.update s.workers position .idle
      }

/-- The next access of `iperf_stats_callback`. After the last stream the server checks its
bitrate.
-/
def Interleaved.mainStep (s : Interleaved) (now : IperfTime) : Interleaved :=
  match s.callback with
  | .idle => s
  | .load position sum =>
      match s.test.streams[position]? with
      | none =>
          {
            s with
            test := if s.test.role = .server then iperfCheckTotalRate s.test sum else s.test
            callback := .idle
          }
      | some sp => { s with callback := .addSent position sum sp.pendingBytes }
  | .addSent position sum transferred =>
      let sent := (s.test.streams[position]?.map (·.result.bytesSentThisInterval)).getD 0
      { s with callback := .addReceived position (sum + sent) transferred }
  | .addReceived position sum transferred =>
      let received :=
        (s.test.streams[position]?.map (·.result.bytesReceivedThisInterval)).getD 0
      { s with callback := .append position (sum + received) transferred }
  | .append position sum transferred =>
      {
        s with
        test := s.test.modifyStream position (Stream.appendInterval s.test now transferred)
        callback := .clearReceived position sum
        recorded := Function.update s.recorded position (s.recorded position ++ [transferred])
      }
  -- the assignment to both is read from right to left
  | .clearReceived position sum =>
      {
        s with
        test := s.test.modifyStream position Stream.clearReceived
        callback := .clearSent position sum
      }
  | .clearSent position sum =>
      {
        s with
        test := s.test.modifyStream position Stream.clearSent
        callback := .load (position + 1) sum
      }

/-- One access. A turn of a thread that is not there, or that is busy, is wasted. -/
def Interleaved.step (s : Interleaved) : Turn → Interleaved
  | .transfer position size =>
      match s.workers position, s.test.streams[position]? with
      | .idle, some sp =>
          let worker :=
            if s.test.protocol = .udp ∧ sp.sender = false then WorkerAt.first size
            else .total size
          { s with workers := Function.update s.workers position worker }
      | _, _ => s
  | .worker position => s.workerStep position
  | .stats =>
      match s.callback with
      | .idle => { s with callback := .load 0 0 }
      | _ => s
  | .main now => s.mainStep now

def Interleaved.run (s : Interleaved) (turns : List Turn) : Interleaved :=
  turns.foldl Interleaved.step s

-----------------------------------------------------------------------------------------
-- The balance of a stream
-----------------------------------------------------------------------------------------

/-- `result->bytes_sent` of a sender, `result->bytes_received` of a receiver. -/
def Stream.totalBytes (sp : Stream) : UInt64 :=
  if sp.sender then sp.result.bytesSent else sp.result.bytesReceived

/-- What a worker has added to the total and not yet to the interval. -/
def WorkerAt.unadded : WorkerAt → UInt64
  | .interval size => size
  | _ => 0

/-- The statistics have loaded the interval of the stream and not yet cleared it. -/
def CallbackAt.between (position : Nat) (sender : Bool) : CallbackAt → Bool
  | .addSent at' _ _ | .addReceived at' _ _ | .append at' _ _ | .clearReceived at' _ =>
      at' = position
  | .clearSent at' _ => at' = position && sender
  | _ => false

/-- What the statistics have loaded and not yet recorded. -/
def CallbackAt.loaded : CallbackAt → UInt64
  | .addSent _ _ transferred | .addReceived _ _ transferred | .append _ _ transferred =>
      transferred
  | _ => 0

/-- The part of the interval that is still going to be recorded. -/
def Interleaved.pending (s : Interleaved) (position : Nat) (sp : Stream) : UInt64 :=
  if s.callback.between position sp.sender then s.callback.loaded else sp.pendingBytes

/-- The bytes that a turn adds to the interval of the stream between its load and its clear. -/
def Interleaved.lateBytes (s : Interleaved) (position : Nat) (sender : Bool) : Turn → UInt64
  | .worker at' =>
      if at' = position ∧ s.callback.between position sender then (s.workers at').unadded else 0
  | _ => 0

/-- The late bytes of a whole run. -/
def Interleaved.lateTotal (position : Nat) (sender : Bool) : Interleaved → List Turn → UInt64
  | _, [] => 0
  | s, turn :: rest =>
      s.lateBytes position sender turn + lateTotal position sender (s.step turn) rest

/-- The total of a stream is what was recorded, what is pending, and what was lost. -/
def Interleaved.Balanced (s : Interleaved) (position : Nat) (sender : Bool) (lost : UInt64)
    : Prop :=
  ∃ sp, s.test.streams[position]? = some sp ∧ sp.sender = sender
    ∧ sp.totalBytes
      = (s.recorded position).sum + s.pending position sp + (s.workers position).unadded + lost

variable {s : Interleaved} {position : Nat} {sender : Bool} {lost : UInt64}

theorem modifyStream_self {test : Test} {sp : Stream}
    (found : test.streams[position]? = some sp) (f : Stream → Stream)
    : (test.modifyStream position f).streams[position]? = some (f sp) := by
  unfold Test.modifyStream
  rw [List.getElem?_modify_eq, found]
  rfl

theorem modifyStream_ne {test : Test} {other : Nat} (differs : other ≠ position)
    (f : Stream → Stream)
    : (test.modifyStream other f).streams[position]? = test.streams[position]? :=
  List.getElem?_modify_ne f _ differs

/-- A worker's access moves bytes from the call to the total and on to the interval, or loses
them for the interval.
-/
theorem Interleaved.Balanced.workerStep (balanced : s.Balanced position sender lost)
    (other : Nat)
    : (s.workerStep other).Balanced position sender
      (lost + s.lateBytes position sender (.worker other)) := by
  obtain ⟨sp, found, rfl, total⟩ := balanced
  by_cases same : other = position
  · subst same
    unfold Interleaved.workerStep Interleaved.lateBytes
    cases worker : s.workers other with
    | idle =>
        refine ⟨sp, found, rfl, ?_⟩
        simpa [worker, WorkerAt.unadded] using total
    | first size =>
        refine ⟨sp, found, rfl, ?_⟩
        simpa [worker, WorkerAt.unadded, Interleaved.pending] using total
    | total size =>
        refine ⟨sp.addTotal size, modifyStream_self found _, ?_, ?_⟩
        · unfold Stream.addTotal
          split <;> rfl
        · have kept : (sp.addTotal size).sender = sp.sender
              ∧ (sp.addTotal size).pendingBytes = sp.pendingBytes
              ∧ (sp.addTotal size).totalBytes = sp.totalBytes + size := by
            cases isSender : sp.sender <;>
              simp [Stream.addTotal, Stream.pendingBytes, Stream.totalBytes, isSender]
          obtain ⟨sender, pending, more⟩ := kept
          simp only [worker, WorkerAt.unadded, Interleaved.pending, Function.update_self,
            sender, pending, more, ite_self] at total ⊢
          rw [total]
          simp only [UInt64.add_zero]
          ac_rfl
    | interval size =>
        refine ⟨sp.addInterval size, modifyStream_self found _, ?_, ?_⟩
        · unfold Stream.addInterval
          split <;> rfl
        · have kept : (sp.addInterval size).sender = sp.sender
              ∧ (sp.addInterval size).pendingBytes = sp.pendingBytes + size
              ∧ (sp.addInterval size).totalBytes = sp.totalBytes := by
            cases isSender : sp.sender <;>
              simp [Stream.addInterval, Stream.pendingBytes, Stream.totalBytes, isSender]
          obtain ⟨sender, pending, more⟩ := kept
          simp only [worker, WorkerAt.unadded, Interleaved.pending, Function.update_self,
            sender, pending, more, true_and] at total ⊢
          rw [total]
          split
          · simp only [UInt64.add_zero]
            ac_rfl
          · simp only [UInt64.add_zero]
            ac_rfl
  · -- another stream's worker
    have late : s.lateBytes position sp.sender (.worker other) = 0 :=
      if_neg fun both => same both.1
    rw [late, UInt64.add_zero]
    unfold Interleaved.workerStep
    split
    · exact ⟨sp, found, rfl, total⟩
    · refine ⟨sp, found, rfl, ?_⟩
      simpa only [Interleaved.pending, Function.update_of_ne (Ne.symm same)] using total
    · refine ⟨sp, (modifyStream_ne same _).trans found, rfl, ?_⟩
      simpa only [Interleaved.pending, Function.update_of_ne (Ne.symm same)] using total
    · refine ⟨sp, (modifyStream_ne same _).trans found, rfl, ?_⟩
      simpa only [Interleaved.pending, Function.update_of_ne (Ne.symm same)] using total

/-- The stream at the position is the same after an access to another one. -/
theorem Interleaved.Balanced.elsewhere (balanced : s.Balanced position sender lost)
    {next : Interleaved} (stream : next.test.streams[position]? = s.test.streams[position]?)
    (recorded : next.recorded position = s.recorded position)
    (workers : (next.workers position).unadded = (s.workers position).unadded)
    (before : s.callback.between position sender = false)
    (after : next.callback.between position sender = false)
    : next.Balanced position sender lost := by
  obtain ⟨sp, found, rfl, total⟩ := balanced
  refine ⟨sp, stream.trans found, rfl, ?_⟩
  rw [Interleaved.pending, before] at total
  rw [Interleaved.pending, after, recorded, workers]
  exact total

/-- An access of the statistics records what it loaded and clears what it recorded. -/
theorem Interleaved.Balanced.mainStep (balanced : s.Balanced position sender lost)
    (now : IperfTime)
    : (s.mainStep now).Balanced position sender lost := by
  unfold Interleaved.mainStep
  cases callback : s.callback with
  | idle => exact balanced
  | load at' sum =>
      dsimp only
      cases present : s.test.streams[at']? with
      | none =>
          refine balanced.elsewhere ?_ rfl rfl (by rw [callback]; rfl) rfl
          dsimp only
          split
          · obtain ⟨_, _, _, _, shape⟩ := iperfCheckTotalRate_frame s.test sum
            rw [shape]
          · rfl
      | some sp =>
          by_cases same : at' = position
          · subst same
            obtain ⟨sp, found, rfl, total⟩ := balanced
            obtain rfl := Option.some.inj (found.symm.trans present)
            refine ⟨sp, found, rfl, ?_⟩
            rw [total]
            simp [Interleaved.pending, callback, CallbackAt.between, CallbackAt.loaded]
          · exact balanced.elsewhere rfl rfl rfl (by rw [callback]; rfl)
              (by simp [CallbackAt.between, same])
  | addSent at' sum transferred =>
      obtain ⟨sp, found, rfl, total⟩ := balanced
      refine ⟨sp, found, rfl, ?_⟩
      rw [total]
      simp [Interleaved.pending, callback, CallbackAt.between, CallbackAt.loaded]
  | addReceived at' sum transferred =>
      obtain ⟨sp, found, rfl, total⟩ := balanced
      refine ⟨sp, found, rfl, ?_⟩
      rw [total]
      simp [Interleaved.pending, callback, CallbackAt.between, CallbackAt.loaded]
  | append at' sum transferred =>
      by_cases same : at' = position
      · subst same
        obtain ⟨sp, found, rfl, total⟩ := balanced
        refine ⟨_, modifyStream_self found _, rfl, ?_⟩
        have kept : (sp.appendInterval s.test now transferred).totalBytes = sp.totalBytes := rfl
        rw [kept, total]
        simp only [Interleaved.pending, callback, CallbackAt.between, CallbackAt.loaded,
          decide_true, if_true, Function.update_self, List.sum_append, List.sum_singleton,
          UInt64.add_zero]
      · exact balanced.elsewhere (modifyStream_ne same _)
          (Function.update_of_ne (Ne.symm same) _ _) rfl
          (by simp [callback, CallbackAt.between, same]) (by simp [CallbackAt.between, same])
  | clearReceived at' sum =>
      by_cases same : at' = position
      · subst same
        obtain ⟨sp, found, rfl, total⟩ := balanced
        refine ⟨_, modifyStream_self found _, rfl, ?_⟩
        have kept : sp.clearReceived.totalBytes = sp.totalBytes
            ∧ sp.clearReceived.sender = sp.sender := ⟨rfl, rfl⟩
        rw [kept.1, total]
        cases isSender : sp.sender with
        | true =>
            simp [Interleaved.pending, callback, CallbackAt.between, CallbackAt.loaded, kept.2,
              isSender]
        | false =>
            simp [Interleaved.pending, callback, CallbackAt.between, CallbackAt.loaded,
              isSender, Stream.pendingBytes, Stream.clearReceived]
      · exact balanced.elsewhere (modifyStream_ne same _) rfl rfl
          (by simp [callback, CallbackAt.between, same]) (by simp [CallbackAt.between, same])
  | clearSent at' sum =>
      by_cases same : at' = position
      · subst same
        obtain ⟨sp, found, rfl, total⟩ := balanced
        refine ⟨_, modifyStream_self found _, rfl, ?_⟩
        have kept : sp.clearSent.totalBytes = sp.totalBytes := rfl
        rw [kept, total]
        cases isSender : sp.sender with
        | true =>
            simp [Interleaved.pending, callback, CallbackAt.between, CallbackAt.loaded,
              isSender, Stream.pendingBytes, Stream.clearSent]
        | false =>
            simp [Interleaved.pending, callback, CallbackAt.between, isSender,
              Stream.pendingBytes, Stream.clearSent]
      · exact balanced.elsewhere (modifyStream_ne same _) rfl rfl
          (by simp [callback, CallbackAt.between, same]) rfl

/-- A transfer that begins has added nothing yet. -/
theorem unadded_begin {workers : Nat → WorkerAt} {other : Nat}
    (idle : workers other = .idle) {worker : WorkerAt} (begins : worker.unadded = 0)
    (position : Nat)
    : (Function.update workers other worker position).unadded
      = (workers position).unadded := by
  by_cases same : other = position
  · subst same
    rw [Function.update_self, idle, begins]
    rfl
  · rw [Function.update_of_ne (Ne.symm same)]

/-- Every access keeps the balance, and what it adds late is lost. -/
theorem Interleaved.Balanced.step (balanced : s.Balanced position sender lost) (turn : Turn)
    : (s.step turn).Balanced position sender (lost + s.lateBytes position sender turn) := by
  cases turn with
  | transfer at' size =>
      have nothing : s.lateBytes position sender (.transfer at' size) = 0 := rfl
      rw [nothing, UInt64.add_zero]
      unfold Interleaved.step
      dsimp only
      split
      · next idle present =>
          obtain ⟨sp, found, rfl, total⟩ := balanced
          refine ⟨sp, found, rfl, ?_⟩
          dsimp only
          rw [unadded_begin idle (by split <;> rfl)]
          exact total
      · exact balanced
  | worker at' => exact balanced.workerStep at'
  | stats =>
      have nothing : s.lateBytes position sender .stats = 0 := rfl
      rw [nothing, UInt64.add_zero]
      unfold Interleaved.step
      dsimp only
      split
      · next idle => exact balanced.elsewhere rfl rfl rfl (by rw [idle]; rfl) rfl
      · exact balanced
  | main now =>
      have nothing : s.lateBytes position sender (.main now) = 0 := rfl
      rw [nothing, UInt64.add_zero]
      exact balanced.mainStep now

/-- By induction on the turns. -/
theorem Interleaved.Balanced.run (balanced : s.Balanced position sender lost)
    (turns : List Turn)
    : (s.run turns).Balanced position sender (lost + s.lateTotal position sender turns) := by
  induction turns generalizing s lost with
  | nil =>
      unfold Interleaved.lateTotal
      rwa [UInt64.add_zero]
  | cons turn rest ih =>
      have next := ih (balanced.step turn)
      rwa [UInt64.add_assoc] at next

-----------------------------------------------------------------------------------------
-- Between two calls of the statistics
-----------------------------------------------------------------------------------------

/-- The streams as `iperf_new_stream` leaves them. -/
def Test.Uncounted (test : Test) : Prop :=
  ∀ sp ∈ test.streams, sp.totalBytes = 0 ∧ sp.pendingBytes = 0

/-- No statistics are in progress, and the worker is not between its two additions. -/
def Interleaved.Quiescent (s : Interleaved) (position : Nat) : Prop :=
  s.callback = .idle ∧ ∀ size, s.workers position ≠ .interval size

/-- The recorded intervals and the current one make up the total. -/
def Interleaved.Conserved (s : Interleaved) (position : Nat) : Prop :=
  ∀ sp, s.test.streams[position]? = some sp
    → (s.recorded position).sum + sp.pendingBytes = sp.totalBytes

/-- The turn adds to the interval of the stream between its load and its clear. -/
def Interleaved.Late (s : Interleaved) (position : Nat) (sender : Bool) (turn : Turn) : Prop :=
  turn = .worker position ∧ s.callback.between position sender = true
    ∧ ∃ size, s.workers position = .interval size

theorem lateBytes_of_not_late {turn : Turn} (timely : ¬ s.Late position sender turn)
    : s.lateBytes position sender turn = 0 := by
  cases turn with
  | worker at' =>
      unfold Interleaved.lateBytes
      dsimp only
      split
      · next both =>
          obtain ⟨rfl, between⟩ := both
          cases worker : s.workers at' with
          | interval size => exact absurd ⟨rfl, between, size, worker⟩ timely
          | idle => rfl
          | first size => rfl
          | total size => rfl
      · rfl
  | transfer at' size => rfl
  | stats => rfl
  | main now => rfl

/-- By induction on the turns. -/
theorem lateTotal_of_none_late {turns : List Turn}
    (timely : ∀ before turn after, turns = before ++ turn :: after
      → ¬ (s.run before).Late position sender turn)
    : s.lateTotal position sender turns = 0 := by
  induction turns generalizing s with
  | nil => rfl
  | cons turn rest ih =>
      have now : s.lateBytes position sender turn = 0 :=
        lateBytes_of_not_late (timely [] turn rest rfl)
      have later := @ih (s.step turn) fun before next after shape =>
        timely (turn :: before) next after (by rw [shape]; rfl)
      unfold Interleaved.lateTotal
      rw [now, later]
      rfl

theorem Interleaved.Balanced.conserved_iff (balanced : s.Balanced position sender lost)
    (quiescent : s.Quiescent position)
    : s.Conserved position ↔ lost = 0 := by
  obtain ⟨sp, found, rfl, total⟩ := balanced
  obtain ⟨idle, outside⟩ := quiescent
  have nothing : (s.workers position).unadded = 0 := by
    cases worker : s.workers position with
    | interval size => exact absurd worker (outside size)
    | idle => rfl
    | first size => rfl
    | total size => rfl
  have pending : s.pending position sp = sp.pendingBytes := by
    rw [Interleaved.pending, idle]
    rfl
  rw [pending, nothing, UInt64.add_zero] at total
  constructor
  · intro conserved
    have same := conserved sp found
    rw [total] at same
    exact UInt64.add_eq_left.mp same.symm
  · rintro rfl other isThere
    obtain rfl := Option.some.inj (found.symm.trans isThere)
    rw [total, UInt64.add_zero]

/-- In every run, the intervals of a stream add up to its total in each quiescent state if and
only if no bytes were added late, and they do when no turn is late.
-/
theorem intervalBytes_conserved_iff {test : Test} (uncounted : test.Uncounted) {position : Nat}
    {sp : Stream} (present : test.streams[position]? = some sp) (turns : List Turn)
    (quiescent : (Interleaved.run { test } turns).Quiescent position)
    : ((Interleaved.run { test } turns).Conserved position
        ↔ Interleaved.lateTotal position sp.sender { test } turns = 0)
      ∧ ((∀ before turn after, turns = before ++ turn :: after
          → ¬ (Interleaved.run { test } before).Late position sp.sender turn)
        → (Interleaved.run { test } turns).Conserved position) := by
  obtain ⟨total, pending⟩ := uncounted sp (List.mem_of_getElem? present)
  have initially : Interleaved.Balanced { test } position sp.sender 0 := by
    refine ⟨sp, present, rfl, ?_⟩
    have begins : Interleaved.pending { test } position sp = 0 := pending
    rw [total, begins]
    rfl
  have final := initially.run turns
  rw [UInt64.zero_add] at final
  have exactly := final.conserved_iff quiescent
  exact ⟨exactly, fun timely => exactly.mpr (lateTotal_of_none_late timely)⟩

/-- Witness: a sender of five bytes whose interval is recorded afterwards. -/
theorem intervalBytes_conserved_iff_afterwards
    : (Interleaved.run { test := senderTest }
        ([.transfer 0 5, .worker 0, .worker 0, .stats]
          ++ List.replicate 7 (.main ⟨1, 0⟩))).Conserved 0
      ∧ (Interleaved.run { test := senderTest }
        ([.transfer 0 5, .worker 0, .worker 0, .stats]
          ++ List.replicate 7 (.main ⟨1, 0⟩))).recorded 0 = [5] := by
  have uncounted : senderTest.Uncounted := by
    intro sp member
    obtain rfl := List.mem_singleton.mp member
    exact ⟨rfl, rfl⟩
  have present : senderTest.streams[0]? = some { socket := 5, sender := true } := rfl
  refine ⟨((intervalBytes_conserved_iff uncounted present _ ?_).1).mpr rfl, rfl⟩
  exact ⟨rfl, fun size => by intro inside; cases inside⟩

/-- Five bytes sent right after the interval was loaded are in no interval. -/
theorem intervalBytes_lost
    : ¬ ∀ (test : Test) (turns : List Turn) (position : Nat), test.Uncounted
      → (Interleaved.run { test } turns).Quiescent position
      → (Interleaved.run { test } turns).Conserved position := by
  intro claim
  have uncounted : senderTest.Uncounted := by
    intro sp member
    obtain rfl := List.mem_singleton.mp member
    exact ⟨rfl, rfl⟩
  have conserved := claim senderTest
    ([.stats, .main ⟨1, 0⟩, .transfer 0 5, .worker 0, .worker 0]
      ++ List.replicate 6 (.main ⟨1, 0⟩)) 0 uncounted
    ⟨rfl, fun size => by intro inside; cases inside⟩
  have lost : (0 : UInt64) = 5 := conserved _ rfl
  cases lost

-----------------------------------------------------------------------------------------
-- Without interleaving
-----------------------------------------------------------------------------------------

theorem modifyStream_behind (test : Test) (ready rest : List Stream) (sp : Stream)
    (f : Stream → Stream)
    : ({ test with streams := ready ++ sp :: rest } : Test).modifyStream ready.length f
      = { test with streams := ready ++ f sp :: rest } := by
  have modified : (ready ++ sp :: rest).modify ready.length f = ready ++ f sp :: rest := by
    induction ready with
    | nil => rfl
    | cons head ready ih => exact congrArg (head :: ·) ih
  rw [Test.modifyStream, modified]

/-- The loop body alone, on the stream behind those that are done, closes its interval. -/
theorem mainStep_closeInterval {s : Interleaved} (now : IperfTime) {test : Test}
    {ready rest : List Stream} {sp : Stream} {sum : UInt64}
    (streams : s.test = { test with streams := ready ++ sp :: rest })
    (loop : s.callback = .load ready.length sum)
    : ((Interleaved.mainStep · now)^[6] s).test
        = { test with streams := ready ++ closeInterval test now sp :: rest }
      ∧ ((Interleaved.mainStep · now)^[6] s).callback
        = .load (ready.length + 1)
          (sum + (sp.result.bytesSentThisInterval + sp.result.bytesReceivedThisInterval)) := by
  have found : s.test.streams[ready.length]? = some sp := by
    rw [streams, List.getElem?_append_right le_rfl, Nat.sub_self]
    rfl
  have loaded : s.mainStep now
      = { s with callback := .addSent ready.length sum sp.pendingBytes } := by
    unfold Interleaved.mainStep
    rw [loop]
    dsimp only
    rw [found]
  have summed : ∀ transferred, Interleaved.mainStep
        (Interleaved.mainStep
          { s with callback := .addSent ready.length sum transferred } now) now
      = {
        s with
        callback := .append ready.length
          (sum + sp.result.bytesSentThisInterval + sp.result.bytesReceivedThisInterval)
          transferred
      } := by
    intro transferred
    unfold Interleaved.mainStep
    dsimp only
    rw [found]
    rfl
  simp only [Function.iterate_succ_apply, Function.iterate_zero, id_eq]
  rw [loaded, summed, UInt64.add_assoc]
  refine ⟨?_, rfl⟩
  unfold Interleaved.mainStep
  dsimp only
  rw [streams, modifyStream_behind, modifyStream_behind, modifyStream_behind]
  rfl

/-- Called alone, the accesses of `iperf_stats_callback` are what it does as a whole, by
induction on the streams that are left.
-/
theorem mainStep_statsCallback {s : Interleaved} (now : IperfTime) {test : Test}
    {ready rest : List Stream} {sum : UInt64}
    (streams : s.test = { test with streams := ready ++ rest })
    (loop : s.callback = .load ready.length sum)
    : ((Interleaved.mainStep · now)^[6 * rest.length + 1] s).test
      = (let next : Test := { test with streams := ready ++ rest.map (closeInterval test now) }
        if test.role = .server then
          iperfCheckTotalRate next (sum + intervalBytes { test with streams := rest })
        else next) := by
  induction rest generalizing s ready sum with
  | nil =>
      have none : s.test.streams[ready.length]? = none := by
        rw [streams]
        simp
      show (s.mainStep now).test = _
      unfold Interleaved.mainStep
      rw [loop]
      dsimp only
      rw [none, streams]
      have nothing : intervalBytes { test with streams := [] } = 0 := rfl
      rw [nothing, UInt64.add_zero]
      rfl
  | cons sp rest ih =>
      obtain ⟨closed, moved⟩ := mainStep_closeInterval now streams loop
      have steps : 6 * (sp :: rest).length + 1 = (6 * rest.length + 1) + 6 := by
        rw [List.length_cons]
        omega
      rw [steps, Function.iterate_add_apply]
      rw [@ih _ (ready ++ [closeInterval test now sp]) _ (closed.trans (by simp))
        (by rw [moved, List.length_append]; rfl)]
      have total : intervalBytes { test with streams := sp :: rest }
          = sp.result.bytesSentThisInterval + sp.result.bytesReceivedThisInterval
            + intervalBytes { test with streams := rest } := rfl
      rw [total, UInt64.add_assoc sum, List.append_assoc]
      rfl

/-- Both additions of a worker together are what the call does to the result of its stream. -/
theorem addTotal_addInterval (sp : Stream) (size : UInt64)
    : (sp.addTotal size).addInterval size = {
        sp with
        result := if sp.sender then sp.result.send size else sp.result.receive size
      } := by
  cases isSender : sp.sender <;>
    simp [Stream.addTotal, Stream.addInterval, isSender, StreamResult.send, StreamResult.receive]

/-- Calls that nothing interrupts are those of the model: a transfer is counted in the result of its
stream, and the statistics are `iperf_stats_callback`.
-/
theorem run_uninterrupted (test : Test) (position : Nat) (size : UInt64) (now : IperfTime)
    : (Interleaved.run { test }
          [.transfer position size, .worker position, .worker position, .worker position]).test
        = test.modifyStream position (fun sp => {
          sp with
          result := if sp.sender then sp.result.send size else sp.result.receive size
        })
      ∧ ((Interleaved.mainStep · now)^[6 * test.streams.length + 1]
        (Interleaved.step { test } .stats)).test = iperfStatsCallback test now := by
  constructor
  · have twice : (test.modifyStream position (Stream.addTotal · size)).modifyStream position
          (Stream.addInterval · size)
        = test.modifyStream position (fun sp => {
          sp with
          result := if sp.sender then sp.result.send size else sp.result.receive size
        }) := by
      have both := funext (addTotal_addInterval · size)
      unfold Test.modifyStream
      rw [List.modify_modify_eq, ← both]
      rfl
    have turn (s : Interleaved) : s.step (.worker position) = s.workerStep position := rfl
    simp only [Interleaved.run, List.foldl_cons, List.foldl_nil, turn]
    rw [← twice]
    cases found : test.streams[position]? with
    | none =>
        have absent := List.getElem?_eq_none_iff.mp found
        simp [Interleaved.step, found, Interleaved.workerStep, Test.modifyStream,
          List.modify_eq_self absent]
    | some sp =>
        by_cases counts : test.protocol = .udp ∧ sp.sender = false
        · simp [Interleaved.step, found, counts, Interleaved.workerStep]
        · simp [Interleaved.step, found, counts, Interleaved.workerStep]
  · have whole := @mainStep_statsCallback (Interleaved.step { test } .stats) now test []
      test.streams 0 rfl rfl
    rw [UInt64.zero_add] at whole
    exact whole

end Iperf
