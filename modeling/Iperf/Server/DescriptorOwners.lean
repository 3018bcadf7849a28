import Iperf.Server.HeldDescriptors

/-! Every open descriptor of a server is held by one field, while it has connections, messages and
new streams.
 -/

namespace Iperf

open TimerList HandleTable

namespace ServerRun

variable {r next : ServerRun}

-----------------------------------------------------------------------------------------
-- The invariant
-----------------------------------------------------------------------------------------

/-- A server in the course of its work. The safety timer waits only while there is a control
connection and no stream listener.
-/
structure Working (r : ServerRun) : Prop where
  start : r.point = .start → Emptied r.test.ports
  complete : r.point = .complete → r.test.state = .createStreams
  threads : r.point = .threads → r.test.protListener = -1 ∧ r.test.state ≠ .createStreams
  idle : r.test.ctrlSck = -1 → r.test.protListener = -1
  creating : r.test.state = .createStreams → 0 ≤ r.test.ctrlSck
  tracked : r.timing.Tracked .timer
  safety : r.timing.Armed .timer →
    r.test.ctrlSck ≠ -1 ∧ r.test.protListener = -1 ∧ r.test.state ≠ .createStreams

/-- A server that has been cleaned up but goes on. -/
structure Closed (r : ServerRun) : Prop where
  emptied : Emptied r.test.ports
  state : r.test.state ≠ .createStreams
  point : r.point ≠ .start ∧ r.point ≠ .complete ∧ r.point ≠ .threads

structure Sound (r : ServerRun) : Prop where
  holds : Holds r.table (held r.test.ports)
  alive : r.point.isOver = false → Working r ∨ Closed r
  returned : ∀ result, r.point = .returned result → Emptied r.test.ports

/-- What a function leaves as it is. -/
structure Untouched (r next : ServerRun) : Prop where
  ports : next.test.ports = r.test.ports
  timing : next.timing = r.timing
  table : next.table = r.table

theorem Untouched.refl (r : ServerRun) : Untouched r r := ⟨rfl, rfl, rfl⟩

theorem Untouched.trans {last : ServerRun} (first : Untouched r next) (second : Untouched next last)
    : Untouched r last :=
  ⟨second.ports.trans first.ports, second.timing.trans first.timing, second.table.trans first.table⟩

theorem Untouched.holds (same : Untouched r next) (holds : Holds r.table (held r.test.ports))
    : Holds next.table (held next.test.ports) := by
  rw [same.table, same.ports]
  exact holds

/-- The server goes on to a point without conditions; timers may have fired. -/
theorem Working.goOn (working : Working r) (ctrlSck : next.test.ctrlSck = r.test.ctrlSck)
    (protListener : next.test.protListener = r.test.protListener)
    (tracked : next.timing.Tracked .timer)
    (armed : next.timing.Armed .timer → r.timing.Armed .timer)
    (state : next.test.state = r.test.state ∨ next.test.state ≠ .createStreams)
    (point : next.point ≠ .start ∧ next.point ≠ .complete ∧ next.point ≠ .threads)
    : Working next := by
  constructor
  · exact fun here => absurd here point.1
  · exact fun here => absurd here point.2.1
  · exact fun here => absurd here point.2.2
  · rw [ctrlSck, protListener]
    exact working.idle
  · intro creating
    rw [ctrlSck]
    rcases state with kept | other
    · exact working.creating (kept ▸ creating)
    · exact absurd creating other
  · exact tracked
  · intro waits
    rw [ctrlSck, protListener]
    obtain ⟨connected, closed, running⟩ := working.safety (armed waits)
    refine ⟨connected, closed, fun creating => ?_⟩
    rcases state with kept | other
    · exact running (kept ▸ creating)
    · exact other creating

theorem Working.keep (working : Working r) (ctrlSck : next.test.ctrlSck = r.test.ctrlSck)
    (protListener : next.test.protListener = r.test.protListener)
    (timing : next.timing = r.timing)
    (state : next.test.state = r.test.state ∨ next.test.state ≠ .createStreams)
    (point : next.point ≠ .start ∧ next.point ≠ .complete ∧ next.point ≠ .threads)
    : Working next :=
  working.goOn ctrlSck protListener (timing ▸ working.tracked) (fun armed => timing ▸ armed) state
    point

theorem Closed.keep (closed : Closed r) (ports : next.test.ports = r.test.ports)
    (state : next.test.state = r.test.state ∨ next.test.state ≠ .createStreams)
    (point : next.point ≠ .start ∧ next.point ≠ .complete ∧ next.point ≠ .threads)
    : Closed next := by
  refine ⟨ports ▸ closed.emptied, ?_, point⟩
  rcases state with kept | other
  · rw [kept]
    exact closed.state
  · exact other

/-- A step that leaves the resources alone and goes on. -/
theorem Sound.keep (sound : Sound r) (here : r.point.isOver = false) (same : Untouched r next)
    (state : next.test.state = r.test.state ∨ next.test.state ≠ .createStreams)
    (point : next.point ≠ .start ∧ next.point ≠ .complete ∧ next.point ≠ .threads)
    (going : next.point.isOver = false)
    : Sound next := by
  refine ⟨same.holds sound.holds, fun _ => ?_, fun result isOver => ?_⟩
  · rcases sound.alive here with working | closed
    · exact .inl (working.keep (congrArg Ports.ctrlSck same.ports)
        (congrArg Ports.protListener same.ports) same.timing state point)
    · exact .inr (closed.keep same.ports state point)
  · rw [isOver] at going
    cases going

/-- A step that fails. -/
theorem sound_failing (holds : Holds r.table (held r.test.ports)) {result : Int}
    (point : r.point = .failing result)
    : Sound r := by
  refine ⟨holds, fun going => ?_, fun _ isOver => ?_⟩
  · rw [point] at going
    cases going
  · rw [point] at isOver
    cases isOver

theorem sendState_untouched (r : ServerRun) (state : TestState) (sent : Bool)
    : Leaves (Untouched r)
        (fun next => Untouched r next ∧ (0 ≤ r.test.ctrlSck → next.test.state = state))
        (r.sendState state sent) := by
  unfold sendState iperfSetSendState
  split_ifs with connected written
  · exact ⟨⟨rfl, rfl, rfl⟩, fun _ => rfl⟩
  · exact ⟨rfl, rfl, rfl⟩
  · exact ⟨⟨rfl, rfl, rfl⟩, fun valid => absurd valid connected⟩

-----------------------------------------------------------------------------------------
-- Connections and messages
-----------------------------------------------------------------------------------------

/-- A stranger is closed at once. -/
theorem accept_busy {s : Int} {io : AcceptIo} (busy : r.test.ctrlSck ≠ -1)
    (accepted : io.accepted = some s)
    : r.accept io = .ok ((r.opens s).close s) := by
  have busyOpened : ¬ (r.opens s).test.ctrlSck = -1 := busy
  unfold accept
  rw [accepted]
  dsimp only
  rw [if_neg busyOpened]

theorem accept_sound (sound : Sound r) {readSet : List Int} (here : r.point = .listener readSet)
    {io : AcceptIo}
    (careful : r.test.ctrlSck = -1 → ∀ s, io.accepted = some s → io.Succeeds r.test s)
    (issued : (r.handleListener readSet io).misissued = false)
    : Sound (r.handleListener readSet io) := by
  have going : r.point.isOver = false := by rw [here]; rfl
  unfold handleListener at issued ⊢
  split at issued
  · next ready =>
      rw [if_pos ready]
      have working : Working r := by
        rcases sound.alive going with working | closed
        · exact working
        · have listener : r.test.listener = -1 := closed.emptied.listener
          rw [listener] at ready
          exact absurd ready.1 (by simp [fdIsset])
      cases accepted : io.accepted with
      | none =>
          have failed : r.accept io = .error (r, .ieaccept) := by
            unfold accept
            rw [accepted]
          rw [failed]
          exact @sound_failing { r with point := .failing (-1) } sound.holds (-1) rfl
      | some s =>
          by_cases free : r.test.ctrlSck = -1
          · have succeeds := careful free s accepted
            obtain ⟨next, accepts, welcomed⟩ :=
              accept_client free (working.idle free) accepted succeeds sound.holds
            rw [accepts] at issued ⊢
            dsimp only at issued ⊢
            have valid := succeeds.valid
            refine ⟨welcomed.holds issued, fun _ => .inl ?_, fun _ isOver => by cases isOver⟩
            have ctrlSck : next.setStreamsNumber.test.ctrlSck = s := welcomed.ctrlSck
            constructor
            · simp
            · simp
            · simp
            · intro none_
              dsimp only at none_
              omega
            · intro _
              dsimp only
              omega
            · exact welcomed.timing ▸ working.tracked
            · intro armed
              exact absurd free (working.safety (welcomed.timing ▸ armed)).1
          · rw [accept_busy free accepted] at issued ⊢
            dsimp only at issued ⊢
            obtain ⟨table, shape⟩ := close_eq (r.opens s) s
            have opened : (r.opens s).misissued = false := by
              rw [shape] at issued
              exact issued
            have closed : Holds ((r.opens s).close s).table (held r.test.ports) :=
              close_holds (opens_holds sound.holds opened)
            rw [shape] at closed ⊢
            refine ⟨closed, fun _ => .inl ?_, fun _ isOver => by cases isOver⟩
            exact working.keep rfl rfl rfl (.inl rfl) ⟨by simp, by simp, by simp⟩
  · next absent =>
      rw [if_neg absent]
      exact sound.keep going ⟨rfl, rfl, rfl⟩ (.inl rfl) ⟨by simp, by simp, by simp⟩ rfl

/-- The messages for which the sockets of all streams are closed. -/
def ClosesStreams : ControlMessage → Prop
  | .byte value _ => TestState.ofByte value = .testEnd ∨ TestState.ofByte value = .clientTerminate
  | _ => False

instance (message : ControlMessage) : Decidable (ClosesStreams message) :=
  match message with
  | .failed => isFalse id
  | .closed => isFalse id
  | .byte value _ => inferInstanceAs (Decidable
      (TestState.ofByte value = .testEnd ∨ TestState.ofByte value = .clientTerminate))

theorem closeSockets_nil (empty : r.test.streams = []) : r.closeSockets = r := by
  unfold closeSockets
  rw [empty]
  rfl

theorem exchangeResults_untouched (r : ServerRun) (io : EndIo)
    : Leaves (Untouched r) (Untouched r) (r.exchangeResults io) := by
  unfold exchangeResults
  split
  · exact .refl r
  · next json _ =>
      have ports := getResults_ports r.test json
      split
      · next result =>
          rw [result] at ports
          exact ⟨ports, rfl, rfl⟩
      · next result =>
          rw [result] at ports
          split <;> exact ⟨ports, rfl, rfl⟩

theorem testEnd_untouched (empty : r.test.streams = []) (connected : 0 ≤ r.test.ctrlSck)
    (io : EndIo)
    : Leaves (Untouched r)
        (fun next => Untouched r next ∧ next.test.state ≠ .createStreams) (r.testEnd io) := by
  let measured : ServerRun := {
    r with test := iperfStatsCallback { r.test with done := true, cpuUtil := io.cpuUtil } io.now }
  have ports : measured.test.ports = r.test.ports :=
    iperfStatsCallback_ports { r.test with done := true, cpuUtil := io.cpuUtil } io.now
  have none_ : measured.test.streams = [] := by
    have streams : measured.test.streams.map Stream.port = r.test.streams.map Stream.port :=
      congrArg Ports.streams ports
    rw [empty] at streams
    exact List.map_eq_nil_iff.mp streams
  have start : Untouched r measured := ⟨ports, rfl, rfl⟩
  unfold testEnd
  dsimp only
  rw [closeSockets_nil none_]
  refine @Leaves.bind _ (Untouched r) _ _ _ ?_ fun exchanging same => ?_
  · exact (sendState_untouched measured .exchangeResults io.exchangeResultsSent).imp
      (fun _ => start.trans) (fun _ told => start.trans told.1)
  refine @Leaves.bind _ (Untouched r) _ _ _ ?_ fun exchanged same' => ?_
  · exact (exchangeResults_untouched exchanging io).imp (fun _ => same.trans) (fun _ => same.trans)
  · have ctrlSck : exchanged.test.ctrlSck = r.test.ctrlSck := congrArg Ports.ctrlSck same'.ports
    refine (sendState_untouched exchanged .displayResults io.displayResultsSent).imp
      (fun _ => same'.trans) fun last told => ⟨same'.trans told.1, ?_⟩
    rw [told.2 (ctrlSck ▸ connected)]
    nofun

theorem handleMessage_untouched {message : ControlMessage} (connected : 0 ≤ r.test.ctrlSck)
    (careful : ClosesStreams message → r.test.streams = [])
    : Leaves (Untouched r)
        (fun next => Untouched r next ∧ next.test.state ≠ .createStreams)
        (r.handleMessage message) := by
  cases message with
  | failed => exact .refl r
  | closed => exact ⟨⟨rfl, rfl, rfl⟩, nofun⟩
  | byte value io =>
      have same : Untouched r (r.setState (.ofByte value)) := ⟨rfl, rfl, rfl⟩
      have here : (r.setState (.ofByte value)).test.state = .ofByte value := rfl
      unfold handleMessage
      dsimp only
      split
      · next state =>
          refine ⟨same, ?_⟩
          rw [state]
          nofun
      · next state =>
          have empty : (r.setState (.ofByte value)).test.streams = [] := careful (.inl state)
          exact (testEnd_untouched empty connected io).imp (fun _ => same.trans)
            fun _ ended => ⟨same.trans ended.1, ended.2⟩
      · next state =>
          refine ⟨same, ?_⟩
          rw [state]
          nofun
      · next state =>
          have empty : r.test.streams = [] := careful (.inr state)
          unfold clientTerminate
          rw [closeSockets_nil (by exact empty)]
          exact ⟨⟨rfl, rfl, rfl⟩, nofun⟩
      · exact same

theorem message_sound (sound : Sound r) {readSet : List Int} (here : r.point = .control readSet)
    {message : ControlMessage} (careful : ClosesStreams message → r.test.streams = [])
    : Sound (r.handleControl readSet message) := by
  have going : r.point.isOver = false := by rw [here]; rfl
  unfold handleControl
  split
  · next ready =>
      have connected : 0 ≤ r.test.ctrlSck := by
        simp only [fdIsset, Bool.and_eq_true, decide_eq_true_eq] at ready
        exact ready.1
      have outcome := handleMessage_untouched connected careful
      rcases result : r.handleMessage message with ⟨next, error⟩ | next
      · rw [result] at outcome
        have same : Untouched r next := outcome
        exact @sound_failing { next with point := .failing (-1) } (same.holds sound.holds) (-1) rfl
      · rw [result] at outcome
        obtain ⟨same, state⟩ := outcome
        exact sound.keep going ⟨same.ports, same.timing, same.table⟩ (.inr state)
          ⟨by simp, by simp, by simp⟩ rfl
  · exact sound.keep going ⟨rfl, rfl, rfl⟩ (.inl rfl) ⟨by simp, by simp, by simp⟩ rfl

-----------------------------------------------------------------------------------------
-- Streams
-----------------------------------------------------------------------------------------

/-- A connection to the stream listener becomes a stream: its options can be set, the stream can be
created, one is missing, and no other part of the process has got the number of a denied one.
-/
structure StreamIo.Keeps (io : StreamIo) (r : ServerRun) : Prop where
  reused : io.reused = false
  tos : r.test.settings.tos = 0 ∨ io.tosSet = true
  newStream : io.newStream.failed = none
  replaced : r.test.protocol ≠ .tcp → io.udpSetup = none →
    io.nextListener.isSome ∧ io.replySent = true
  missing : r.allAccepted = true → r.flag ≠ -1

instance (io : StreamIo) (r : ServerRun) : Decidable (io.Keeps r) :=
  decidable_of_iff
    (io.reused = false ∧ (r.test.settings.tos = 0 ∨ io.tosSet = true) ∧ io.newStream.failed = none
      ∧ (r.test.protocol ≠ .tcp → io.udpSetup = none →
        io.nextListener.isSome ∧ io.replySent = true)
      ∧ (r.allAccepted = true → r.flag ≠ -1))
    ⟨fun ⟨reused, tos, created, replaced, missing⟩ => ⟨reused, tos, created, replaced, missing⟩,
      fun ⟨reused, tos, created, replaced, missing⟩ => ⟨reused, tos, created, replaced, missing⟩⟩

theorem countStream_flag (missing : r.allAccepted = true → r.flag ≠ -1)
    : r.countStream.flag ≠ -1 := by
  unfold countStream Server.countStream
  dsimp only
  split
  · exact nofun
  · next received =>
      split
      · exact nofun
      · next sent =>
          refine missing (decide_eq_true ⟨?_, ?_⟩)
          · exact not_not.mp received
          · exact not_not.mp sent

/-- The stream stands behind the others. -/
theorem addStream_ok {io : StreamIo} (missing : r.allAccepted = true → r.flag ≠ -1)
    (created : io.newStream.failed = none) (fd : Int)
    : ∃ next, r.addStream fd io = .ok next ∧ next.timing = r.timing ∧ next.table = r.table
      ∧ next.misissued = r.misissued ∧ next.test.state = r.test.state
      ∧ next.test.ports = {
          r.test.ports with streams := r.test.ports.streams ++ [(fd, false)] } := by
  unfold addStream iperfNewStream
  dsimp only
  rw [if_pos (countStream_flag missing), created]
  refine ⟨_, rfl, rfl, rfl, rfl, rfl, ?_⟩
  unfold Test.ports iperfAddStream
  rw [List.map_append]
  rfl

theorem held_addStream (ports : Ports) (fd : Int)
    : (live fd ++ held ports).Perm
        (held { ports with streams := ports.streams ++ [(fd, false)] }) := by
  unfold held Ports.sockets
  rw [List.map_append, List.flatMap_append]
  have last : ([(fd, false)].map Prod.fst).flatMap live = live fd := by simp
  rw [last, List.append_assoc]
  exact List.perm_append_comm_assoc ..

theorem commonSockopts_open {io : StreamIo} (tos : r.test.settings.tos = 0 ∨ io.tosSet = true)
    : r.commonSockopts false io = none := by
  unfold commonSockopts
  rcases tos with unset | set
  · rw [if_pos unset]
  · rw [set]
    simp

/-- What is kept when a connection is accepted, provided that the kernel hands out a new
descriptor.
-/
structure Joined (r next : ServerRun) : Prop where
  timing : next.timing = r.timing
  state : next.test.state = r.test.state
  ctrlSck : next.test.ctrlSck = r.test.ctrlSck
  holds : next.misissued = false → Holds next.table (held next.test.ports)

/-- An accepted connection becomes a stream. -/
theorem addStream_joined {io : StreamIo} (missing : r.allAccepted = true → r.flag ≠ -1)
    (created : io.newStream.failed = none) {fd : Int}
    (holds : r.misissued = false → Holds r.table (live fd ++ held r.test.ports))
    : Leaves (fun _ => False) (Joined r) (r.addStream fd io) := by
  obtain ⟨next, added, timing, table, misissued, state, ports⟩ := addStream_ok missing created fd
  rw [added]
  refine ⟨timing, state, ?_, fun issued => ?_⟩
  · exact congrArg Ports.ctrlSck ports
  · rw [table, ports]
    exact (holds (misissued ▸ issued)).perm (held_addStream r.test.ports fd)

theorem acceptStream_tcp {io : StreamIo} (tcp : r.test.protocol = .tcp) (keeps : io.Keeps r)
    (holds : Holds r.table (held r.test.ports))
    : Leaves (Joined r) (Joined r) (r.acceptStream io) := by
  have same : Joined r r := ⟨rfl, rfl, rfl, fun _ => holds⟩
  unfold acceptStream protocolAccept
  rw [tcp]
  dsimp only
  unfold tcpAccept
  cases accepted : io.accepted with
  | none => exact same
  | some s =>
      have opened : (r.opens s).misissued = false →
          Holds (r.opens s).table (live s ++ held r.test.ports) := opens_holds holds
      obtain ⟨table, shape⟩ := close_eq (r.opens s) s
      have closed : Joined r ((r.opens s).close s) := by
        have after : (r.opens s).misissued = false →
            Holds ((r.opens s).close s).table (held r.test.ports) := fun issued =>
          close_holds (opened issued)
        rw [shape] at after ⊢
        exact ⟨rfl, rfl, rfl, after⟩
      dsimp only
      split_ifs with unread
      · exact closed
      · dsimp only
        rw [Bool.false_and, @commonSockopts_open (r.opens s) io keeps.tos]
        have added := @addStream_joined (r.opens s) io keeps.missing keeps.newStream s opened
        exact added.imp (fun _ => False.elim) fun next joined =>
          ⟨joined.timing, joined.state, joined.ctrlSck, joined.holds⟩
      · dsimp only
        rw [keeps.reused]
        cases ((r.opens s).close s).commonSockopts (true && !false) io with
        | some error => exact closed
        | none => exact closed

theorem held_replace {ports : Ports} (notTcp : ports.protocol ≠ .tcp) (fd : Int)
    : (live fd ++ held ports).Perm
        (live ports.protListener ++ held { ports with protListener := fd }) := by
  unfold held
  rw [if_neg notTcp, if_neg notTcp]
  refine List.perm_iff_count.mpr fun x => ?_
  simp only [Ports.sockets, List.count_append]
  omega

/-- The stream takes the old listener over, and a new one takes its place. -/
theorem acceptStream_udp {io : StreamIo} (notTcp : r.test.protocol ≠ .tcp) (keeps : io.Keeps r)
    (holds : Holds r.table (held r.test.ports))
    : Leaves (Joined r) (Joined r) (r.acceptStream io) := by
  have accepts : r.protocolAccept io = r.udpAccept io := by
    unfold protocolAccept
    cases protocol : r.test.protocol with
    | tcp => exact absurd protocol notTcp
    | udp => rfl
    | sctp => rfl
  obtain ⟨bufsize, grown⟩ := growBuffer_eq r io
  unfold acceptStream
  rw [accepts]
  unfold udpAccept
  rw [grown]
  cases setup : io.udpSetup with
  | some error => exact ⟨rfl, rfl, rfl, fun _ => holds⟩
  | none =>
      obtain ⟨isSome, sent⟩ := keeps.replaced notTcp setup
      obtain ⟨fd, replacement⟩ := Option.isSome_iff_exists.mp isSome
      rw [replacement, sent]
      let grows : ServerRun := {
        r with test :=
          { r.test with settings := { r.test.settings with socketBufsize := bufsize } } }
      let replaced : ServerRun := {
        grows.opens fd with test := { grows.test with protListener := fd } }
      have opened : replaced.misissued = false →
          Holds replaced.table (live r.test.protListener ++ held replaced.test.ports) :=
            fun issued =>
        (opens_holds holds issued).perm (held_replace notTcp fd)
      have added := @addStream_joined replaced io keeps.missing keeps.newStream
        r.test.protListener opened
      have options : replaced.commonSockopts false io = none := commonSockopts_open keeps.tos
      simp only [if_true, Bool.false_and]
      rw [options]
      exact added.imp (fun _ => False.elim) fun next joined =>
        ⟨joined.timing, joined.state, joined.ctrlSck, joined.holds⟩

theorem acceptStream_joined {io : StreamIo} (keeps : io.Keeps r)
    (holds : Holds r.table (held r.test.ports))
    : Leaves (Joined r) (Joined r) (r.acceptStream io) := by
  by_cases tcp : r.test.protocol = .tcp
  · exact acceptStream_tcp tcp keeps holds
  · exact acceptStream_udp tcp keeps holds

/-- While streams are created, a connection waits on the stream listener. -/
def streamReady (r : ServerRun) : Bool :=
  match r.point with
  | .streams readSet =>
      decide (r.test.state = .createStreams) && fdIsset r.test.protListener readSet
  | _ => false

theorem stream_sound (sound : Sound r) {readSet : List Int} (here : r.point = .streams readSet)
    {io : StreamIo} (careful : r.streamReady = true → io.Keeps r)
    (issued : (r.handleStreams readSet io).misissued = false)
    : Sound (r.handleStreams readSet io) := by
  have going : r.point.isOver = false := by rw [here]; rfl
  unfold handleStreams at issued ⊢
  by_cases creating : r.test.state = .createStreams
  · rw [if_pos creating] at issued ⊢
    have working : Working r := by
      rcases sound.alive going with working | closed
      · exact working
      · exact absurd creating closed.state
    have unarmed : ¬ r.timing.Armed .timer := fun armed => (working.safety armed).2.2 creating
    have outcome : Leaves (Joined r) (Joined r)
        (if fdIsset r.test.protListener readSet then r.acceptStream io else .ok r) := by
      split
      · next ready =>
          refine acceptStream_joined (careful ?_) sound.holds
          unfold streamReady
          rw [here]
          dsimp only
          rw [decide_eq_true creating, ready]
          rfl
      · exact ⟨rfl, rfl, rfl, fun _ => sound.holds⟩
    rcases result : (if fdIsset r.test.protListener readSet then r.acceptStream io
      else .ok r : Result) with ⟨next, error⟩ | next
    · rw [result] at outcome issued
      have joined : Joined r next := outcome
      exact @sound_failing { next with point := .failing (-1) } (joined.holds issued) (-1) rfl
    · rw [result] at outcome issued
      have joined : Joined r next := outcome
      have connected : 0 ≤ next.test.ctrlSck := joined.ctrlSck ▸ working.creating creating
      dsimp only at issued ⊢
      refine ⟨joined.holds issued, fun _ => .inl ?_, fun _ isOver => ?_⟩
      · constructor
        · dsimp only
          split <;> nofun
        · exact fun _ => joined.state.trans creating
        · dsimp only
          split <;> nofun
        · intro none_
          dsimp only at none_
          omega
        · exact fun _ => connected
        · exact joined.timing ▸ working.tracked
        · exact fun armed => absurd (joined.timing ▸ armed) unarmed
      · dsimp only at isOver
        split at isOver <;> cases isOver
  · rw [if_neg creating]
    exact sound.keep going ⟨rfl, rfl, rfl⟩ (.inl rfl) ⟨by simp, by simp, by simp⟩ rfl

end ServerRun

end Iperf
