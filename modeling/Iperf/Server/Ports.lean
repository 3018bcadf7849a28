import Iperf.Client.Steps
import Iperf.Parameters.Sessions
import Iperf.Server.Resources
import Iperf.Stats.Workers

/-! The part of a test that holds descriptors and workers, and the functions that leave it alone.
-/

namespace Iperf

/-- The descriptors of a test, with the socket of each stream and whether it has a thread. -/
structure Ports where
  listener : Int
  ctrlSck : Int
  protListener : Int
  protocol : ProtocolId
  streams : List (Int × Bool)

/-- The sockets of the streams. -/
def Ports.sockets (ports : Ports) : List Int := ports.streams.map Prod.fst

def Stream.port (sp : Stream) : Int × Bool := (sp.socket, sp.threadCreated)

def Test.ports (test : Test) : Ports :=
  {
    listener := test.listener
    ctrlSck := test.ctrlSck
    protListener := test.protListener
    protocol := test.protocol
    streams := test.streams.map Stream.port
  }

theorem ports_map (test : Test) {f : Stream → Stream} (keeps : ∀ sp, (f sp).port = sp.port)
    : { test with streams := test.streams.map f }.ports = test.ports := by
  refine congrArg (fun streams => { test.ports with streams }) ?_
  rw [List.map_map]
  exact List.map_congr_left fun sp _ => keeps sp

theorem iperfStatsCallback_ports (test : Test) (now : IperfTime)
    : (iperfStatsCallback test now).ports = test.ports := by
  obtain ⟨_, _, _, _, shape⟩ := iperfStatsCallback_shape test now
  rw [shape]
  exact @ports_map test (closeInterval test now) fun _ => rfl

theorem iperfInitTest_ports (test : Test) (now : IperfTime)
    : (iperfInitTest test now).ports = test.ports := by
  refine ports_map test ?_
  exact fun _ => rfl

theorem iperfResetStats_ports (test : Test) (now : IperfTime)
    : (iperfResetStats test now).ports = test.ports :=
  @ports_map { test with bytesSent := 0, blocksSent := 0 } (resetStreamStats now) fun _ => rfl

theorem takePeerResult_port (peer : PeerResult) (sp : Stream)
    : (takePeerResult peer sp).port = sp.port := by
  unfold takePeerResult
  split <;> rfl

theorem getResults_ports (test : Test) (json : CJson)
    : (getResults test json).2.ports = test.ports := by
  obtain ⟨streams, _, _, _, _, takes, shape⟩ := getResults_shape test json
  have same : streams.map Stream.port = test.streams.map Stream.port :=
    map_eq_of_forall₂ (takes.imp fun _ _ took => took.kept Stream.port takePeerResult_port)
  rw [shape]
  exact congrArg (fun streams => { test.ports with streams }) same

/-- The stream of a worker keeps its port. -/
theorem ports_set {test : Test} {position : Nat} {sp sp' : Stream}
    (found : test.streams[position]? = some sp) (same : SameBaseline sp sp')
    : (test.streams.set position sp').map Stream.port = test.streams.map Stream.port := by
  have port : sp'.port = sp.port := by
    unfold Stream.port
    rw [same.socket, same.threadCreated]
  rw [List.map_set, port]
  refine List.ext_getElem? fun index => ?_
  rw [List.getElem?_set, List.getElem?_map]
  split
  · next here =>
      subst here
      rw [found]
      split
      · rfl
      · next short =>
          rw [List.length_map] at short
          rw [List.getElem?_eq_none (by omega)] at found
          cases found
  · rfl

theorem iperfRecvMt_ports {test next : Test} {position : Nat} {arrivalTime : IperfTime}
    {results : List RecvResult} {r : Int}
    (received : iperfRecvMt test position arrivalTime results = some (r, next))
    : next.ports = test.ports := by
  obtain ⟨sp, sp', found, got, rfl⟩ := iperfRecvMt_frame received
  exact congrArg (fun streams => { test.ports with streams })
    (ports_set found (protocolRecv_accounts got).1)

theorem iperfSendMt_ports {test next : Test} {position : Nat} {before : IperfTime} {io : SendIo}
    {r : Int} (sent : iperfSendMt test position before io = some (r, next))
    : next.ports = test.ports := by
  obtain ⟨sp, sp', out, found, got, -, rfl⟩ := iperfSendMt_accounts sent
  exact congrArg (fun streams => { test.ports with streams })
    (ports_set found (protocolSend_accounts got).1)

namespace ServerRun

theorem opens_issued {r : ServerRun} {fd : Int} (issued : (r.opens fd).misissued = false)
    : r.misissued = false ∧ 0 ≤ fd ∧ fd ∉ r.table.opened := by
  simp only [opens, Bool.or_eq_false_iff, decide_eq_false_iff_not, not_lt] at issued
  obtain ⟨⟨before, positive⟩, isNew⟩ := issued
  refine ⟨before, positive, fun isOpen => ?_⟩
  rw [List.contains_iff_mem.mpr isOpen] at isNew
  cases isNew

/-- `close(2)` changes nothing but the table. -/
theorem close_eq (r : ServerRun) (fd : Int) : ∃ table, r.close fd = { r with table } := by
  unfold close
  split
  · exact ⟨r.table, rfl⟩
  · exact ⟨_, rfl⟩

theorem closeSockets_eq (r : ServerRun) : ∃ table, r.closeSockets = { r with table } := by
  have closes (streams : List Stream) (r : ServerRun)
      : ∃ table, streams.foldl (fun r sp => r.close sp.socket) r = { r with table } := by
    induction streams generalizing r with
    | nil => exact ⟨r.table, rfl⟩
    | cons sp rest ih =>
        obtain ⟨table, shape⟩ := close_eq r sp.socket
        obtain ⟨table', shape'⟩ := ih (r.close sp.socket)
        refine ⟨table', ?_⟩
        rw [List.foldl_cons, shape', shape]
  exact closes r.test.streams r

@[simp] theorem close_test (r : ServerRun) (fd : Int) : (r.close fd).test = r.test := by
  obtain ⟨_, shape⟩ := close_eq r fd
  rw [shape]

@[simp] theorem closeSockets_test (r : ServerRun) : r.closeSockets.test = r.test := by
  obtain ⟨_, shape⟩ := closeSockets_eq r
  rw [shape]

/-- The fields after the descriptors have been closed. -/
theorem closeAll_test (r : ServerRun)
    : r.closeAll.test = {
        r.test with
        streams := r.test.streams.map (fun sp => { sp with socket := -1 })
        ctrlSck := -1
        listener := -1
        protListener := -1
      } := by
  simp only [closeAll, close_test, closeSockets_test]

@[simp] theorem close_timing (r : ServerRun) (fd : Int) : (r.close fd).timing = r.timing := by
  obtain ⟨_, shape⟩ := close_eq r fd
  rw [shape]

@[simp] theorem close_calls (r : ServerRun) (fd : Int) : (r.close fd).calls = r.calls := by
  obtain ⟨_, shape⟩ := close_eq r fd
  rw [shape]

/-- Nothing but the fields and the table. -/
theorem closeAll_calls (r : ServerRun)
    : r.closeAll.calls = r.calls ∧ r.closeAll.timing = r.timing := by
  obtain ⟨_, shape⟩ := closeSockets_eq r
  unfold closeAll
  simp only [close_calls, close_timing, shape, and_self]

/-- What `cleanup_server` leaves. -/
theorem cleanupServer_parts (r : ServerRun) (joined : Nat → Bool)
    : (r.cleanupServer joined).calls = r.calls ++ [.cleanupServer]
      ∧ (r.cleanupServer joined).timing = (((r.timing.cancelTimer .statsTimer).cancelTimer
          .reporterTimer).cancelTimer .omitTimer).cancelTimer .timer
      ∧ (r.cleanupServer joined).test = {
          ((r.log .cleanupServer).joinWorkers joined).closeAll.test with
            congestionUsed := none } := by
  obtain ⟨calls, timing⟩ := closeAll_calls ((r.log .cleanupServer).joinWorkers joined)
  unfold cleanupServer cancelTimers
  generalize ((r.log .cleanupServer).joinWorkers joined).closeAll = closed at calls timing ⊢
  dsimp only
  rw [calls, timing]
  exact ⟨rfl, rfl, rfl⟩

theorem closed_eq {fd : Int} (number : -1 ≤ fd) : closed fd = -1 := by
  unfold closed
  omega

/-- A run of the server ends a session as `serverAfter` does: on the test, `cleanup_server` is the
same function, since a field without a descriptor holds `-1`.
-/
theorem cleanupServer_test (r : ServerRun) (joined : Nat → Bool)
    (ctrlSck : -1 ≤ r.test.ctrlSck) (listener : -1 ≤ r.test.listener)
    (protListener : -1 ≤ r.test.protListener)
    (sockets : ∀ sp ∈ r.test.streams, -1 ≤ sp.socket)
    : (r.cleanupServer joined).test = Iperf.cleanupServer r.test := by
  have streams : r.test.streams.map (fun sp => {
        sp with
        done := true
        threadCreated := false
        socket := closed sp.socket
      })
      = r.test.streams.map (fun sp => {
        sp with
        done := true
        threadCreated := false
        socket := -1
      }) :=
    List.map_congr_left fun sp isOne => by rw [closed_eq (sockets sp isOne)]
  rw [(cleanupServer_parts r joined).2.2, closeAll_test, Iperf.cleanupServer, streams,
    closed_eq ctrlSck, closed_eq listener, closed_eq protListener]
  simp only [joinWorkers, log, List.map_map, Function.comp_def]

theorem cleanupServer_state (r : ServerRun) (joined : Nat → Bool)
    : (r.cleanupServer joined).test.state = r.test.state := by
  rw [(cleanupServer_parts r joined).2.2, closeAll_test]
  rfl

/-- A larger buffer for UDP is a matter of the settings. -/
theorem growBuffer_eq (r : ServerRun) (io : StreamIo)
    : ∃ socketBufsize, r.growBuffer io = {
        r with test := { r.test with settings := { r.test.settings with socketBufsize } } } := by
  unfold growBuffer
  split
  · exact ⟨_, rfl⟩
  · exact ⟨_, rfl⟩

/-- The server is about to return, or has returned. -/
def Point.isOver : Point → Bool
  | .failing _ | .returned _ => true
  | _ => false

/-- One property of the state when a function fails, and one when it succeeds. -/
def Leaves (failed passed : ServerRun → Prop) : Result → Prop
  | .error (r, _) => failed r
  | .ok r => passed r

theorem Leaves.bind {failed middle passed : ServerRun → Prop} {x : Result}
    {f : ServerRun → Result} (first : Leaves failed middle x)
    (second : ∀ r, middle r → Leaves failed passed (f r))
    : Leaves failed passed (x >>= f) := by
  rcases x with ⟨r, error⟩ | r
  · exact first
  · exact second r first

theorem Leaves.imp {failed failed' passed passed' : ServerRun → Prop} {x : Result}
    (leaves : Leaves failed passed x) (first : ∀ r, failed r → failed' r)
    (second : ∀ r, passed r → passed' r)
    : Leaves failed' passed' x := by
  rcases x with ⟨r, error⟩ | r
  · exact first r leaves
  · exact second r leaves

/-- What a step of a worker leaves alone; it may be the last one. -/
structure Worked (r next : ServerRun) : Prop where
  ports : next.test.ports = r.test.ports
  state : next.test.state = r.test.state
  timing : next.timing = r.timing
  table : next.table = r.table
  misissued : next.misissued = r.misissued
  calls : next.calls = r.calls
  threads : next.threads ⊆ r.threads
  point : next.point = r.point

theorem Worked.endWorker {r next : ServerRun} (worked : Worked r next) (position : Nat)
    : Worked r (next.endWorker position) :=
  ⟨worked.ports, worked.state, worked.timing, worked.table, worked.misissued, worked.calls,
    fun _ lives => worked.threads (List.mem_of_mem_filter lives), worked.point⟩

theorem work_worked (r : ServerRun) (position : Nat) (event : WorkerEvent)
    : Worked r (r.work position event) := by
  have same : Worked r r := ⟨rfl, rfl, rfl, rfl, rfl, rfl, fun _ lives => lives, rfl⟩
  have goesOn {test : Test} {n : Int} (ports : test.ports = r.test.ports)
      (state : test.state = r.test.state)
      : Worked r (if n < 0 then { r with test }.endWorker position else { r with test }) := by
    have worked : Worked r { r with test } :=
      ⟨ports, state, rfl, rfl, rfl, rfl, fun _ lives => lives, rfl⟩
    split
    · exact worked.endWorker position
    · exact worked
  cases event with
  | ends => exact same.endWorker position
  | receive arrivalTime results =>
      unfold work
      dsimp only
      split
      · exact same
      · next received =>
          obtain ⟨_, _, _, _, shape⟩ := iperfRecvMt_frame received
          exact goesOn (iperfRecvMt_ports received) (by rw [shape])
  | send before io =>
      unfold work
      dsimp only
      split
      · exact same
      · next sent =>
          obtain ⟨_, _, _, _, _, _, shape⟩ := iperfSendMt_accounts sent
          exact goesOn (iperfSendMt_ports sent) (by rw [shape])

end ServerRun

end Iperf
