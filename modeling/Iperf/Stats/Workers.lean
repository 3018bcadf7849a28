import Iperf.Server.ControlBytes

/-! What one call of a worker adds to the accounts of its stream and of the test. -/

namespace Iperf

/-- Everything about a stream that no worker changes, beside its counters. -/
structure SameBaseline (sp sp' : Stream) : Prop where
  sender : sp'.sender = sp.sender
  threadCreated : sp'.threadCreated = sp.threadCreated
  omittedPacketCount : sp'.omittedPacketCount = sp.omittedPacketCount
  omittedOutoforderPackets : sp'.omittedOutoforderPackets = sp.omittedOutoforderPackets
  omittedCntError : sp'.omittedCntError = sp.omittedCntError
  socket : sp'.socket = sp.socket

theorem udpCountSequence_baseline (sp : Stream) (pcount : UInt64)
    : SameBaseline sp (udpCountSequence sp pcount) := by
  unfold udpCountSequence
  dsimp only
  split_ifs <;> exact ⟨rfl, rfl, rfl, rfl, rfl, rfl⟩

/-- The bytes of a receive that count: only those of a running test. -/
def countedBytes (test : Test) (r : Int) : UInt64 :=
  if test.state = .testRunning then UInt64.ofNat r.toNat else 0

def StreamResult.receive (rp : StreamResult) (size : UInt64) : StreamResult :=
  {
    rp with
    bytesReceived := rp.bytesReceived + size
    bytesReceivedThisInterval := rp.bytesReceivedThisInterval + size
  }

def StreamResult.send (rp : StreamResult) (size : UInt64) : StreamResult :=
  {
    rp with
    bytesSent := rp.bytesSent + size
    bytesSentThisInterval := rp.bytesSentThisInterval + size
  }

@[simp] theorem StreamResult.receive_zero (rp : StreamResult) : rp.receive 0 = rp := by
  simp [StreamResult.receive]

theorem countedBytes_nonpos {test : Test} {r : Int} (nothing : r ≤ 0)
    : countedBytes test r = 0 := by
  unfold countedBytes
  rw [Int.toNat_of_nonpos nothing]
  exact ite_self _

theorem iperfTcpRecv_accounts {test : Test} {sp sp' : Stream} {results : List RecvResult}
    {r : Int} (got : iperfTcpRecv test sp results = some (r, sp'))
    : SameBaseline sp sp' ∧ sp'.result = sp.result.receive (countedBytes test r) := by
  simp only [iperfTcpRecv, Option.map_eq_some_iff] at got
  obtain ⟨out, -, shape⟩ := got
  split at shape
  · next failed =>
      obtain ⟨rfl, rfl⟩ := Prod.mk.inj shape
      rw [countedBytes_nonpos failed.le]
      exact ⟨⟨rfl, rfl, rfl, rfl, rfl, rfl⟩, (StreamResult.receive_zero _).symm⟩
  · split at shape
    · next running =>
        obtain ⟨rfl, rfl⟩ := Prod.mk.inj shape
        rw [countedBytes, if_pos running]
        exact ⟨⟨rfl, rfl, rfl, rfl, rfl, rfl⟩, rfl⟩
    · next late =>
        obtain ⟨rfl, rfl⟩ := Prod.mk.inj shape
        rw [countedBytes, if_neg late]
        exact ⟨⟨rfl, rfl, rfl, rfl, rfl, rfl⟩, (StreamResult.receive_zero _).symm⟩

theorem iperfUdpRecv_accounts {test : Test} {sp sp' : Stream} {arrivalTime : IperfTime}
    {results : List RecvResult} {r : Int}
    (got : iperfUdpRecv test sp arrivalTime results = some (r, sp'))
    : SameBaseline sp sp' ∧ sp'.result = sp.result.receive (countedBytes test r) := by
  simp only [iperfUdpRecv, Option.map_eq_some_iff] at got
  obtain ⟨out, -, shape⟩ := got
  split at shape
  · next nothing =>
      obtain ⟨rfl, rfl⟩ := Prod.mk.inj shape
      rw [countedBytes_nonpos nothing]
      exact ⟨⟨rfl, rfl, rfl, rfl, rfl, rfl⟩, (StreamResult.receive_zero _).symm⟩
  · split at shape
    · next running =>
        obtain ⟨rfl, rfl⟩ := Prod.mk.inj shape
        rw [countedBytes, if_pos running]
        obtain ⟨sender, thread, packets, order, errors, socket⟩ := udpCountSequence_baseline
          { sp with
            buffer := out.buffer
            result := sp.result.receive (UInt64.ofNat out.ret.toNat) }
          (udpReadHeader test out.buffer).1
        exact ⟨⟨sender, thread, packets, order, errors, socket⟩, udpCountSequence_result _ _⟩
    · next late =>
        obtain ⟨rfl, rfl⟩ := Prod.mk.inj shape
        rw [countedBytes, if_neg late]
        exact ⟨⟨rfl, rfl, rfl, rfl, rfl, rfl⟩, (StreamResult.receive_zero _).symm⟩

/-- A receive adds the same bytes to the stream's total and to its interval. -/
theorem protocolRecv_accounts {test : Test} {sp sp' : Stream} {arrivalTime : IperfTime}
    {results : List RecvResult} {r : Int}
    (got : protocolRecv test sp arrivalTime results = some (r, sp'))
    : SameBaseline sp sp' ∧ sp'.result = sp.result.receive (countedBytes test r) := by
  unfold protocolRecv at got
  split at got
  · exact iperfUdpRecv_accounts got
  · exact iperfTcpRecv_accounts got
  · exact iperfTcpRecv_accounts got

theorem iperfTcpSend_accounts {test : Test} {sp sp' : Stream} {io : SendIo} {sent : Sent}
    (called : iperfTcpSend test sp io = some (sent, sp'))
    : SameBaseline sp sp' ∧ sp'.result = sp.result.send (UInt64.ofNat sent.ret.toNat) := by
  simp only [iperfTcpSend, Option.map_eq_some_iff] at called
  obtain ⟨out, -, shape⟩ := called
  split at shape
  · next failed =>
      obtain ⟨rfl, rfl⟩ := Prod.mk.inj shape
      rw [Int.toNat_of_nonpos failed.le]
      exact ⟨⟨rfl, rfl, rfl, rfl, rfl, rfl⟩, by simp [StreamResult.send]⟩
  · obtain ⟨rfl, rfl⟩ := Prod.mk.inj shape
    exact ⟨⟨rfl, rfl, rfl, rfl, rfl, rfl⟩, rfl⟩

theorem iperfUdpSend_accounts {test : Test} {sp sp' : Stream} {before : IperfTime}
    {results : List WriteResult} {sent : Sent}
    (called : iperfUdpSend test sp before results = some (sent, sp'))
    : SameBaseline sp sp' ∧ sp'.result = sp.result.send (UInt64.ofNat sent.ret.toNat) := by
  simp only [iperfUdpSend, Option.map_eq_some_iff] at called
  obtain ⟨out, -, shape⟩ := called
  split at shape
  · next failed =>
      obtain ⟨rfl, rfl⟩ := Prod.mk.inj shape
      rw [Int.toNat_of_nonpos failed.le]
      exact ⟨⟨rfl, rfl, rfl, rfl, rfl, rfl⟩, by simp [StreamResult.send]⟩
  · obtain ⟨rfl, rfl⟩ := Prod.mk.inj shape
    exact ⟨⟨rfl, rfl, rfl, rfl, rfl, rfl⟩, rfl⟩

/-- A send adds the same bytes to the stream's total and to its interval. -/
theorem protocolSend_accounts {test : Test} {sp sp' : Stream} {before : IperfTime}
    {io : SendIo} {sent : Sent}
    (called : protocolSend test sp before io = some (sent, sp'))
    : SameBaseline sp sp' ∧ sp'.result = sp.result.send (UInt64.ofNat sent.ret.toNat) := by
  unfold protocolSend at called
  split at called
  · exact iperfUdpSend_accounts called
  · exact iperfTcpSend_accounts called
  · exact iperfTcpSend_accounts called

/-- A sending worker changes its stream; the bytes and blocks of the test grow with it. -/
theorem iperfSendMt_accounts {test next : Test} {position : Nat} {before : IperfTime}
    {io : SendIo} {r : Int} (called : iperfSendMt test position before io = some (r, next))
    : ∃ (sp sp' : Stream) (sent : Sent), test.streams[position]? = some sp
      ∧ protocolSend test sp before io = some (sent, sp') ∧ sent.ret = r
      ∧ next = {
          test with
          streams := test.streams.set position sp'
          bytesSent := test.bytesSent + UInt64.ofNat r.toNat
          blocksSent :=
            if 0 ≤ r ∧ sp'.pendingSize = 0 then test.blocksSent + 1 else test.blocksSent
        } := by
  simp only [iperfSendMt, Option.bind_eq_bind, Option.bind_eq_some_iff] at called
  obtain ⟨sp, found, ⟨sent, sp'⟩, got, rest⟩ := called
  dsimp only at rest
  split at rest
  · next failed =>
      obtain ⟨rfl, rfl⟩ := Prod.mk.inj (Option.some.inj rest)
      refine ⟨sp, sp', sent, found, got, rfl, ?_⟩
      rw [Int.toNat_of_nonpos failed.le, if_neg (fun blocks => absurd blocks.1 (by omega))]
      simp
  · next sentSome =>
      obtain ⟨rfl, rfl⟩ := Prod.mk.inj (Option.some.inj rest)
      refine ⟨sp, sp', sent, found, got, rfl, ?_⟩
      have positive : 0 ≤ sent.ret := by omega
      simp only [positive, true_and]

end Iperf
