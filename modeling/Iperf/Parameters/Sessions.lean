import Iperf.Parameters.Faithful
import Mathlib.Data.List.Induction

/-! One server test object over several sessions: what `iperf_reset_test` does not restore
reaches the next client.
-/

namespace Iperf

open CJson

/-- A descriptor after it was closed if it was open. -/
def closed (fd : Int) : Int := if fd > -1 then -1 else fd

/-- `cleanup_server`: the workers are joined, every socket is closed. -/
def cleanupServer (test : Test) : Test :=
  {
    test with
    streams := test.streams.map (fun sp => {
      sp with
      done := true
      threadCreated := false
      socket := closed sp.socket
    })
    ctrlSck := closed test.ctrlSck
    listener := closed test.listener
    protListener := closed test.protListener
    congestionUsed := none
  }

/-- `iperf_reset_test`. -/
def iperfResetTest (test : Test) : Test :=
  let test :=
    setProtocol
      {
        test with
        streams := []
        done := false
        congestion := none
        remoteCongestionUsed := none
        role := .server
        mode := .receiver
        senderHasRetransmits := 0
      }
      .tcp
  {
    test with
    omitPeriod := omitDefault
    duration := durationDefault
    serverAffinity := -1
    state := .zero
    ctrlSck := -1
    listener := -1
    protListener := -1
    bytesSent := 0
    blocksSent := 0
    bytesReceived := 0
    blocksReceived := 0
    otherSideHasRetransmits := 0
    bitrateLimitStatsCount := 0
    bitrateLimitLastIntervalIndex := 0
    bitrateLimitExceeded := false
    bitrateLimitIntervalsTrafficBytes := List.replicate 60 0
    reverse := false
    bidirectional := false
    noDelay := false
    numStreams := 1
    settings := {
      test.settings with
      socketBufsize := 0
      blksize := defaultTcpBlksize
      rate := 0
      fqrate := 0
      burst := 0
      mss := 0
      tos := 0
      dontFragment := 0
      skipRxCopy := 0
    }
    zerocopy := 0
    cookie := List.replicate cookieSize 0
    udpCounters64bit := false
    title := none
    extraData := none
  }

/-- The server when the next client arrives, after the sessions with the given documents. -/
def serverAfter (earlier : List CJson) : Test :=
  earlier.foldl
    (fun test json => iperfResetTest (cleanupServer (getParameters test json)))
    freshServer

/-- The settings that `get_parameters` can write agree. -/
structure SameSettings (left right : Test) : Prop where
  exchanged : exchanged left = exchanged right
  mode : left.mode = right.mode
  pacingTimer : left.settings.pacingTimer = right.settings.pacingTimer
  congestionUsed : left.congestionUsed = right.congestionUsed

/-- The settings of a fresh server, except the four that the reset forgets and the two that
`get_parameters` clears by itself.
-/
def inherited (test : Test) : Exchanged :=
  {
    exchanged freshServer with
    bytes := test.settings.bytes
    blocks := test.settings.blocks
    flowlabel := test.settings.flowlabel
    getServerOutput := test.getServerOutput
    repeatingPayload := test.repeatingPayload
  }

/-- A server at the start of a session differs from a fresh one only in what it inherits. -/
structure Restored (test : Test) : Prop where
  exchanged : exchanged test = inherited test
  role : test.role = .server
  mode : test.mode = .receiver
  congestionUsed : test.congestionUsed = none

theorem restored_reset (test : Test) : Restored (iperfResetTest (cleanupServer test)) := by
  simp only [iperfResetTest, setProtocol, checkSenderHasRetransmits_eq, cleanupServer]
  exact ⟨rfl, rfl, rfl, rfl⟩

theorem restored_freshServer : Restored freshServer := ⟨rfl, rfl, rfl, rfl⟩

/-- What the reset leaves alone. -/
theorem reset_forgets (test : Test)
    : (iperfResetTest (cleanupServer test)).settings.pacingTimer = test.settings.pacingTimer
      ∧ (iperfResetTest (cleanupServer test)).settings.flowlabel = test.settings.flowlabel
      ∧ (iperfResetTest (cleanupServer test)).getServerOutput = test.getServerOutput
      ∧ (iperfResetTest (cleanupServer test)).repeatingPayload = test.repeatingPayload := by
  simp only [iperfResetTest, setProtocol, checkSenderHasRetransmits_eq, cleanupServer]
  trivial

/-- A document that carries a number under the key. -/
def carries (key : Key) (json : CJson) : Bool := (json.getObjectItemType key .number).isSome

/-- The number that the last document to carry one gave to the key. -/
def lastCarried (key : Key) (documents : List CJson) : Option Int32 :=
  documents.foldl
    (fun last json =>
      match json.getObjectItemType key .number with
      | some item => some item.valueint.toInt32
      | none => last)
    none

theorem lastCarried_append (key : Key) (documents : List CJson) (json : CJson)
    (default : Int32)
    : (lastCarried key (documents ++ [json])).getD default
      = intMember json key ((lastCarried key documents).getD default) := by
  simp only [lastCarried, List.foldl_append, List.foldl_cons, List.foldl_nil, intMember]
  cases json.getObjectItemType key .number <;> rfl

/-- The four leaked settings, read off the earlier documents. Witness: induction on the
sessions, from the last one; each session reads its document and the reset keeps the four.
-/
theorem serverAfter_leaks (earlier : List CJson)
    : (serverAfter earlier).settings.pacingTimer
        = (lastCarried .pacingTimer earlier).getD defaultPacingTimer
      ∧ (serverAfter earlier).settings.flowlabel = (lastCarried .flowlabel earlier).getD 0
      ∧ (serverAfter earlier).getServerOutput = earlier.any (carries .getServerOutput)
      ∧ (serverAfter earlier).repeatingPayload = earlier.any (carries .repeatingPayload) := by
  induction earlier using List.reverseRecOn with
  | nil => exact ⟨rfl, rfl, rfl, rfl⟩
  | append_singleton earlier json ih =>
      obtain ⟨pacing, flow, output, payload⟩ := ih
      have step : serverAfter (earlier ++ [json])
          = iperfResetTest (cleanupServer (getParameters (serverAfter earlier) json)) := by
        simp [serverAfter]
      obtain ⟨forgotPacing, forgotFlow, forgotOutput, forgotPayload⟩ :=
        reset_forgets (getParameters (serverAfter earlier) json)
      obtain ⟨settings, -, pacingRead, -⟩ := getParameters_exchanged (serverAfter earlier) json
      have flowRead := congrArg Exchanged.flowlabel settings
      have outputRead := congrArg Exchanged.getServerOutput settings
      have payloadRead := congrArg Exchanged.repeatingPayload settings
      simp only [exchanged, Exchanged.read, flow, output,
        payload] at flowRead outputRead payloadRead
      rw [step, forgotPacing, forgotFlow, forgotOutput, forgotPayload, pacingRead, pacing,
        flowRead, outputRead, payloadRead]
      refine ⟨(lastCarried_append _ _ _ _).symm, (lastCarried_append _ _ _ _).symm, ?_, ?_⟩
      · simp [flagMember, carries, Bool.or_comm]
      · simp [flagMember, carries, Bool.or_comm]

theorem serverAfter_restored (earlier : List CJson) : Restored (serverAfter earlier) := by
  induction earlier using List.reverseRecOn with
  | nil => exact restored_freshServer
  | append_singleton earlier json _ =>
      have step : serverAfter (earlier ++ [json])
          = iperfResetTest (cleanupServer (getParameters (serverAfter earlier) json)) := by
        simp [serverAfter]
      rw [step]
      exact restored_reset _

/-- No earlier client's option reaches the session of `last`: each of the four settings that
the reset forgets is set by `last` itself or was left at its initial value.
-/
structure NoLeak (earlier : List CJson) (last : CJson) : Prop where
  pacingTimer : carries .pacingTimer last
    ∨ (lastCarried .pacingTimer earlier).getD defaultPacingTimer = defaultPacingTimer
  flowlabel : carries .flowlabel last ∨ (lastCarried .flowlabel earlier).getD 0 = 0
  getServerOutput : carries .getServerOutput last
    ∨ ∀ json ∈ earlier, ¬ carries .getServerOutput json
  repeatingPayload : carries .repeatingPayload last
    ∨ ∀ json ∈ earlier, ¬ carries .repeatingPayload json

theorem intMember_eq_iff {json : CJson} {key : Key} {left right : Int32}
    : intMember json key left = intMember json key right ↔ carries key json ∨ left = right := by
  unfold intMember carries
  cases json.getObjectItemType key .number <;> simp

theorem flagMember_eq_iff {json : CJson} {key : Key} {current : Bool}
    : flagMember json key .number current = flagMember json key .number false
      ↔ carries key json ∨ current = false := by
  unfold flagMember carries
  cases json.getObjectItemType key .number <;> simp

/-- Reading a document into inherited settings agrees with reading it into fresh ones exactly
when the three inherited flags do.
-/
theorem read_inherited_iff (test : Test) (json : CJson)
    : (inherited test).read json = (exchanged freshServer).read json
      ↔ intMember json .flowlabel test.settings.flowlabel = intMember json .flowlabel 0
        ∧ flagMember json .getServerOutput .number test.getServerOutput
          = flagMember json .getServerOutput .number false
        ∧ flagMember json .repeatingPayload .number test.repeatingPayload
          = flagMember json .repeatingPayload .number false := by
  constructor
  · intro same
    exact ⟨congrArg Exchanged.flowlabel same, congrArg Exchanged.getServerOutput same,
      congrArg Exchanged.repeatingPayload same⟩
  · rintro ⟨flow, output, payload⟩
    simp only [Exchanged.read, inherited, flow, output, payload]
    rfl

/-- A session's settings are those of a fresh server exactly when no option leaks into it. -/
theorem sessions_independent_iff (earlier : List CJson) (last : CJson)
    : SameSettings (getParameters (serverAfter earlier) last) (getParameters freshServer last)
      ↔ NoLeak earlier last := by
  obtain ⟨settings, mode, pacing, congestion, -⟩ :=
    getParameters_exchanged (serverAfter earlier) last
  obtain ⟨freshSettings, freshMode, freshPacing, freshCongestion, -⟩ :=
    getParameters_exchanged freshServer last
  have restored := serverAfter_restored earlier
  obtain ⟨leakPacing, leakFlow, leakOutput, leakPayload⟩ := serverAfter_leaks earlier
  rw [restored.exchanged] at settings
  have settingsIff := read_inherited_iff (serverAfter earlier) last
  rw [intMember_eq_iff, flagMember_eq_iff, flagMember_eq_iff, leakFlow, leakOutput, leakPayload,
    List.any_eq_false, List.any_eq_false] at settingsIff
  constructor
  · intro same
    have read := settingsIff.mp (settings.symm.trans (same.exchanged.trans freshSettings))
    have timer := same.pacingTimer
    rw [pacing, freshPacing, leakPacing] at timer
    exact ⟨intMember_eq_iff.mp timer, read.1, read.2.1, read.2.2⟩
  · intro noLeak
    have read := settingsIff.mpr ⟨noLeak.flowlabel, noLeak.getServerOutput, noLeak.repeatingPayload⟩
    refine ⟨?_, ?_, ?_, ?_⟩
    · rw [settings, freshSettings, read]
    · rw [mode, freshMode, restored.mode, restored.role]
      rfl
    · rw [pacing, freshPacing, leakPacing]
      exact intMember_eq_iff.mpr noLeak.pacingTimer
    · rw [congestion, freshCongestion, restored.congestionUsed]
      rfl

/-- A client that asks for the server's output makes the next client's session return it too.
-/
theorem sessions_interfere
    : ¬ SameSettings
        (getParameters
          (serverAfter [.object [(.tcp, .bool true), (.getServerOutput, .number 1)]])
          (.object [(.tcp, .bool true)]))
        (getParameters freshServer (.object [(.tcp, .bool true)])) := by
  intro same
  have output := congrArg Exchanged.getServerOutput same.exchanged
  revert output
  decide

end Iperf
