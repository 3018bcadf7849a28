import Iperf.Session.ControlClient

/-! The server keeps to the script of the control connection. -/

namespace Iperf

open Checked Dialogue Relation

variable {setup : ControlSetup}

-----------------------------------------------------------------------------------------
-- Positions
-----------------------------------------------------------------------------------------

/-- The number of streams of the test. -/
def ControlSetup.total (setup : ControlSetup) : Nat :=
  receivers setup.client + senders setup.client

/-- What is left of the script for a server that runs a test or has shown its results. -/
def ControlSetup.serverRest (setup : ControlSetup) : TestState → Option (List (Turn ControlItem))
  | .testRunning => some setup.endOn
  | .displayResults => some setup.doneOn
  | _ => none

/-- The server is in its loop. -/
def ServerPoint.Looping (point : ServerPoint) : Prop :=
  point = .select ∨ point = .listener ∨ point = .control ∨ point = .streams

/-- No stream has been counted, and the parameters are still the server's own. -/
structure Unasked (s : Server) : Prop where
  role : s.test.role = .server
  mode : s.test.mode = .receiver
  streams : s.test.streams = []
  received : s.recStreamsAccepted = 0
  sent : s.sendStreamsAccepted = 0

/-- No stream has been counted, and the parameters are the client's. -/
structure Asked (client : Test) (s : Server) : Prop where
  numStreams : s.test.numStreams = client.numStreams
  mode : s.test.mode = if client.bidirectional then .bidirectional
    else if client.reverse then .sender
    else .receiver
  streams : s.test.streams = []
  received : s.recStreamsAccepted = 0
  sent : s.sendStreamsAccepted = 0

/-- Where the server stands between the connection of the client and its own return when so much
of the script is left.
-/
inductive ServerStands (setup : ControlSetup) : List (Turn ControlItem) → ServerEnd → Prop where
  | cookie {s : ServerEnd} (point : s.point = .cookie) (unasked : Unasked s.server)
    : ServerStands setup setup.cookieOn s
  | paramExchange {s : ServerEnd} (point : s.point = .paramExchange)
    (unasked : Unasked s.server)
    : ServerStands setup setup.paramExchangeOn s
  | parametersLength {s : ServerEnd} (point : s.point = .parametersLength)
    (unasked : Unasked s.server)
    : ServerStands setup setup.parametersOn s
  | parametersText {s : ServerEnd} (point : s.point = .parametersText (hsize setup.parameters))
    (positive : 0 < hsize setup.parameters) (limited : hsize setup.parameters ≤ maxParamsJsonString)
    (unasked : Unasked s.server)
    : ServerStands setup setup.parametersTextOn s
  | createStreams {s : ServerEnd} (point : s.point = .createStreams)
    (asked : Asked setup.client s.server)
    : ServerStands setup setup.createOn s
  | creating {s : ServerEnd} {accepted : Nat} (point : s.point.Looping)
    (state : s.test.state = .createStreams) (counted : Counted setup.client accepted s.server)
    (length : s.test.streams.length = accepted) (missing : accepted < setup.total)
    : ServerStands setup (setup.streamsOn (setup.total - accepted)) s
  | starting {s : ServerEnd} (point : s.point = .complete ∨ s.point = .testStart)
    (length : s.test.streams.length = setup.total)
    : ServerStands setup setup.startOn s
  | testRunning {s : ServerEnd} (point : s.point = .testRunning)
    (length : s.test.streams.length = setup.total)
    : ServerStands setup setup.runningOn s
  | loop {rest : List (Turn ControlItem)} {s : ServerEnd} (point : s.point.Looping)
    (waits : setup.serverRest s.test.state = some rest)
    : ServerStands setup rest s
  | exchangeResults {s : ServerEnd} (point : s.point = .exchangeResults)
    : ServerStands setup setup.exchangeOn s
  | peerLength {s : ServerEnd} (point : s.point = .peerLength)
    : ServerStands setup setup.resultsOn s
  | peerText {s : ServerEnd} (point : s.point = .peerText (hsize setup.clientResults))
    (positive : 0 < hsize setup.clientResults)
    : ServerStands setup setup.resultsTextOn s
  | resultsLength {s : ServerEnd} (point : s.point = .resultsLength)
    : ServerStands setup setup.answerOn s
  | resultsText {s : ServerEnd} (point : s.point = .resultsText)
    : ServerStands setup setup.answerTextOn s
  | displayResults {s : ServerEnd} (point : s.point = .displayResults)
    : ServerStands setup setup.displayOn s
  | done {rest : List (Turn ControlItem)} {s : ServerEnd}
    (point : s.point = .streams ∨ s.point = .select) (state : s.test.state = .iperfDone)
    (finished : rest = [] ∨ ¬ setup.Fits)
    : ServerStands setup rest s
  | returned {rest : List (Turn ControlItem)} {s : ServerEnd} (point : s.point = .returned)
    (finished : rest = [] ∨ ¬ setup.Fits)
    : ServerStands setup rest s

/-- The server before the client connects, afterwards, and after an error. -/
inductive ServerAt (setup : ControlSetup) : List (Turn ControlItem) → ServerEnd → Prop where
  | idle {s : ServerEnd} (point : s.point.Looping) (state : s.test.state = .iperfStart)
    (free : s.test.ctrlSck = -1) (unasked : Unasked s.server)
    (limit : s.test.settings.bitrateLimit = setup.server.settings.bitrateLimit)
    : ServerAt setup setup.script s
  | busy {rest : List (Turn ControlItem)} {s : ServerEnd} (stands : ServerStands setup rest s)
    (ctrlSck : s.test.ctrlSck = setup.serverSck)
    (limit : s.test.settings.bitrateLimit = setup.server.settings.bitrateLimit)
    : ServerAt setup rest s
  | failed {rest : List (Turn ControlItem)} {s : ServerEnd} {error : IError}
    (point : s.point = .failed error) (known : error ≠ .iemessage) (broken : ¬ setup.Fits)
    : ServerAt setup rest s

theorem total_eq (setup : ControlSetup) : setup.total = (clientPlan setup.client).length :=
  (length_clientPlan setup.client).symm

/-- There is at least one stream. -/
theorem total_pos (setup : ControlSetup) : 0 < setup.total := by
  have positive := setup.numStreams
  rw [ControlSetup.total, receivers_add_senders]
  split <;> omega

-----------------------------------------------------------------------------------------
-- What the server does
-----------------------------------------------------------------------------------------

theorem getParameters_limit (test : Test) (json : CJson)
    : (getParameters test json).settings.bitrateLimit = test.settings.bitrateLimit := by
  obtain ⟨first, protocol⟩ := getProtocol_eq test json
  unfold getParameters
  simp only [protocol, hasTcpinfoRetransmits, Bool.false_eq_true, and_false, if_false]
  rw [(getDirection_eq _ json).choose_spec]

theorem checkRequestedRate_unlimited {test : Test} (unlimited : test.settings.bitrateLimit = 0)
    : checkRequestedRate test = .ok () := by
  unfold checkRequestedRate
  rw [unlimited]
  exact if_neg fun tooMuch => UInt64.lt_irrefl 0 tooMuch.1

/-- The parameters of the client replace the server's own. -/
theorem asked_of_parameters {s : Server} (unasked : Unasked s)
    : Asked setup.client
        { s with test := getParameters s.test (sendParameters setup.client) } := by
  obtain ⟨read, mode, -, -, session⟩ := getParameters_exchanged s.test (sendParameters setup.client)
  have numStreams := congrArg Exchanged.numStreams read
  simp only [exchanged, Exchanged.read] at numStreams
  refine ⟨?_, ?_, session.streams.trans unasked.streams, unasked.received, unasked.sent⟩
  · rw [numStreams, intMember_sent (getObjectItem_sendParameters rfl)]
  · rw [mode, unasked.role, unasked.mode, modeMember_sent]

/-- The connection of a stream is taken while one is missing. -/
theorem acceptStream_missing {s : Server} {accepted : Nat}
    (counted : Counted setup.client accepted s) (missing : accepted < setup.total)
    (length : s.test.streams.length = accepted)
    : ∃ next : Server, ServerEnd.acceptStream setup s = ServerEnd.afterStreams next
      ∧ Counted setup.client (accepted + 1) next
      ∧ next.test.streams.length = accepted + 1
      ∧ next.test.state = s.test.state
      ∧ next.test.ctrlSck = s.test.ctrlSck
      ∧ next.test.settings = s.test.settings := by
  have incomplete : ¬ s.AllAccepted := by
    rw [counted.allAccepted_iff]
    exact Nat.ne_of_lt missing
  obtain ⟨flag, same⟩ := countStream_missing incomplete
  obtain ⟨-, counts⟩ := counted.countStream missing
  obtain ⟨test, created, streams, state, ctrlSck, settings⟩ : ∃ test,
      iperfNewStream s.test (setup.streamSck .server s.test.streams.length)
        (s.countStream.flag ≠ 0) {} = .ok test
      ∧ test.streams.length = s.test.streams.length + 1
      ∧ test.state = s.test.state
      ∧ test.ctrlSck = s.test.ctrlSck
      ∧ test.settings = s.test.settings :=
    ⟨_, rfl, by simp [iperfAddStream], rfl, rfl, rfl⟩
  refine ⟨{ s.countStream with test, flag := -1 }, ?_,
    ⟨counts.1, counts.2, counts.3, counts.4, counts.5⟩, ?_, state, ctrlSck, settings⟩
  · unfold ServerEnd.acceptStream Server.addStream
    dsimp only
    rw [if_pos flag, same, created]
    rfl
  · rw [streams, length]

-----------------------------------------------------------------------------------------
-- The loop
-----------------------------------------------------------------------------------------

/-- The head of the loop, unless the test is done. -/
theorem follows_select {rest : List (Turn ControlItem)} {s : ServerEnd}
    (point : s.point = .select) (running : s.test.state ≠ .iperfDone)
    (limit : s.test.settings.bitrateLimit = setup.server.settings.bitrateLimit)
    (there : ServerAt setup rest { s with point := .listener })
    : Conforms .right (ServerAt setup) (¬ setup.Fits) rest (ServerEnd.act setup s) := by
  simp only [ServerEnd.act, point, if_neg running]
  rintro next (rfl | ⟨limited, rfl⟩)
  · exact there
  · exact .failed rfl (by simp) fun fits => limited (limit.trans fits.unlimited)

theorem setSendState_busy {s : ServerEnd} {σ : Type} (ctrlSck : s.test.ctrlSck = setup.serverSck)
    (state : TestState) (next : Test → σ)
    : setSendState s.test state next = .say .state [state.toByte] (next { s.test with state }) :=
  setSendState_connected (ctrlSck ▸ Int.natCast_nonneg _) state next

/-- Before the client connects. -/
theorem follows_idle {s : ServerEnd} (point : s.point.Looping) (state : s.test.state = .iperfStart)
    (free : s.test.ctrlSck = -1) (unasked : Unasked s.server)
    (limit : s.test.settings.bitrateLimit = setup.server.settings.bitrateLimit)
    : Conforms .right (ServerAt setup) (¬ setup.Fits) setup.script (ServerEnd.act setup s) := by
  rcases point with point | point | point | point
  · exact follows_select point (by simp [state]) limit
      (.idle (.inr (.inl rfl)) state free unasked limit)
  · have listening : s.test.state ≠ .createStreams := by simp [state]
    simp only [ServerEnd.act, point, if_neg listening, if_pos free]
    refine conforms_answer (.busy (.cookie rfl ?_) rfl limit)
      (.idle (.inr (.inr (.inl rfl))) state free unasked limit)
    exact ⟨unasked.role, unasked.mode, unasked.streams, unasked.received, unasked.sent⟩
  · have unconnected : ¬ s.test.ctrlSck ≥ 0 := by simp [free]
    simp only [ServerEnd.act, point, if_neg unconnected]
    rintro next rfl
    exact .idle (.inr (.inr (.inr rfl))) state free unasked limit
  · have listening : s.test.state ≠ .createStreams := by simp [state]
    simp only [ServerEnd.act, point, if_neg listening]
    rintro next rfl
    exact .idle (.inl rfl) state free unasked limit

/-- While streams are missing. -/
theorem follows_creating {s : ServerEnd} {accepted : Nat} (point : s.point.Looping)
    (state : s.test.state = .createStreams) (counted : Counted setup.client accepted s.server)
    (length : s.test.streams.length = accepted) (missing : accepted < setup.total)
    (ctrlSck : s.test.ctrlSck = setup.serverSck)
    (limit : s.test.settings.bitrateLimit = setup.server.settings.bitrateLimit)
    : Conforms .right (ServerAt setup) (¬ setup.Fits)
        (setup.streamsOn (setup.total - accepted)) (ServerEnd.act setup s) := by
  have stays (point : ServerPoint) (looping : point.Looping)
      : ServerAt setup (setup.streamsOn (setup.total - accepted)) { s with point } :=
    .busy (.creating looping state counted length missing) ctrlSck limit
  rcases point with point | point | point | point
  · exact follows_select point (by simp [state]) limit (stays .listener (.inr (.inl rfl)))
  · simp only [ServerEnd.act, point, if_pos state]
    rintro next rfl
    exact stays .control (.inr (.inr (.inl rfl)))
  · -- the client has only connections to open before the server starts the test
    have connected : s.test.ctrlSck ≥ 0 := ctrlSck ▸ Int.natCast_nonneg _
    simp only [ServerEnd.act, point, if_pos connected]
    refine @conforms_silent _ _ .right _ _ 1 (setup.total - accepted) _ _ _ _ _ _ Nat.one_pos rfl
      (fun broken => .busy (.done (.inl rfl) rfl (.inr broken)) ctrlSck limit) ?_
    rintro next ⟨⟩
    exact stays .streams (.inr (.inr (.inr rfl)))
  · simp only [ServerEnd.act, point, if_pos state]
    have incomplete : ¬ s.server.AllAccepted := by
      rw [counted.allAccepted_iff]
      exact Nat.ne_of_lt missing
    obtain ⟨next, accepts, counts, streams, same, connection, settings⟩ :=
      acceptStream_missing counted missing length
    have left : setup.total - accepted = setup.total - (accepted + 1) + 1 := by omega
    have rest : setup.streamsOn (setup.total - accepted)
        = .call .left :: setup.streamsOn (setup.total - (accepted + 1)) := by
      rw [left, ControlSetup.streamsOn, List.replicate_succ]
      rfl
    have later : ServerAt setup (setup.streamsOn (setup.total - accepted))
        (ServerEnd.afterStreams s.server) := by
      unfold ServerEnd.afterStreams
      rw [if_neg incomplete]
      exact stays .select (.inl rfl)
    rw [rest] at later ⊢
    refine conforms_answer ?_ later
    rw [accepts, ServerEnd.afterStreams]
    refine .busy ?_ (connection.trans ctrlSck) ((congrArg _ settings).trans limit)
    split
    · next all =>
        have full : accepted + 1 = setup.total := counts.allAccepted_iff.mp all
        have none : setup.streamsOn (setup.total - (accepted + 1)) = setup.startOn := by
          rw [full, Nat.sub_self]
          rfl
        rw [none]
        exact .starting (.inl rfl) (streams.trans full)
    · next more =>
        have bounded := counts.bounded
        have fewer := mt counts.allAccepted_iff.mpr more
        refine .creating (.inl rfl) (same.trans state) counts streams ?_
        unfold ControlSetup.total
        omega

/-- While the test runs, and after its results. -/
theorem follows_loop {rest : List (Turn ControlItem)} {s : ServerEnd} (point : s.point.Looping)
    (waits : setup.serverRest s.test.state = some rest)
    (ctrlSck : s.test.ctrlSck = setup.serverSck)
    (limit : s.test.settings.bitrateLimit = setup.server.settings.bitrateLimit)
    : Conforms .right (ServerAt setup) (¬ setup.Fits) rest (ServerEnd.act setup s) := by
  have stays (point : ServerPoint) (looping : point.Looping)
      : ServerAt setup rest { s with point } :=
    .busy (.loop looping waits) ctrlSck limit
  have connected : s.test.ctrlSck ≥ 0 := ctrlSck ▸ Int.natCast_nonneg _
  have running : s.test.state ≠ .iperfDone := by
    intro state
    simp [ControlSetup.serverRest, state] at waits
  have created : s.test.state ≠ .createStreams := by
    intro state
    simp [ControlSetup.serverRest, state] at waits
  have taken : s.test.ctrlSck ≠ -1 := by omega
  rcases point with point | point | point | point
  · exact follows_select point running limit (stays .listener (.inr (.inl rfl)))
  · simp only [ServerEnd.act, point, if_neg created, if_neg taken]
    refine conforms_unanswered ?_ (stays .control (.inr (.inr (.inl rfl))))
    unfold ControlSetup.serverRest at waits
    split at waits
    · obtain rfl := Option.some.inj waits
      simp [ControlSetup.endOn, ControlSetup.exchangeOn, ControlSetup.resultsOn,
        ControlSetup.resultsTextOn, ControlSetup.answerOn, ControlSetup.answerTextOn,
        ControlSetup.displayOn, ControlSetup.doneOn, ControlSetup.clientSays,
        ControlSetup.serverSays, Turn.calls]
    · obtain rfl := Option.some.inj waits
      simp [ControlSetup.doneOn, ControlSetup.clientSays, Turn.calls]
    · cases waits
  · have aborted (broken : ¬ setup.Fits)
        : ServerAt setup rest (s.withTest .streams { s.test with state := .iperfDone }) :=
      .busy (.done (.inl rfl) rfl (.inr broken)) ctrlSck limit
    have later (next : ServerEnd) (skipped : some { s with point := .streams } = some next)
        : ServerAt setup rest next := by
      obtain rfl := Option.some.inj skipped
      exact stays .streams (.inr (.inr (.inr rfl)))
    simp only [ServerEnd.act, point, if_pos connected]
    unfold ControlSetup.serverRest at waits
    split at waits
    · obtain rfl := Option.some.inj waits
      exact conforms_hear rfl Nat.one_pos (.busy (.exchangeResults rfl) ctrlSck limit) aborted later
    · obtain rfl := Option.some.inj waits
      exact conforms_hear rfl Nat.one_pos (.busy (.done (.inl rfl) rfl (.inl rfl)) ctrlSck limit)
        aborted later
    · cases waits
  · simp only [ServerEnd.act, point, if_neg created]
    rintro next rfl
    exact stays .select (.inl rfl)

-----------------------------------------------------------------------------------------
-- Documents
-----------------------------------------------------------------------------------------

/-- The length of the parameters is taken as it was written, or refused. -/
theorem readParametersLength_at {s : ServerEnd} (unasked : Unasked s.server)
    (ctrlSck : s.test.ctrlSck = setup.serverSck)
    (limit : s.test.settings.bitrateLimit = setup.server.settings.bitrateLimit)
    : ServerAt setup setup.parametersTextOn
        (s.readParametersLength (writtenLength setup.parameters)) := by
  unfold ServerEnd.readParametersLength
  split
  · next refused =>
      refine .failed rfl (by simp) fun fits => ?_
      have small : setup.parameters.length < 2 ^ 31 := by
        have limit := fits.parameters
        simp only [maxParamsJsonString] at limit
        omega
      have nonempty := (setup.printed setup.parameters (by simp [ControlSetup.parameters])).1
      have accepted := jsonSize_short nonempty small (.inr fits.parameters)
      rw [accepted] at refused
      cases refused
  · next size accepted =>
      have limited := jsonSize_le (by simp [maxParamsJsonString]) accepted
      obtain ⟨rfl, positive⟩ := jsonSize_written accepted
      exact .busy (.parametersText rfl positive limited unasked) ctrlSck limit

/-- The parameters are taken, unless their length has wrapped. -/
theorem readParametersText_at {s : ServerEnd} (unasked : Unasked s.server)
    (limited : hsize setup.parameters ≤ maxParamsJsonString)
    (ctrlSck : s.test.ctrlSck = setup.serverSck)
    (limit : s.test.settings.bitrateLimit = setup.server.settings.bitrateLimit)
    : ServerAt setup setup.createOn
        (s.readParametersText setup (hsize setup.parameters) (writtenText setup.parameters)) := by
  have printed := setup.printed setup.parameters (by simp [ControlSetup.parameters])
  have nulFree : 0 ∉ writtenText setup.parameters :=
    fun member => printed.2 (List.mem_of_mem_take member)
  simp only [maxParamsJsonString] at limited
  have read : jsonPayload (hsize setup.parameters) {
        ret := toInt (hsize setup.parameters)
        buffer := writtenText setup.parameters ++ [0]
      } = some (writtenText setup.parameters) := by
    rw [toInt_of_lt (by omega), jsonPayload_whole _ ⟨Int.natCast_nonneg _, rfl⟩,
      cString_terminated nulFree]
  unfold ServerEnd.readParametersText
  rw [read, Option.bind_some]
  by_cases wrapped : hsize setup.parameters < setup.parameters.length
  · have cut : setup.text.parse (writtenText setup.parameters) = none :=
      setup.truncated _ wrapped
    rw [cut]
    refine .failed rfl (by simp) fun fits => ?_
    have whole := fits.parameters
    simp only [maxParamsJsonString] at whole
    rw [hsize_of_lt (by omega)] at wrapped
    omega
  · have whole : writtenText setup.parameters = setup.text.print (sendParameters setup.client) :=
      List.take_of_length_le (by omega)
    rw [whole, setup.parsed]
    refine .busy (.createStreams rfl (asked_of_parameters unasked)) ?_ ?_
    · obtain ⟨-, -, -, -, session⟩ := getParameters_exchanged s.test (sendParameters setup.client)
      exact session.ctrlSck.trans ctrlSck
    · exact (getParameters_limit s.test (sendParameters setup.client)).trans limit

/-- The length of the results is taken as it was written, or refused. -/
theorem readResultsLength_at {s : ServerEnd} (ctrlSck : s.test.ctrlSck = setup.serverSck)
    (limit : s.test.settings.bitrateLimit = setup.server.settings.bitrateLimit)
    : ServerAt setup setup.resultsTextOn
        (s.readResultsLength (writtenLength setup.clientResults)) := by
  unfold ServerEnd.readResultsLength
  split
  · next refused =>
      refine .failed rfl (by simp) fun fits => ?_
      have accepted := jsonSize_short (setup.printed _ (by simp)).1 fits.clientResults (.inl rfl)
      rw [accepted] at refused
      cases refused
  · next size accepted =>
      obtain ⟨rfl, positive⟩ := jsonSize_written accepted
      exact .busy (.peerText rfl positive) ctrlSck limit

/-- The results of the client are taken, if they are short enough. -/
theorem readResultsText_at {s : ServerEnd} (ctrlSck : s.test.ctrlSck = setup.serverSck)
    (limit : s.test.settings.bitrateLimit = setup.server.settings.bitrateLimit)
    : ServerAt setup setup.answerOn
        (s.readResultsText setup (hsize setup.clientResults)
          (writtenText setup.clientResults)) := by
  have read (fits : setup.Fits) :=
    jsonPayload_written (setup.printed setup.clientResults (by simp)).2 fits.clientResults
  unfold ServerEnd.readResultsText
  generalize jsonPayload _ _ = outcome at read ⊢
  cases outcome with
  | none =>
      refine .failed rfl (by simp) fun fits => ?_
      cases read fits
  | some str =>
      unfold ServerEnd.takeResults
      dsimp only
      split
      · next error refused =>
          refine .failed rfl ?_ fun fits => ?_
          · rcases setup.refusal_cases _ _ _ refused with rfl | rfl <;> simp
          · obtain rfl := Option.some.inj (read fits)
            rw [setup.serverTakes] at refused
            cases refused
      · exact .busy (.resultsLength rfl) ctrlSck limit

-----------------------------------------------------------------------------------------
-- The whole program
-----------------------------------------------------------------------------------------

/-- A server with a client keeps to the script. -/
theorem follows_busy {rest : List (Turn ControlItem)} {s : ServerEnd}
    (stands : ServerStands setup rest s) (ctrlSck : s.test.ctrlSck = setup.serverSck)
    (limit : s.test.settings.bitrateLimit = setup.server.settings.bitrateLimit)
    : Conforms .right (ServerAt setup) (¬ setup.Fits) rest (ServerEnd.act setup s) := by
  have failing {rest : List (Turn ControlItem)} (error : IError) (known : error ≠ .iemessage)
      (broken : ¬ setup.Fits)
      : ServerAt setup rest { s with point := .failed error } :=
    .failed rfl known broken
  cases stands with
  | cookie point unasked =>
      simp only [ServerEnd.act, point]
      refine conforms_hear setup.cookieLength (by norm_num [cookieSize])
        (.busy (.paramExchange rfl ?_) ctrlSck limit) (failing _ (by simp)) (by simp)
      exact ⟨unasked.role, unasked.mode, unasked.streams, unasked.received, unasked.sent⟩
  | paramExchange point unasked =>
      simp only [ServerEnd.act, point, setSendState_busy ctrlSck]
      refine ⟨_, rfl, .busy (.parametersLength rfl ?_) ctrlSck limit⟩
      exact ⟨unasked.role, unasked.mode, unasked.streams, unasked.received, unasked.sent⟩
  | parametersLength point unasked =>
      simp only [ServerEnd.act, point]
      exact conforms_hear (length_writtenLength _) (by norm_num)
        (readParametersLength_at unasked ctrlSck limit) (failing _ (by simp)) (by simp)
  | parametersText point positive limited unasked =>
      simp only [ServerEnd.act, point]
      exact conforms_hear (length_writtenText _) positive
        (readParametersText_at unasked limited ctrlSck limit) (failing _ (by simp)) (by simp)
  | createStreams point asked =>
      have counted := @setStreamsNumber_counted setup.client
        { s.server with test := { s.test with state := .createStreams } } setup.clientRole
        setup.directed setup.numStreams asked.numStreams asked.mode asked.received asked.sent
      obtain ⟨toSend, toRec, shape⟩ := setStreamsNumber_eq
        { s.server with test := { s.test with state := .createStreams } }
      simp only [ServerEnd.act, point, setSendState_busy ctrlSck]
      refine ⟨setup.streamsOn (setup.total - 0), ?_, .busy (.creating (.inr (.inr (.inl rfl)))
        ?_ counted ?_ (total_pos setup)) ?_ ?_⟩
      · rw [Nat.sub_zero, total_eq]
        rfl
      · rw [ServerEnd.test, shape]
      · rw [ServerEnd.test, shape]
        exact List.length_eq_zero_iff.mpr asked.streams
      · rw [ServerEnd.test, shape]
        exact ctrlSck
      · rw [ServerEnd.test, shape]
        exact limit
  | creating point state counted length missing =>
      exact follows_creating point state counted length missing ctrlSck limit
  | starting point length =>
      rcases point with point | point
      · simp only [ServerEnd.act, point]
        split
        · next error refused =>
            rintro next rfl
            have exceeded : error = .ietotalrate := by
              unfold checkRequestedRate at refused
              split at refused
              · exact (Except.error.inj refused).symm
              · cases refused
            refine failing _ (by simp [exceeded]) fun fits => ?_
            rw [checkRequestedRate_unlimited (limit.trans fits.unlimited)] at refused
            cases refused
        · rintro next rfl
          exact .busy (.starting (.inr rfl) length) ctrlSck limit
      · simp only [ServerEnd.act, point, setSendState_busy ctrlSck]
        refine ⟨_, rfl, .busy (.testRunning rfl ?_) ctrlSck limit⟩
        simpa [ServerEnd.test, Server.createTimers, iperfInitTest] using length
  | testRunning point length =>
      simp only [ServerEnd.act, point, setSendState_busy ctrlSck]
      exact ⟨_, rfl, .busy (.loop (.inl rfl) rfl) ctrlSck limit⟩
  | loop point waits => exact follows_loop point waits ctrlSck limit
  | exchangeResults point =>
      simp only [ServerEnd.act, point, setSendState_busy ctrlSck]
      exact ⟨_, rfl, .busy (.peerLength rfl) ctrlSck limit⟩
  | peerLength point =>
      simp only [ServerEnd.act, point]
      exact conforms_hear (length_writtenLength _) (by norm_num)
        (readResultsLength_at ctrlSck limit) (failing _ (by simp)) (by simp)
  | peerText point positive =>
      simp only [ServerEnd.act, point]
      exact conforms_hear (length_writtenText _) positive
        (readResultsText_at ctrlSck limit) (failing _ (by simp)) (by simp)
  | resultsLength point =>
      simp only [ServerEnd.act, point]
      exact ⟨_, rfl, .busy (.resultsText rfl) ctrlSck limit⟩
  | resultsText point =>
      simp only [ServerEnd.act, point]
      refine ⟨_, rfl, ?_⟩
      split
      · next negative =>
          exact failing _ (by simp) fun fits => toInt_hsize fits.serverResults negative
      · exact .busy (.displayResults rfl) ctrlSck limit
  | displayResults point =>
      simp only [ServerEnd.act, point, setSendState_busy ctrlSck]
      exact ⟨_, rfl, .busy (.loop (.inr (.inr (.inr rfl))) rfl) ctrlSck limit⟩
  | done point state finished =>
      rcases point with point | point
      · have other : s.test.state ≠ .createStreams := by simp [state]
        simp only [ServerEnd.act, point, if_neg other]
        rintro next rfl
        exact .busy (.done (.inr rfl) state finished) ctrlSck limit
      · simp only [ServerEnd.act, point, if_pos state]
        rintro next rfl
        exact .busy (.returned rfl finished) ctrlSck limit
  | returned point finished =>
      simp only [ServerEnd.act, point]
      exact finished

/-- The program of the server keeps to the script, wherever it is. -/
theorem server_follows (setup : ControlSetup)
    : Follows .right (ServerEnd.act setup) (ServerAt setup) (¬ setup.Fits) := by
  intro rest s here
  cases here with
  | idle point state free unasked limit => exact follows_idle point state free unasked limit
  | busy stands ctrlSck limit => exact follows_busy stands ctrlSck limit
  | failed point known broken =>
      simp only [ServerEnd.act, point]
      exact .inr broken

-----------------------------------------------------------------------------------------
-- How the server comes to its next turn
-----------------------------------------------------------------------------------------

/-- The parts of a pass that change nothing, one behind the other. -/
structure Idling (setup : ControlSetup) (s : ServerEnd) : Prop where
  select : Dialogue.Quiet (ServerEnd.act setup) { s with point := .select }
    { s with point := .listener }
  listener : Dialogue.Quiet (ServerEnd.act setup) { s with point := .listener }
    { s with point := .control }
  control : Dialogue.Quiet (ServerEnd.act setup) { s with point := .control }
    { s with point := .streams }
  streams : Dialogue.Quiet (ServerEnd.act setup) { s with point := .streams }
    { s with point := .select }

/-- A server in its loop comes to every part of it. -/
theorem Idling.reaches {s : ServerEnd} (idling : Idling setup s) (here : s.point.Looping)
    {point : ServerPoint} (there : point.Looping)
    : ReflTransGen (Dialogue.Quiet (ServerEnd.act setup)) s { s with point } := by
  have back : ReflTransGen (Dialogue.Quiet (ServerEnd.act setup)) s
      { s with point := .select } := by
    rcases s with ⟨at_, server⟩
    rcases here with rfl | rfl | rfl | rfl
    · exact .refl
    · exact .head idling.listener (.head idling.control (.single idling.streams))
    · exact .head idling.control (.single idling.streams)
    · exact .single idling.streams
  refine back.trans ?_
  rcases there with rfl | rfl | rfl | rfl
  · exact .refl
  · exact .single idling.select
  · exact .head idling.select (.single idling.listener)
  · exact .head idling.select (.head idling.listener (.single idling.control))

theorem idling_select {s : ServerEnd} (running : s.test.state ≠ .iperfDone)
    : Dialogue.Quiet (ServerEnd.act setup) { s with point := .select }
      { s with point := .listener } := by
  have does : ServerEnd.act setup { s with point := .select }
      = .internal fun next => next = { s with point := .listener }
        ∨ s.test.settings.bitrateLimit ≠ 0 ∧ next = { s with point := .failed .ietotalrate } :=
    if_neg running
  exact .internal does (.inl rfl)

/-- Before the client connects, the server comes to its listener. -/
theorem ready_idle {s : ServerEnd} (point : s.point.Looping) (state : s.test.state = .iperfStart)
    (free : s.test.ctrlSck = -1)
    : ∃ s', ReflTransGen (Dialogue.Quiet (ServerEnd.act setup)) s s'
        ∧ Faces .right setup.script (ServerEnd.act setup s') := by
  have listening : s.test.state ≠ .createStreams := by simp [state]
  have unconnected : ¬ s.test.ctrlSck ≥ 0 := by simp [free]
  have answers : ServerEnd.act setup { s with point := .listener }
      = .answer (s.withTest .cookie { s.test with ctrlSck := setup.serverSck })
        { s with point := .control } :=
    (if_neg listening).trans (if_pos free)
  have idling : Idling setup s := {
    select := idling_select (by simp [state])
    listener := .pass answers
    control := .internal (if_neg unconnected) rfl
    streams := .internal (if_neg listening) rfl
  }
  refine ⟨_, idling.reaches point (.inr (.inl rfl)), ?_⟩
  rw [answers]
  exact .answer

/-- While streams are missing, the server comes to its stream listener. -/
theorem ready_creating {s : ServerEnd} {accepted : Nat} (point : s.point.Looping)
    (state : s.test.state = .createStreams) (counted : Counted setup.client accepted s.server)
    (missing : accepted < setup.total) (ctrlSck : s.test.ctrlSck = setup.serverSck)
    : ∃ s', ReflTransGen (Dialogue.Quiet (ServerEnd.act setup)) s s'
        ∧ Faces .right (setup.streamsOn (setup.total - accepted)) (ServerEnd.act setup s') := by
  have connected : s.test.ctrlSck ≥ 0 := ctrlSck ▸ Int.natCast_nonneg _
  have incomplete : ¬ s.server.AllAccepted := by
    rw [counted.allAccepted_iff]
    exact Nat.ne_of_lt missing
  have hears : ServerEnd.act setup { s with point := .control }
      = .hear .state 1 (ServerEnd.handleMessage { s with point := .control })
        (s.withTest .streams { s.test with state := .iperfDone })
        (some { s with point := .streams }) :=
    if_pos connected
  have answers : ServerEnd.act setup { s with point := .streams }
      = .answer (ServerEnd.acceptStream setup s.server) { s with point := .select } := by
    have skips : ServerEnd.afterStreams s.server = { s with point := .select } := by
      rw [ServerEnd.afterStreams, if_neg incomplete]
    rw [← skips]
    exact if_pos state
  have idling : Idling setup s := {
    select := idling_select (by simp [state])
    listener := .internal (if_pos state) rfl
    control := .skip hears
    streams := .pass answers
  }
  have left : setup.total - accepted = setup.total - (accepted + 1) + 1 := by omega
  refine ⟨_, idling.reaches point (.inr (.inr (.inr rfl))), ?_⟩
  rw [answers, left, ControlSetup.streamsOn, List.replicate_succ]
  exact .answer

/-- While the test runs, and after its results, the server comes to its control connection. -/
theorem ready_loop {rest : List (Turn ControlItem)} {s : ServerEnd} (point : s.point.Looping)
    (waits : setup.serverRest s.test.state = some rest)
    (ctrlSck : s.test.ctrlSck = setup.serverSck)
    : ∃ s', ReflTransGen (Dialogue.Quiet (ServerEnd.act setup)) s s'
        ∧ Faces .right rest (ServerEnd.act setup s') := by
  have connected : s.test.ctrlSck ≥ 0 := ctrlSck ▸ Int.natCast_nonneg _
  have taken : s.test.ctrlSck ≠ -1 := by omega
  have running : s.test.state ≠ .iperfDone := by
    intro state
    simp [ControlSetup.serverRest, state] at waits
  have created : s.test.state ≠ .createStreams := by
    intro state
    simp [ControlSetup.serverRest, state] at waits
  have hears : ServerEnd.act setup { s with point := .control }
      = .hear .state 1 (ServerEnd.handleMessage { s with point := .control })
        (s.withTest .streams { s.test with state := .iperfDone })
        (some { s with point := .streams }) :=
    if_pos connected
  have denies : ServerEnd.act setup { s with point := .listener }
      = .answer { point := .control, server := s.server.setStreamsNumber }
        { s with point := .control } :=
    (if_neg created).trans (if_neg taken)
  have idling : Idling setup s := {
    select := idling_select running
    listener := .pass denies
    control := .skip hears
    streams := .internal (if_neg created) rfl
  }
  refine ⟨_, idling.reaches point (.inr (.inr (.inl rfl))), ?_⟩
  rw [hears]
  unfold ControlSetup.serverRest at waits
  split at waits
  · obtain rfl := Option.some.inj waits
    exact .hear rfl
  · obtain rfl := Option.some.inj waits
    exact .hear rfl
  · cases waits

theorem faces_testStart {s : ServerEnd} (point : s.point = .testStart)
    (ctrlSck : s.test.ctrlSck = setup.serverSck)
    : Faces .right setup.startOn (ServerEnd.act setup s) := by
  simp only [ServerEnd.act, point, setSendState_busy ctrlSck]
  exact .say

/-- Wherever the server is, it comes to its next turn, unless it has failed. -/
theorem server_ready (fits : setup.Fits) : Ready .right (ServerEnd.act setup) (ServerAt setup) := by
  rintro rest s here
  cases here with
  | idle point state free unasked limit => exact ready_idle point state free
  | busy stands ctrlSck limit =>
      cases stands with
      | cookie point unasked =>
          refine ⟨s, .refl, ?_⟩
          simp only [ServerEnd.act, point]
          exact .hear setup.cookieLength
      | paramExchange point unasked =>
          refine ⟨s, .refl, ?_⟩
          simp only [ServerEnd.act, point, setSendState_busy ctrlSck]
          exact .say
      | parametersLength point unasked =>
          refine ⟨s, .refl, ?_⟩
          simp only [ServerEnd.act, point]
          exact .hear (length_writtenLength _)
      | parametersText point positive limited unasked =>
          refine ⟨s, .refl, ?_⟩
          simp only [ServerEnd.act, point]
          exact .hear (length_writtenText _)
      | createStreams point asked =>
          refine ⟨s, .refl, ?_⟩
          simp only [ServerEnd.act, point, setSendState_busy ctrlSck]
          exact .say
      | creating point state counted length missing =>
          exact ready_creating point state counted missing ctrlSck
      | starting point length =>
          rcases point with point | point
          · have granted := checkRequestedRate_unlimited (limit.trans fits.unlimited)
            have does : ServerEnd.act setup s = .internal (· = { s with point := .testStart }) := by
              simp only [ServerEnd.act, point, granted]
            exact ⟨{ s with point := .testStart }, .single (.internal does rfl),
              faces_testStart rfl ctrlSck⟩
          · exact ⟨s, .refl, faces_testStart point ctrlSck⟩
      | testRunning point length =>
          refine ⟨s, .refl, ?_⟩
          simp only [ServerEnd.act, point, setSendState_busy ctrlSck]
          exact .say
      | loop point waits => exact ready_loop point waits ctrlSck
      | exchangeResults point =>
          refine ⟨s, .refl, ?_⟩
          simp only [ServerEnd.act, point, setSendState_busy ctrlSck]
          exact .say
      | peerLength point =>
          refine ⟨s, .refl, ?_⟩
          simp only [ServerEnd.act, point]
          exact .hear (length_writtenLength _)
      | peerText point positive =>
          refine ⟨s, .refl, ?_⟩
          simp only [ServerEnd.act, point]
          exact .hear (length_writtenText _)
      | resultsLength point =>
          refine ⟨s, .refl, ?_⟩
          simp only [ServerEnd.act, point]
          exact .say
      | resultsText point =>
          refine ⟨s, .refl, ?_⟩
          simp only [ServerEnd.act, point]
          exact .say
      | displayResults point =>
          refine ⟨s, .refl, ?_⟩
          simp only [ServerEnd.act, point, setSendState_busy ctrlSck]
          exact .say
      | done point state finished =>
          obtain rfl : rest = [] := finished.resolve_right (not_not.mpr fits)
          have returns : Dialogue.Quiet (ServerEnd.act setup) { s with point := .select }
              { s with point := .returned } :=
            .internal (if_pos state) rfl
          have other : s.test.state ≠ .createStreams := by simp [state]
          rcases s with ⟨at_, server⟩
          rcases point with rfl | rfl
          · exact ⟨_, .head (.internal (if_neg other) rfl) (.single returns), .stop⟩
          · exact ⟨_, .single returns, .stop⟩
      | returned point finished =>
          obtain rfl : rest = [] := finished.resolve_right (not_not.mpr fits)
          refine ⟨s, .refl, ?_⟩
          simp only [ServerEnd.act, point]
          exact .stop
  | failed point known broken => exact absurd fits broken

end Iperf
