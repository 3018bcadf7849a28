import Iperf.Session.ControlScript

/-! The client keeps to the script of the control connection. -/

namespace Iperf

open Dialogue ClientEnd Relation

variable {setup : ControlSetup}

-----------------------------------------------------------------------------------------
-- Positions
-----------------------------------------------------------------------------------------

/-- What is left of the script for a client in its loop, by its state. -/
def ControlSetup.clientRest (setup : ControlSetup) : TestState → Option (List (Turn ControlItem))
  | .other 0 => some setup.paramExchangeOn
  | .paramExchange => some setup.createOn
  | .createStreams => some setup.startOn
  | .testStart => some setup.runningOn
  | .testRunning => some setup.endOn
  | .testEnd => some setup.exchangeOn
  | .exchangeResults => some setup.displayOn
  | .iperfDone => some []
  | _ => none

/-- Where the client stands when so much of the script is left. -/
inductive ClientStands (setup : ControlSetup) : List (Turn ControlItem) → ClientEnd → Prop where
  | connect {c : ClientEnd} (point : c.point = .connect) (state : c.test.state = .zero)
    : ClientStands setup setup.script c
  | cookie {c : ClientEnd} (point : c.point = .cookie) (state : c.test.state = .zero)
    : ClientStands setup setup.cookieOn c
  | loop {rest : List (Turn ControlItem)} {c : ClientEnd}
    (point : c.point = .select ∨ c.point = .running)
    (waits : setup.clientRest c.test.state = some rest)
    : ClientStands setup rest c
  | check {c : ClientEnd} (point : c.point = .check) (state : c.test.state = .testRunning)
    : ClientStands setup setup.endOn c
  | parametersLength {c : ClientEnd} (point : c.point = .parametersLength)
    (state : c.test.state = .paramExchange)
    : ClientStands setup setup.parametersOn c
  | parametersText {c : ClientEnd} (point : c.point = .parametersText)
    (state : c.test.state = .paramExchange)
    : ClientStands setup setup.parametersTextOn c
  | streams {c : ClientEnd} {left : List Bool} (point : c.point = .streams left)
    (state : c.test.state = .createStreams)
    : ClientStands setup (setup.streamsOn left.length) c
  | resultsLength {c : ClientEnd} (point : c.point = .resultsLength)
    (state : c.test.state = .exchangeResults)
    : ClientStands setup setup.resultsOn c
  | resultsText {c : ClientEnd} (point : c.point = .resultsText)
    (state : c.test.state = .exchangeResults)
    : ClientStands setup setup.resultsTextOn c
  | peerLength {c : ClientEnd} (point : c.point = .peerLength)
    (state : c.test.state = .exchangeResults)
    : ClientStands setup setup.answerOn c
  | peerText {c : ClientEnd} (point : c.point = .peerText (hsize setup.serverResults))
    (positive : 0 < hsize setup.serverResults) (state : c.test.state = .exchangeResults)
    : ClientStands setup setup.answerTextOn c
  | finish {c : ClientEnd} (point : c.point = .finish) (state : c.test.state = .displayResults)
    : ClientStands setup setup.doneOn c
  | returned {c : ClientEnd} (point : c.point = .returned) : ClientStands setup [] c
  | failed {rest : List (Turn ControlItem)} {c : ClientEnd} {error : IError}
    (point : c.point = .failed error) (known : error ≠ .iemessage) (broken : ¬ setup.Fits)
    : ClientStands setup rest c

/-- The client with the part of its test that its course depends on. -/
structure ClientAt (setup : ControlSetup) (rest : List (Turn ControlItem)) (c : ClientEnd)
    : Prop where
  stands : ClientStands setup rest c
  ctrlSck : c.point ≠ .connect → c.test.ctrlSck = setup.clientSck
  mode : c.test.mode = setup.client.mode
  numStreams : c.test.numStreams = setup.client.numStreams

/-- The client at another point of its program, with its test but for the state. -/
theorem ClientAt.move {rest : List (Turn ControlItem)} {c next : ClientEnd}
    (here : ClientAt setup rest c) (started : c.point ≠ .connect)
    {rest' : List (Turn ControlItem)} (stands : ClientStands setup rest' next)
    (ctrlSck : next.test.ctrlSck = c.test.ctrlSck) (mode : next.test.mode = c.test.mode)
    (numStreams : next.test.numStreams = c.test.numStreams)
    : ClientAt setup rest' next where
  stands := stands
  ctrlSck _ := ctrlSck.trans (here.ctrlSck started)
  mode := mode.trans here.mode
  numStreams := numStreams.trans here.numStreams

theorem setSendState_connected {σ : Type} {test : Test} (connected : 0 ≤ test.ctrlSck)
    (state : TestState) (next : Test → σ)
    : setSendState test state next = .say .state [state.toByte] (next { test with state }) :=
  if_pos connected

-----------------------------------------------------------------------------------------
-- What the client does
-----------------------------------------------------------------------------------------

theorem ClientAt.connected {rest : List (Turn ControlItem)} {c : ClientEnd}
    (here : ClientAt setup rest c) (started : c.point ≠ .connect)
    : 0 ≤ c.test.ctrlSck := by
  rw [here.ctrlSck started]
  exact Int.natCast_nonneg _

/-- The end of a test that is over. -/
theorem act_check {c : ClientEnd} (point : c.point = .check)
    (over_ : c.test.omitting = false ∧ c.test.fulfilled) (connected : 0 ≤ c.test.ctrlSck)
    : act setup c = .say .state [TestState.testEnd.toByte] {
        point := .select
        test := { c.test with done := true, state := .testEnd }
      } := by
  simp only [act, point, if_pos over_]
  exact if_pos connected

/-- What the client leaves of its test alone in a message. -/
theorem handleMessage_frame (setup : ControlSetup) (test : Test) (bytes : List UInt8)
    : (handleMessage setup test bytes).test.ctrlSck = test.ctrlSck
      ∧ (handleMessage setup test bytes).test.mode = test.mode
      ∧ (handleMessage setup test bytes).test.numStreams = test.numStreams := by
  unfold handleMessage
  dsimp only
  split <;> exact ⟨rfl, rfl, rfl⟩

/-- The head of the loop, when the server's next item is a state. -/
theorem ClientAt.follows_select {state : TestState} {tail : List (Turn ControlItem)}
    {c : ClientEnd} (here : ClientAt setup (ControlSetup.serverSays state :: tail) c)
    (point : c.point = .select)
    (waits : setup.clientRest c.test.state = some (ControlSetup.serverSays state :: tail))
    (there : ClientStands setup tail (handleMessage setup c.test [state.toByte]))
    : Conforms .left (ClientAt setup) (¬ setup.Fits) (ControlSetup.serverSays state :: tail)
        (act setup c) := by
  have started : c.point ≠ .connect := by simp [point]
  have unfinished : c.test.state ≠ .iperfDone := by
    intro finished
    simp [finished, ControlSetup.clientRest] at waits
  simp only [act, point, if_neg unfinished]
  obtain ⟨ctrlSck, mode, numStreams⟩ := handleMessage_frame setup c.test [state.toByte]
  refine conforms_hear rfl Nat.one_pos (here.move started there ctrlSck mode numStreams)
    (fun broken => here.move started (.failed rfl (by simp) broken) rfl rfl rfl) ?_
  rintro next ⟨⟩
  exact here.move started (.loop (.inr rfl) waits) rfl rfl rfl

/-- The client in its loop. -/
theorem ClientAt.follows_loop {rest : List (Turn ControlItem)} {c : ClientEnd}
    (here : ClientAt setup rest c) (point : c.point = .select ∨ c.point = .running)
    (waits : setup.clientRest c.test.state = some rest)
    : Conforms .left (ClientAt setup) (¬ setup.Fits) rest (act setup c) := by
  have started : c.point ≠ .connect := by
    rcases point with point | point <;> simp [point]
  rcases point with point | point
  · have expected := waits
    unfold ControlSetup.clientRest at expected
    split at expected
    · obtain rfl := Option.some.inj expected
      exact here.follows_select point waits (.parametersLength rfl rfl)
    · obtain rfl := Option.some.inj expected
      refine here.follows_select point waits ?_
      have plan : clientPlan c.test = clientPlan setup.client := by
        simp only [clientPlan, receivers, senders, here.mode, here.numStreams]
      rw [← plan]
      exact .streams rfl rfl
    · obtain rfl := Option.some.inj expected
      exact here.follows_select point waits (.loop (.inr rfl) rfl)
    · obtain rfl := Option.some.inj expected
      exact here.follows_select point waits (.loop (.inr rfl) rfl)
    · next running =>
        -- nothing is expected before the client itself ends the test
        obtain rfl := Option.some.inj expected
        have unfinished : c.test.state ≠ .iperfDone := by simp [running]
        simp only [act, point, if_neg unfinished]
        refine @conforms_silent _ _ .left _ _ 1 0 _ _ _ _ _ _ Nat.one_pos rfl
          (fun broken => here.move started (.failed rfl (by simp) broken) rfl rfl rfl) ?_
        rintro next ⟨⟩
        exact here.move started (.loop (.inr rfl) waits) rfl rfl rfl
    · obtain rfl := Option.some.inj expected
      exact here.follows_select point waits (.resultsLength rfl rfl)
    · obtain rfl := Option.some.inj expected
      exact here.follows_select point waits (.finish rfl rfl)
    · next finished =>
        obtain rfl := Option.some.inj expected
        simp only [act, point, if_pos finished]
        rintro next rfl
        exact here.move started (.returned rfl) rfl rfl rfl
    · cases expected
  · simp only [act, point]
    split
    · next running =>
        obtain rfl : setup.endOn = rest := by
          simpa [running, ControlSetup.clientRest] using waits
        rintro next ⟨checked, ran⟩
        exact here.move started (.check checked (ran.state.trans running)) ran.ctrlSck ran.mode
          ran.numStreams
    · rintro next rfl
      exact here.move started (.loop (.inl rfl) waits) rfl rfl rfl

/-- The results of the server are taken, if they are short enough. -/
theorem takeResults_stands (setup : ControlSetup) {test : Test}
    (state : test.state = .exchangeResults) {outcome : Option (List UInt8)}
    (read : setup.Fits → outcome = some setup.serverResults)
    : ClientStands setup setup.displayOn (takeResults setup test outcome)
      ∧ (takeResults setup test outcome).test = test := by
  cases outcome with
  | none =>
      refine ⟨.failed rfl (by simp) fun fits => ?_, rfl⟩
      cases read fits
  | some str =>
      cases refused : setup.refusal .client str with
      | some error =>
          simp only [takeResults, refused, and_true]
          refine .failed rfl ?_ fun fits => ?_
          · rcases setup.refusal_cases _ _ _ refused with rfl | rfl <;> simp
          · obtain rfl := Option.some.inj (read fits)
            rw [setup.clientTakes] at refused
            cases refused
      | none =>
          simp only [takeResults, refused, and_true]
          apply ClientStands.loop (.inr rfl)
          simp [ControlSetup.clientRest, state]

/-- The program of the client keeps to the script, wherever it is. -/
theorem client_follows (setup : ControlSetup)
    : Follows .left (act setup) (ClientAt setup) (¬ setup.Fits) := by
  rintro rest c here
  have stands := here.stands
  cases stands with
  | connect point state =>
      simp only [act, point]
      refine ⟨_, rfl, ⟨.cookie rfl state, fun _ => rfl, here.mode, here.numStreams⟩⟩
  | cookie point state =>
      simp only [act, point]
      refine ⟨_, rfl, here.move (by simp [point]) (.loop (.inl rfl) ?_) rfl rfl rfl⟩
      simp [ControlSetup.clientRest, state, TestState.zero]
  | loop point waits => exact here.follows_loop point waits
  | check point state =>
      have started : c.point ≠ .connect := by simp [point]
      by_cases over_ : c.test.omitting = false ∧ c.test.fulfilled
      · rw [act_check point over_ (here.connected started)]
        exact ⟨_, rfl, here.move started (.loop (.inl rfl) rfl) rfl rfl rfl⟩
      · simp only [act, point, if_neg over_]
        rintro next rfl
        refine here.move started (.loop (.inl rfl) ?_) rfl rfl rfl
        simp [ControlSetup.clientRest, state]
  | parametersLength point state =>
      simp only [act, point]
      exact ⟨_, rfl, here.move (by simp [point]) (.parametersText rfl state) rfl rfl rfl⟩
  | parametersText point state =>
      simp only [act, point]
      refine ⟨_, rfl, here.move (by simp [point]) ?_ rfl rfl rfl⟩
      split
      · next negative =>
          refine .failed rfl (by simp) fun fits => toInt_hsize ?_ negative
          have limit := fits.parameters
          simp only [maxParamsJsonString] at limit
          omega
      · refine .loop (.inr rfl) ?_
        simp [ControlSetup.clientRest, state]
  | @streams _ left point state =>
      have started : c.point ≠ .connect := by simp [point]
      cases left with
      | nil =>
          simp only [act, point]
          rintro next rfl
          refine here.move started (.loop (.inr rfl) ?_) rfl rfl rfl
          simp [ControlSetup.clientRest, state, ControlSetup.streamsOn]
      | cons sender left =>
          simp only [act, point]
          refine ⟨setup.streamsOn left.length, ?_,
            here.move started (.streams rfl state) rfl rfl rfl⟩
          simp [ControlSetup.streamsOn, List.replicate_succ]
  | resultsLength point state =>
      simp only [act, point]
      exact ⟨_, rfl, here.move (by simp [point]) (.resultsText rfl state) rfl rfl rfl⟩
  | resultsText point state =>
      simp only [act, point]
      refine ⟨_, rfl, here.move (by simp [point]) ?_ rfl rfl rfl⟩
      split
      · next negative =>
          exact .failed rfl (by simp) fun fits => toInt_hsize fits.clientResults negative
      · exact .peerLength rfl state
  | peerLength point state =>
      have started : c.point ≠ .connect := by simp [point]
      simp only [act, point]
      refine conforms_hear (length_writtenLength _) (by norm_num) ?_
        (fun broken => here.move started (.failed rfl (by simp) broken) rfl rfl rfl) (by simp)
      unfold readLength
      split
      · next refused =>
          refine here.move started (.failed rfl (by simp) fun fits => ?_) rfl rfl rfl
          have filled := (setup.printed setup.serverResults (by simp)).1
          have accepted := jsonSize_short filled fits.serverResults (.inl rfl)
          rw [accepted] at refused
          cases refused
      · next size accepted =>
          obtain ⟨rfl, positive⟩ := jsonSize_written accepted
          exact here.move started (.peerText rfl positive state) rfl rfl rfl
  | peerText point positive state =>
      have started : c.point ≠ .connect := by simp [point]
      simp only [act, point]
      refine conforms_hear (length_writtenText _) positive ?_
        (fun broken => here.move started (.failed rfl (by simp) broken) rfl rfl rfl) (by simp)
      have read (fits : setup.Fits) :=
        jsonPayload_written (setup.printed setup.serverResults (by simp)).2 fits.serverResults
      obtain ⟨stands, same⟩ := takeResults_stands setup state read
      unfold readText
      exact here.move started stands (by rw [same]) (by rw [same]) (by rw [same])
  | finish point state =>
      have started : c.point ≠ .connect := by simp [point]
      have positive : c.test.state.code > 0 := by simp [state, TestState.code]
      simp only [act, point, if_pos positive]
      rw [setSendState_connected (here.connected started)]
      exact ⟨_, rfl, here.move started (.loop (.inr rfl) rfl) rfl rfl rfl⟩
  | returned point =>
      simp only [act, point]
      exact .inl rfl
  | failed point known broken =>
      simp only [act, point]
      exact .inr broken

-----------------------------------------------------------------------------------------
-- How the client comes to its next turn
-----------------------------------------------------------------------------------------

/-- A running test can end: the omit period is over, and so is the test. -/
theorem ClientAt.ends {c : ClientEnd} (here : ClientAt setup setup.endOn c)
    (point : c.point = .running) (state : c.test.state = .testRunning)
    : ∃ c', ReflTransGen (Dialogue.Quiet (act setup)) c c'
        ∧ Faces .left setup.endOn (act setup c') := by
  let last : ClientEnd := {
    point := .check
    test := { c.test with omitting := false, done := true }
  }
  have ran : ClientEnd.Ran c.test last.test := ⟨rfl, rfl, rfl, rfl, fun absurd => by cases absurd⟩
  have does : act setup c
      = .internal fun next => next.point = .check ∧ ClientEnd.Ran c.test next.test := by
    simp only [act, point, if_pos state]
  refine ⟨last, .single (.internal does ⟨rfl, ran⟩), ?_⟩
  have fulfilled : last.test.omitting = false ∧ last.test.fulfilled := by
    simp [last, Test.fulfilled]
  have connected : 0 ≤ last.test.ctrlSck := here.connected (by simp [point])
  rw [act_check rfl fulfilled connected]
  exact .say

theorem ClientAt.ready_select {rest : List (Turn ControlItem)} {c : ClientEnd}
    (here : ClientAt setup rest c) (point : c.point = .select)
    (waits : setup.clientRest c.test.state = some rest)
    : ∃ c', ReflTransGen (Dialogue.Quiet (act setup)) c c'
        ∧ Faces .left rest (act setup c') := by
  have started : c.point ≠ .connect := by simp [point]
  by_cases finished : c.test.state = .iperfDone
  · have does : act setup c = .internal (· = { c with point := .returned }) := by
      simp only [act, point, if_pos finished]
    obtain rfl : [] = rest := by
      simpa [finished, ControlSetup.clientRest] using waits
    exact ⟨_, .single (.internal does rfl), .stop⟩
  · have does : act setup c = .hear .state 1 (handleMessage setup c.test)
        { c with point := .failed .iectrlclose } (some { c with point := .running }) := by
      simp only [act, point, if_neg finished]
    by_cases running : c.test.state = .testRunning
    · obtain rfl : setup.endOn = rest := by
        simpa [running, ControlSetup.clientRest] using waits
      have there : ClientAt setup setup.endOn { c with point := .running } :=
        here.move started (.loop (.inr rfl) waits) rfl rfl rfl
      obtain ⟨c', path, faces⟩ := there.ends rfl running
      exact ⟨c', .head (.skip does) path, faces⟩
    · refine ⟨c, .refl, ?_⟩
      rw [does]
      unfold ControlSetup.clientRest at waits
      split at waits
      all_goals first
        | contradiction
        | (obtain rfl := Option.some.inj waits; exact .hear rfl)

theorem ClientAt.ready_running {rest : List (Turn ControlItem)} {c : ClientEnd}
    (here : ClientAt setup rest c) (point : c.point = .running)
    (waits : setup.clientRest c.test.state = some rest)
    : ∃ c', ReflTransGen (Dialogue.Quiet (act setup)) c c'
        ∧ Faces .left rest (act setup c') := by
  by_cases running : c.test.state = .testRunning
  · obtain rfl : setup.endOn = rest := by
      simpa [running, ControlSetup.clientRest] using waits
    exact here.ends point running
  · have does : act setup c = .internal (· = { c with point := .select }) := by
      simp only [act, point, if_neg running]
    have there : ClientAt setup rest { c with point := .select } :=
      here.move (by simp [point]) (.loop (.inl rfl) waits) rfl rfl rfl
    obtain ⟨c', path, faces⟩ := there.ready_select rfl waits
    exact ⟨c', .head (.internal does rfl) path, faces⟩

/-- Wherever the client is, it comes to its next turn, unless it has failed. -/
theorem client_ready (fits : setup.Fits) : Ready .left (act setup) (ClientAt setup) := by
  rintro rest c here
  have stands := here.stands
  cases stands with
  | connect point state =>
      refine ⟨c, .refl, ?_⟩
      simp only [act, point]
      exact .call
  | cookie point state =>
      refine ⟨c, .refl, ?_⟩
      simp only [act, point]
      exact .say
  | loop point waits =>
      rcases point with point | point
      · exact here.ready_select point waits
      · exact here.ready_running point waits
  | check point state =>
      have started : c.point ≠ .connect := by simp [point]
      by_cases over_ : c.test.omitting = false ∧ c.test.fulfilled
      · refine ⟨c, .refl, ?_⟩
        rw [act_check point over_ (here.connected started)]
        exact .say
      · have does : act setup c = .internal (· = { c with point := .select }) := by
          simp only [act, point, if_neg over_]
        have waits : setup.clientRest c.test.state = some setup.endOn := by
          simp [ControlSetup.clientRest, state]
        have there : ClientAt setup setup.endOn { c with point := .select } :=
          here.move started (.loop (.inl rfl) waits) rfl rfl rfl
        obtain ⟨c', path, faces⟩ := there.ready_select rfl waits
        exact ⟨c', .head (.internal does rfl) path, faces⟩
  | parametersLength point state =>
      refine ⟨c, .refl, ?_⟩
      simp only [act, point]
      exact .say
  | parametersText point state =>
      refine ⟨c, .refl, ?_⟩
      simp only [act, point]
      exact .say
  | @streams _ left point state =>
      cases left with
      | nil =>
          have does : act setup c = .internal (· = { c with point := .running }) := by
            simp only [act, point]
          have waits : setup.clientRest c.test.state = some (setup.streamsOn 0) := by
            simp [ControlSetup.clientRest, state, ControlSetup.streamsOn]
          have there : ClientAt setup (setup.streamsOn 0) { c with point := .running } :=
            here.move (by simp [point]) (.loop (.inr rfl) waits) rfl rfl rfl
          obtain ⟨c', path, faces⟩ := there.ready_running rfl waits
          exact ⟨c', .head (.internal does rfl) path, faces⟩
      | cons sender left =>
          refine ⟨c, .refl, ?_⟩
          simp only [act, point, ControlSetup.streamsOn, List.length_cons, List.replicate_succ]
          exact .call
  | resultsLength point state =>
      refine ⟨c, .refl, ?_⟩
      simp only [act, point]
      exact .say
  | resultsText point state =>
      refine ⟨c, .refl, ?_⟩
      simp only [act, point]
      exact .say
  | peerLength point state =>
      refine ⟨c, .refl, ?_⟩
      simp only [act, point]
      exact .hear (length_writtenLength _)
  | peerText point positive state =>
      refine ⟨c, .refl, ?_⟩
      simp only [act, point]
      exact .hear (length_writtenText _)
  | finish point state =>
      have started : c.point ≠ .connect := by simp [point]
      have positive : c.test.state.code > 0 := by simp [state, TestState.code]
      refine ⟨c, .refl, ?_⟩
      simp only [act, point, if_pos positive]
      rw [setSendState_connected (here.connected started)]
      exact .say
  | returned point =>
      refine ⟨c, .refl, ?_⟩
      simp only [act, point]
      exact .stop
  | failed point known broken => exact absurd fits broken

end Iperf
