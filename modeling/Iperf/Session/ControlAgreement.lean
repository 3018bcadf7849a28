import Iperf.Session.ControlServer
import Iperf.Session.PairedStreams

/-! Both ends of the control connection agree, however their steps interleave. -/

namespace Iperf

open Checked Dialogue Relation

variable {setup : ControlSetup}

-----------------------------------------------------------------------------------------
-- Both ends on the script
-----------------------------------------------------------------------------------------

/-- Both ends are somewhere in the script of the control connection. -/
abbrev OnScript (setup : ControlSetup) (left right : List (Turn ControlItem)) (s : ControlChannel)
    : Prop :=
  Joint setup.script (ClientAt setup) (ServerAt setup) left right s

/-- The client is about to connect and the server listens. -/
theorem onScript_start (setup : ControlSetup)
    : OnScript setup setup.script setup.script setup.start := by
  refine Joint.start ?_ ?_
  · exact ⟨.connect rfl setup.clientState, fun absurd => (absurd rfl).elim, rfl, rfl⟩
  · exact .idle (.inl rfl) rfl setup.serverSck_free
      ⟨setup.serverRole, setup.serverMode, setup.serverStreams, rfl, rfl⟩ rfl

/-- Every interleaving stays on the script. -/
theorem onScript_run {s : ControlChannel} (run : ControlRun setup setup.start s)
    : ∃ left right, OnScript setup left right s :=
  (onScript_start setup).steps (client_follows setup) (server_follows setup) run

-----------------------------------------------------------------------------------------
-- What a position says
-----------------------------------------------------------------------------------------

/-- The client fails only when the dialogue cannot be completed, and never on a message. -/
theorem ClientAt.of_failed {rest : List (Turn ControlItem)} {c : ClientEnd} {error : IError}
    (here : ClientAt setup rest c) (point : c.point = .failed error)
    : error ≠ .iemessage ∧ ¬ setup.Fits := by
  have stands := here.stands
  cases stands with
  | loop at_ waits => rcases at_ with at_ | at_ <;> simp [at_] at point
  | failed at_ known broken =>
      rw [at_] at point
      cases point
      exact ⟨known, broken⟩
  | _ => simp_all

theorem looping_ne_failed {point : ServerPoint} (looping : point.Looping) (error : IError)
    : point ≠ .failed error := by
  rcases looping with rfl | rfl | rfl | rfl <;> simp

/-- The same holds of the server. -/
theorem ServerAt.of_failed {rest : List (Turn ControlItem)} {s : ServerEnd} {error : IError}
    (here : ServerAt setup rest s) (point : s.point = .failed error)
    : error ≠ .iemessage ∧ ¬ setup.Fits := by
  cases here with
  | idle at_ state free unasked limit => exact absurd point (looping_ne_failed at_ error)
  | busy stands ctrlSck limit =>
      cases stands with
      | creating at_ state counted length missing =>
          exact absurd point (looping_ne_failed at_ error)
      | loop at_ waits => exact absurd point (looping_ne_failed at_ error)
      | starting at_ length => rcases at_ with at_ | at_ <;> simp [at_] at point
      | done at_ state finished => rcases at_ with at_ | at_ <;> simp [at_] at point
      | _ => simp_all
  | failed at_ known broken =>
      rw [at_] at point
      cases point
      exact ⟨known, broken⟩

theorem same_byte {σ : Type} {state state' : TestState} {next next' : σ}
    (same : (.say .state [state.toByte] next : Act ControlItem σ)
      = .say .state [state'.toByte] next')
    : state.toByte = state'.toByte :=
  (List.cons.inj (Act.say.inj same).2.1).1

/-- The client ends the test only while it runs and nothing is omitted any more. -/
theorem ClientAt.says_testEnd {rest : List (Turn ControlItem)} {c next : ClientEnd}
    (here : ClientAt setup rest c)
    (says_ : ClientEnd.act setup c = .say .state [TestState.testEnd.toByte] next)
    : c.test.state = .testRunning ∧ c.test.omitting = false := by
  have stands := here.stands
  cases stands with
  | check point state =>
      by_cases over_ : c.test.omitting = false ∧ c.test.fulfilled
      · exact ⟨state, over_.1⟩
      · simp [ClientEnd.act, point, if_neg over_] at says_
  | loop point waits =>
      rcases point with point | point
      · simp only [ClientEnd.act, point] at says_
        split at says_ <;> cases says_
      · simp only [ClientEnd.act, point] at says_
        split at says_ <;> cases says_
  | @streams _ left point state =>
      cases left <;> simp [ClientEnd.act, point] at says_
  | finish point state =>
      have positive : c.test.state.code > 0 := by simp [state, TestState.code]
      have connected := here.connected (by simp [point])
      simp only [ClientEnd.act, point, if_pos positive] at says_
      rw [setSendState_connected connected] at says_
      exact absurd (same_byte says_) (by decide)
  | _ => simp_all [ClientEnd.act]

/-- In its loop the server writes nothing. -/
theorem looping_silent {s next : ServerEnd} (point : s.point.Looping) {kind : ControlItem}
    {bytes : List UInt8}
    : ServerEnd.act setup s ≠ .say kind bytes next := by
  intro says_
  rcases point with point | point | point | point
  · simp only [ServerEnd.act, point] at says_
    split at says_ <;> cases says_
  · simp only [ServerEnd.act, point] at says_
    split at says_
    · cases says_
    · split at says_ <;> cases says_
  · simp only [ServerEnd.act, point] at says_
    split at says_ <;> cases says_
  · simp only [ServerEnd.act, point] at says_
    split at says_ <;> cases says_

/-- The server starts the test only with all its streams. -/
theorem ServerAt.says_start {rest : List (Turn ControlItem)} {s next : ServerEnd}
    {state : TestState} (here : ServerAt setup rest s)
    (starts : state = .testStart ∨ state = .testRunning)
    (says_ : ServerEnd.act setup s = .say .state [state.toByte] next)
    : s.test.streams.length = setup.total := by
  have other (said : TestState) (different : said.toByte ≠ TestState.testStart.toByte
        ∧ said.toByte ≠ TestState.testRunning.toByte) (same : said.toByte = state.toByte)
      : s.test.streams.length = setup.total := by
    rcases starts with rfl | rfl
    · exact absurd same different.1
    · exact absurd same different.2
  cases here with
  | idle point => exact absurd says_ (looping_silent point)
  | busy stands ctrlSck limit =>
      cases stands with
      | paramExchange point unasked =>
          simp only [ServerEnd.act, point, setSendState_busy ctrlSck] at says_
          exact other _ (by decide) (same_byte says_)
      | createStreams point asked =>
          simp only [ServerEnd.act, point, setSendState_busy ctrlSck] at says_
          exact other _ (by decide) (same_byte says_)
      | creating point => exact absurd says_ (looping_silent point)
      | starting point length => exact length
      | testRunning point length => exact length
      | loop point waits => exact absurd says_ (looping_silent point)
      | exchangeResults point =>
          simp only [ServerEnd.act, point, setSendState_busy ctrlSck] at says_
          exact other _ (by decide) (same_byte says_)
      | displayResults point =>
          simp only [ServerEnd.act, point, setSendState_busy ctrlSck] at says_
          exact other _ (by decide) (same_byte says_)
      | done point state =>
          rcases point with point | point
          · exact absurd says_ (looping_silent (.inr (.inr (.inr point))))
          · exact absurd says_ (looping_silent (.inl point))
      | _ => simp_all [ServerEnd.act]
  | failed point => simp [ServerEnd.act, point] at says_

-----------------------------------------------------------------------------------------
-- Both returned
-----------------------------------------------------------------------------------------

/-- A client that has returned has nothing before it. -/
theorem ClientAt.of_returned {rest : List (Turn ControlItem)} {c : ClientEnd}
    (here : ClientAt setup rest c) (point : c.point = .returned)
    : rest = [] := by
  have stands := here.stands
  cases stands with
  | returned => rfl
  | loop at_ waits => rcases at_ with at_ | at_ <;> simp [at_] at point
  | _ => simp_all

theorem ServerAt.of_returned {rest : List (Turn ControlItem)} {s : ServerEnd}
    (here : ServerAt setup rest s) (point : s.point = .returned) (fits : setup.Fits)
    : rest = [] := by
  have notLooping : ¬ s.point.Looping := by
    rw [point]
    rintro (absurd | absurd | absurd | absurd) <;> cases absurd
  cases here with
  | idle at_ => exact absurd at_ notLooping
  | busy stands ctrlSck limit =>
      cases stands with
      | creating at_ => exact absurd at_ notLooping
      | loop at_ => exact absurd at_ notLooping
      | starting at_ => rcases at_ with at_ | at_ <;> simp [at_] at point
      | done at_ state finished => exact finished.resolve_right (not_not.mpr fits)
      | returned at_ finished => exact finished.resolve_right (not_not.mpr fits)
      | _ => simp_all
  | failed at_ known broken => exact absurd fits broken

theorem setSendState_ne_stop {σ : Type} (test : Test) (state : TestState) (next : Test → σ)
    : setSendState test state next ≠ .stop := by
  unfold setSendState
  split <;> simp

/-- A client that stops has returned, unless it has failed. -/
theorem ClientAt.of_stop {rest : List (Turn ControlItem)} {c : ClientEnd}
    (here : ClientAt setup rest c) (stops : ClientEnd.act setup c = .stop) (fits : setup.Fits)
    : c.point = .returned := by
  have stands := here.stands
  cases stands with
  | returned point => exact point
  | failed point known broken => exact absurd fits broken
  | loop point waits =>
      rcases point with point | point
      · simp only [ClientEnd.act, point] at stops
        split at stops <;> cases stops
      · simp only [ClientEnd.act, point] at stops
        split at stops <;> cases stops
  | check point state =>
      simp only [ClientEnd.act, point] at stops
      split at stops
      · exact absurd stops (setSendState_ne_stop _ _ _)
      · cases stops
  | @streams _ left point state => cases left <;> simp [ClientEnd.act, point] at stops
  | finish point state =>
      have positive : c.test.state.code > 0 := by simp [state, TestState.code]
      simp only [ClientEnd.act, point, if_pos positive] at stops
      exact absurd stops (setSendState_ne_stop _ _ _)
  | _ => simp_all [ClientEnd.act]

theorem looping_unstopped {s : ServerEnd} (point : s.point.Looping)
    : ServerEnd.act setup s ≠ .stop := by
  intro stops
  rcases point with point | point | point | point
  · simp only [ServerEnd.act, point] at stops
    split at stops <;> cases stops
  · simp only [ServerEnd.act, point] at stops
    split at stops
    · cases stops
    · split at stops <;> cases stops
  · simp only [ServerEnd.act, point] at stops
    split at stops <;> cases stops
  · simp only [ServerEnd.act, point] at stops
    split at stops <;> cases stops

theorem ServerAt.of_stop {rest : List (Turn ControlItem)} {s : ServerEnd}
    (here : ServerAt setup rest s) (stops : ServerEnd.act setup s = .stop) (fits : setup.Fits)
    : s.point = .returned := by
  cases here with
  | idle point => exact absurd stops (looping_unstopped point)
  | busy stands ctrlSck limit =>
      cases stands with
      | paramExchange point unasked =>
          simp [ServerEnd.act, point, setSendState_ne_stop] at stops
      | createStreams point asked =>
          simp [ServerEnd.act, point, setSendState_ne_stop] at stops
      | creating point => exact absurd stops (looping_unstopped point)
      | starting point length =>
          rcases point with point | point
          · simp only [ServerEnd.act, point] at stops
            split at stops <;> cases stops
          · simp [ServerEnd.act, point, setSendState_ne_stop] at stops
      | testRunning point length =>
          simp [ServerEnd.act, point, setSendState_ne_stop] at stops
      | loop point waits => exact absurd stops (looping_unstopped point)
      | exchangeResults point =>
          simp [ServerEnd.act, point, setSendState_ne_stop] at stops
      | displayResults point =>
          simp [ServerEnd.act, point, setSendState_ne_stop] at stops
      | done point state =>
          rcases point with point | point
          · exact absurd stops (looping_unstopped (.inr (.inr (.inr point))))
          · exact absurd stops (looping_unstopped (.inl point))
      | returned point => exact point
      | _ => simp_all [ServerEnd.act]
  | failed point known broken => exact absurd fits broken

-----------------------------------------------------------------------------------------
-- Agreement
-----------------------------------------------------------------------------------------

/-- What holds of both ends in every interleaving: every item is read as what was written at its
place, no message is unknown, the server starts the test with all its streams, and the client
ends it at most once, while it runs and nothing is omitted.
-/
structure ControlAgreement (setup : ControlSetup) (s : ControlChannel) : Prop where
  toServer : s.toRight.taken <+: s.toRight.sent
  toClient : s.toLeft.taken <+: s.toLeft.sent
  clientKnows : s.left.point ≠ .failed .iemessage
  serverKnows : s.right.point ≠ .failed .iemessage
  starts : ∀ state : TestState, state = .testStart ∨ state = .testRunning →
    ∀ next, ServerEnd.act setup s.right = .say .state [state.toByte] next →
      s.right.test.streams.length = (clientPlan setup.client).length
  endsOnce : s.toRight.sent.count (.state, [TestState.testEnd.toByte]) ≤ 1
  ends : ∀ next, ClientEnd.act setup s.left = .say .state [TestState.testEnd.toByte] next →
    s.left.test.state = .testRunning ∧ s.left.test.omitting = false

/-- Both ends have returned, and each has read all that the other one wrote. -/
structure Concluded (s : ControlChannel) : Prop where
  left : s.left.point = .returned
  right : s.right.point = .returned
  toServer : s.toRight.taken = s.toRight.sent
  toClient : s.toLeft.taken = s.toLeft.sent

/-- What holds besides when the documents are short enough: neither end fails, an end that has
returned has read everything, and both can still conclude.
-/
structure Concludes (setup : ControlSetup) (s : ControlChannel) : Prop where
  client : ∀ error, s.left.point ≠ .failed error
  server : ∀ error, s.right.point ≠ .failed error
  clientRead : s.left.point = .returned → s.toLeft.taken = s.toLeft.sent ∧ s.toLeft.bytes = []
  serverRead : s.right.point = .returned → s.toRight.taken = s.toRight.sent ∧ s.toRight.bytes = []
  concludes : ∃ s', ControlRun setup s s' ∧ Concluded s'

/-- The client writes `TEST_END` once in the script. -/
theorem count_testEnd (setup : ControlSetup)
    : (itemsOf .left setup.script).count (.state, [TestState.testEnd.toByte]) = 1 := by
  have other : TestState.iperfDone.toByte ≠ TestState.testEnd.toByte := by decide
  rw [setup.itemsOf_client]
  simp [other]

theorem OnScript.agreement {left right : List (Turn ControlItem)} {s : ControlChannel}
    (joint : OnScript setup left right s)
    : ControlAgreement setup s := by
  obtain ⟨toServer, toClient⟩ := joint.between.prefixes
  refine ⟨toServer, toClient, ?_, ?_, ?_, ?_, ?_⟩
  · intro failed
    exact (joint.left.of_failed failed).1 rfl
  · intro failed
    exact (joint.right.of_failed failed).1 rfl
  · intro state starts next says_
    exact (joint.right.says_start starts says_).trans (total_eq setup)
  · rw [← count_testEnd setup, ← joint.leftWrites]
    exact List.Sublist.count_le _ (List.sublist_append_left _ _)
  · intro next says_
    exact joint.left.says_testEnd says_

theorem OnScript.concludes {left right : List (Turn ControlItem)} {s : ControlChannel}
    (joint : OnScript setup left right s) (fits : setup.Fits)
    : Concludes setup s := by
  refine ⟨?_, ?_, ?_, ?_, ?_⟩
  · intro error failed
    exact (joint.left.of_failed failed).2 fits
  · intro error failed
    exact (joint.right.of_failed failed).2 fits
  · intro returned
    obtain rfl := joint.left.of_returned returned
    exact joint.between.finished
  · intro returned
    obtain rfl := joint.right.of_returned returned fits
    exact joint.between.symm.finished
  · obtain ⟨s', steps, leftStops, rightStops, there⟩ := joint.finishes (client_follows setup)
      (server_follows setup) (client_ready fits) (server_ready fits)
    exact ⟨s', steps, there.left.of_stop leftStops fits, there.right.of_stop rightStops fits,
      there.between.symm.finished.1, there.between.finished.1⟩

/-- The control channel agrees for every number and direction of streams, all documents and every
interleaving of the two ends.
-/
theorem controlChannel_agrees (setup : ControlSetup) {s : ControlChannel}
    (run : ControlRun setup setup.start s)
    : ControlAgreement setup s ∧ (setup.Fits → Concludes setup s) := by
  obtain ⟨left, right, joint⟩ := onScript_run run
  exact ⟨joint.agreement, joint.concludes⟩

-----------------------------------------------------------------------------------------
-- Parameters that are too long
-----------------------------------------------------------------------------------------

/-- The length of parameters over the limit is refused. -/
theorem readParametersLength_long (tooLong : maxParamsJsonString < setup.parameters.length)
    (short : setup.parameters.length < 2 ^ 32) (s : ServerEnd)
    : s.readParametersLength (writtenLength setup.parameters)
      = { s with point := .failed .ierecvparams } := by
  have size : hsize setup.parameters = setup.parameters.length := Nat.mod_eq_of_lt short
  have refused : jsonSize maxParamsJsonString
      { ret := 4, buffer := writtenLength setup.parameters } = none := by
    rw [writtenLength, size, jsonSize_encode short, if_neg]
    simp only [maxParamsJsonString] at tooLong ⊢
    omega
  unfold ServerEnd.readParametersLength
  rw [refused]

/-- A run up to the point where the server is about to read the parameters. -/
theorem parameters_sent (setup : ControlSetup)
    : ∃ s, ControlRun setup setup.start s
      ∧ s.right.point = .parametersLength
      ∧ s.toRight.bytes = writtenLength setup.parameters ++ writtenText setup.parameters
      ∧ (.document, writtenText setup.parameters) ∈ s.toRight.sent
      ∧ s.toRight.taken = [(.cookie, setup.cookie)] := by
  have free : setup.start.right.test.ctrlSck = -1 := setup.serverSck_free
  have unfinished : setup.client.state ≠ .iperfDone := by simp [setup.clientState, TestState.zero]
  have connected : 0 ≤ (setup.serverSck : Int) := Int.natCast_nonneg _
  have empty : setup.cookie.drop cookieSize = [] := by simp [← setup.cookieLength]
  have whole : setup.cookie.take cookieSize = setup.cookie := by simp [← setup.cookieLength]
  -- the client connects, and the server takes the connection
  have listens : ControlRun setup setup.start _ := .single (.right (.internal rfl (.inl rfl)))
  have connects : ControlRun setup setup.start _ := listens.tail (.left (.call rfl))
  have accepts : ControlRun setup setup.start _ :=
    connects.tail (.right (.answer (if_pos free) Nat.one_pos))
  -- the cookie, and the request for the parameters
  have greets : ControlRun setup setup.start _ := accepts.tail (.left (.say rfl))
  have recognises : ControlRun setup setup.start _ :=
    greets.tail (.right (.hear rfl (Nat.le_of_eq setup.cookieLength.symm)))
  have asks : ControlRun setup setup.start _ :=
    recognises.tail (.right (.say (setSendState_connected connected _ _)))
  have hears : ControlRun setup setup.start _ :=
    asks.tail (.left (.hear (if_neg unfinished) Nat.one_pos))
  -- the parameters
  have announces : ControlRun setup setup.start _ := hears.tail (.left (.say rfl))
  have sends : ControlRun setup setup.start _ := announces.tail (.left (.say rfl))
  refine ⟨_, sends, rfl, ?_, List.mem_append_right _ (List.mem_singleton_self _), ?_⟩
  · exact congrArg (· ++ writtenLength setup.parameters ++ writtenText setup.parameters) empty
  · exact congrArg (fun cookie => [(ControlItem.cookie, cookie)]) whole

/-- Parameters over the limit are written, and never read. -/
theorem controlChannel_refuses (tooLong : maxParamsJsonString < setup.parameters.length)
    (short : setup.parameters.length < 2 ^ 32)
    : ∃ s, ControlRun setup setup.start s
      ∧ (.document, writtenText setup.parameters) ∈ s.toRight.sent
      ∧ ∀ s', ControlRun setup s s' →
        s'.right.point = .failed .ierecvparams
        ∧ (.document, writtenText setup.parameters) ∉ s'.toRight.taken := by
  obtain ⟨s, run, point, bytes, sent, taken⟩ := parameters_sent setup
  have front : s.toRight.bytes.take 4 = writtenLength setup.parameters := by
    rw [bytes]
    exact List.take_left' (length_writtenLength _)
  have there : 4 ≤ s.toRight.bytes.length := by
    rw [bytes, List.length_append, length_writtenLength]
    exact Nat.le_add_right _ _
  have does : ServerEnd.act setup s.right = .hear .length 4 s.right.readParametersLength
      { s.right with point := .failed .ierecvparams } none := by
    simp only [ServerEnd.act, point]
  have reads : ControlStep setup s _ := .right (.hear does there)
  have refused : s.right.readParametersLength (s.toRight.bytes.take 4)
      = { s.right with point := .failed .ierecvparams } := by
    rw [front]
    exact readParametersLength_long tooLong short s.right
  refine ⟨_, run.tail reads, sent, ?_⟩
  intro s' later
  have stopped : ServerEnd.act setup (s.right.readParametersLength (s.toRight.bytes.take 4))
      = .stop := by
    rw [refused]
    rfl
  obtain ⟨same, kept⟩ := stopped_right stopped later
  refine ⟨?_, ?_⟩
  · have right : s'.right = s.right.readParametersLength (s.toRight.bytes.take 4) := same
    rw [right, refused]
  · have read : s'.toRight.taken
        = s.toRight.taken ++ [(.length, s.toRight.bytes.take 4)] := kept
    rw [read, taken]
    simp

-----------------------------------------------------------------------------------------
-- Two setups
-----------------------------------------------------------------------------------------

/-- The client of `iperf3 -c host`, with a title. -/
def titledClient (title : Option String) : Test :=
  match iperfParseArguments (iperfDefaults iperfNewTest) [.client] none with
  | .ok test => { iperfConnectSettings test (some 1448) with title }
  | .error _ => iperfNewTest

/-- A title changes neither the protocol nor the number of streams. -/
theorem titledClient_streams (title : Option String)
    : (titledClient title).protocol = .tcp ∧ (titledClient title).numStreams = 1 :=
  ⟨rfl, rfl⟩

def parametersHead : List UInt8 :=
  bytesOf "\x7b\"tcp\":true,\"omit\":0,\"time\":10,\"num\":0,\"blockcount\":0,\"parallel\":1,"
    ++ bytesOf "\"len\":131072,\"pacing_timer\":1000,"

def parametersTitle : Option String → List UInt8
  | none => []
  | some title => bytesOf "\"title\":\"" ++ bytesOf title ++ bytesOf "\","

def parametersTail : List UInt8 := bytesOf "\"client_version\":\"3.19.1\"\x7d"

/-- The text cJSON prints for its parameters. -/
def titledText (title : Option String) : List UInt8 :=
  parametersHead ++ parametersTitle title ++ parametersTail

theorem parametersHead_plain : parametersHead.length = 100 ∧ 0 ∉ parametersHead := by
  rw [parametersHead, bytesOf_ofList, bytesOf_ofList]
  decide +kernel

theorem parametersTail_plain : parametersTail.length = 26 ∧ 0 ∉ parametersTail := by
  rw [parametersTail, bytesOf_ofList]
  decide +kernel

theorem titledText_ne_nil (title : Option String) : titledText title ≠ [] := by
  obtain ⟨length, -⟩ := parametersTail_plain
  exact List.append_ne_nil_of_right_ne_nil _ (List.ne_nil_of_length_pos (by omega))

/-- The text cJSON prints for the results of an end without traffic. -/
def idleResults (hasRetransmits : String) : List UInt8 :=
  bytesOf "\x7b\"cpu_util_total\":0,\"cpu_util_user\":0,\"cpu_util_system\":0,"
    ++ bytesOf "\"sender_has_retransmits\":" ++ bytesOf hasRetransmits
    ++ bytesOf ",\"streams\":[\x7b\"id\":1,\"bytes\":0,\"retransmits\":" ++ bytesOf hasRetransmits
    ++ bytesOf ",\"jitter\":0,\"errors\":0,\"omitted_errors\":0,\"packets\":0,"
    ++ bytesOf "\"omitted_packets\":0,\"start_time\":0,\"end_time\":10\x7d]\x7d"

theorem idleResults_plain {hasRetransmits : String}
    (shown : hasRetransmits = "0" ∨ hasRetransmits = "-1")
    : (idleResults hasRetransmits).length < 2 ^ 31 ∧ idleResults hasRetransmits ≠ []
      ∧ 0 ∉ idleResults hasRetransmits := by
  rcases shown with rfl | rfl
  · rw [idleResults]
    repeat rw [bytesOf_ofList]
    decide +kernel
  · rw [idleResults]
    repeat rw [bytesOf_ofList]
    decide +kernel

/-- A test with that client. -/
def titledSetup (title : Option String) (nulFree : 0 ∉ titledText title) : ControlSetup where
  client := titledClient title
  server := freshServer
  text := {
    print := fun _ => titledText title
    parse := fun str =>
      if str = titledText title then some (sendParameters (titledClient title)) else none
  }
  cookie := sampleCookie
  clientSck := 4
  serverSck := 5
  listener := 3
  flag := 0
  now := { secs := 0, usecs := 0 }
  streamSck _ position := 6 + position
  clientResults := idleResults "0"
  serverResults := idleResults "-1"
  refusal _ str :=
    if str = idleResults "0" ∨ str = idleResults "-1" then none else some .ierecvresults
  clientRole := rfl
  directed := by
    obtain ⟨protocol, -⟩ := titledClient_streams title
    exact ⟨.inl rfl, by simp [protocol], fun _ => rfl⟩
  numStreams := by
    obtain ⟨-, numStreams⟩ := titledClient_streams title
    rw [numStreams]
    decide
  clientState := rfl
  serverRole := rfl
  serverMode := rfl
  serverSck_free := rfl
  serverStreams := rfl
  cookieLength := rfl
  parsed := if_pos rfl
  truncated := by
    intro n short
    have less : n < (titledText title).length := short
    refine if_neg fun same => ?_
    have lengths : ((titledText title).take n).length = (titledText title).length :=
      congrArg List.length same
    rw [List.length_take] at lengths
    omega
  clientTakes := if_pos (.inr rfl)
  serverTakes := if_pos (.inl rfl)
  refusal_cases := by
    intro role str error refused
    split at refused
    · cases refused
    · exact .inl (Option.some.inj refused).symm
  printed := by
    intro str member
    simp only [List.mem_cons, List.not_mem_nil, or_false] at member
    rcases member with same | same | same
    · rw [same]
      exact ⟨titledText_ne_nil title, nulFree⟩
    · rw [same]
      exact (idleResults_plain (.inl rfl)).2
    · rw [same]
      exact (idleResults_plain (.inr rfl)).2

theorem nulFree_untitled : 0 ∉ titledText none := by
  obtain ⟨-, head⟩ := parametersHead_plain
  obtain ⟨-, tail⟩ := parametersTail_plain
  simp [titledText, parametersTitle, head, tail]

theorem length_titledText_untitled : (titledText none).length = 126 := by
  obtain ⟨head, -⟩ := parametersHead_plain
  obtain ⟨tail, -⟩ := parametersTail_plain
  simp [titledText, parametersTitle, head, tail]

/-- A client without a title can always conclude. -/
theorem controlChannel_agrees_sample
    : ∃ s', ControlRun (titledSetup none nulFree_untitled)
        (titledSetup none nulFree_untitled).start s'
      ∧ Concluded s' := by
  have fits : (titledSetup none nulFree_untitled).Fits := {
    parameters := length_titledText_untitled.trans_le (by decide)
    clientResults := (idleResults_plain (.inl rfl)).1
    serverResults := (idleResults_plain (.inr rfl)).1
    unlimited := rfl
  }
  exact ((controlChannel_agrees _ .refl).2 fits).concludes

/-- A title of 8100 letters. -/
def longTitle : String := String.ofList (List.replicate 8100 'a')

theorem parametersTitle_long
    : parametersTitle (some longTitle)
      = bytesOf "\"title\":\"" ++ List.replicate 8100 'a'.toUInt8 ++ bytesOf "\"," := by
  have letters : bytesOf longTitle = List.replicate 8100 'a'.toUInt8 :=
    (bytesOf_ofList _).trans List.map_replicate
  exact congrArg (bytesOf "\"title\":\"" ++ · ++ bytesOf "\",") letters

theorem quotes_plain
    : (bytesOf "\"title\":\"").length = 9 ∧ 0 ∉ bytesOf "\"title\":\""
      ∧ (bytesOf "\",").length = 2 ∧ 0 ∉ bytesOf "\"," := by
  repeat rw [bytesOf_ofList]
  decide +kernel

theorem nulFree_long : 0 ∉ titledText (some longTitle) := by
  obtain ⟨-, head⟩ := parametersHead_plain
  obtain ⟨-, quoted, -, closing⟩ := quotes_plain
  obtain ⟨-, tail⟩ := parametersTail_plain
  have letter : 0 ∉ List.replicate 8100 'a'.toUInt8 := by
    rw [List.mem_replicate]
    rintro ⟨-, same⟩
    exact absurd same (by decide)
  rw [titledText, parametersTitle_long]
  simp only [List.mem_append, head, quoted, letter, closing, tail, or_self, not_false_eq_true]

theorem length_titledText_long : (titledText (some longTitle)).length = 8237 := by
  obtain ⟨head, -⟩ := parametersHead_plain
  obtain ⟨quoted, -, closing, -⟩ := quotes_plain
  obtain ⟨tail, -⟩ := parametersTail_plain
  rw [titledText, parametersTitle_long]
  simp only [List.length_append, List.length_replicate, head, quoted, closing, tail]

/-- A client whose title is too long for the server. -/
theorem controlChannel_refuses_title
    : ∃ s, ControlRun (titledSetup (some longTitle) nulFree_long)
        (titledSetup (some longTitle) nulFree_long).start s
      ∧ (.document, writtenText (titledText (some longTitle))) ∈ s.toRight.sent
      ∧ ∀ s', ControlRun (titledSetup (some longTitle) nulFree_long) s s' →
        s'.right.point = .failed .ierecvparams
        ∧ (.document, writtenText (titledText (some longTitle))) ∉ s'.toRight.taken := by
  have length : (titledSetup (some longTitle) nulFree_long).parameters.length = 8237 :=
    length_titledText_long
  refine controlChannel_refuses ?_ ?_
  · rw [length]
    decide
  · rw [length]
    decide

end Iperf
