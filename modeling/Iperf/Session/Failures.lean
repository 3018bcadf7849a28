import Iperf.Client.Loop
import Iperf.Server.Phases

/-! Only the watchdog reports `IENOMSG`: every other failure of a pass has an error of its own.
-/

namespace Iperf

open Checked

theorem SetupError.toIError_ne (error : SetupError) : error.toIError ≠ .ienomsg := by
  cases error <;> exact fun absurd => by cases absurd

theorem iperfSetSendState_failure (test : Test) (state : TestState) (sent : Bool)
    : iperfSetSendState test state sent ≠ .error .ienomsg := by
  unfold iperfSetSendState
  split_ifs <;> exact fun absurd => by cases absurd

theorem iperfNewStream_failure (test : Test) (s : Int) (sender : Bool) (io : NewStreamIo)
    : iperfNewStream test s sender io ≠ .error .ienomsg := by
  unfold iperfNewStream
  split
  · next error _ => exact fun same => error.toIError_ne (Except.error.inj same)
  · exact fun absurd => by cases absurd

/-- The errors that `get_results` sets, by induction on the elements of the array. -/
theorem getStreamResult_error {items : List CJson} {start : Option IError × List Stream}
    (own : ∀ error, start.1 = some error → error = .ierecvresults ∨ error = .iestreamid)
    : ∀ error, (items.foldl getStreamResult start).1 = some error →
        error = .ierecvresults ∨ error = .iestreamid := by
  induction items generalizing start with
  | nil => exact own
  | cons json rest ih =>
      rw [List.foldl_cons]
      apply ih
      intro error
      unfold getStreamResult
      split
      · rintro ⟨⟩
        exact .inl rfl
      · split
        · rintro ⟨⟩
          exact .inr rfl
        · exact own error

theorem getResults_error {test : Test} {json : CJson} {error : IError}
    (failed : (getResults test json).1 = some error)
    : error = .ierecvresults ∨ error = .iestreamid := by
  unfold getResults at failed
  split at failed
  · dsimp only at failed
    split at failed
    · refine getStreamResult_error (fun _ absurd => ?_) error failed
      cases absurd
    · exact .inl (Option.some.inj failed).symm
  · split at failed
    · exact .inl (Option.some.inj failed).symm
    · exact .inl (Option.some.inj failed).symm

theorem getResults_failure (test : Test) (json : CJson)
    : (getResults test json).1 ≠ some .ienomsg := by
  intro failed
  rcases getResults_error failed with absurd | absurd <;> cases absurd

-----------------------------------------------------------------------------------------
-- The server
-----------------------------------------------------------------------------------------

theorem serverExchangeParameters_failure (test : Test) (io : AcceptIo)
    : serverExchangeParameters test io ≠ .error .ienomsg := by
  unfold serverExchangeParameters
  split
  · exact fun absurd => by cases absurd
  · split
    · next error _ =>
        unfold reportServerError
        split_ifs
        · exact fun same => error.toIError_ne (Except.error.inj same)
        · exact fun absurd => by cases absurd
        · exact fun absurd => by cases absurd
    · exact iperfSetSendState_failure _ _ _

theorem iperfAccept_failure (test : Test) (io : AcceptIo)
    : iperfAccept test io ≠ .error .ienomsg := by
  unfold iperfAccept acceptClient
  dsimp only
  split
  · exact fun absurd => by cases absurd
  · split_ifs
    · exact fun absurd => by cases absurd
    · exact fun absurd => by cases absurd
    · refine bind_ne_error (iperfSetSendState_failure _ _ _) fun _ => ?_
      refine bind_ne_error (serverExchangeParameters_failure _ _) fun _ => ?_
      split_ifs <;> exact fun absurd => by cases absurd
    · exact fun absurd => by cases absurd

theorem serverTestEnd_failure (test : Test) (io : EndIo)
    : serverTestEnd test io ≠ .error .ienomsg := by
  unfold serverTestEnd
  refine bind_ne_error (iperfSetSendState_failure _ _ _) fun exchanging => ?_
  refine bind_ne_error ?_ fun _ => iperfSetSendState_failure _ _ _
  unfold serverExchangeResults
  split
  · exact fun absurd => by cases absurd
  · next json _ =>
      have own := getResults_failure exchanging json
      split
      · next error _ failed =>
          rw [failed] at own
          exact fun same => own (congrArg some (Except.error.inj same))
      · split_ifs <;> exact fun absurd => by cases absurd

theorem iperfHandleMessageServer_failure (test : Test) (message : ControlMessage)
    : iperfHandleMessageServer test message ≠ .error .ienomsg := by
  unfold iperfHandleMessageServer
  split
  · exact fun absurd => by cases absurd
  · exact fun absurd => by cases absurd
  · dsimp only
    split
    · exact fun absurd => by cases absurd
    · exact map_ne_error (serverTestEnd_failure _ _)
    · exact fun absurd => by cases absurd
    · exact fun absurd => by cases absurd
    · exact fun absurd => by cases absurd

theorem acceptStream_failure (s : Server) (io : StreamIo)
    : s.acceptStream io ≠ .error .ienomsg := by
  unfold Server.acceptStream
  refine bind_ne_error ?_ fun out => bind_ne_error ?_ fun _ => ?_
  · unfold protocolAccept iperfTcpAccept
    split
    · apply map_ne_error
      split
      · exact fun absurd => by cases absurd
      · dsimp only
        split_ifs <;> exact fun absurd => by cases absurd
    all_goals
      apply map_ne_error
      cases iperfUdpAccept s.test io with
      | error error => exact fun same => error.toIError_ne (Except.error.inj same)
      | ok out => exact fun absurd => by cases absurd
  · unfold iperfCommonSockopts
    split_ifs <;> exact fun absurd => by cases absurd
  · split
    · exact fun absurd => by cases absurd
    · unfold Server.addStream
      dsimp only
      split
      · exact map_ne_error (iperfNewStream_failure _ _ _ _)
      · exact fun absurd => by cases absurd

theorem startTest_failure (s : Server) (io : StartIo) : s.startTest io ≠ .error .ienomsg := by
  unfold Server.startTest
  refine bind_ne_error ?_ fun _ => bind_ne_error ?_ fun _ =>
    bind_ne_error (iperfSetSendState_failure _ _ _) fun _ =>
    bind_ne_error (iperfSetSendState_failure _ _ _) fun _ => ?_
  · unfold relisten
    split
    · split <;> exact fun absurd => by cases absurd
    · exact fun absurd => by cases absurd
  · unfold checkRequestedRate
    split_ifs <;> exact fun absurd => by cases absurd
  · split_ifs <;> exact fun absurd => by cases absurd

theorem handleReady_failure (s : Server) (readSet : List Int) (io : PassIo)
    : s.handleReady readSet io ≠ .error .ienomsg := by
  unfold Server.handleReady
  refine bind_ne_error ?_ fun _ => bind_ne_error ?_ fun _ => bind_ne_error ?_ fun _ => ?_
  · unfold Server.handleListener
    split
    · exact map_ne_error (iperfAccept_failure _ _)
    · exact fun absurd => by cases absurd
  · unfold Server.handleControl
    split
    · exact map_ne_error (iperfHandleMessageServer_failure _ _)
    · exact fun absurd => by cases absurd
  · unfold Server.createStreams Server.acceptReady
    split
    · refine bind_ne_error ?_ fun _ => ?_
      · split
        · exact acceptStream_failure _ _
        · exact fun absurd => by cases absurd
      · split
        · exact startTest_failure _ _
        · exact fun absurd => by cases absurd
    · exact fun absurd => by cases absurd
  · exact fun absurd => by cases absurd

/-- A pass of the server reports `IENOMSG` only from a timeout that the watchdog looked at. -/
theorem pass_noMessage {s : Server} {io : PassIo}
    (failed : s.pass io = .error (.failed .ienomsg))
    : io.select = .timedOut ∧ s.checkTimeout io.later = some (.failed .ienomsg) := by
  unfold Server.pass at failed
  split at failed
  · cases failed
  split at failed
  · cases failed
  · split at failed
    · split at failed <;> cases failed
    · next timedOut =>
        split at failed
        · next stop stopped =>
            obtain rfl := Except.error.inj failed
            exact ⟨timedOut, stopped⟩
        · cases failed
    · next readSet _ =>
        split at failed
        · next error handled =>
            obtain rfl := Stop.failed.inj (Except.error.inj failed)
            exact absurd handled (handleReady_failure _ _ _)
        · cases failed

-----------------------------------------------------------------------------------------
-- The client
-----------------------------------------------------------------------------------------

/-- What stands in `err` behind `SERVER_ERROR`, sent or left over, is not the watchdog's number.
-/
def ClientMessage.OwnError : ClientMessage → Prop
  | .byte value io =>
      TestState.ofByte value = .serverError → io.serverErrno.complete
        → io.serverErrno.sent ≠ some IError.ienomsg.code
  | _ => True

theorem IError.eq_ienomsg (error : IError) (same : error.code = IError.ienomsg.code)
    : error = .ienomsg := by
  revert same
  cases error <;> decide

theorem createStreamsLoop_failure (sender : Bool) (count : Nat) (test : Test)
    (connections : List ConnectIo)
    : createStreamsLoop sender count test connections ≠ .error .ienomsg := by
  induction count generalizing test connections with
  | zero => exact fun absurd => by cases absurd
  | succ count ih =>
      cases connections with
      | nil => exact fun absurd => by cases absurd
      | cons io rest =>
          unfold createStreamsLoop
          refine bind_ne_error ?_ fun _ =>
            bind_ne_error (iperfNewStream_failure _ _ _ _) fun _ => ih _ _
          cases io.connected with
          | error error => exact fun same => error.toIError_ne (Except.error.inj same)
          | ok out => exact fun absurd => by cases absurd

theorem clientCreateStreams_failure (test : Test) (connections : List ConnectIo)
    : clientCreateStreams test connections ≠ .error .ienomsg := by
  unfold clientCreateStreams
  split
  · exact bind_ne_error (createStreamsLoop_failure _ _ _ _) fun _ =>
      bind_ne_error (createStreamsLoop_failure _ _ _ _) fun _ absurd => by cases absurd
  · exact map_ne_error (createStreamsLoop_failure _ _ _ _)
  · exact map_ne_error (createStreamsLoop_failure _ _ _ _)

theorem handleMessage_failure {c : Client} {message : ClientMessage} (own : message.OwnError)
    : c.handleMessage message ≠ .error IError.ienomsg.code := by
  cases message with
  | failed => exact fun absurd => by cases absurd
  | closed => exact fun absurd => by cases absurd
  | byte value io =>
      unfold Client.handleMessage
      dsimp only
      split
      · split_ifs <;> exact fun absurd => by cases absurd
      · exact map_ne_error (mapError_ne_error IError.eq_ienomsg (clientCreateStreams_failure _ _))
      · exact fun absurd => by cases absurd
      · exact fun absurd => by cases absurd
      · refine map_ne_error (mapError_ne_error IError.eq_ienomsg ?_)
        unfold clientExchangeResults
        split_ifs
        · exact fun absurd => by cases absurd
        · split
          · exact fun absurd => by cases absurd
          · next json _ =>
              have other := getResults_failure { c.test with state := .ofByte value } json
              split
              · next error _ failed =>
                  rw [failed] at other
                  exact fun same => other (congrArg some (Except.error.inj same))
              · exact fun absurd => by cases absurd
      · exact fun absurd => by cases absurd
      · exact fun absurd => by cases absurd
      · exact fun absurd => by cases absurd
      · exact fun absurd => by cases absurd
      · next server =>
          intro same
          have reported := Except.error.inj same
          unfold ErrnoIo.iErrno at reported
          split at reported
          · cases reported
          · next number sent =>
              split at reported
              · next complete => exact own server complete (sent.trans (congrArg some reported))
              · cases reported
      · exact fun absurd => by cases absurd

theorem running_failure (c : Client) (io : ClientPassIo)
    : c.running io ≠ .error IError.ienomsg.code := by
  unfold Client.running Client.startThreads Client.finish
  split
  · refine bind_ne_error ?_ fun _ => ?_
    · split_ifs <;> exact fun absurd => by cases absurd
    · dsimp only
      split
      · exact map_ne_error
          (mapError_ne_error IError.eq_ienomsg (iperfSetSendState_failure _ _ _))
      · exact fun absurd => by cases absurd
  · exact fun absurd => by cases absurd

theorem proceed_failure {c : Client} {io : ClientPassIo} (own : io.message.OwnError)
    : c.proceed io ≠ .error IError.ienomsg.code := by
  unfold Client.proceed
  split
  · split
    · exact bind_ne_error (handleMessage_failure own) fun _ => running_failure _ _
    · exact running_failure _ _
  · exact running_failure _ _

/-- A pass of the client reports `IENOMSG` only from a timeout that the watchdog looked at. -/
theorem clientPass_noMessage {c : Client} {io : ClientPassIo} (own : io.message.OwnError)
    (failed : c.pass io = .error IError.ienomsg.code)
    : io.select = .timedOut ∧ c.watches ∧ c.timedOut io.later := by
  unfold Client.pass at failed
  split at failed
  · split at failed
    · cases failed
    · exact absurd failed (proceed_failure own)
  · next timedOut =>
      split at failed
      · next watches =>
          split at failed
          · next overdue => exact ⟨timedOut, watches, overdue⟩
          · exact absurd failed (proceed_failure own)
      · exact absurd failed (proceed_failure own)
  · exact absurd failed (proceed_failure own)

end Iperf
