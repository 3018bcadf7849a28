import Iperf.Session.ControlChannel

/-! The script of the control connection, and which documents get through. -/

namespace Iperf

open Dialogue

namespace ControlSetup

def clientSays (state : TestState) : Turn ControlItem := .say .left .state [state.toByte]

def serverSays (state : TestState) : Turn ControlItem := .say .right .state [state.toByte]

/-- The script from `IPERF_DONE` on; the definitions that follow begin earlier and earlier. -/
def doneOn (_ : ControlSetup) : List (Turn ControlItem) := [clientSays .iperfDone]

def displayOn (setup : ControlSetup) : List (Turn ControlItem) :=
  serverSays .displayResults :: setup.doneOn

def answerTextOn (setup : ControlSetup) : List (Turn ControlItem) :=
  .say .right .document (writtenText setup.serverResults) :: setup.displayOn

def answerOn (setup : ControlSetup) : List (Turn ControlItem) :=
  .say .right .length (writtenLength setup.serverResults) :: setup.answerTextOn

def resultsTextOn (setup : ControlSetup) : List (Turn ControlItem) :=
  .say .left .document (writtenText setup.clientResults) :: setup.answerOn

def resultsOn (setup : ControlSetup) : List (Turn ControlItem) :=
  .say .left .length (writtenLength setup.clientResults) :: setup.resultsTextOn

def exchangeOn (setup : ControlSetup) : List (Turn ControlItem) :=
  serverSays .exchangeResults :: setup.resultsOn

def endOn (setup : ControlSetup) : List (Turn ControlItem) :=
  clientSays .testEnd :: setup.exchangeOn

def runningOn (setup : ControlSetup) : List (Turn ControlItem) :=
  serverSays .testRunning :: setup.endOn

def startOn (setup : ControlSetup) : List (Turn ControlItem) :=
  serverSays .testStart :: setup.runningOn

/-- The script with so many streams to be connected. -/
def streamsOn (setup : ControlSetup) (left : Nat) : List (Turn ControlItem) :=
  List.replicate left (.call .left) ++ setup.startOn

def createOn (setup : ControlSetup) : List (Turn ControlItem) :=
  serverSays .createStreams :: setup.streamsOn (clientPlan setup.client).length

def parametersTextOn (setup : ControlSetup) : List (Turn ControlItem) :=
  .say .left .document (writtenText setup.parameters) :: setup.createOn

def parametersOn (setup : ControlSetup) : List (Turn ControlItem) :=
  .say .left .length (writtenLength setup.parameters) :: setup.parametersTextOn

def paramExchangeOn (setup : ControlSetup) : List (Turn ControlItem) :=
  serverSays .paramExchange :: setup.parametersOn

def cookieOn (setup : ControlSetup) : List (Turn ControlItem) :=
  .say .left .cookie setup.cookie :: setup.paramExchangeOn

/-- All of it. -/
def script (setup : ControlSetup) : List (Turn ControlItem) := .call .left :: setup.cookieOn

/-- The cookie, states and documents that the client writes. -/
theorem itemsOf_client (setup : ControlSetup)
    : itemsOf .left setup.script = [
        (.cookie, setup.cookie),
        (.length, writtenLength setup.parameters),
        (.document, writtenText setup.parameters),
        (.state, [TestState.testEnd.toByte]),
        (.length, writtenLength setup.clientResults),
        (.document, writtenText setup.clientResults),
        (.state, [TestState.iperfDone.toByte])
      ] := by
  simp [script, cookieOn, paramExchangeOn, parametersOn, parametersTextOn, createOn, streamsOn,
    startOn, runningOn, endOn, exchangeOn, resultsOn, resultsTextOn, answerOn, answerTextOn,
    displayOn, doneOn, clientSays, serverSays]

/-- The lengths with which a dialogue can be completed, by a server that does not limit the
bitrate.
-/
structure Fits (setup : ControlSetup) : Prop where
  parameters : setup.parameters.length ≤ maxParamsJsonString
  clientResults : setup.clientResults.length < 2 ^ 31
  serverResults : setup.serverResults.length < 2 ^ 31
  unlimited : setup.server.settings.bitrateLimit = 0

end ControlSetup

section Documents

variable {str : List UInt8}

theorem hsize_of_lt (small : str.length < 2 ^ 31) : hsize str = str.length :=
  Nat.mod_eq_of_lt (by omega)

theorem length_writtenText (str : List UInt8) : (writtenText str).length = hsize str := by
  rw [writtenText, List.length_take]
  exact Nat.min_eq_left (Nat.mod_le _ _)

theorem length_writtenLength (str : List UInt8) : (writtenLength str).length = 4 :=
  BigEndian.length_encode _ _

theorem writtenText_of_lt (small : str.length < 2 ^ 31) : writtenText str = str := by
  rw [writtenText, hsize_of_lt small, List.take_length]

/-- A size that is accepted is the one written, and not zero. -/
theorem jsonSize_written {maxSize size : Nat}
    (accepted : jsonSize maxSize { ret := 4, buffer := writtenLength str } = some size)
    : size = hsize str ∧ 0 < hsize str := by
  rw [writtenLength, jsonSize_encode (hsize_lt str)] at accepted
  split at accepted
  · next fits => exact ⟨(Option.some.inj accepted).symm, fits.1⟩
  · cases accepted

theorem jsonSize_le {maxSize size : Nat} {received : Received} (limited : maxSize ≠ 0)
    (accepted : jsonSize maxSize received = some size)
    : size ≤ maxSize := by
  unfold jsonSize at accepted
  split at accepted
  · dsimp only at accepted
    split at accepted
    · next fits =>
        rw [← Option.some.inj accepted]
        exact fits.2.1.resolve_left limited
    · cases accepted
  · cases accepted

/-- The size of a short text is accepted. -/
theorem jsonSize_short {maxSize : Nat} (nonempty : str ≠ []) (small : str.length < 2 ^ 31)
    (limit : maxSize = 0 ∨ str.length ≤ maxSize)
    : jsonSize maxSize { ret := 4, buffer := writtenLength str } = some str.length := by
  have positive : 0 < str.length := List.length_pos_iff.mpr nonempty
  rw [writtenLength, jsonSize_encode (hsize_lt str), hsize_of_lt small,
    if_pos ⟨positive, limit, by omega⟩]

/-- A short text is parsed as it is. -/
theorem jsonPayload_written (nulFree : 0 ∉ str) (small : str.length < 2 ^ 31)
    : jsonPayload (hsize str) { ret := toInt (hsize str), buffer := writtenText str ++ [0] }
      = some str := by
  rw [hsize_of_lt small, writtenText_of_lt small, toInt_of_lt small,
    jsonPayload_whole _ ⟨Int.natCast_nonneg _, rfl⟩, cString_terminated nulFree]

theorem toInt_hsize (small : str.length < 2 ^ 31) : ¬ toInt (hsize str) < 0 := by
  rw [hsize_of_lt small, toInt_of_lt small]
  omega

end Documents

end Iperf
