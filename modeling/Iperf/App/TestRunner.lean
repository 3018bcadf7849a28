import Iperf.Client.Steps
import Iperf.Parameters.Arguments

/-! `IPFTestRunner`: how the app configures a test, and `iperf_connect`, which the run of the test
begins with.
-/

namespace Iperf

/-- `IPFTestRunnerConfigurationType`. -/
inductive ConfigurationType where
  | upload
  | download
  | server
deriving DecidableEq, Repr

/-- `IPFTestRunnerConfiguration`, without the address of the server. -/
structure Configuration where
  duration : Nat
  streams : Nat
  type : ConfigurationType
deriving DecidableEq, Repr

/-- The test that `startTest:` runs. The numbers are converted to `int`. -/
def startTest (configuration : Configuration) : Test :=
  let test := iperfDefaults iperfNewTest
  let test :=
    match configuration.type with
    | .server => iperfSetTestRole test .server
    | .upload =>
        { iperfSetTestRole test .client with numStreams := Int32.ofNat configuration.streams }
    | .download =>
        iperfSetTestReverse
          { iperfSetTestRole test .client with numStreams := Int32.ofNat configuration.streams }
          true
  {
    test with
    duration := Int32.ofNat configuration.duration
    settings := { test.settings with connectTimeout := 3000 }
  }

/-- The answers to the calls of `iperf_connect`. -/
structure DialIo where
  cookie : List UInt8
  /-- The socket that `netdial` returns, or `-1`. -/
  dialed : Int
  nodelaySet : Bool := true
  cookieSent : Bool := true
  maxseg : Option Int32 := none

/-- `iperf_connect`. -/
def iperfConnect (test : Test) (io : DialIo) : Except IError Test :=
  let ctrlSck := if test.ctrlSck < 0 then io.dialed else test.ctrlSck
  let test := { test with cookie := io.cookie, ctrlSck }
  if ctrlSck < 0 then .error .ieconnect
  else if !io.nodelaySet then .error .iesetnodelay
  else if !io.cookieSent then .error .iesendcookie
  else .ok (iperfConnectSettings test io.maxseg)

end Iperf
