import Mathlib.Data.UInt
import Mathlib.Data.Int.Notation

/-! Constants of `iperf.h` and `iperf_api.h`: test states, modes, protocols and limits. -/

namespace Iperf

/-- The values of `test->state`, a `signed char` that is also the message on the control
connection. Codes the program never sends on purpose keep their value.
-/
inductive TestState where
  | testStart
  | testRunning
  | testEnd
  | paramExchange
  | createStreams
  | serverTerminate
  | clientTerminate
  | exchangeResults
  | displayResults
  | iperfStart
  | iperfDone
  | accessDenied
  | serverError
  | other (code : Int)
deriving DecidableEq, Repr

namespace TestState

/-- The number a state stands for. -/
def code : TestState → Int
  | testStart => 1
  | testRunning => 2
  | testEnd => 4
  | paramExchange => 9
  | createStreams => 10
  | serverTerminate => 11
  | clientTerminate => 12
  | exchangeResults => 13
  | displayResults => 14
  | iperfStart => 15
  | iperfDone => 16
  | accessDenied => -1
  | serverError => -2
  | other code => code

/-- The state stored by reading one byte into the `signed char`. -/
def ofByte (byte : UInt8) : TestState :=
  match byte.toInt8.toInt with
  | 1 => testStart
  | 2 => testRunning
  | 4 => testEnd
  | 9 => paramExchange
  | 10 => createStreams
  | 11 => serverTerminate
  | 12 => clientTerminate
  | 13 => exchangeResults
  | 14 => displayResults
  | 15 => iperfStart
  | 16 => iperfDone
  | -1 => accessDenied
  | -2 => serverError
  | code => other code

/-- The byte written for a state. -/
def toByte (state : TestState) : UInt8 := UInt8.ofInt state.code

/-- A zeroed `iperf_test` has state `0`, which names no phase. -/
def zero : TestState := other 0

end TestState

/-- `enum iperf_mode`. -/
inductive Mode where
  | sender
  | receiver
  | bidirectional
deriving DecidableEq, Repr

/-- Protocol ids; `Psctp` exists as a number even when SCTP is compiled out. -/
inductive ProtocolId where
  | tcp
  | udp
  | sctp
deriving DecidableEq, Repr

/-- `test->role`: `0` until one of `-s` and `-c` sets it. -/
inductive Role where
  | unset
  | client
  | server
deriving DecidableEq, Repr

/-- The `i_errno` values that the modelled functions set. -/
inductive IError where
  | ienone
  | ieinittest
  | ieservclient
  | ienorole
  | ieserveronly
  | ieclientonly
  | ieduration
  | ienumstreams
  | ieblocksize
  | iebufsize
  | ieinterval
  | iemss
  | ienosendfile
  | ieomit
  | ieunimp
  | ieburst
  | ieendconditions
  | ieudpblocksize
  | iebadtos
  | ietotalrate
  | ietotalinterval
  | iereversebidir
  | iebadport
  | iebadformat
  | ieidletimeout
  | iercvtimeout
  | ieudpfiletransfer
  | ieconnect
  | ieaccept
  | iesendcookie
  | ierecvcookie
  | iesendmessage
  | ierecvmessage
  | iesendparams
  | ierecvparams
  | iepackageresults
  | iesendresults
  | ierecvresults
  | ieselect
  | ieclientterm
  | ieserverterm
  | ieaccessdenied
  | iectrlclose
  | iemessage
  | iestreamid
  | iecreatestream
  | iestreamconnect
  | iestreamwrite
  | iestreamread
  | iesetcos
  | iesettos
  | ienomsg
  | iesetnodelay
  | ielisten
  | iestreamlisten
  | iestreamaccept
  | iectrlwrite
  | iectrlread
  | ieaffinity
  | ieinitstream
  | iefile
  | iepthreadcreate
  | iepthreadcancel
  | iepthreadjoin
  | iepthreadattrinit
  | iepthreadattrdestroy
  | iepthreadsigmask
  | iesetmss
  | iesetbuf
  | iesetbuf2
  | iereuseaddr
  | iev6only
deriving DecidableEq, Repr

/-- The number that `i_errno` holds. -/
def IError.code : IError → Int32
  | ienone => 0
  | ieservclient => 1
  | ienorole => 2
  | ieserveronly => 3
  | ieclientonly => 4
  | ieduration => 5
  | ienumstreams => 6
  | ieblocksize => 7
  | iebufsize => 8
  | ieinterval => 9
  | iemss => 10
  | ienosendfile => 11
  | ieomit => 12
  | ieunimp => 13
  | iefile => 14
  | ieburst => 15
  | ieendconditions => 16
  | ieudpblocksize => 20
  | iebadtos => 21
  | iebadformat => 24
  | iereversebidir => 25
  | iebadport => 26
  | ietotalrate => 27
  | ietotalinterval => 28
  | ieidletimeout => 30
  | iercvtimeout => 31
  | ieudpfiletransfer => 34
  | ieinittest => 101
  | ielisten => 102
  | ieconnect => 103
  | ieaccept => 104
  | iesendcookie => 105
  | ierecvcookie => 106
  | iectrlwrite => 107
  | iectrlread => 108
  | iectrlclose => 109
  | iemessage => 110
  | iesendmessage => 111
  | ierecvmessage => 112
  | iesendparams => 113
  | ierecvparams => 114
  | iepackageresults => 115
  | iesendresults => 116
  | ierecvresults => 117
  | ieselect => 118
  | ieclientterm => 119
  | ieserverterm => 120
  | ieaccessdenied => 121
  | iesetnodelay => 122
  | iesetmss => 123
  | iesetbuf => 124
  | iesettos => 125
  | iesetcos => 126
  | iereuseaddr => 128
  | ieaffinity => 132
  | iev6only => 136
  | iesetbuf2 => 141
  | ienomsg => 144
  | iepthreadcreate => 150
  | iepthreadcancel => 151
  | iepthreadjoin => 152
  | iepthreadattrinit => 153
  | iepthreadattrdestroy => 154
  | iepthreadsigmask => 159
  | iecreatestream => 200
  | ieinitstream => 201
  | iestreamlisten => 202
  | iestreamconnect => 203
  | iestreamaccept => 204
  | iestreamwrite => 205
  | iestreamread => 206
  | iestreamid => 208

/-- The errors of the protocols' `listen`, `accept` and `connect` and of `iperf_new_stream`. -/
inductive SetupError where
  | iestreamlisten
  | iestreamaccept
  | iestreamconnect
  | iestreamwrite
  | iestreamread
  | iesetnodelay
  | iesetmss
  | iesetbuf
  | iesetbuf2
  | iesetcos
  | iesettos
  | iereuseaddr
  | iev6only
  | iesendcookie
  | iecreatestream
  | ieinitstream
  | iefile
deriving DecidableEq, Repr

def SetupError.toIError : SetupError → IError
  | iestreamlisten => .iestreamlisten
  | iestreamaccept => .iestreamaccept
  | iestreamconnect => .iestreamconnect
  | iestreamwrite => .iestreamwrite
  | iestreamread => .iestreamread
  | iesetnodelay => .iesetnodelay
  | iesetmss => .iesetmss
  | iesetbuf => .iesetbuf
  | iesetbuf2 => .iesetbuf2
  | iesetcos => .iesetcos
  | iesettos => .iesettos
  | iereuseaddr => .iereuseaddr
  | iev6only => .iev6only
  | iesendcookie => .iesendcookie
  | iecreatestream => .iecreatestream
  | ieinitstream => .ieinitstream
  | iefile => .iefile

-----------------------------------------------------------------------------------------
-- Sizes and limits
-----------------------------------------------------------------------------------------

def cookieSize : Nat := 37

def defaultTcpBlksize : Int32 := 131072
def defaultUdpBlksize : Int32 := 1460
def defaultPacingTimer : Int32 := 1000
def omitDefault : Int32 := 0
def durationDefault : Int32 := 10
def udpRate : UInt64 := 1048576

def maxParamsJsonString : Nat := 8 * 1024
def maxTcpBuffer : Nat := 512 * 1024 * 1024
def maxBlocksize : Int32 := 1048576
def minUdpBlocksize : Int32 := 16
def maxUdpBlocksize : Int32 := 65507
def maxTime : Int32 := 86400
def maxOmitTime : Int32 := 600
def maxBurst : Int32 := 1000
def maxMss : Int32 := 9216
def maxStreams : Int32 := 128

end Iperf
