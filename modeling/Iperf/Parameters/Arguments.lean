import Iperf.Model.Json
import Iperf.Model.Test

/-! `iperf_parse_arguments` and the part of `iperf_connect` that completes a configuration. -/

namespace Iperf

/-- An option of the command line, with its argument as `atoi`, `strtol`, `unit_atoi` or
`unit_atof` convert it. Options that end the process are left out.
-/
inductive CliOption where
  | port (n : Int32)
  | format (known : Bool)
  | interval (seconds : ℚ)
  /-- `-D` and `-1`. -/
  | serverOnly
  /-- Options about output and addresses, which write no modelled field. -/
  | neutral
  | server
  | client
  | udp
  /-- `--sctp`, `--nstreams`, `-L`, `-A`, `-C` and the socket pacing options, none of which
  this build supports.
  -/
  | unsupported
  | bitrate (burst : Option Int32) (rate : UInt64)
  | serverBitrateLimit (interval : Option ℚ) (limit : UInt64)
  | time (seconds : Int32)
  | bytes (n : UInt64)
  | blockcount (n : UInt64)
  | length (n : Int32)
  | parallel (n : Int32)
  | reverse
  | bidir
  | window (size : ℚ)
  | setMss (n : Int32)
  | noDelay
  | tos (value : Option Int32)
  | dscp (value : Int32)
  | extraData (text : String)
  | zerocopy
  | repeatingPayload
  | omitSeconds (seconds : Int32)
  | file (name : String)
  | idleTimeout (seconds : Int32)
  | rcvTimeout (milliseconds : Int32)
  | title (text : String)
  | getServerOutput
  | udpCounters64bit
  | dontFragment
  | skipRxCopy
  | pacingTimer (n : Int32)
  | connectTimeout (n : Int32)

/-- The local variables of the option loop. -/
structure ParseState where
  test : Test
  blksize : Int32 := 0
  serverFlag : Bool := false
  clientFlag : Bool := false
  rateFlag : Bool := false
  durationFlag : Bool := false

def minInterval : ℚ := 1 / 10
def maxInterval : ℚ := 60
def minNoMsgRcvdTimeout : Int32 := 100
def hasSendfile : Bool := true

/-- An interval of the statistics or of the rate limit that is neither zero nor in range. -/
def badInterval (seconds : ℚ) : Bool :=
  (seconds < minInterval ∨ seconds > maxInterval) ∧ seconds ≠ 0

/-- Go on with `next` unless the option is refused. -/
def accept (refused : Bool) (error : IError) (next : ParseState) : Except IError ParseState :=
  if refused then .error error else .ok next

theorem accept_eq_ok {refused : Bool} {error : IError} {next final : ParseState}
    : accept refused error next = .ok final ↔ refused = false ∧ next = final := by
  cases refused <;> simp [accept]

/-- A client option that only changes the test. -/
def ParseState.clientSet (s : ParseState) (test : Test) : ParseState :=
  { s with test, clientFlag := true }

/-- One pass of the option loop. -/
def parseOption (s : ParseState) : CliOption → Except IError ParseState
  | .port n => accept (n < 1 ∨ n > 65535) .iebadport s
  | .format known => accept (!known) .iebadformat s
  | .interval seconds =>
      accept (badInterval seconds) .ieinterval
        { s with test := { s.test with statsInterval := seconds } }
  | .serverOnly => .ok { s with serverFlag := true }
  | .neutral => .ok s
  | .server =>
      accept (s.test.role = .client) .ieservclient
        { s with test := iperfSetTestRole s.test .server }
  | .client =>
      accept (s.test.role = .server) .ieservclient
        { s with test := iperfSetTestRole s.test .client }
  | .udp => .ok (s.clientSet (setProtocol s.test .udp))
  | .unsupported => .error .ieunimp
  | .bitrate burst rate =>
      accept (match burst with | some n => n ≤ 0 ∨ n > maxBurst | none => false) .ieburst
        {
          s.clientSet {
            s.test with
            settings := {
              s.test.settings with
              burst := burst.getD s.test.settings.burst
              rate := rate
            }
          } with
          rateFlag := true
        }
  | .serverBitrateLimit interval limit =>
      accept (match interval with | some seconds => badInterval seconds | none => false)
        .ietotalinterval
        {
          s with
          serverFlag := true
          test := {
            s.test with
            settings := {
              s.test.settings with
              bitrateLimitInterval := interval.getD s.test.settings.bitrateLimitInterval
              bitrateLimit := limit
            }
          }
        }
  | .time seconds =>
      accept (seconds > maxTime ∨ seconds < 0) .ieduration
        { s.clientSet { s.test with duration := seconds } with durationFlag := true }
  | .bytes n =>
      .ok (s.clientSet { s.test with settings := { s.test.settings with bytes := n } })
  | .blockcount n =>
      .ok (s.clientSet { s.test with settings := { s.test.settings with blocks := n } })
  | .length n => .ok { s with blksize := n, clientFlag := true }
  | .parallel n =>
      accept (n > maxStreams) .ienumstreams (s.clientSet { s.test with numStreams := n })
  | .reverse =>
      accept s.test.bidirectional .iereversebidir
        (s.clientSet (iperfSetTestReverse s.test true))
  | .bidir =>
      accept s.test.reverse .iereversebidir
        (s.clientSet (iperfSetTestBidirectional s.test true))
  | .window size =>
      accept (size > maxTcpBuffer) .iebufsize
        (s.clientSet {
          s.test with
          settings := {
            s.test.settings with
            socketBufsize := Int32.ofInt (CJson.truncate size)
          }
        })
  | .setMss n =>
      accept (n > maxMss) .iemss
        (s.clientSet { s.test with settings := { s.test.settings with mss := n } })
  | .noDelay => .ok (s.clientSet { s.test with noDelay := true })
  | .tos value =>
      accept (match value with | some n => n < 0 ∨ n > 255 | none => true) .iebadtos
        (s.clientSet {
          s.test with settings := { s.test.settings with tos := value.getD 0 }
        })
  | .dscp value =>
      accept (value < 0) .iebadtos
        (s.clientSet { s.test with settings := { s.test.settings with tos := value } })
  | .extraData text => .ok (s.clientSet { s.test with extraData := some text })
  | .zerocopy => accept (!hasSendfile) .ienosendfile (s.clientSet { s.test with zerocopy := 1 })
  | .repeatingPayload => .ok (s.clientSet { s.test with repeatingPayload := true })
  | .omitSeconds seconds =>
      accept (seconds < 0 ∨ seconds > maxOmitTime) .ieomit
        (s.clientSet { s.test with omitPeriod := seconds })
  | .file name => .ok { s with test := { s.test with diskfileName := some name } }
  | .idleTimeout seconds =>
      accept (seconds < 1 ∨ seconds > maxTime) .ieidletimeout
        {
          s with
          serverFlag := true
          test := { s.test with settings := { s.test.settings with idleTimeout := seconds } }
        }
  | .rcvTimeout milliseconds =>
      accept (milliseconds < minNoMsgRcvdTimeout ∨ milliseconds > maxTime * 1000) .iercvtimeout
        {
          s with
          test := {
            s.test with
            settings := {
              s.test.settings with
              rcvTimeout := {
                secs := (milliseconds / 1000).toUInt32
                usecs := (milliseconds % 1000 * 1000).toUInt32
              }
            }
          }
        }
  | .title text => .ok (s.clientSet { s.test with title := some text })
  | .getServerOutput => .ok (s.clientSet { s.test with getServerOutput := true })
  | .udpCounters64bit => .ok { s with test := { s.test with udpCounters64bit := true } }
  | .dontFragment =>
      .ok (s.clientSet { s.test with settings := { s.test.settings with dontFragment := 1 } })
  | .skipRxCopy =>
      .ok (s.clientSet { s.test with settings := { s.test.settings with skipRxCopy := 1 } })
  | .pacingTimer n =>
      .ok (s.clientSet { s.test with settings := { s.test.settings with pacingTimer := n } })
  | .connectTimeout n =>
      .ok (s.clientSet { s.test with settings := { s.test.settings with connectTimeout := n } })

def parseOptions : ParseState → List CliOption → Except IError ParseState
  | s, [] => .ok s
  | s, option :: rest =>
      match parseOption s option with
      | .ok next => parseOptions next rest
      | .error error => .error error

-----------------------------------------------------------------------------------------
-- The checks behind the option loop
-----------------------------------------------------------------------------------------

/-- The block size in force when `-l` gave none. -/
def defaultBlksize (protocol : ProtocolId) (blksize : Int32) : Int32 :=
  if blksize = 0 then
    match protocol with
    | .udp => 0
    | _ => defaultTcpBlksize
  else
    blksize

/-- How many statistics intervals make up one interval of the rate limit. A quotient by zero
saturates, as the conversion to `int` does on this platform.
-/
def limitStatsPerInterval (limitInterval statsInterval : ℚ) : Int32 :=
  if limitInterval ≤ statsInterval then 1
  else if statsInterval = 0 then Int32.maxValue
  else Int32.ofInt ⌊limitInterval / statsInterval + 1 / 2⌋

/-- The tests of the options against the role and each other, in the order of the source; a
missing role is found last.
-/
def parseFinalError (s : ParseState) (blksize : Int32) (bytes : UInt64) : Option IError :=
  let test := s.test
  if test.role = .client ∧ s.serverFlag then some .ieserveronly
  else if test.role = .server ∧ s.clientFlag then some .ieclientonly
  else if test.role = .client ∧ test.diskfileName.isSome ∧ test.protocol = .udp then
    some .ieudpfiletransfer
  else if (test.protocol ≠ .udp ∧ blksize ≤ 0) ∨ blksize > maxBlocksize then some .ieblocksize
  else if test.protocol = .udp ∧ blksize > 0
      ∧ (blksize < minUdpBlocksize ∨ blksize > maxUdpBlocksize) then
    some .ieudpblocksize
  else if (s.durationFlag ∧ bytes ≠ 0) ∨ (s.durationFlag ∧ test.settings.blocks ≠ 0)
      ∨ (bytes ≠ 0 ∧ test.settings.blocks ≠ 0) then
    some .ieendconditions
  else if test.role = .unset then some .ienorole
  else none

/-- `iperf_parse_arguments`. `fileSize` is what `stat(2)` gives for the file of `-F`, which
sets the amount to send when nothing else ends the test.
-/
def iperfParseArguments (test : Test) (options : List CliOption) (fileSize : Option UInt64)
    : Except IError Test :=
  match parseOptions { test } options with
  | .error error => .error error
  | .ok s =>
      let blksize := defaultBlksize s.test.protocol s.blksize
      let rate :=
        if s.rateFlag then s.test.settings.rate
        else if s.test.protocol = .udp then udpRate
        else 0
      let bytes :=
        if s.test.settings.bytes = 0 ∧ s.test.settings.blocks = 0 ∧ !s.durationFlag
            ∧ s.test.diskfileName.isSome ∧ s.test.role = .client then
          fileSize.getD s.test.settings.bytes
        else
          s.test.settings.bytes
      let duration :=
        if (bytes ≠ 0 ∨ s.test.settings.blocks ≠ 0) ∧ !s.durationFlag then 0
        else s.test.duration
      match parseFinalError s blksize bytes with
      | some error => .error error
      | none =>
          .ok {
            s.test with
            duration
            settings := {
              s.test.settings with
              blksize
              rate
              bytes
              bitrateLimitStatsPerInterval :=
                if s.test.settings.bitrateLimitInterval ≠ 0 then
                  limitStatsPerInterval s.test.settings.bitrateLimitInterval
                    s.test.statsInterval
                else
                  s.test.settings.bitrateLimitStatsPerInterval
            }
          }

/-- What a successful `iperf_connect` does to the configuration: it records the control
connection's segment size, `maxseg`, when the system reports a sensible one, and derives a
UDP block size that was left open.
-/
def iperfConnectSettings (test : Test) (maxseg : Option Int32) : Test :=
  let ctrlSckMss :=
    match maxseg with
    | some opt => if opt > 0 ∧ opt ≤ maxUdpBlocksize then opt else 0
    | none => 0
  let test := { test with ctrlSckMss }
  if test.protocol = .udp ∧ test.settings.blksize = 0 then
    {
      test with
      settings := {
        test.settings with
        blksize := if ctrlSckMss ≠ 0 then ctrlSckMss else defaultUdpBlksize
      }
    }
  else
    test

-----------------------------------------------------------------------------------------
-- What every accepted client configuration has
-----------------------------------------------------------------------------------------

/-- The mode that a client's direction options ask for. -/
def clientMode (reverse bidirectional : Bool) : Mode :=
  if bidirectional then .bidirectional else if reverse then .receiver else .sender

/-- What the option loop keeps: one direction option at most, a protocol this build has, and
the mode a client's options ask for.
-/
structure Directed (test : Test) : Prop where
  oneWay : test.reverse = false ∨ test.bidirectional = false
  protocol : test.protocol ≠ .sctp
  mode : test.role = .client → test.mode = clientMode test.reverse test.bidirectional

/-- An option that leaves role, direction and protocol alone keeps `Directed`. -/
theorem Directed.of_same {test next : Test} (directed : Directed test)
    (role : next.role = test.role) (mode : next.mode = test.mode)
    (reverse : next.reverse = test.reverse)
    (bidirectional : next.bidirectional = test.bidirectional)
    (protocol : next.protocol = test.protocol)
    : Directed next := by
  refine ⟨?_, ?_, ?_⟩
  · rw [reverse, bidirectional]
    exact directed.oneWay
  · rw [protocol]
    exact directed.protocol
  · rw [role, mode, reverse, bidirectional]
    exact directed.mode

/-- The retransmit check keeps everything else. -/
theorem checkSenderHasRetransmits_eq (test : Test)
    : checkSenderHasRetransmits test = { test with senderHasRetransmits := 0 } := by
  simp [checkSenderHasRetransmits, hasTcpinfoRetransmits]

theorem Directed.role {test : Test} (directed : Directed test) (role : Role)
    : Directed (iperfSetTestRole test role) := by
  rw [iperfSetTestRole, checkSenderHasRetransmits_eq]
  refine ⟨directed.oneWay, directed.protocol, ?_⟩
  intro client
  have client : role = .client := client
  subst client
  have oneWay := directed.oneWay
  cases reverse : test.reverse <;> cases bidirectional : test.bidirectional
    <;> simp_all [roleMode, clientMode]

theorem Directed.udp {test : Test} (directed : Directed test)
    : Directed (setProtocol test .udp) := by
  simp only [setProtocol, checkSenderHasRetransmits_eq]
  exact ⟨directed.oneWay, by simp, directed.mode⟩

theorem Directed.reverse {test : Test} (directed : Directed test)
    (free : test.bidirectional = false)
    : Directed (iperfSetTestReverse test true) := by
  rw [iperfSetTestReverse, checkSenderHasRetransmits_eq]
  refine ⟨Or.inr free, directed.protocol, ?_⟩
  intro client
  have client : test.role = .client := client
  simp [client, roleMode, clientMode, free]

theorem Directed.bidir {test : Test} (directed : Directed test) (free : test.reverse = false)
    : Directed (iperfSetTestBidirectional test true) := by
  rw [iperfSetTestBidirectional, if_pos rfl]
  exact ⟨Or.inl free, directed.protocol, fun _ => rfl⟩

/-- One pass of the option loop keeps `Directed`; only five options touch its fields. -/
theorem parseOption_directed {s next : ParseState} {option : CliOption}
    (directed : Directed s.test) (accepted : parseOption s option = .ok next)
    : Directed next.test := by
  cases option with
  | server =>
      obtain ⟨-, rfl⟩ := accept_eq_ok.mp accepted
      exact directed.role .server
  | client =>
      obtain ⟨-, rfl⟩ := accept_eq_ok.mp accepted
      exact directed.role .client
  | udp =>
      obtain rfl := Except.ok.inj accepted
      exact directed.udp
  | reverse =>
      obtain ⟨free, rfl⟩ := accept_eq_ok.mp accepted
      exact directed.reverse free
  | bidir =>
      obtain ⟨free, rfl⟩ := accept_eq_ok.mp accepted
      exact directed.bidir free
  | unsupported => simp [parseOption] at accepted
  | _ =>
      simp only [parseOption, accept_eq_ok, Except.ok.injEq] at accepted
      -- an unconditional option is an equation, a checked one has the passed check in front
      first
        | obtain rfl := accepted
        | obtain ⟨-, rfl⟩ := accepted
      exact directed.of_same rfl rfl rfl rfl rfl

/-- The whole option loop keeps `Directed`, by induction on the options. -/
theorem parseOptions_directed {s final : ParseState} {options : List CliOption}
    (directed : Directed s.test) (accepted : parseOptions s options = .ok final)
    : Directed final.test := by
  induction options generalizing s with
  | nil =>
      obtain rfl := Except.ok.inj accepted
      exact directed
  | cons option rest ih =>
      rw [parseOptions] at accepted
      split at accepted
      · next step => exact ih (parseOption_directed directed step) accepted
      · cases accepted

theorem iperfDefaults_directed : Directed (iperfDefaults iperfNewTest) := by
  refine ⟨Or.inl rfl, by decide, ?_⟩
  intro client
  cases client

/-- An accepted command line leaves a directed configuration whose block size is open only
for UDP.
-/
theorem iperfParseArguments_accepted {options : List CliOption} {fileSize : Option UInt64}
    {test : Test}
    (accepted : iperfParseArguments (iperfDefaults iperfNewTest) options fileSize = .ok test)
    : Directed test ∧ (test.protocol ≠ .udp → test.settings.blksize ≠ 0) := by
  rw [iperfParseArguments] at accepted
  split at accepted
  · cases accepted
  · next s parsed =>
      have directed := parseOptions_directed iperfDefaults_directed parsed
      dsimp only at accepted
      split at accepted
      · cases accepted
      · next passed =>
          obtain rfl := Except.ok.inj accepted
          refine ⟨directed.of_same rfl rfl rfl rfl rfl, ?_⟩
          intro notUdp open_
          -- a zero block size is refused by the check on the block size
          dsimp only at open_ notUdp
          rw [open_, parseFinalError] at passed
          have refused : s.test.protocol ≠ .udp ∧ (0 : Int32) ≤ 0 := ⟨notUdp, by decide⟩
          simp [refused] at passed
          split at passed
          · cases passed
          · split at passed <;> cases passed

/-- After `iperf_connect` the block size is known. -/
theorem iperfConnectSettings_blksize {test : Test} (maxseg : Option Int32)
    (known : test.protocol ≠ .udp → test.settings.blksize ≠ 0)
    : (iperfConnectSettings test maxseg).settings.blksize ≠ 0 := by
  unfold iperfConnectSettings
  dsimp only
  split_ifs with derived mss
  · exact mss
  · exact (by decide : defaultUdpBlksize ≠ 0)
  · intro zero
    by_cases udp : test.protocol = .udp
    · exact derived ⟨udp, zero⟩
    · exact known udp zero

theorem Directed.connect {test : Test} (directed : Directed test) (maxseg : Option Int32)
    : Directed (iperfConnectSettings test maxseg) := by
  unfold iperfConnectSettings
  dsimp only
  split_ifs <;> exact directed.of_same rfl rfl rfl rfl rfl

end Iperf
