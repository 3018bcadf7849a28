import Iperf.Server.Phases
import Iperf.Server.Resources
import Mathlib.Data.Int.ModEq

/-! What the server lets a client ask for: the check of the requested rate, and the limits that
`get_parameters` does not check.
-/

namespace Iperf

open Checked

open CJson

-----------------------------------------------------------------------------------------
-- The requested rate
-----------------------------------------------------------------------------------------

/-- The rate that a client asks for in total, as a number. -/
def requestedRate (test : Test) : Int :=
  test.numStreams.toInt * test.settings.rate.toNat * (if test.mode = .bidirectional then 2 else 1)

/-- A negative `int` becomes a 64-bit number modulo `2 ^ 64`. -/
theorem unsignedOfInt_emod (n : Int32) : ((unsignedOfInt n).toNat : Int) = n.toInt % 2 ^ 64 := by
  have wide : n.toInt64.toInt = n.toInt := Int32.toInt_toInt64 n
  have bits : n.toInt64.toInt = _ := BitVec.toInt_eq_toNat_cond n.toInt64.toBitVec
  have word : (unsignedOfInt n).toNat = n.toInt64.toBitVec.toNat := rfl
  have small := n.toInt64.toBitVec.isLt
  rw [word, ← wide, bits]
  split <;> omega

/-- The server computes the requested rate modulo `2 ^ 64`. -/
theorem totalRequestedRate_toNat (test : Test)
    : ((totalRequestedRate test).toNat : Int) = requestedRate test % 2 ^ 64 := by
  have factor : ((if test.mode = .bidirectional then 2 else 1 : UInt64).toNat : Int)
      = if test.mode = .bidirectional then 2 else 1 := by
    split <;> rfl
  rw [totalRequestedRate, requestedRate, UInt64.toNat_mul, UInt64.toNat_mul]
  push_cast
  rw [factor, unsignedOfInt_emod]
  have product : test.numStreams.toInt % 2 ^ 64 * test.settings.rate.toNat
      ≡ test.numStreams.toInt * test.settings.rate.toNat [ZMOD 2 ^ 64] :=
    (Int.mod_modEq _ _).mul_right _
  exact ((Int.mod_modEq _ _).trans product).mul_right _

/-- The server starts no test whose client asks for more than the limit. -/
def StartsWithinLimit (s : Server) : Prop :=
  ∀ io next, s.startTest io = .ok next → requestedRate s.test ≤ s.test.settings.bitrateLimit.toNat

/-- A test that starts has passed the check. -/
theorem startTest_checked {s next : Server} {io : StartIo} (started : s.startTest io = .ok next)
    : checkRequestedRate s.test = .ok () := by
  unfold Server.startTest at started
  simp only [bind_eq_ok] at started
  obtain ⟨relistened, listening, ⟨⟩, checked, -⟩ := started
  obtain ⟨listener, rfl, -⟩ := relisten_ok listening
  exact checked

/-- When every call succeeds, the check alone decides. -/
theorem startTest_of_checked {s : Server} (checked : checkRequestedRate s.test = .ok ())
    : ∃ io next, s.startTest io = .ok next := by
  obtain ⟨test, listening⟩ : ∃ test, relisten s.test { netannounce := some 0 } = .ok test := by
    unfold relisten
    split <;> exact ⟨_, rfl⟩
  refine ⟨{ netannounce := some 0 }, ?_⟩
  obtain ⟨listener, rfl, -⟩ := relisten_ok listening
  have checked' : checkRequestedRate { s.test with listener, protListener := -1 } = .ok () :=
    checked
  have sends : ∀ test state, ∃ next, iperfSetSendState test state true = .ok next := by
    intro test state
    by_cases connected : test.ctrlSck ≥ 0 <;> simp [iperfSetSendState, connected]
  simp only [Server.startTest, listening, checked', bind, Except.bind]
  obtain ⟨starting, told⟩ := sends { s.test with listener, protListener := -1 } .testStart
  simp only [told]
  obtain ⟨running, sent⟩ := sends (Server.createTimers
    { s with test := iperfInitTest starting { secs := 0, usecs := 0 } }).test .testRunning
  simp only [sent]
  exact ⟨_, rfl⟩

theorem checkRequestedRate_eq_ok {test : Test} (limited : 0 < test.settings.bitrateLimit)
    : checkRequestedRate test = .ok ()
      ↔ requestedRate test % 2 ^ 64 ≤ test.settings.bitrateLimit.toNat := by
  rw [← totalRequestedRate_toNat, Int.ofNat_le, ← UInt64.le_iff_toNat_le]
  simp [checkRequestedRate, limited]

/-- The check is passed by the rates that exceed a multiple of `2 ^ 64` by at most the limit, so
it is sound exactly for the rates that exceed no positive multiple so.
-/
theorem startTest_within_limit_iff (s : Server) (limited : 0 < s.test.settings.bitrateLimit)
    : StartsWithinLimit s
      ↔ ∀ turns : Int, 0 < turns → turns * 2 ^ 64 ≤ requestedRate s.test →
        turns * 2 ^ 64 + s.test.settings.bitrateLimit.toNat < requestedRate s.test := by
  have word : s.test.settings.bitrateLimit.toNat < 2 ^ 64 := s.test.settings.bitrateLimit.toNat_lt
  constructor
  · intro within turns positive reached
    by_contra near
    have passes : requestedRate s.test % 2 ^ 64 ≤ s.test.settings.bitrateLimit.toNat := by omega
    obtain ⟨io, next, started⟩ :=
      startTest_of_checked ((checkRequestedRate_eq_ok limited).mpr passes)
    have allowed := within io next started
    omega
  · intro apart io next started
    have passes := (checkRequestedRate_eq_ok limited).mp (startTest_checked started)
    by_contra exceeded
    have turn := apart (requestedRate s.test / 2 ^ 64)
    omega

/-- A server with a limit that has read a client's options and accepted its streams. -/
def limitedServer (limit : UInt64) (json : CJson) : Server :=
  let test := getParameters { freshServer with settings.bitrateLimit := limit } json
  {
    test
    recStreamsAccepted := test.numStreams
    streamsToRec := test.numStreams
    flag := -1
    lastReceiveTime := { secs := 0, usecs := 0 }
    rcvTimeoutUs := 0
  }

theorem startTest_within_limit_sample
    : 0 < (limitedServer 10 (.object [])).test.settings.bitrateLimit
      ∧ StartsWithinLimit (limitedServer 10 (.object [])) := by
  have limited : 0 < (limitedServer 10 (.object [])).test.settings.bitrateLimit := by decide
  refine ⟨limited, (startTest_within_limit_iff _ limited).mpr fun turns positive reached => ?_⟩
  have unset : requestedRate (limitedServer 10 (.object [])).test = 0 := by decide
  omega

/-- Four streams of `2 ^ 62` bits per second each. -/
def overflowingRequest : CJson :=
  .object [(.tcp, .bool true), (.parallel, .number 4), (.bandwidth, .number (2 ^ 62))]

theorem startTest_exceeds_limit
    : (limitedServer 1 overflowingRequest).AllAccepted
      ∧ ¬ StartsWithinLimit (limitedServer 1 overflowingRequest) := by
  refine ⟨by decide, fun within => ?_⟩
  have checked : checkRequestedRate (limitedServer 1 overflowingRequest).test = .ok () := by
    rfl
  obtain ⟨io, next, started⟩ := startTest_of_checked checked
  have allowed := within io next started
  exact absurd allowed (by decide)

-----------------------------------------------------------------------------------------
-- The limits of the options
-----------------------------------------------------------------------------------------

/-- An `int` lies in a range. -/
def IntBetween (low high : Int) (n : Int32) : Prop := low ≤ n.toInt ∧ n.toInt ≤ high

/-- A number of the document, if it has one under the key, lies in a range once its low 32 bits
are taken for an `int`.
-/
def NumberBetween (json : CJson) (key : Key) (low high : Int) : Prop :=
  ∀ item ∈ json.getObjectItemType key .number,
    low ≤ item.valueint.toInt.bmod (2 ^ 32) ∧ item.valueint.toInt.bmod (2 ^ 32) ≤ high

/-- The document has `true` under the key. -/
def SaysTrue (json : CJson) (key : Key) : Prop := json.getObjectItem key = some (.bool true)

instance (json : CJson) (key : Key) : Decidable (SaysTrue json key) :=
  match found : json.getObjectItem key with
  | some (.bool true) => isTrue found
  | some (.bool false) => isFalse (by simp [SaysTrue, found])
  | some .null | some (.number _) | some (.string _) | some (.array _) | some (.object _) | none =>
      isFalse (by simp [SaysTrue, found])

/-- The largest and smallest block of a protocol. -/
def blocksizeLimits : ProtocolId → Int × Int
  | .udp => (minUdpBlocksize.toInt, maxUdpBlocksize.toInt)
  | _ => (1, maxBlocksize.toInt)

/-- A configuration inside the limits of the command line, in which the options of the document
that are `true` are in force and no others. A server's own protocol is TCP.
-/
structure WithinLimits (json : CJson) (test : Test) : Prop where
  omitPeriod : IntBetween 0 maxOmitTime.toInt test.omitPeriod
  duration : IntBetween 0 maxTime.toInt test.duration
  numStreams : IntBetween 1 maxStreams.toInt test.numStreams
  burst : IntBetween 0 maxBurst.toInt test.settings.burst
  mss : IntBetween 0 maxMss.toInt test.settings.mss
  tos : IntBetween 0 255 test.settings.tos
  socketBufsize : IntBetween 0 maxTcpBuffer test.settings.socketBufsize
  blksize : IntBetween (blocksizeLimits test.protocol).1 (blocksizeLimits test.protocol).2
    test.settings.blksize
  interval : (ServerRun.safetyInterval test).toInt
    = (test.duration.toInt + test.omitPeriod.toInt + 40) * 10 ^ 6
  protocol : test.protocol = if SaysTrue json .udp then .udp else .tcp
  reverse : test.reverse ↔ SaysTrue json .reverse
  bidirectional : test.bidirectional ↔ SaysTrue json .bidirectional
  mode : test.mode = if SaysTrue json .bidirectional then .bidirectional
    else if SaysTrue json .reverse then .sender else .receiver
  noDelay : test.noDelay ↔ SaysTrue json .nodelay

/-- A document that asks for nothing outside the limits: its numbers are in range, a UDP client
gives the block size, and no option is `false`.
-/
structure ModestRequest (json : CJson) : Prop where
  omitPeriod : NumberBetween json .omit 0 maxOmitTime.toInt
  duration : NumberBetween json .time 0 maxTime.toInt
  numStreams : NumberBetween json .parallel 1 maxStreams.toInt
  burst : NumberBetween json .burst 0 maxBurst.toInt
  mss : NumberBetween json .mss 0 maxMss.toInt
  tos : NumberBetween json .tos 0 255
  socketBufsize : NumberBetween json .window 0 maxTcpBuffer
  blksize : if SaysTrue json .udp then
      (json.getObjectItemType .len .number).isSome
      ∧ NumberBetween json .len minUdpBlocksize.toInt maxUdpBlocksize.toInt
    else NumberBetween json .len 1 maxBlocksize.toInt
  flags : ∀ key ∈ [.udp, .reverse, .bidirectional, .nodelay],
    json.getObjectItem key ≠ some (.bool false)

/-- A member that may be absent keeps the range of the value in force. -/
theorem between_intMember_iff {json : CJson} {key : Key} {low high : Int} {current : Int32}
    (inForce : IntBetween low high current)
    : IntBetween low high (intMember json key current) ↔ NumberBetween json key low high := by
  unfold intMember NumberBetween
  cases json.getObjectItemType key .number with
  | none => simp [inForce]
  | some item => simp [IntBetween, Int64.toInt_toInt32]

/-- One that has to be present since the value in force is outside the range. -/
theorem between_intMember_required_iff {json : CJson} {key : Key} {low high : Int}
    {current : Int32} (outside : ¬ IntBetween low high current)
    : IntBetween low high (intMember json key current)
      ↔ (json.getObjectItemType key .number).isSome ∧ NumberBetween json key low high := by
  unfold intMember NumberBetween
  cases json.getObjectItemType key .number with
  | none => simp [outside]
  | some item => simp [IntBetween, Int64.toInt_toInt32]

/-- `cJSON_True` is asked for, and any boolean is taken. -/
theorem flagMember_iff (json : CJson) (key : Key)
    : flagMember json key .true false
      ↔ SaysTrue json key ∨ json.getObjectItem key = some (.bool false) := by
  unfold flagMember getObjectItemType SaysTrue
  cases json.getObjectItem key with
  | none => simp
  | some item =>
      cases item with
      | bool value => cases value <;> simp [hasType]
      | _ => simp [hasType]

theorem flagMember_eq_saysTrue_iff (json : CJson) (key : Key)
    : (flagMember json key .true false ↔ SaysTrue json key)
      ↔ json.getObjectItem key ≠ some (.bool false) := by
  rw [flagMember_iff]
  constructor
  · intro agrees off
    have on := agrees.mp (.inr off)
    rw [SaysTrue, off] at on
    cases on
  · intro notOff
    simp [notOff]

/-- The safety timer of a configuration inside the limits does not overflow. -/
theorem safetyInterval_toInt {test : Test}
    (omitPeriod : IntBetween 0 maxOmitTime.toInt test.omitPeriod)
    (duration : IntBetween 0 maxTime.toInt test.duration)
    : (ServerRun.safetyInterval test).toInt
      = (test.duration.toInt + test.omitPeriod.toInt + 40) * 10 ^ 6 := by
  obtain ⟨omitLow, omitHigh⟩ := omitPeriod
  obtain ⟨timeLow, timeHigh⟩ := duration
  have omitMost : maxOmitTime.toInt = 600 := by decide
  have timeMost : maxTime.toInt = 86400 := by decide
  have grace : ServerRun.gracePeriod.toInt = 40 := by decide
  have usecs : (1000000 : Int64).toInt = 1000000 := by decide
  have first : (test.duration + test.omitPeriod).toInt
      = test.duration.toInt + test.omitPeriod.toInt := by
    rw [Int32.toInt_add]
    exact Int.bmod_eq_of_le (by omega) (by omega)
  have seconds : (test.duration + test.omitPeriod + ServerRun.gracePeriod).toInt
      = test.duration.toInt + test.omitPeriod.toInt + 40 := by
    rw [Int32.toInt_add, first, grace]
    exact Int.bmod_eq_of_le (by omega) (by omega)
  rw [ServerRun.safetyInterval, Int64.toInt_mul, Int32.toInt_toInt64, seconds, usecs]
  exact Int.bmod_eq_of_le (by omega) (by omega)

/-- The members for which the reset leaves a value inside the range. -/
theorem getParameters_ranges (earlier : List CJson) (json : CJson)
    : let test := getParameters (serverAfter earlier) json
      (IntBetween 0 maxOmitTime.toInt test.omitPeriod
        ↔ NumberBetween json .omit 0 maxOmitTime.toInt)
      ∧ (IntBetween 0 maxTime.toInt test.duration ↔ NumberBetween json .time 0 maxTime.toInt)
      ∧ (IntBetween 1 maxStreams.toInt test.numStreams
        ↔ NumberBetween json .parallel 1 maxStreams.toInt)
      ∧ (IntBetween 0 maxBurst.toInt test.settings.burst
        ↔ NumberBetween json .burst 0 maxBurst.toInt)
      ∧ (IntBetween 0 maxMss.toInt test.settings.mss ↔ NumberBetween json .mss 0 maxMss.toInt)
      ∧ (IntBetween 0 255 test.settings.tos ↔ NumberBetween json .tos 0 255)
      ∧ (IntBetween 0 maxTcpBuffer test.settings.socketBufsize
        ↔ NumberBetween json .window 0 maxTcpBuffer) := by
  obtain ⟨settings, -⟩ := getParameters_exchanged (serverAfter earlier) json
  rw [(serverAfter_restored earlier).exchanged] at settings
  generalize getParameters (serverAfter earlier) json = test at *
  have omitPeriod : test.omitPeriod = intMember json .omit omitDefault :=
    congrArg Exchanged.omitPeriod settings
  have duration : test.duration = intMember json .time durationDefault :=
    congrArg Exchanged.duration settings
  have numStreams : test.numStreams = intMember json .parallel 1 :=
    congrArg Exchanged.numStreams settings
  have burst : test.settings.burst = intMember json .burst 0 :=
    congrArg Exchanged.burst settings
  have mss : test.settings.mss = intMember json .mss 0 :=
    congrArg Exchanged.mss settings
  have tos : test.settings.tos = intMember json .tos 0 :=
    congrArg Exchanged.tos settings
  have socketBufsize : test.settings.socketBufsize = intMember json .window 0 :=
    congrArg Exchanged.socketBufsize settings
  dsimp only
  rw [omitPeriod, duration, numStreams, burst, mss, tos, socketBufsize]
  refine ⟨?_, ?_, ?_, ?_, ?_, ?_, ?_⟩
    <;> exact between_intMember_iff (by constructor <;> decide)

/-- The block size, which the reset sets for TCP, must be given by a UDP client. -/
theorem between_blksize_iff (json : CJson) (protocol : ProtocolId)
    : IntBetween (blocksizeLimits protocol).1 (blocksizeLimits protocol).2
        (intMember json .len defaultTcpBlksize)
      ↔ (protocol = .udp → (json.getObjectItemType .len .number).isSome)
        ∧ NumberBetween json .len (blocksizeLimits protocol).1 (blocksizeLimits protocol).2 := by
  cases protocol with
  | udp =>
      rw [between_intMember_required_iff (by unfold IntBetween; decide)]
      simp
  | tcp | sctp =>
      rw [between_intMember_iff (by constructor <;> decide)]
      simp

/-- The options that booleans of the document set. -/
theorem getParameters_flags (earlier : List CJson) (json : CJson)
    : let test := getParameters (serverAfter earlier) json
      test.protocol = (if flagMember json .udp .true false then .udp else .tcp)
      ∧ test.reverse = flagMember json .reverse .true false
      ∧ test.bidirectional = flagMember json .bidirectional .true false
      ∧ test.noDelay = flagMember json .nodelay .true false
      ∧ test.mode = (if flagMember json .bidirectional .true false then .bidirectional
        else if flagMember json .reverse .true false then .sender else .receiver)
      ∧ test.settings.blksize = intMember json .len defaultTcpBlksize := by
  have restored := serverAfter_restored earlier
  obtain ⟨settings, mode, -⟩ := getParameters_exchanged (serverAfter earlier) json
  rw [restored.exchanged] at settings
  rw [restored.role, restored.mode] at mode
  refine ⟨?_, congrArg Exchanged.reverse settings, congrArg Exchanged.bidirectional settings,
    congrArg Exchanged.noDelay settings, mode, congrArg Exchanged.blksize settings⟩
  have protocol : (getParameters (serverAfter earlier) json).protocol = protocolMember json .tcp :=
    congrArg Exchanged.protocol settings
  rw [protocol, protocolMember, ite_self]

/-- `get_parameters` checks no limit, so the server stays inside them exactly when the document
does.
-/
theorem getParameters_within_limits_iff (earlier : List CJson) (json : CJson)
    : WithinLimits json (getParameters (serverAfter earlier) json) ↔ ModestRequest json := by
  obtain ⟨omitPeriod, duration, numStreams, burst, mss, tos, socketBufsize⟩ :=
    getParameters_ranges earlier json
  obtain ⟨protocol, reverse, bidirectional, noDelay, mode, blksize⟩ :=
    getParameters_flags earlier json
  constructor
  · intro within
    have udpOff : json.getObjectItem .udp ≠ some (.bool false) := by
      refine (flagMember_eq_saysTrue_iff json .udp).mp ?_
      have same := protocol.symm.trans within.protocol
      split_ifs at same <;> simp_all
    have len := (between_blksize_iff json _).mp (blksize ▸ within.blksize)
    rw [within.protocol] at len
    exact {
      omitPeriod := omitPeriod.mp within.omitPeriod
      duration := duration.mp within.duration
      numStreams := numStreams.mp within.numStreams
      burst := burst.mp within.burst
      mss := mss.mp within.mss
      tos := tos.mp within.tos
      socketBufsize := socketBufsize.mp within.socketBufsize
      blksize := by
        split_ifs at len ⊢ with udp
        · exact ⟨len.1 rfl, len.2⟩
        · exact len.2
      flags := by
        simp only [List.forall_mem_cons, List.not_mem_nil, false_implies, implies_true, and_true]
        refine ⟨udpOff, ?_, ?_, ?_⟩
        · exact (flagMember_eq_saysTrue_iff json .reverse).mp (reverse ▸ within.reverse)
        · exact (flagMember_eq_saysTrue_iff json .bidirectional).mp
            (bidirectional ▸ within.bidirectional)
        · exact (flagMember_eq_saysTrue_iff json .nodelay).mp (noDelay ▸ within.noDelay)
    }
  · intro modest
    have agrees : ∀ key ∈ [Key.udp, .reverse, .bidirectional, .nodelay],
        (flagMember json key .true false ↔ SaysTrue json key) := fun key member =>
      (flagMember_eq_saysTrue_iff json key).mpr (modest.flags key member)
    simp only [List.forall_mem_cons, List.not_mem_nil, false_implies, implies_true, and_true]
      at agrees
    obtain ⟨udpAgrees, reverseAgrees, bidirectionalAgrees, noDelayAgrees⟩ := agrees
    simp only [udpAgrees] at protocol
    simp only [reverseAgrees, bidirectionalAgrees] at mode
    have len := modest.blksize
    exact {
      omitPeriod := omitPeriod.mpr modest.omitPeriod
      duration := duration.mpr modest.duration
      numStreams := numStreams.mpr modest.numStreams
      burst := burst.mpr modest.burst
      mss := mss.mpr modest.mss
      tos := tos.mpr modest.tos
      socketBufsize := socketBufsize.mpr modest.socketBufsize
      blksize := by
        rw [blksize, between_blksize_iff, protocol]
        split_ifs at len ⊢ with udp
        · exact ⟨fun _ => len.1, len.2⟩
        · exact ⟨by simp, len⟩
      interval := safetyInterval_toInt (omitPeriod.mpr modest.omitPeriod)
        (duration.mpr modest.duration)
      protocol
      reverse := by rw [reverse, reverseAgrees]
      bidirectional := by rw [bidirectional, bidirectionalAgrees]
      mode
      noDelay := by rw [noDelay, noDelayAgrees]
    }

/-- A client that asks for a million streams is served. -/
theorem getParameters_exceeds_limits
    : ¬ WithinLimits (.object [(.parallel, .number 1000000)])
        (getParameters (serverAfter []) (.object [(.parallel, .number 1000000)])) := by
  intro within
  have most := within.numStreams.2
  revert most
  decide

end Iperf
