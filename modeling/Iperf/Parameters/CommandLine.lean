import Iperf.Library.DoubleRounding
import Iperf.Parameters.Arguments

/-! Command lines with their numbers as they were written: what the conversions of
`iperf_parse_arguments` and its checks make of them.
-/

namespace Iperf

-----------------------------------------------------------------------------------------
-- Numbers on the command line
-----------------------------------------------------------------------------------------

/-- The suffixes of `unit_atof` and `unit_atoi`, in either case. -/
inductive UnitSuffix where
  | none
  | kilo
  | mega
  | giga
  | tera

/-- The power of two behind `KILO_UNIT` and the others. -/
def UnitSuffix.exponent : UnitSuffix → Nat
  | none => 0
  | kilo => 10
  | mega => 20
  | giga => 30
  | tera => 40

/-- A well-formed non-negative number with its suffix, in any decimal notation. -/
structure Amount where
  number : ℚ
  nonneg : 0 ≤ number
  suffix : UnitSuffix := .none

namespace Amount

/-- The number that was meant. -/
def given (amount : Amount) : ℚ := amount.number * 2 ^ amount.suffix.exponent

/-- `unit_atof`: `sscanf` reads the nearest `double`, and the factors are powers of two. -/
def unitAtof (amount : Amount) : ℚ :=
  DoubleRounding.nearest amount.number * 2 ^ amount.suffix.exponent

/-- `unit_atoi`: the conversion to `iperf_size_t` saturates on this platform. -/
def unitAtoi (amount : Amount) : UInt64 :=
  if amount.unitAtof < 2 ^ 64 then UInt64.ofNat ⌊amount.unitAtof⌋.toNat
  else UInt64.ofNat (2 ^ 64 - 1)

end Amount

/-- `atoi` on a string of digits: `strtol` saturates, and the result is cut to an `int`. -/
def atoi (n : Nat) : Int32 := Int32.ofNat (min n (2 ^ 63 - 1))

-----------------------------------------------------------------------------------------
-- Argument vectors
-----------------------------------------------------------------------------------------

/-- The options whose numbers end up in a modelled field of the configuration. -/
def CliOption.numeric : CliOption → Bool
  | time _ | bytes _ | blockcount _ | length _ | parallel _ | window _ | setMss _ => true
  | _ => false

/-- An option with its argument as it was written. -/
inductive CliArgument where
  | time (seconds : Nat)
  | bytes (amount : Amount)
  | blockcount (amount : Amount)
  | length (amount : Amount)
  | parallel (n : Nat)
  | window (amount : Amount)
  | setMss (n : Nat)
  | other (option : CliOption) (plain : option.numeric = false)

namespace CliArgument

/-- The conversion that `iperf_parse_arguments` applies to the argument. -/
def convert : CliArgument → CliOption
  | time seconds => .time (atoi seconds)
  | bytes amount => .bytes amount.unitAtoi
  | blockcount amount => .blockcount amount.unitAtoi
  -- a 64-bit result is stored in an `int`
  | length amount => .length amount.unitAtoi.toUInt32.toInt32
  | parallel n => .parallel (atoi n)
  | window amount => .window amount.unitAtof
  | setMss n => .setMss (atoi n)
  | other option _ => option

def length? : CliArgument → Option Amount
  | length amount => some amount
  | _ => none

def parallel? : CliArgument → Option Nat
  | parallel n => some n
  | _ => none

def window? : CliArgument → Option Amount
  | window amount => some amount
  | _ => none

def setMss? : CliArgument → Option Nat
  | setMss n => some n
  | _ => none

end CliArgument

/-- The argument that the last of the repeated options has. -/
def lastGiven {α : Type} (pick : CliArgument → Option α) (arguments : List CliArgument)
    : Option α :=
  (arguments.filterMap pick).getLast?

theorem lastGiven_cons {α : Type} (pick : CliArgument → Option α) (argument : CliArgument)
    (rest : List CliArgument)
    : lastGiven pick (argument :: rest) = (lastGiven pick rest).or (pick argument) := by
  unfold lastGiven
  rw [List.filterMap_cons]
  cases pick argument with
  | none => simp
  | some value => simp [List.getLast?_cons, Option.or_some]

/-- `iperf_parse_arguments` on an argument vector. -/
def parseCommandLine (arguments : List CliArgument) (fileSize : Option UInt64)
    : Except IError Test :=
  iperfParseArguments (iperfDefaults iperfNewTest) (arguments.map CliArgument.convert) fileSize

-----------------------------------------------------------------------------------------
-- What the option loop leaves
-----------------------------------------------------------------------------------------

/-- The block size that the argument of `-l` is stored as. -/
def storedLength (amount : Amount) : Int32 := amount.unitAtoi.toUInt32.toInt32

/-- The buffer size that the argument of `-w` is stored as. -/
def storedWindow (amount : Amount) : Int32 := Int32.ofInt (CJson.truncate amount.unitAtof)

/-- The option loop has gone from one state to another over the arguments: the last of each
repeated option counts, and what is stored has passed its check.
-/
structure Written (arguments : List CliArgument) (start s : ParseState) : Prop where
  blksize : s.blksize
    = ((lastGiven CliArgument.length? arguments).map storedLength).getD start.blksize
  numStreams : s.test.numStreams
    = ((lastGiven CliArgument.parallel? arguments).map atoi).getD start.test.numStreams
  mss : s.test.settings.mss
    = ((lastGiven CliArgument.setMss? arguments).map atoi).getD start.test.settings.mss
  socketBufsize : s.test.settings.socketBufsize
    = ((lastGiven CliArgument.window? arguments).map storedWindow).getD
      start.test.settings.socketBufsize
  fewStreams : start.test.numStreams ≤ maxStreams → s.test.numStreams ≤ maxStreams
  smallMss : start.test.settings.mss ≤ maxMss → s.test.settings.mss ≤ maxMss
  smallWindow : ∀ amount ∈ lastGiven CliArgument.window? arguments,
    amount.unitAtof ≤ maxTcpBuffer

theorem Written.nil (s : ParseState) : Written [] s s :=
  ⟨rfl, rfl, rfl, rfl, id, id, by simp [lastGiven]⟩

/-- The later arguments prevail. -/
theorem Written.cons {argument : CliArgument} {rest : List CliArgument}
    {start mid s : ParseState} (first : Written [argument] start mid) (others : Written rest mid s)
    : Written (argument :: rest) start s := by
  have later {α β : Type} (pick : CliArgument → Option α) (store : α → β) (initial : β)
      : ((lastGiven pick (argument :: rest)).map store).getD initial
        = ((lastGiven pick rest).map store).getD
          (((lastGiven pick [argument]).map store).getD initial) := by
    rw [lastGiven_cons, lastGiven_cons]
    cases lastGiven pick rest <;> simp [lastGiven]
  refine ⟨?_, ?_, ?_, ?_, ?_, ?_, ?_⟩
  · rw [later, others.blksize, first.blksize]
  · rw [later, others.numStreams, first.numStreams]
  · rw [later, others.mss, first.mss]
  · rw [later, others.socketBufsize, first.socketBufsize]
  · exact fun few => others.fewStreams (first.fewStreams few)
  · exact fun small => others.smallMss (first.smallMss small)
  · intro amount given
    rw [lastGiven_cons] at given
    rcases Option.or_eq_some_iff.mp given with last | ⟨-, only⟩
    · exact others.smallWindow amount last
    · exact first.smallWindow amount (by simp [lastGiven, only])

/-- An option that writes none of the four settings. -/
theorem Written.of_same {argument : CliArgument} {s next : ParseState}
    (length : argument.length? = none) (parallel : argument.parallel? = none)
    (setMss : argument.setMss? = none) (window : argument.window? = none)
    (blksize : next.blksize = s.blksize) (numStreams : next.test.numStreams = s.test.numStreams)
    (mss : next.test.settings.mss = s.test.settings.mss)
    (socketBufsize : next.test.settings.socketBufsize = s.test.settings.socketBufsize)
    : Written [argument] s next := by
  refine ⟨?_, ?_, ?_, ?_, ?_, ?_, ?_⟩
  · simp [lastGiven, length, blksize]
  · simp [lastGiven, parallel, numStreams]
  · simp [lastGiven, setMss, mss]
  · simp [lastGiven, window, socketBufsize]
  · rw [numStreams]
    exact id
  · rw [mss]
    exact id
  · simp [lastGiven, window]

/-- One pass of the option loop. -/
theorem parseOption_written {s next : ParseState} {argument : CliArgument}
    (accepted : parseOption s argument.convert = .ok next)
    : Written [argument] s next := by
  cases argument with
  | length amount =>
      obtain rfl := Except.ok.inj accepted
      exact ⟨rfl, rfl, rfl, rfl, id, id, by simp [lastGiven, CliArgument.window?]⟩
  | parallel n =>
      obtain ⟨allowed, rfl⟩ := accept_eq_ok.mp accepted
      refine ⟨rfl, rfl, rfl, rfl, fun _ => ?_, id, by simp [lastGiven, CliArgument.window?]⟩
      simpa [ParseState.clientSet] using allowed
  | setMss n =>
      obtain ⟨allowed, rfl⟩ := accept_eq_ok.mp accepted
      refine ⟨rfl, rfl, rfl, rfl, id, fun _ => ?_, by simp [lastGiven, CliArgument.window?]⟩
      simpa [ParseState.clientSet] using allowed
  | window amount =>
      obtain ⟨allowed, rfl⟩ := accept_eq_ok.mp accepted
      refine ⟨rfl, rfl, rfl, rfl, id, id, ?_⟩
      intro last given
      obtain rfl : amount = last := by simpa [lastGiven, CliArgument.window?] using given
      simpa using allowed
  | time seconds =>
      obtain ⟨-, rfl⟩ := accept_eq_ok.mp accepted
      exact .of_same rfl rfl rfl rfl rfl rfl rfl rfl
  | bytes amount | blockcount amount =>
      obtain rfl := Except.ok.inj accepted
      exact .of_same rfl rfl rfl rfl rfl rfl rfl rfl
  | other option plain =>
      cases option with
      | time _ | bytes _ | blockcount _ | length _ | parallel _ | window _ | setMss _ =>
          cases plain
      | unsupported => simp [CliArgument.convert, parseOption] at accepted
      | _ =>
          simp only [CliArgument.convert, parseOption, accept_eq_ok, Except.ok.injEq,
            iperfSetTestRole, setProtocol, iperfSetTestReverse, checkSenderHasRetransmits_eq]
            at accepted
          first
            | obtain rfl := accepted
            | obtain ⟨-, rfl⟩ := accepted
          exact .of_same rfl rfl rfl rfl rfl rfl rfl rfl

/-- The whole option loop, by induction on the arguments. -/
theorem parseOptions_written {s final : ParseState} {arguments : List CliArgument}
    (accepted : parseOptions s (arguments.map CliArgument.convert) = .ok final)
    : Written arguments s final := by
  induction arguments generalizing s with
  | nil =>
      obtain rfl := Except.ok.inj accepted
      exact .nil s
  | cons argument rest ih =>
      rw [List.map_cons, parseOptions] at accepted
      split at accepted
      · next step => exact (parseOption_written step).cons (ih accepted)
      · cases accepted

-----------------------------------------------------------------------------------------
-- What the conversions keep
-----------------------------------------------------------------------------------------

theorem atoi_toInt (n : Nat) : (atoi n).toInt = ((min n (2 ^ 63 - 1) : Nat) : Int).bmod (2 ^ 32) :=
  Int32.toInt_ofNat

theorem atoi_of_lt {n : Nat} (small : n < 2 ^ 31) : (atoi n).toInt = n := by
  rw [atoi, min_eq_left (by omega)]
  exact Int32.toInt_ofNat_of_lt small

theorem Amount.given_nonneg (amount : Amount) : 0 ≤ amount.given :=
  mul_nonneg amount.nonneg (by positivity)

/-- A whole number of 53 bits is read exactly. -/
theorem Amount.unitAtof_of_whole {amount : Amount} {n : Nat} (whole : amount.given = n)
    (small : n < 2 ^ 53)
    : amount.unitAtof = n := by
  have kept := DoubleRounding.nearest_eq_self n amount.suffix.exponent
    (by rw [zpow_natCast]; exact whole) small
  rw [unitAtof, kept]
  exact whole

/-- What is read differs little from what was meant. -/
theorem Amount.given_sub_le (amount : Amount)
    : amount.given - amount.given / 2 ^ 53 ≤ amount.unitAtof := by
  unfold given unitAtof
  rcases amount.nonneg.eq_or_lt with zero | positive
  · simp [← zero, DoubleRounding.nearest]
  · have near := (abs_le.mp (DoubleRounding.abs_nearest_sub_le positive)).1
    have scale : (0 : ℚ) < 2 ^ amount.suffix.exponent := by positivity
    nlinarith

/-- A whole number below `2 ^ 31` is stored as itself. -/
theorem storedLength_of_whole {amount : Amount} {n : Nat} (whole : amount.given = n)
    (small : n < 2 ^ 31)
    : (storedLength amount).toInt = n := by
  have read := Amount.unitAtof_of_whole whole (by omega)
  have below : (n : ℚ) < 2 ^ 64 := by exact_mod_cast (by omega : n < 2 ^ 64)
  have word : amount.unitAtoi = UInt64.ofNat n := by
    rw [Amount.unitAtoi, read, if_pos below, Int.floor_natCast, Int.toNat_natCast]
  rw [storedLength, word, UInt64.toUInt32_ofNat']
  exact Int32.toInt_ofNat_of_lt small

/-- A whole buffer size that passes the check is stored as itself. -/
theorem storedWindow_of_whole {amount : Amount} {n : Nat} (whole : amount.given = n)
    (allowed : amount.unitAtof ≤ maxTcpBuffer)
    : (storedWindow amount).toInt = n ∧ n ≤ maxTcpBuffer := by
  have buffer : (maxTcpBuffer : ℚ) = 2 ^ 29 := by norm_num [maxTcpBuffer]
  have most : n ≤ 2 ^ 29 := by
    by_contra large
    have atLeast : (2 : ℚ) ^ 29 + 1 ≤ n := by exact_mod_cast (by omega : 2 ^ 29 + 1 ≤ n)
    have near := amount.given_sub_le
    rw [whole] at near
    rw [buffer] at allowed
    linarith
  rw [storedWindow, Amount.unitAtof_of_whole whole (by omega)]
  have kept : CJson.truncate (n : ℚ) = n := CJson.truncate_intCast n
  rw [kept, Int32.ofInt_eq_ofNat]
  exact ⟨Int32.toInt_ofNat_of_lt (by omega), most⟩

-----------------------------------------------------------------------------------------
-- What an accepted command line means
-----------------------------------------------------------------------------------------

/-- The block size of a protocol when `-l` gives none; UDP leaves it to the segment size. -/
def protocolBlksize : ProtocolId → Int32
  | .udp => 0
  | _ => defaultTcpBlksize

/-- The block sizes a protocol allows. -/
def AllowedBlksize (protocol : ProtocolId) (blksize : Int32) : Prop :=
  match protocol with
  | .udp => blksize = 0 ∨ (minUdpBlocksize ≤ blksize ∧ blksize ≤ maxUdpBlocksize)
  | _ => 0 < blksize ∧ blksize ≤ maxBlocksize

/-- The block size that the arguments ask for. -/
def givenBlksize (protocol : ProtocolId) (arguments : List CliArgument) : ℚ :=
  match lastGiven CliArgument.length? arguments with
  | some amount => if amount.given = 0 then (protocolBlksize protocol).toInt else amount.given
  | none => (protocolBlksize protocol).toInt

/-- At most one condition ends the test. -/
structure OneEndCondition (test : Test) : Prop where
  bytesBlocks : test.settings.bytes = 0 ∨ test.settings.blocks = 0
  bytesDuration : test.settings.bytes = 0 ∨ test.duration = 0
  blocksDuration : test.settings.blocks = 0 ∨ test.duration = 0

/-- A configuration is what its command line says. -/
structure MeansWhatItSays (arguments : List CliArgument) (test : Test) : Prop where
  numStreams : 1 ≤ test.numStreams.toInt ∧ test.numStreams ≤ maxStreams
  blksize : (test.settings.blksize.toInt : ℚ) = givenBlksize test.protocol arguments
  allowed : AllowedBlksize test.protocol test.settings.blksize
  mss : test.settings.mss.toInt = (lastGiven CliArgument.setMss? arguments).getD 0
  mssRange : 0 ≤ test.settings.mss ∧ test.settings.mss ≤ maxMss
  socketBufsize : (test.settings.socketBufsize.toInt : ℚ)
    = ((lastGiven CliArgument.window? arguments).map Amount.given).getD 0
  socketBufsizeRange : 0 ≤ test.settings.socketBufsize.toInt
    ∧ test.settings.socketBufsize.toInt ≤ maxTcpBuffer
  oneEnd : OneEndCondition test

/-- The last arguments fit the `int`s they are stored in: a positive number of streams once cut to
32 bits, and whole numbers of bytes.
-/
structure WrittenExactly (arguments : List CliArgument) : Prop where
  parallel : ∀ n ∈ lastGiven CliArgument.parallel? arguments,
    1 ≤ ((min n (2 ^ 63 - 1) : Nat) : Int).bmod (2 ^ 32)
  length : ∀ amount ∈ lastGiven CliArgument.length? arguments,
    ∃ n : Nat, amount.given = n ∧ n < 2 ^ 31
  setMss : ∀ n ∈ lastGiven CliArgument.setMss? arguments, n < 2 ^ 31
  window : ∀ amount ∈ lastGiven CliArgument.window? arguments, ∃ n : Nat, amount.given = n

/-- What the checks behind the option loop let through. -/
theorem parseFinalError_none {s : ParseState} {blksize : Int32} {bytes : UInt64}
    (passed : parseFinalError s blksize bytes = none)
    : ¬ ((s.test.protocol ≠ .udp ∧ blksize ≤ 0) ∨ blksize > maxBlocksize)
      ∧ ¬ (s.test.protocol = .udp ∧ blksize > 0
        ∧ (blksize < minUdpBlocksize ∨ blksize > maxUdpBlocksize))
      ∧ ¬ ((s.durationFlag ∧ bytes ≠ 0) ∨ (s.durationFlag ∧ s.test.settings.blocks ≠ 0)
        ∨ (bytes ≠ 0 ∧ s.test.settings.blocks ≠ 0)) := by
  unfold parseFinalError at passed
  dsimp only at passed
  split_ifs at passed with _ _ _ blocksize udp ends
  exact ⟨blocksize, udp, ends⟩

theorem allowedBlksize_of_checks {protocol : ProtocolId} {blksize : Int32}
    (blocksize : ¬ ((protocol ≠ .udp ∧ blksize ≤ 0) ∨ blksize > maxBlocksize))
    (udp : ¬ (protocol = .udp ∧ blksize > 0
      ∧ (blksize < minUdpBlocksize ∨ blksize > maxUdpBlocksize)))
    (nonneg : 0 ≤ blksize)
    : AllowedBlksize protocol blksize := by
  cases protocol with
  | udp =>
      rcases Int32.le_iff_lt_or_eq.mp nonneg with positive | zero
      · simp only [true_and, not_and, not_or, Int32.not_lt, gt_iff_lt] at udp
        exact .inr (udp positive)
      · exact .inl zero.symm
  | tcp | sctp =>
      simp only [ne_eq, reduceCtorEq, not_false_eq_true, true_and, not_or, Int32.not_le, gt_iff_lt,
        Int32.not_lt] at blocksize
      exact blocksize

/-- Without `-t` an amount to send clears the duration. -/
theorem oneEndCondition_of_checks {test : Test} {durationFlag : Bool} {duration : Int32}
    (ends : ¬ ((durationFlag ∧ test.settings.bytes ≠ 0)
      ∨ (durationFlag ∧ test.settings.blocks ≠ 0)
      ∨ (test.settings.bytes ≠ 0 ∧ test.settings.blocks ≠ 0)))
    (cleared : test.duration
      = if (test.settings.bytes ≠ 0 ∨ test.settings.blocks ≠ 0) ∧ !durationFlag then 0
        else duration)
    : OneEndCondition test := by
  by_cases bytes : test.settings.bytes = 0
    <;> by_cases blocks : test.settings.blocks = 0
    <;> cases durationFlag
    <;> refine ⟨?_, ?_, ?_⟩
    <;> simp_all

/-- The configuration of an accepted command line: the settings of the option loop, a block size
that passed the checks, and one end condition.
-/
theorem parseCommandLine_ok {arguments : List CliArgument} {fileSize : Option UInt64} {test : Test}
    (accepted : parseCommandLine arguments fileSize = .ok test)
    : ∃ s, Written arguments { test := iperfDefaults iperfNewTest } s
      ∧ test.numStreams = s.test.numStreams
      ∧ test.settings.mss = s.test.settings.mss
      ∧ test.settings.socketBufsize = s.test.settings.socketBufsize
      ∧ test.settings.blksize = defaultBlksize test.protocol s.blksize
      ∧ (0 ≤ test.settings.blksize → AllowedBlksize test.protocol test.settings.blksize)
      ∧ OneEndCondition test := by
  unfold parseCommandLine iperfParseArguments at accepted
  split at accepted
  · cases accepted
  · next s parsed =>
      dsimp only at accepted
      split at accepted
      · cases accepted
      · next passed =>
          obtain ⟨blocksize, udp, ends⟩ := parseFinalError_none passed
          obtain rfl := Except.ok.inj accepted
          refine ⟨s, parseOptions_written parsed, rfl, rfl, rfl, rfl, ?_, ?_⟩
          · exact allowedBlksize_of_checks blocksize udp
          · exact oneEndCondition_of_checks ends rfl

/-- A number that an `int` equals is a whole number below `2 ^ 31`. -/
theorem Amount.whole_of_toInt {amount : Amount} {stored : Int32}
    (same : (stored.toInt : ℚ) = amount.given)
    : ∃ n : Nat, amount.given = n ∧ n < 2 ^ 31 := by
  have nonneg : (0 : ℚ) ≤ stored.toInt := same ▸ amount.given_nonneg
  obtain ⟨n, value⟩ := Int.eq_ofNat_of_zero_le (Int.cast_nonneg_iff.mp nonneg)
  have below := stored.toInt_lt
  refine ⟨n, ?_, by omega⟩
  rw [← same, value]
  simp

theorem givenBlksize_iff (protocol : ProtocolId) (arguments : List CliArgument)
    : ((defaultBlksize protocol
          (((lastGiven CliArgument.length? arguments).map storedLength).getD 0)).toInt : ℚ)
        = givenBlksize protocol arguments
      ↔ ∀ amount ∈ lastGiven CliArgument.length? arguments,
        ∃ n : Nat, amount.given = n ∧ n < 2 ^ 31 := by
  have unset : defaultBlksize protocol 0 = protocolBlksize protocol := by cases protocol <;> rfl
  unfold givenBlksize
  cases lastGiven CliArgument.length? arguments with
  | none => simp [unset]
  | some amount =>
      simp only [Option.map_some, Option.getD_some, Option.mem_def, Option.some.injEq, forall_eq']
      constructor
      · intro same
        by_cases zero : amount.given = 0
        · exact ⟨0, by simp [zero], by norm_num⟩
        · rw [if_neg zero] at same
          exact Amount.whole_of_toInt same
      · rintro ⟨n, whole, small⟩
        have stored := storedLength_of_whole whole small
        by_cases zero : n = 0
        · have cleared : storedLength amount = 0 := by
            rw [← Int32.toInt_inj, stored, zero]
            rfl
          rw [cleared, unset, whole, zero, Nat.cast_zero, if_pos rfl]
        · have kept : storedLength amount ≠ 0 := by
            intro cleared
            rw [cleared] at stored
            have zeroToInt : (0 : Int32).toInt = 0 := rfl
            omega
          have nonzero : (n : ℚ) ≠ 0 := by exact_mod_cast zero
          unfold defaultBlksize
          rw [if_neg kept, stored, whole, if_neg nonzero]
          simp

theorem givenMss_iff (arguments : List CliArgument)
    : (((lastGiven CliArgument.setMss? arguments).map atoi).getD 0).toInt
        = (lastGiven CliArgument.setMss? arguments).getD 0
      ↔ ∀ n ∈ lastGiven CliArgument.setMss? arguments, n < 2 ^ 31 := by
  cases lastGiven CliArgument.setMss? arguments with
  | none => simp
  | some n =>
      have below := (atoi n).toInt_lt
      simp only [Option.map_some, Option.getD_some, Option.mem_def, Option.some.injEq, forall_eq']
      exact ⟨fun same => by omega, fun small => atoi_of_lt small⟩

theorem givenWindow_iff {arguments : List CliArgument}
    (allowed : ∀ amount ∈ lastGiven CliArgument.window? arguments, amount.unitAtof ≤ maxTcpBuffer)
    : ((((lastGiven CliArgument.window? arguments).map storedWindow).getD 0).toInt : ℚ)
        = ((lastGiven CliArgument.window? arguments).map Amount.given).getD 0
      ↔ ∀ amount ∈ lastGiven CliArgument.window? arguments, ∃ n : Nat, amount.given = n := by
  cases given : lastGiven CliArgument.window? arguments with
  | none => simp
  | some amount =>
      simp only [Option.map_some, Option.getD_some, Option.mem_def, Option.some.injEq, forall_eq']
      constructor
      · intro same
        obtain ⟨n, whole, -⟩ := Amount.whole_of_toInt same
        exact ⟨n, whole⟩
      · rintro ⟨n, whole⟩
        rw [(storedWindow_of_whole whole (allowed amount given)).1, whole]
        simp

/-- What `-w` stores is in range when it is what was meant. -/
theorem storedWindow_range {arguments : List CliArgument}
    (allowed : ∀ amount ∈ lastGiven CliArgument.window? arguments, amount.unitAtof ≤ maxTcpBuffer)
    (exactly : ∀ amount ∈ lastGiven CliArgument.window? arguments, ∃ n : Nat, amount.given = n)
    : 0 ≤ (((lastGiven CliArgument.window? arguments).map storedWindow).getD 0).toInt
      ∧ (((lastGiven CliArgument.window? arguments).map storedWindow).getD 0).toInt
        ≤ maxTcpBuffer := by
  cases given : lastGiven CliArgument.window? arguments with
  | none => exact ⟨by decide, by decide⟩
  | some amount =>
      obtain ⟨n, whole⟩ := exactly amount given
      obtain ⟨stored, most⟩ := storedWindow_of_whole whole (allowed amount given)
      simp only [Option.map_some, Option.getD_some, stored]
      omega

theorem givenBlksize_nonneg (protocol : ProtocolId) (arguments : List CliArgument)
    : 0 ≤ givenBlksize protocol arguments := by
  have unset : (0 : ℚ) ≤ (protocolBlksize protocol).toInt := by cases protocol <;> decide
  unfold givenBlksize
  split
  · split_ifs
    · exact unset
    · exact Amount.given_nonneg _
  · exact unset

theorem givenStreams_iff (arguments : List CliArgument)
    : 1 ≤ (((lastGiven CliArgument.parallel? arguments).map atoi).getD 1).toInt
      ↔ ∀ n ∈ lastGiven CliArgument.parallel? arguments,
        1 ≤ ((min n (2 ^ 63 - 1) : Nat) : Int).bmod (2 ^ 32) := by
  cases lastGiven CliArgument.parallel? arguments with
  | none => simp
  | some n => simp [atoi_toInt]

/-- An accepted command line means what it says exactly when the numbers that count fit the `int`s
they are stored in.
-/
theorem parseCommandLine_means_iff {arguments : List CliArgument} {fileSize : Option UInt64}
    {test : Test} (accepted : parseCommandLine arguments fileSize = .ok test)
    : MeansWhatItSays arguments test ↔ WrittenExactly arguments := by
  obtain ⟨s, written, numStreams, mss, socketBufsize, blksize, allowed, oneEnd⟩ :=
    parseCommandLine_ok accepted
  have few := written.fewStreams (by decide)
  have small := written.smallMss (by decide)
  rw [← numStreams] at few
  rw [← mss] at small
  replace numStreams : test.numStreams
      = ((lastGiven CliArgument.parallel? arguments).map atoi).getD 1 :=
    numStreams.trans written.numStreams
  replace mss : test.settings.mss
      = ((lastGiven CliArgument.setMss? arguments).map atoi).getD 0 :=
    mss.trans written.mss
  replace socketBufsize : test.settings.socketBufsize
      = ((lastGiven CliArgument.window? arguments).map storedWindow).getD 0 :=
    socketBufsize.trans written.socketBufsize
  replace blksize : test.settings.blksize = defaultBlksize test.protocol
      (((lastGiven CliArgument.length? arguments).map storedLength).getD 0) :=
    written.blksize ▸ blksize
  have streamsIff := givenStreams_iff arguments
  have mssIff := givenMss_iff arguments
  have windowIff := givenWindow_iff written.smallWindow
  have lengthIff := givenBlksize_iff test.protocol arguments
  constructor
  · intro means
    exact {
      parallel := streamsIff.mp (numStreams ▸ means.numStreams.1)
      length := lengthIff.mp (blksize ▸ means.blksize)
      setMss := mssIff.mp (mss ▸ means.mss)
      window := windowIff.mp (socketBufsize ▸ means.socketBufsize)
    }
  · intro exactly
    have length := lengthIff.mpr exactly.length
    have setMss := mssIff.mpr exactly.setMss
    rw [← blksize] at length
    rw [← mss] at setMss
    exact {
      numStreams := ⟨numStreams ▸ streamsIff.mpr exactly.parallel, few⟩
      blksize := length
      allowed := by
        have nonneg := length ▸ givenBlksize_nonneg test.protocol arguments
        exact allowed (Int32.le_iff_toInt_le.mpr (Int.cast_nonneg_iff.mp nonneg))
      mss := setMss
      mssRange := ⟨Int32.le_iff_toInt_le.mpr (setMss ▸ Int.natCast_nonneg _), small⟩
      socketBufsize := socketBufsize ▸ windowIff.mpr exactly.window
      socketBufsizeRange :=
        socketBufsize ▸ storedWindow_range written.smallWindow exactly.window
      oneEnd
    }

/-- `-c host -P 4 -M 1400`. -/
theorem parseCommandLine_means_sample
    : ∃ test, parseCommandLine [.other .client rfl, .parallel 4, .setMss 1400] none = .ok test
      ∧ MeansWhatItSays [.other .client rfl, .parallel 4, .setMss 1400] test := by
  refine ⟨_, rfl, (parseCommandLine_means_iff rfl).mpr ?_⟩
  exact {
    parallel := by simp [lastGiven, CliArgument.parallel?, List.findSome?]
    length := by simp [lastGiven, CliArgument.length?, List.findSome?]
    setMss := by simp [lastGiven, CliArgument.setMss?, List.findSome?]
    window := by simp [lastGiven, CliArgument.window?, List.findSome?]
  }

/-- `-c host -P 0` is accepted. -/
theorem parseCommandLine_zero_streams
    : ∃ test, parseCommandLine [.other .client rfl, .parallel 0] none = .ok test
      ∧ test.role = .client
      ∧ ¬ MeansWhatItSays [.other .client rfl, .parallel 0] test := by
  refine ⟨_, rfl, rfl, fun means => ?_⟩
  have positive := means.numStreams.1
  revert positive
  decide

end Iperf
