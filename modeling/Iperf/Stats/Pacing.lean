import Iperf.Stats.SendMt

/-! The pacing of a sending stream: whatever its calls send and however they sleep, the stream
stays within its target rate, one burst and the slack of a green light.
-/

namespace Iperf

-----------------------------------------------------------------------------------------
-- Runs
-----------------------------------------------------------------------------------------

/-- A stream before its first send, at its `start_time_fixed`, in a running test. -/
structure PacedStart (position : Nat) (sp : Stream) (s : PacedStream) : Prop where
  running : s.test.done = false
  stream : s.test.streams[position]? = some sp
  nothing : sp.result.bytesSent = 0
  pending : sp.pendingSize = 0
  normal : sp.result.startTimeFixed.Normalised
  green : s.greenLight = true
  elapsed : s.elapsed = 0
  sends : s.sends = []
  readings : s.readings = []
  products : s.products = []

/-- What the other threads of a running test may change: anything but the settings and what
the worker keeps in its stream.
-/
structure OthersRan (position : Nat) (test test' : Test) : Prop where
  running : test'.done = false
  settings : test'.settings = test.settings
  stream : ∀ sp, test.streams[position]? = some sp →
    ∃ sp', test'.streams[position]? = some sp'
      ∧ sp'.result.bytesSent = sp.result.bytesSent
      ∧ sp'.result.startTimeFixed = sp.result.startTimeFixed
      ∧ sp'.pendingSize = sp.pendingSize

/-- Calls of `iperf_send_mt` that do not fail, with other threads running in between. -/
inductive PacedRun (position : Nat) (start : PacedStream) : PacedStream → Prop where
  | start : PacedRun position start start
  | call {s s' : PacedStream} {io : SendMtIo} (ran : PacedRun position start s)
      (called : s.sendMt position io = some (0, s'))
      : PacedRun position start s'
  | others {s : PacedStream} {test : Test} (ran : PacedRun position start s)
      (between : OthersRan position s.test test)
      : PacedRun position start { s with test }

/-- A reading is the microsecond the clock is in, and no longer that of the start. -/
structure ClockReads (start : IperfTime) (reading : ℚ × IperfTime) : Prop where
  normal : reading.2.Normalised
  usecs : (iperfTimeInUsecs reading.2 : Int)
    = iperfTimeInUsecs start + (1000000 * reading.1).floor
  later : 0 < (1000000 * reading.1).floor

/-- The rates, block sizes and bursts the options allow. -/
structure PaceAllowed (settings : Settings) : Prop where
  positive : 0 < settings.rate.toNat
  rate : settings.rate.toNat ≤ 10 ^ 15
  blksize : settings.blksize.toInt ≤ 2 ^ 20
  burst : 0 ≤ settings.burst.toInt
  maxBurst : settings.burst.toInt ≤ 1000

/-- The bits one call may send. -/
def burstBits (test : Test) : Nat :=
  8 * blockSize test * max test.settings.burst.toInt.toNat 1

/-- The bits the clock's dropped fraction of a microsecond is worth, with the slack of a green
light and one burst.
-/
def maxLead (test : Test) : ℚ :=
  burstBits test + lightSlack test.settings.rate + test.settings.rate.toNat / 10 ^ 6

def paceTarget (test : Test) : Pacing.Target ℚ :=
  {
    rate := test.settings.rate.toNat
    slack := lightSlack test.settings.rate
    chunk := burstBits test
  }

theorem paceTarget_sensible (test : Test) : (paceTarget test).Sensible := by
  refine ⟨Nat.cast_nonneg _, ?_, Nat.cast_nonneg _⟩
  simp only [paceTarget, lightSlack]
  positivity

-----------------------------------------------------------------------------------------
-- The account of a stream
-----------------------------------------------------------------------------------------

/-- The accounts that sending by the light can lead to. -/
def Payable (start : Test) (a : Pacing.Account ℚ) : Prop :=
  Relation.ReflTransGen (Pacing.Step (paceTarget start)) (Pacing.start (paceTarget start)) a

def PacedStream.account (position : Nat) (s : PacedStream) (allowance : ℚ) : Pacing.Account ℚ :=
  { time := s.elapsed, sent := (sentBytes position s.test * 8).toNat, allowance }

/-- The stream has the account of a sender that keeps to its light, now and after every send,
and the products never exceeded the greatest lead in nanoseconds.
-/
structure Paced (position : Nat) (start : Test) (s : PacedStream) (allowance : ℚ) : Prop where
  account : Payable start (s.account position allowance)
  sends : ∀ entry ∈ s.sends, ∃ allowance,
    Payable start { time := entry.1, sent := (entry.2 * 8).toNat, allowance }
  products : ∀ product ∈ s.products, (product : ℚ) ≤ 10 ^ 9 * maxLead start

/-- The invariant of a run: the worker stays in its running test, and is paced as far as the
clock was right.
-/
structure KeepsPace (position : Nat) (start : Test) (started : IperfTime) (s : PacedStream)
    (allowance : ℚ)
    : Prop where
  settings : s.test.settings = start.settings
  running : s.test.done = false
  stream : ∃ sp, s.test.streams[position]? = some sp ∧ sp.pendingSize ≤ blockSize start
    ∧ sp.result.startTimeFixed = started
  paced : (∀ reading ∈ s.readings, ClockReads started reading) → Paced position start s allowance

/-- What may be sent before the next look at the light. -/
def lightAllowance (start : Test) (s : PacedStream) : ℚ :=
  if s.greenLight then burstBits start else 0

section

variable
  {position : Nat} {start : Test} {started : IperfTime} {s s' : PacedStream} {allowance : ℚ}

theorem sentBytes_of_found {test : Test} {sp : Stream}
    (found : test.streams[position]? = some sp)
    : sentBytes position test = sp.result.bytesSent := by
  simp [sentBytes, found]

theorem Payable.within {a : Pacing.Account ℚ} (payable : Payable start a)
    : Pacing.Within (paceTarget start) a :=
  (Pacing.start_within (paceTarget_sensible start)).run (paceTarget_sensible start) payable

/-- Time passes. -/
theorem Payable.wait {a : Pacing.Account ℚ} (payable : Payable start a) {d : ℚ} (forward : 0 ≤ d)
    : Payable start { a with time := a.time + d } :=
  payable.tail (.wait d forward)

/-- The bits counted after a send are at most those before and those sent. -/
theorem bits_add_le (bytes : UInt64) {r : Int} {size : Nat} (fits : r ≤ size)
    : ((bytes + UInt64.ofNat r.toNat) * 8).toNat ≤ (bytes * 8).toNat + 8 * size := by
  have eight : UInt64.toNat 8 = 8 := rfl
  rw [UInt64.toNat_mul, UInt64.toNat_mul, UInt64.toNat_add, UInt64.toNat_ofNat', eight]
  have some_ : r.toNat ≤ size := by omega
  omega

/-- A message is paid for by the block allowed for it. -/
theorem KeepsPace.send {message : MessageIo} {r : Int} {more : Nat}
    (kept : KeepsPace position start started s ((8 * blockSize start * (more + 1) : Nat) : ℚ))
    (sent : s.send position message = some (r, s'))
    : KeepsPace position start started s' ((8 * blockSize start * more : Nat) : ℚ)
      ∧ s'.greenLight = s.greenLight := by
  simp only [PacedStream.send, Option.bind_eq_bind, Option.bind_eq_some_iff] at sent
  obtain ⟨⟨r', test⟩, called, shape⟩ := sent
  obtain ⟨rfl, rfl⟩ := Prod.mk.inj (Option.some.inj shape)
  obtain ⟨sp, found, pending, fixed⟩ := kept.stream
  obtain ⟨sp₁, sp', out, foundToo, got, rfl, rfl⟩ := iperfSendMt_accounts called
  obtain rfl := Option.some.inj (foundToo.symm.trans found)
  have sameSize : blockSize s.test = blockSize start := by
    simp only [blockSize, kept.settings]
  obtain ⟨ret, pending'⟩ := protocolSend_ret_le got (by rw [sameSize]; exact pending)
  rw [sameSize] at ret pending'
  obtain ⟨-, result⟩ := protocolSend_accounts got
  have inside := (List.getElem?_eq_some_iff.mp found).1
  have there : (s.test.streams.set position sp')[position]? = some sp' :=
    List.getElem?_set_self inside
  have bytes : sp'.result.bytesSent = sp₁.result.bytesSent + UInt64.ofNat out.ret.toNat := by
    rw [result]
    rfl
  have bits := bits_add_le sp₁.result.bytesSent ret
  rw [← bytes] at bits
  have paid : (((sp'.result.bytesSent * 8).toNat : Nat) : ℚ)
        + ((8 * blockSize start * more : Nat) : ℚ)
      ≤ (((sp₁.result.bytesSent * 8).toNat : Nat) : ℚ)
        + ((8 * blockSize start * (more + 1) : Nat) : ℚ) := by
    rw [Nat.mul_add, Nat.mul_one]
    exact_mod_cast (by omega)
  have passes : 0 ≤ (message.wait : ℚ) := message.wait.2
  refine ⟨⟨kept.settings, kept.running, ⟨sp', there, pending', ?_⟩, ?_⟩, rfl⟩
  · rw [result]
    exact fixed
  · intro clock
    have paced := kept.paced clock
    have before := paced.account
    rw [PacedStream.account, sentBytes_of_found found] at before
    have after := (before.wait passes).tail
      (.send ((sp'.result.bytesSent * 8).toNat : ℚ) ((8 * blockSize start * more : Nat) : ℚ)
        (Nat.cast_nonneg _) paid)
    refine ⟨?_, ?_, paced.products⟩
    · rw [PacedStream.account, sentBytes_of_found there]
      exact after
    · intro entry member
      rcases List.mem_append.mp member with earlier | last
      · exact paced.sends entry earlier
      · obtain rfl := List.mem_singleton.mp last
        rw [sentBytes_of_found there]
        exact ⟨_, after⟩

/-- A right reading and the time it was taken at are less than a microsecond apart. -/
theorem ClockReads.seconds {reading : ℚ × IperfTime} (reads : ClockReads started reading)
    (normal : started.Normalised)
    : 1 / 10 ^ 6 ≤ iperfTimeInSecs (iperfTimeDiff started reading.2).2
      ∧ iperfTimeInSecs (iperfTimeDiff started reading.2).2 ≤ reading.1
      ∧ reading.1 ≤ iperfTimeInSecs (iperfTimeDiff started reading.2).2 + 1 / 10 ^ 6 := by
  have usecs := reads.usecs
  have later := reads.later
  have distance : (iperfTimeInUsecs (iperfTimeDiff started reading.2).2 : Int)
      = (1000000 * reading.1).floor := by
    rw [iperfTimeDiff_inUsecs_earlier normal reads.normal (by omega)]
    omega
  have atLeast : (1 : ℚ) ≤ ((1000000 * reading.1).floor : ℚ) := by exact_mod_cast later
  have below := Rat.floor_le (1000000 * reading.1)
  have above := Rat.lt_floor_add_one (1000000 * reading.1)
  have cast : (iperfTimeInUsecs (iperfTimeDiff started reading.2).2 : ℚ)
      = ((1000000 * reading.1).floor : ℚ) := by exact_mod_cast distance
  push_cast at above
  rw [iperfTimeInSecs_eq, cast]
  refine ⟨?_, ?_, ?_⟩ <;> linarith

theorem PaceAllowed.burstBits_le (allowed : PaceAllowed start.settings)
    : (burstBits start : ℚ) ≤ 8 * 2 ^ 20 * 1000 := by
  have size : blockSize start ≤ 2 ^ 20 := by
    have most := allowed.blksize
    unfold blockSize
    omega
  have count : max start.settings.burst.toInt.toNat 1 ≤ 1000 := by
    have most := allowed.maxBurst
    omega
  have bits : burstBits start ≤ 8 * 2 ^ 20 * 1000 :=
    Nat.mul_le_mul (Nat.mul_le_mul_left 8 size) count
  exact_mod_cast bits

theorem PaceAllowed.maxLead_lt (allowed : PaceAllowed start.settings)
    : 10 ^ 9 * maxLead start < 2 ^ 64 := by
  have rate : (start.settings.rate.toNat : ℚ) ≤ 10 ^ 15 := by exact_mod_cast allowed.rate
  have bits := allowed.burstBits_le
  unfold maxLead lightSlack
  linarith

/-- A check right after a reading: the light it leaves is paid for. -/
theorem KeepsPace.check {io : ThrottleIo} (allowed : PaceAllowed start.settings)
    (normal : started.Normalised) (kept : KeepsPace position start started s allowance)
    (checked : (s.timeNow io).throttle position io.now io.naps = some s')
    : KeepsPace position start started s' (lightAllowance start s') := by
  simp only [PacedStream.throttle, PacedStream.timeNow, Option.bind_eq_bind,
    Option.bind_eq_some_iff] at checked
  obtain ⟨sp, found, out, throttled, shape⟩ := checked
  obtain rfl := Option.some.inj shape
  obtain ⟨sp₁, foundToo, pending, rfl⟩ := kept.stream
  obtain rfl := Option.some.inj (foundToo.symm.trans found)
  refine ⟨kept.settings, kept.running, ⟨sp₁, found, pending, rfl⟩, ?_⟩
  intro clock
  have paced := kept.paced fun reading member => clock reading (List.mem_append_left _ member)
  have reads := clock (s.elapsed + io.wait, io.now)
    (List.mem_append_right _ (List.mem_singleton.mpr rfl))
  obtain ⟨microsecond, behind, ahead⟩ := reads.seconds normal
  dsimp only at microsecond behind ahead
  have account := paced.account
  rw [PacedStream.account, sentBytes_of_found found] at account
  have passes : 0 ≤ (io.wait : ℚ) := io.wait.2
  have waited := account.wait passes
  have within := waited.within
  -- the reading is up to a microsecond old, which adds to the lead
  have lead : (((sp₁.result.bytesSent * 8).toNat : Nat) : ℚ)
      - iperfTimeInSecs (iperfTimeDiff sp₁.result.startTimeFixed io.now).2
        * s.test.settings.rate.toNat ≤ maxLead start := by
    have bound := within.bound
    have positive := within.allowance
    have lost : (start.settings.rate.toNat : ℚ) * (s.elapsed + io.wait)
        ≤ start.settings.rate.toNat
          * (iperfTimeInSecs (iperfTimeDiff sp₁.result.startTimeFixed io.now).2 + 1 / 10 ^ 6) :=
      mul_le_mul_of_nonneg_left ahead (Nat.cast_nonneg _)
    rw [kept.settings]
    simp only [paceTarget] at bound positive
    unfold maxLead
    linarith
  have gauged : Gauged s.test.settings.rate (sp₁.result.bytesSent * 8)
      (iperfTimeInSecs (iperfTimeDiff sp₁.result.startTimeFixed io.now).2) := by
    refine ⟨?_, ?_, microsecond, ?_⟩
    · rw [kept.settings]
      exact allowed.positive
    · rw [kept.settings]
      exact allowed.rate
    · have small := allowed.maxLead_lt
      linarith
  obtain ⟨forward, green, products⟩ := iperfCheckThrottle_spec throttled kept.running gauged
  have slept := waited.wait forward
  refine ⟨?_, paced.sends, ?_⟩
  · rw [PacedStream.account, sentBytes_of_found found, lightAllowance]
    cases light : out.greenLight with
    | true =>
        have reached := green light
        refine slept.tail (.go ?_)
        have later := mul_le_mul_of_nonneg_left (add_le_add_left behind out.slept)
          (show (0 : ℚ) ≤ start.settings.rate.toNat from Nat.cast_nonneg _)
        rw [kept.settings] at reached
        exact reached.trans (add_le_add_left later _)
    | false =>
        refine slept.tail (.send _ 0 (le_refl _) ?_)
        have positive := slept.within.allowance
        dsimp only at positive ⊢
        linarith
  · intro product member
    rcases List.mem_append.mp member with earlier | new
    · exact paced.products product earlier
    · refine (products product new).trans ?_
      exact mul_le_mul_of_nonneg_left lead (by norm_num)

-----------------------------------------------------------------------------------------
-- A call
-----------------------------------------------------------------------------------------

variable {messageSent ended : Bool} {now : IperfTime} {messages : List MessageIo} {r : Int}

/-- A red light keeps the loop from sending. -/
theorem sendLoop_red {perMessage : Bool} (red : s.greenLight = false) (more : Nat)
    : PacedStream.sendLoop position perMessage more s messageSent now messages
      = some (0, messageSent, s) := by
  cases more with
  | zero => rfl
  | succ more => simp [PacedStream.sendLoop, red]

/-- A burst sends at most the blocks allowed for it. By induction on the messages left. -/
theorem KeepsPace.burst {more : Nat}
    (kept : KeepsPace position start started s ((8 * blockSize start * more : Nat) : ℚ))
    (ran : PacedStream.sendLoop position false more s messageSent now messages
      = some (r, ended, s'))
    : ∃ allowance, KeepsPace position start started s' allowance := by
  induction more generalizing s messageSent now messages with
  | zero =>
      obtain ⟨rfl, rfl, rfl⟩ := Option.some.inj ran
      exact ⟨_, kept⟩
  | succ more ih =>
      rw [PacedStream.sendLoop.eq_def] at ran
      dsimp only at ran
      split at ran
      · obtain ⟨rfl, rfl, rfl⟩ := Option.some.inj ran
        exact ⟨_, kept⟩
      · cases messages with
        | nil => cases ran
        | cons message messages =>
            obtain ⟨⟨r', next⟩, sent, rest⟩ := Option.bind_eq_some_iff.mp ran
            have kept' := (kept.send sent).1
            dsimp only at rest
            split at rest
            · obtain ⟨rfl, rfl, rfl⟩ := Option.some.inj rest
              exact ⟨_, kept'⟩
            · exact ih kept' rest

/-- Without bursts one message goes out, and the light is looked at behind it. -/
theorem KeepsPace.message (allowed : PaceAllowed start.settings) (normal : started.Normalised)
    (kept : KeepsPace position start started s ((8 * blockSize start * 1 : Nat) : ℚ))
    (ran : PacedStream.sendLoop position true 1 s false now messages = some (r, ended, s'))
    : (ended = true → KeepsPace position start started s' (lightAllowance start s'))
      ∧ ∃ allowance, KeepsPace position start started s' allowance := by
  rw [PacedStream.sendLoop.eq_def] at ran
  dsimp only at ran
  split at ran
  · obtain ⟨rfl, rfl, rfl⟩ := Option.some.inj ran
    exact ⟨nofun, _, kept⟩
  · cases messages with
    | nil => cases ran
    | cons message messages =>
        obtain ⟨⟨r', next⟩, sent, rest⟩ := Option.bind_eq_some_iff.mp ran
        have kept' := (@KeepsPace.send position start started s next message r' 0 kept sent).1
        dsimp only at rest
        split at rest
        · obtain ⟨rfl, rfl, rfl⟩ := Option.some.inj rest
          exact ⟨nofun, _, kept'⟩
        · obtain ⟨checked, throttled, shape⟩ := Option.bind_eq_some_iff.mp rest
          obtain ⟨rfl, rfl, rfl⟩ := Option.some.inj shape
          have light := kept'.check allowed normal throttled
          exact ⟨fun _ => light, _, light⟩

/-- A call that does not fail leaves a light that is paid for. -/
theorem KeepsPace.sendMt {io : SendMtIo} (allowed : PaceAllowed start.settings)
    (normal : started.Normalised)
    (kept : KeepsPace position start started s (lightAllowance start s))
    (called : s.sendMt position io = some (0, s'))
    : KeepsPace position start started s' (lightAllowance start s') := by
  have settings := kept.settings
  have paced : s.test.settings.rate ≠ 0 := by
    intro zero
    have positive := allowed.positive
    rw [← settings, zero] at positive
    cases positive
  obtain ⟨⟨r, ended, last⟩, ran, rest⟩ := Option.bind_eq_some_iff.mp called
  dsimp only at rest
  split at rest
  · next failed =>
      obtain ⟨rfl, -⟩ := Prod.mk.inj (Option.some.inj rest)
      cases failed
  · simp only [ne_eq, paced, not_false_eq_true, decide_true, Bool.true_and] at ran rest
    have progressed : (s.test.settings.burst = 0 → ended = true →
          KeepsPace position start started last (lightAllowance start last))
        ∧ ∃ allowance, KeepsPace position start started last allowance := by
      cases light : s.greenLight with
      | false =>
          rw [sendLoop_red light] at ran
          obtain ⟨rfl, rfl, rfl⟩ := Option.some.inj ran
          exact ⟨nofun, _, kept⟩
      | true =>
          rw [lightAllowance, light, if_pos rfl, burstBits, ← settings] at kept
          by_cases single : s.test.settings.burst = 0
          · have one : multisend s.test = 1 := by simp [multisend, single, paced]
            have most : max s.test.settings.burst.toInt.toNat 1 = 1 := by simp [single]
            rw [one, decide_eq_true single] at ran
            rw [most] at kept
            obtain ⟨checked, left⟩ := kept.message allowed normal ran
            exact ⟨fun _ => checked, left⟩
          · have several : multisend s.test = s.test.settings.burst.toInt.toNat := by
              simp [multisend, single]
            have positive : s.test.settings.burst.toInt ≠ 0 := fun zero =>
              single (Int32.toInt_inj.mp (by rw [zero]; rfl))
            have enough : max s.test.settings.burst.toInt.toNat 1
                = s.test.settings.burst.toInt.toNat := by
              have bound := allowed.burst
              rw [← settings] at bound
              omega
            rw [several, decide_eq_false single] at ran
            rw [enough] at kept
            exact ⟨fun zero => absurd zero single, kept.burst ran⟩
    obtain ⟨checked, allowance, kept'⟩ := progressed
    split at rest
    · obtain ⟨after, throttled, shape⟩ := Option.bind_eq_some_iff.mp rest
      obtain ⟨-, rfl⟩ := Prod.mk.inj (Option.some.inj shape)
      exact kept'.check allowed normal throttled
    · next message =>
        obtain ⟨-, rfl⟩ := Prod.mk.inj (Option.some.inj rest)
        simp only [Bool.or_eq_true, Bool.not_eq_true', decide_eq_false_iff_not, not_or,
          not_not, Bool.not_eq_false] at message
        exact checked message.1 message.2

end

-----------------------------------------------------------------------------------------
-- Runs of full bursts
-----------------------------------------------------------------------------------------

section

/-- Bursts of a thousand blocks of a megabyte. -/
def burstSettings (rate : UInt64) : Settings := { blksize := 1048576, rate, burst := 1000 }

theorem burstSettings_block (rate : UInt64)
    : (burstSettings rate).blksize.toInt.toNat = 1048576 := by
  have block : (1048576 : Int32).toInt.toNat = 1048576 := by decide
  exact block

theorem burstSettings_allowed {rate : UInt64} (positive : 0 < rate.toNat)
    (allowed : rate.toNat ≤ 10 ^ 15)
    : PaceAllowed (burstSettings rate) :=
  ⟨positive, allowed, (by decide : (1048576 : Int32).toInt ≤ 2 ^ 20),
    (by decide : 0 ≤ (1000 : Int32).toInt), (by decide : (1000 : Int32).toInt ≤ 1000)⟩

def burstStart : IperfTime := { secs := 1, usecs := 0 }

def burstStream : Stream :=
  {
    socket := 5
    sender := true
    buffer := List.replicate 1048576 0
    result := { startTimeFixed := burstStart }
  }

def burstSender (rate : UInt64) : PacedStream :=
  {
    test := { settings := burstSettings rate, streams := [burstStream] }
    greenLight := true
    elapsed := 0
  }

theorem burstSender_start (rate : UInt64) : PacedStart 0 burstStream (burstSender rate) :=
  ⟨rfl, rfl, rfl, rfl, (by decide : 0 < 1000000), rfl, rfl, rfl, rfl, rfl⟩

/-- A message that is written whole after the given time. -/
def fullMessage (wait : NNRat) : MessageIo :=
  {
    before := burstStart
    io := { writes := [.accepted 1048576] }
    wait
    throttle := { wait := 0, now := burstStart, naps := [] }
  }

/-- A burst sender that has sent the given number of bytes and is green. -/
structure Bursting (rate bytes : UInt64) (s : PacedStream) : Prop where
  settings : s.test.settings = burstSettings rate
  running : s.test.done = false
  protocol : s.test.protocol = .tcp
  copying : s.test.zerocopy = 0
  stream : ∃ sp, s.test.streams[0]? = some sp ∧ sp.buffer.length = 1048576
    ∧ sp.pendingSize = 0 ∧ sp.result.bytesSent = bytes ∧ sp.result.startTimeFixed = burstStart
  green : s.greenLight = true

theorem burstSender_bursting (rate : UInt64) : Bursting rate 0 (burstSender rate) :=
  ⟨rfl, rfl, rfl, rfl, ⟨burstStream, rfl, List.length_replicate, rfl, rfl, rfl⟩, rfl⟩

variable {rate bytes : UInt64} {s : PacedStream}

theorem afterSend_whole (sp : Stream) (n : Nat)
    : (afterSend sp n n).pendingSize = 0
      ∧ (afterSend sp n n).result.bytesSent = sp.result.bytesSent + UInt64.ofNat n
      ∧ (afterSend sp n n).result.startTimeFixed = sp.result.startTimeFixed := by
  rw [afterSend, if_neg (Int.not_lt.mpr (Int.natCast_nonneg n))]
  exact ⟨by simp, by simp, rfl⟩

/-- The worker's stream takes the place of the one before. -/
theorem Bursting.sent {sp' : Stream} {bytes' bytesSent blocksSent : UInt64} {elapsed : ℚ}
    {sends : List (ℚ × UInt64)} (bursting : Bursting rate bytes s)
    (there : (s.test.streams.set 0 sp')[0]? = some sp') (size : sp'.buffer.length = 1048576)
    (pending : sp'.pendingSize = 0) (total : sp'.result.bytesSent = bytes')
    (fixed : sp'.result.startTimeFixed = burstStart)
    : Bursting rate bytes' {
        s with
        test := { s.test with streams := s.test.streams.set 0 sp', bytesSent, blocksSent }
        elapsed
        sends
      } :=
  ⟨bursting.settings, bursting.running, bursting.protocol, bursting.copying,
    ⟨sp', there, size, pending, total, fixed⟩, bursting.green⟩

theorem Bursting.send (bursting : Bursting rate bytes s) (wait : NNRat)
    : ∃ s', s.send 0 (fullMessage wait) = some (1048576, s')
      ∧ Bursting rate (bytes + 1048576) s' ∧ s'.elapsed = s.elapsed + wait
      ∧ s'.readings = s.readings ∧ s'.products = s.products
      ∧ s'.sends = s.sends ++ [(s.elapsed + wait, bytes + 1048576)] := by
  obtain ⟨sp, found, size, pending, rfl, fixed⟩ := bursting.stream
  have wanted : pendingBytes s.test sp = 1048576 := by
    rw [pendingBytes, if_pos pending, blockSize, bursting.settings]
    exact burstSettings_block rate
  have whole : nwrite (sp.buffer.take 1048576) [.accepted 1048576]
      = some { ret := (1048576 : Nat), accepted := sp.buffer } := by
    rw [List.take_of_length_le size.le]
    have nonempty : sp.buffer ≠ [] := fun empty => by simp [empty] at size
    have wrote := nwrite_whole nonempty
    rw [size, toInt_of_lt (by norm_num)] at wrote
    exact wrote
  have sent : protocolSend s.test sp burstStart { writes := [.accepted 1048576] }
      = some ({ ret := (1048576 : Nat), accepted := sp.buffer },
        afterSend sp 1048576 (1048576 : Nat)) := by
    rw [protocolSend, bursting.protocol]
    dsimp only
    rw [iperfTcpSend_eq, wanted, if_neg (by rw [bursting.copying]; decide), whole]
    rfl
  obtain ⟨nonePending, total, fixed'⟩ := afterSend_whole sp 1048576
  have literal : UInt64.ofNat 1048576 = 1048576 := by decide
  rw [literal] at total
  have there : (s.test.streams.set 0 (afterSend sp 1048576 (1048576 : Nat)))[0]?
      = some (afterSend sp 1048576 (1048576 : Nat)) :=
    List.getElem?_set_self (List.getElem?_eq_some_iff.mp found).1
  have buffer := afterSend_buffer sp 1048576 (1048576 : Nat)
  generalize afterSend sp 1048576 (1048576 : Nat)
      = sp' at sent nonePending total fixed' there buffer
  refine ⟨{
      s with
      test := {
        s.test with
        streams := s.test.streams.set 0 sp'
        bytesSent := s.test.bytesSent + 1048576
        blocksSent := s.test.blocksSent + 1
      }
      elapsed := s.elapsed + wait
      sends := s.sends ++ [(s.elapsed + wait, sp'.result.bytesSent)]
    }, ?_, ?_, rfl, rfl, rfl, ?_⟩
  · simp [PacedStream.send, fullMessage, iperfSendMt, found, sent, nonePending, sentBytes, there]
  · exact bursting.sent there ((congrArg List.length buffer).trans size) nonePending total
      (fixed'.trans fixed)
  · rw [total]

/-- A burst of whole messages goes out at once. By induction on the messages left. -/
theorem Bursting.burst (bursting : Bursting rate bytes s) (n : Nat) (messageSent : Bool)
    (now : IperfTime)
    : ∃ s' ended, PacedStream.sendLoop 0 false n s messageSent now
          (List.replicate n (fullMessage 0)) = some (0, ended, s')
      ∧ Bursting rate (bytes + UInt64.ofNat (n * 1048576)) s' ∧ s'.elapsed = s.elapsed
      ∧ s'.readings = s.readings ∧ s'.products = s.products ∧ s.sends ⊆ s'.sends
      ∧ (0 < n → (s.elapsed, bytes + UInt64.ofNat (n * 1048576)) ∈ s'.sends) := by
  induction n generalizing s bytes messageSent now with
  | zero =>
      refine ⟨s, messageSent, rfl, ?_, rfl, rfl, rfl, List.Subset.refl _, nofun⟩
      simpa using bursting
  | succ n ih =>
      obtain ⟨next, sent, bursting', elapsed, readings, products, sends⟩ := bursting.send 0
      obtain ⟨s', ended, ran, bursting'', elapsed', readings', products', kept, last⟩ :=
        ih bursting' true now
      have total : bytes + 1048576 + UInt64.ofNat (n * 1048576)
          = bytes + UInt64.ofNat ((n + 1) * 1048576) := by
        rw [Nat.succ_mul, UInt64.ofNat_add, UInt64.add_assoc, UInt64.add_comm 1048576]
        rfl
      have goesOn : endingCondition s.test = false := by
        simp [endingCondition, bursting.settings, burstSettings]
      rw [NNRat.cast_zero, add_zero] at elapsed sends
      rw [total] at bursting'' last
      refine ⟨s', ended, ?_, bursting'', elapsed'.trans elapsed, readings'.trans readings,
        products'.trans products, ?_, ?_⟩
      · rw [List.replicate_succ, PacedStream.sendLoop.eq_def]
        simp only [bursting.green, goesOn, sent, Option.bind_eq_bind, Option.bind_some]
        simpa using ran
      · intro send member
        exact kept (sends ▸ List.mem_append_left _ member)
      · intro _
        rcases Nat.eq_zero_or_pos n with rfl | positive
        · rw [← total]
          refine kept ?_
          rw [sends]
          simp
        · exact elapsed ▸ last positive

/-- With bursts, the check comes behind the loop. -/
theorem sendMt_burst {position : Nat} {s last : PacedStream} {io : SendMtIo} {ended : Bool}
    (paced : s.test.settings.rate ≠ 0) (bursts : s.test.settings.burst ≠ 0)
    (ran : PacedStream.sendLoop position false s.test.settings.burst.toInt.toNat s false
      { secs := 0, usecs := 0 } io.messages = some (0, ended, last))
    : s.sendMt position io
      = ((last.timeNow io.throttle).throttle position io.throttle.now io.throttle.naps).map
        ((0 : Int), ·) := by
  have several : multisend s.test = s.test.settings.burst.toInt.toNat := by
    simp [multisend, bursts]
  have perMessage : (decide (s.test.settings.rate ≠ 0) && decide (s.test.settings.burst = 0))
      = false := by simp [bursts]
  unfold PacedStream.sendMt
  dsimp only
  rw [several, perMessage, ran]
  simp only [Option.bind_eq_bind, Option.bind_some]
  rw [if_neg (lt_irrefl 0), if_pos (by simp [paced]), Option.map_eq_bind]
  rfl

/-- A run of burst calls up to the given time, with a right clock. -/
structure BurstRun (rate bytes : UInt64) (elapsed : ℚ) (s : PacedStream) : Prop where
  ran : PacedRun 0 (burstSender rate) s
  bursting : Bursting rate bytes s
  elapsed : s.elapsed = elapsed
  clock : ∀ reading ∈ s.readings, ClockReads burstStart reading

theorem burstSender_run (rate : UInt64) : BurstRun rate 0 0 (burstSender rate) :=
  ⟨.start, burstSender_bursting rate, rfl, nofun⟩

/-- The inputs of a call that sends its whole burst at once. -/
def burstCall (io : ThrottleIo) : SendMtIo :=
  { messages := List.replicate 1000 (fullMessage 0), throttle := io }

/-- What the check behind a burst gives, which depends on nothing but the bytes and the time. -/
def Checks (rate bytes : UInt64) (io : ThrottleIo) (out : Throttled) : Prop :=
  ∀ (test : Test) (sp : Stream), test.done = false → test.settings = burstSettings rate →
    sp.result.bytesSent = bytes → sp.result.startTimeFixed = burstStart →
    iperfCheckThrottle test sp true io.now io.naps = some out

variable {elapsed : ℚ} {io : ThrottleIo} {out : Throttled}

/-- A call in a run of bursts sends its burst, reads the clock and leaves what the check gives. -/
theorem BurstRun.call (run : BurstRun rate bytes elapsed s) (paced : rate ≠ 0)
    (reads : ClockReads burstStart (elapsed + io.wait, io.now))
    (checks : Checks rate (bytes + 1048576000) io out)
    : ∃ s', PacedRun 0 (burstSender rate) s'
      ∧ (∀ reading ∈ s'.readings, ClockReads burstStart reading)
      ∧ (out.greenLight = true →
        BurstRun rate (bytes + 1048576000) (elapsed + io.wait + out.slept) s')
      ∧ out.products ⊆ s'.products
      ∧ (elapsed, bytes + 1048576000) ∈ s'.sends := by
  have bursting := run.bursting
  obtain ⟨last, ended, sent, bursting', elapsed', readings, products, -, member⟩ :=
    bursting.burst 1000 false { secs := 0, usecs := 0 }
  have literal : UInt64.ofNat (1000 * 1048576) = 1048576000 := by decide
  rw [literal] at bursting' member
  obtain ⟨sp, found, size, pending, total, fixed⟩ := bursting'.stream
  have throttled := checks last.test sp bursting'.running bursting'.settings total fixed
  have positive : s.test.settings.rate ≠ 0 := by
    rw [bursting.settings]
    exact paced
  have bursts : s.test.settings.burst ≠ 0 ∧ s.test.settings.burst.toInt.toNat = 1000 := by
    rw [bursting.settings]
    have thousand : (1000 : Int32) ≠ 0 ∧ (1000 : Int32).toInt.toNat = 1000 := by decide
    exact thousand
  have called := @sendMt_burst 0 s _ (burstCall io) _ positive bursts.1
    (by rw [bursts.2]; exact sent)
  have checked : (last.timeNow io).throttle 0 io.now io.naps = some {
      last with
      greenLight := out.greenLight
      elapsed := elapsed + io.wait + out.slept
      readings := s.readings ++ [(elapsed + io.wait, io.now)]
      products := s.products ++ out.products
    } := by
    simp [PacedStream.throttle, PacedStream.timeNow, found, bursting'.green, throttled, elapsed',
      run.elapsed, readings, products]
  have clock : ∀ reading ∈ s.readings ++ [(elapsed + io.wait, io.now)],
      ClockReads burstStart reading := by
    intro reading member
    rcases List.mem_append.mp member with earlier | new
    · exact run.clock reading earlier
    · rw [List.mem_singleton.mp new]
      exact reads
  rw [burstCall, checked] at called
  refine ⟨_, run.ran.call called, clock, ?_, List.subset_append_right _ _, ?_⟩
  · intro green
    exact ⟨run.ran.call called, ⟨bursting'.settings, bursting'.running, bursting'.protocol,
      bursting'.copying, bursting'.stream, green⟩, rfl, clock⟩
  · exact run.elapsed ▸ member (by norm_num)

/-- After `30000` seconds the light is green whatever was sent: no count of 64 bits is ahead of
the rate.
-/
theorem checks_late (fast : 7 * 10 ^ 14 ≤ rate.toNat) (allowed : rate.toNat ≤ 10 ^ 15)
    (bytes : UInt64) (wait : NNRat)
    : Checks rate bytes { wait, now := { secs := 30001, usecs := 0 }, naps := [] }
        { greenLight := true, slept := 0, products := [] } := by
  intro test sp running settings total fixed
  have seconds : iperfTimeInSecs (iperfTimeDiff burstStart { secs := 30001, usecs := 0 }).2
      = 30000 := by decide +kernel
  have small := (sp.result.bytesSent * 8).toNat_lt
  have bits : ((sp.result.bytesSent * 8).toNat : ℚ) < 2 ^ 64 := by exact_mod_cast small
  have target : (7 * 10 ^ 14 : ℚ) ≤ rate.toNat := by exact_mod_cast fast
  have gauged : Gauged rate (sp.result.bytesSent * 8) 30000 :=
    ⟨by omega, allowed, by norm_num, by linarith⟩
  have average : (((sp.result.bytesSent * 8).toNat : ℚ) / 30000).floor < rate.toNat := by
    have below : ((sp.result.bytesSent * 8).toNat : ℚ) / 30000 < rate.toNat := by
      rw [div_lt_iff₀ (by norm_num)]
      linarith
    have floor := (Rat.floor_le (((sp.result.bytesSent * 8).toNat : ℚ) / 30000)).trans_lt below
    exact_mod_cast floor
  have missing : 0 < missingRate rate (sp.result.bytesSent * 8) 30000 := by
    rw [Int64.lt_iff_toInt_lt, gauged.missingRate_toInt, Int64.toInt_zero]
    omega
  have paced : rate ≠ 0 := by
    rintro rfl
    simp at fast
  have notExceeded : ¬ missingRate rate (sp.result.bytesSent * 8) 30000 < 0 := by
    rw [Int64.lt_iff_toInt_lt] at missing ⊢
    omega
  have settingsRate : (burstSettings rate).rate = rate := rfl
  simp only [iperfCheckThrottle, running, settings, fixed, seconds, settingsRate, paced,
    notExceeded, missing, decide_true, if_false, Bool.false_eq_true, or_self]

/-- Any number of bursts fit behind the first `30000` seconds. By induction on their number. -/
theorem lateBursts (fast : 7 * 10 ^ 14 ≤ rate.toNat) (allowed : rate.toNat ≤ 10 ^ 15) (n : Nat)
    : ∃ s, BurstRun rate (UInt64.ofNat ((n + 1) * 1048576000)) 30000 s
      ∧ (0 < n → (30000, UInt64.ofNat ((n + 1) * 1048576000)) ∈ s.sends) := by
  have paced : rate ≠ 0 := by
    rintro rfl
    simp at fast
  have reads : ClockReads burstStart (30000, { secs := 30001, usecs := 0 }) :=
    ⟨(by decide : 0 < 1000000), by decide +kernel, by decide +kernel⟩
  induction n with
  | zero =>
      have wait : ((30000 : NNRat) : ℚ) = 30000 := by norm_num
      obtain ⟨s, -, -, run, -, -⟩ := (burstSender_run rate).call paced
        (by rw [zero_add, wait]; exact reads) (checks_late fast allowed _ 30000)
      have green := run rfl
      simp only [zero_add, wait, add_zero] at green
      exact ⟨s, green, nofun⟩
  | succ n ih =>
      obtain ⟨s, run, -⟩ := ih
      obtain ⟨s', -, -, run', -, member⟩ := run.call paced
        (by rw [NNRat.cast_zero, add_zero]; exact reads) (checks_late fast allowed _ 0)
      have total : UInt64.ofNat ((n + 1) * 1048576000) + 1048576000
          = UInt64.ofNat ((n + 1 + 1) * 1048576000) := by
        rw [Nat.succ_mul (n + 1), UInt64.ofNat_add]
        rfl
      have green := run' rfl
      rw [total, NNRat.cast_zero, add_zero, add_zero] at green
      rw [total] at member
      exact ⟨s', green, fun _ => member⟩

/-- A reading in the given microsecond of the first second. -/
theorem clockReads_usecs {t : ℚ} {usecs : UInt32} (normal : usecs.toNat < 1000000)
    (exact_ : (usecs.toNat : Int) = (1000000 * t).floor) (later : 0 < (1000000 * t).floor)
    : ClockReads burstStart (t, { secs := 1, usecs }) := by
  refine ⟨normal, ?_, later⟩
  rw [← exact_]
  have start : iperfTimeInUsecs burstStart = 1000000 := by decide
  have one : UInt32.toNat 1 = 1 := by decide
  rw [start, iperfTimeInUsecs, one, Nat.one_mul, Nat.cast_add]

/-- What the check of a burst sees, as a computation. -/
def burstCheck (rate bytes : UInt64) (usecs : UInt32) (naps : List Nap) : Option Throttled :=
  iperfCheckThrottle { settings := burstSettings rate } {
    socket := 5
    sender := true
    result := { bytesSent := bytes, startTimeFixed := burstStart }
  } true { secs := 1, usecs } naps

theorem checks_burst {usecs : UInt32} {naps : List Nap} (wait : NNRat)
    (checked : burstCheck rate bytes usecs naps = some out)
    : Checks rate bytes { wait, now := { secs := 1, usecs }, naps } out := by
  intro test sp running settings total fixed
  rw [← checked]
  exact iperfCheckThrottle_congr running (congrArg Settings.rate settings) total fixed

/-- A call whose check comes late enough leaves the light green at once. -/
theorem BurstRun.next (run : BurstRun rate bytes elapsed s) (paced : rate ≠ 0) (wait : NNRat)
    {usecs : UInt32} (reads : ClockReads burstStart (elapsed + wait, { secs := 1, usecs }))
    (checked : burstCheck rate (bytes + 1048576000) usecs []
      = some { greenLight := true, slept := 0, products := [] })
    : ∃ s', BurstRun rate (bytes + 1048576000) (elapsed + wait) s' := by
  obtain ⟨s', -, -, run', -, -⟩ := run.call paced reads (checks_burst wait checked)
  have green := run' rfl
  rw [add_zero] at green
  exact ⟨s', green⟩

end

/-- At `10 ^ 15` bit/s, a burst behind a light that turned green late in a microsecond: the
clock is read `0.943` microseconds early, and the product passes `2 ^ 63`.
-/
theorem fastBursts
    : ∃ s, PacedRun 0 (burstSender 1000000000000000) s
      ∧ (∀ reading ∈ s.readings, ClockReads burstStart reading)
      ∧ 9331648000 * 10 ^ 9 ∈ s.products := by
  have paced : (1000000000000000 : UInt64) ≠ 0 := by decide
  -- four bursts that are checked as soon as the rate allows them
  obtain ⟨_, first⟩ := (burstSender_run 1000000000000000).next paced (9 / 1000000)
    (clockReads_usecs (by decide : UInt32.toNat 9 < 1000000) (by decide +kernel)
      (by decide +kernel))
    (by decide +kernel)
  obtain ⟨_, second⟩ := first.next paced (8 / 1000000)
    (clockReads_usecs (by decide : UInt32.toNat 17 < 1000000) (by decide +kernel)
      (by decide +kernel))
    (by decide +kernel)
  obtain ⟨_, third⟩ := second.next paced (9 / 1000000)
    (clockReads_usecs (by decide : UInt32.toNat 26 < 1000000) (by decide +kernel)
      (by decide +kernel))
    (by decide +kernel)
  obtain ⟨_, fourth⟩ := third.next paced (8 / 1000000)
    (clockReads_usecs (by decide : UInt32.toNat 34 < 1000000) (by decide +kernel)
      (by decide +kernel))
    (by decide +kernel)
  -- the fifth is checked early, and sleeps until late in a microsecond
  have early : burstCheck 1000000000000000
        (0 + 1048576000 + 1048576000 + 1048576000 + 1048576000 + 1048576000) 41 [.slept 0]
      = some
          { greenLight := true, slept := 943 / 1000000000, products := [943040000 * 10 ^ 9] } := by
    decide +kernel
  obtain ⟨_, -, -, slept, -, -⟩ := fourth.call paced
    (clockReads_usecs (by decide : UInt32.toNat 41 < 1000000) (by decide +kernel)
      (by decide +kernel))
    (checks_burst (7 / 1000000) early)
  -- the sixth follows at once
  have late : burstCheck 1000000000000000
        (0 + 1048576000 + 1048576000 + 1048576000 + 1048576000 + 1048576000 + 1048576000) 41
        [.interrupted 0]
      = some { greenLight := false, slept := 0, products := [9331648000 * 10 ^ 9] } := by
    decide +kernel
  obtain ⟨s, ran, clock, -, products, -⟩ := (slept rfl).call paced
    (clockReads_usecs (by decide : UInt32.toNat 41 < 1000000) (by decide +kernel)
      (by decide +kernel))
    (checks_burst 0 late)
  exact ⟨s, ran, clock, products (by simp)⟩

-----------------------------------------------------------------------------------------
-- Runs stay within their target
-----------------------------------------------------------------------------------------

section

variable {position : Nat} {sp : Stream} {start s : PacedStream}

theorem PacedStart.kept (fresh : PacedStart position sp start)
    : KeepsPace position start.test sp.result.startTimeFixed start
        (lightAllowance start.test start) := by
  refine ⟨rfl, fresh.running, ⟨sp, fresh.stream, ?_, rfl⟩, ?_⟩
  · rw [fresh.pending]
    exact Nat.zero_le _
  · intro _
    refine ⟨?_, ?_, ?_⟩
    · rw [PacedStream.account, sentBytes_of_found fresh.stream, fresh.nothing, fresh.elapsed,
        lightAllowance, fresh.green]
      exact .refl
    · rw [fresh.sends]
      exact nofun
    · rw [fresh.products]
      exact nofun

theorem PacedRun.kept (fresh : PacedStart position sp start)
    (allowed : PaceAllowed start.test.settings) (ran : PacedRun position start s)
    : KeepsPace position start.test sp.result.startTimeFixed s (lightAllowance start.test s) := by
  induction ran with
  | start => exact fresh.kept
  | call ran called ih => exact ih.sendMt allowed fresh.normal called
  | others ran between ih =>
      obtain ⟨worker, found, pending, fixed⟩ := ih.stream
      obtain ⟨worker', there, bytes, fixed', pending'⟩ := between.stream worker found
      refine ⟨between.settings.trans ih.settings, between.running,
        ⟨worker', there, pending'.trans_le pending, fixed'.trans fixed⟩, ?_⟩
      intro clock
      have paced := ih.paced clock
      refine ⟨?_, paced.sends, paced.products⟩
      have account := paced.account
      rw [PacedStream.account, sentBytes_of_found found] at account
      rw [PacedStream.account, sentBytes_of_found there, bytes]
      exact account

/-- Whatever is sent and however the calls sleep, after every send `bytes_sent * 8` is at most
what the rate allows, one burst, a bit and what the rate sends in a nanosecond. The product in
nanoseconds is at most that lead and what the rate sends in a microsecond, and fits its 64 bits
up to `8.3 * 10 ^ 14` bit/s.
-/
theorem PacedRun.withinTarget (fresh : PacedStart position sp start)
    (allowed : PaceAllowed start.test.settings) (ran : PacedRun position start s)
    (clock : ∀ reading ∈ s.readings, ClockReads sp.result.startTimeFixed reading)
    : (∀ send ∈ s.sends,
        ((send.2 * 8).toNat : ℚ)
          ≤ start.test.settings.rate.toNat * send.1
            + 8 * blockSize start.test * max start.test.settings.burst.toInt.toNat 1
            + 1 + start.test.settings.rate.toNat / 10 ^ 9)
      ∧ (∀ product ∈ s.products,
        (product : ℚ)
          ≤ 10 ^ 9 * (8 * blockSize start.test * max start.test.settings.burst.toInt.toNat 1
            + 1 + start.test.settings.rate.toNat / 10 ^ 9
            + start.test.settings.rate.toNat / 10 ^ 6))
      ∧ (start.test.settings.rate.toNat ≤ 83 * 10 ^ 13 →
        ∀ product ∈ s.products, product ≤ 2 ^ 63 - 1) := by
  have paced := (ran.kept fresh allowed).paced clock
  have bits : (burstBits start.test : ℚ)
      = 8 * blockSize start.test * max start.test.settings.burst.toInt.toNat 1 := by
    rw [burstBits]
    push_cast
    rfl
  refine ⟨?_, ?_, ?_⟩
  · intro send member
    obtain ⟨allowance, payable⟩ := paced.sends send member
    have bound := Pacing.sent_le (paceTarget_sensible start.test) payable
    simp only [paceTarget, lightSlack, bits] at bound
    linarith
  · intro product member
    have bound := paced.products product member
    simp only [maxLead, lightSlack, bits] at bound
    linarith
  · intro slow product member
    have bound := paced.products product member
    have most := allowed.burstBits_le
    have rate : (start.test.settings.rate.toNat : ℚ) ≤ 83 * 10 ^ 13 := by exact_mod_cast slow
    simp only [maxLead, lightSlack] at bound
    have cast : (product : ℚ) ≤ ((2 ^ 63 - 1 : Int) : ℚ) := by
      push_cast
      linarith
    exact_mod_cast cast

end

theorem PacedRun.withinTarget_late
    : ∃ s, PacedRun 0 (burstSender 800000000000000) s ∧ s.sends ≠ []
      ∧ (∀ send ∈ s.sends,
        ((send.2 * 8).toNat : ℚ)
          ≤ (800000000000000 : UInt64).toNat * send.1
            + 8 * blockSize (burstSender 800000000000000).test
              * max (burstSettings 800000000000000).burst.toInt.toNat 1
            + 1 + (800000000000000 : UInt64).toNat / 10 ^ 9) := by
  obtain ⟨s, run, sent⟩ := @lateBursts 800000000000000 (by decide) (by decide) 1
  refine ⟨s, run.ran, fun none_ => ?_, ?_⟩
  · have member := sent (by decide)
    rw [none_] at member
    exact absurd member List.not_mem_nil
  · exact (PacedRun.withinTarget (burstSender_start _)
      (burstSettings_allowed (by decide) (by decide)) run.ran run.clock).1

/-- At `10 ^ 15` bit/s there is a run whose product passes `2 ^ 63 - 1`, and a run of hours whose
bits, other than the 64-bit number they are compared as, pass the bound.
-/
theorem PacedRun.passesTarget
    : PacedStart 0 burstStream (burstSender 1000000000000000)
      ∧ PaceAllowed (burstSender 1000000000000000).test.settings
      ∧ (∃ s, PacedRun 0 (burstSender 1000000000000000) s
        ∧ (∀ reading ∈ s.readings, ClockReads burstStart reading)
        ∧ ∃ product ∈ s.products, 2 ^ 63 - 1 < product)
      ∧ ∃ s, PacedRun 0 (burstSender 1000000000000000) s
        ∧ (∀ reading ∈ s.readings, ClockReads burstStart reading)
        ∧ ∃ send ∈ s.sends,
          10 ^ 15 * send.1 + 8 * 2 ^ 20 * 1000 + 1 + 10 ^ 15 / 10 ^ 9
            < 8 * (send.2.toNat : ℚ) := by
  refine ⟨burstSender_start _, burstSettings_allowed (by decide) (by decide), ?_, ?_⟩
  · obtain ⟨s, ran, clock, member⟩ := fastBursts
    exact ⟨s, ran, clock, _, member, by norm_num⟩
  · obtain ⟨s, run, sent⟩ :=
      @lateBursts 1000000000000000 (by decide) (by decide) 3999999999
    have total : (UInt64.ofNat ((3999999999 + 1) * 1048576000)).toNat = 4194304000000000000 := by
      decide
    refine ⟨s, run.ran, run.clock, _, sent (by decide), ?_⟩
    rw [total]
    norm_num

end Iperf
