import Iperf.Library.Pacing
import Iperf.Model.Api
import Mathlib.Data.Rat.Floor
import Mathlib.Data.NNRat.Defs
import Mathlib.Tactic.FieldSimp
import Mathlib.Tactic.Linarith
import Mathlib.Tactic.NormNum

/-! `iperf_check_throttle`, which turns the light of a paced stream green or red and sleeps
while the stream is ahead of its target rate. Doubles are exact rationals.
-/

namespace Iperf

-----------------------------------------------------------------------------------------
-- Sleeping
-----------------------------------------------------------------------------------------

/-- One result of `nanosleep(2)`: the seconds it slept beyond the request, or the seconds it
slept before a signal arrived.
-/
inductive Nap where
  | slept (extra : NNRat)
  | interrupted (after : NNRat)
deriving DecidableEq

/-- Whether the whole time was slept, and the seconds that have passed. -/
structure Slept where
  completed : Bool
  seconds : ℚ
deriving DecidableEq

/-- The loop around `nanosleep(2)`, with the nanoseconds left. One request stays below a
second; the sleep goes on while they return zero.
-/
def nanosleepLoop (left : Nat) : List Nap → Option Slept
  | [] => none
  | .interrupted after :: _ => some { completed := false, seconds := after }
  | .slept extra :: naps =>
      let tvNsec := if left ≥ 1000000000 then 1000000000 - 1 else left
      let seconds : ℚ := tvNsec / 1000000000 + extra
      if left - tvNsec > 0 then
        (nanosleepLoop (left - tvNsec) naps).map fun rest =>
          { rest with seconds := seconds + rest.seconds }
      else
        some { completed := true, seconds }

/-- A loop that completes has slept at least the time asked for. By induction on the naps. -/
theorem nanosleepLoop_seconds {left : Nat} {naps : List Nap} {slept : Slept}
    (ran : nanosleepLoop left naps = some slept)
    : 0 ≤ slept.seconds ∧ (slept.completed = true → (left : ℚ) / 1000000000 ≤ slept.seconds) := by
  induction naps generalizing left slept with
  | nil => cases ran
  | cons nap naps ih =>
      cases nap with
      | interrupted after =>
          obtain rfl := Option.some.inj ran
          exact ⟨after.2, nofun⟩
      | slept extra =>
          have more : (0 : ℚ) ≤ extra := extra.2
          simp only [nanosleepLoop] at ran
          generalize asked : (if left ≥ 1000000000 then 1000000000 - 1 else left) = tvNsec at ran
          have request : (0 : ℚ) ≤ (tvNsec : ℚ) / 1000000000 := by positivity
          have fits : tvNsec ≤ left := by
            rw [← asked]
            split <;> omega
          split at ran
          · obtain ⟨rest, slept', rfl⟩ := Option.map_eq_some_iff.mp ran
            obtain ⟨forward, enough⟩ := ih slept'
            refine ⟨by dsimp only; linarith, ?_⟩
            intro completed
            have rest_le := enough completed
            rw [Nat.cast_sub fits, sub_div] at rest_le
            dsimp only
            linarith
          · next last =>
              obtain rfl := Option.some.inj ran
              have whole : left = tvNsec := by omega
              refine ⟨by dsimp only; linarith, ?_⟩
              intro _
              rw [whole]
              dsimp only
              linarith

-----------------------------------------------------------------------------------------
-- The check
-----------------------------------------------------------------------------------------

/-- `SEC_TO_NS`. -/
def secToNs : Int64 := 1000000000

/-- The conversion of a `double` to `int64_t` drops the fraction, and saturates on this
platform.
-/
def int64OfDouble (x : ℚ) : Int64 := Int64.ofIntClamp (if 0 ≤ x then x.floor else x.ceil)

/-- `missing_rate`: the target rate less the average one, both unsigned. -/
def missingRate (rate bitsSent : UInt64) (seconds : ℚ) : Int64 :=
  (rate - sizeOfDouble (bitsSent.toNat / seconds)).toInt64

/-- `delta_bits`: the bits sent beyond the target rate. -/
def deltaBits (rate bitsSent : UInt64) (seconds : ℚ) : Int64 :=
  int64OfDouble (bitsSent.toNat - seconds * rate.toNat)

/-- `time_to_green_light`. The product is signed; the division by the rate converts it. -/
def timeToGreenLight (rate bitsSent : UInt64) (seconds : ℚ) : Int64 :=
  ((secToNs * deltaBits rate bitsSent seconds).toUInt64 / rate).toInt64

/-- What a check leaves: the light, the seconds it slept, and the exact values of
`SEC_TO_NS * delta_bits` it computed.
-/
structure Throttled where
  greenLight : Bool
  slept : ℚ
  products : List Int
deriving DecidableEq

/-- `iperf_check_throttle` with the results of its `nanosleep(2)` calls; `none` while it sleeps.
-/
def iperfCheckThrottle (test : Test) (sp : Stream) (greenLight : Bool) (now : IperfTime)
    (naps : List Nap)
    : Option Throttled :=
  if test.done ∨ test.settings.rate = 0 then
    some { greenLight, slept := 0, products := [] }
  else
    let rate := test.settings.rate
    let seconds := iperfTimeInSecs (iperfTimeDiff sp.result.startTimeFixed now).2
    let bitsSent := sp.result.bytesSent * 8
    let missing := missingRate rate bitsSent seconds
    if missing < 0 then
      let time := timeToGreenLight rate bitsSent seconds
      let products := [secToNs.toInt * (deltaBits rate bitsSent seconds).toInt]
      if time ≥ 0 then
        (nanosleepLoop time.toNatClampNeg naps).map fun slept =>
          { greenLight := slept.completed, slept := slept.seconds, products }
      else
        some { greenLight := false, slept := 0, products }
    else
      some { greenLight := 0 < missing, slept := 0, products := [] }

/-- The check looks at nothing but the end of the test, the rate, the bytes and the start. -/
theorem iperfCheckThrottle_congr {test test' : Test} {sp sp' : Stream} {greenLight : Bool}
    {now : IperfTime} {naps : List Nap} (done : test.done = test'.done)
    (rate : test.settings.rate = test'.settings.rate)
    (bytes : sp.result.bytesSent = sp'.result.bytesSent)
    (start : sp.result.startTimeFixed = sp'.result.startTimeFixed)
    : iperfCheckThrottle test sp greenLight now naps
      = iperfCheckThrottle test' sp' greenLight now naps := by
  unfold iperfCheckThrottle
  rw [done, rate, bytes, start]

-----------------------------------------------------------------------------------------
-- What the conversions keep
-----------------------------------------------------------------------------------------

/-- A measurement the arithmetic of the check is exact on: the rate is one the options allow,
at least a microsecond has passed, and the lead over the target fits into 64 bits even in
nanoseconds.
-/
structure Gauged (rate bitsSent : UInt64) (seconds : ℚ) : Prop where
  positive : 0 < rate.toNat
  allowed : rate.toNat ≤ 10 ^ 15
  passed : 1 / 10 ^ 6 ≤ seconds
  lead : 10 ^ 9 * ((bitsSent.toNat : ℚ) - seconds * rate.toNat) < 2 ^ 64

variable {rate bitsSent : UInt64} {seconds : ℚ}

theorem Gauged.seconds_pos (gauged : Gauged rate bitsSent seconds) : 0 < seconds :=
  lt_of_lt_of_le (by norm_num) gauged.passed

/-- The average rate fits with room to spare. -/
theorem Gauged.average_lt (gauged : Gauged rate bitsSent seconds)
    : (bitsSent.toNat : ℚ) / seconds < 2 ^ 62 := by
  have positive := gauged.seconds_pos
  have long := gauged.passed
  have lead := gauged.lead
  have allowed : (rate.toNat : ℚ) ≤ 10 ^ 15 := by exact_mod_cast gauged.allowed
  have target : seconds * rate.toNat ≤ seconds * 10 ^ 15 :=
    mul_le_mul_of_nonneg_left allowed positive.le
  rw [div_lt_iff₀ positive]
  linarith

/-- The conversion of the average rate is exact up to its fraction. -/
theorem Gauged.average (gauged : Gauged rate bitsSent seconds)
    : ((sizeOfDouble (bitsSent.toNat / seconds)).toNat : Int)
        = ((bitsSent.toNat : ℚ) / seconds).floor
      ∧ ((bitsSent.toNat : ℚ) / seconds).floor < 2 ^ 62 := by
  have average : (0 : ℚ) ≤ (bitsSent.toNat : ℚ) / seconds :=
    div_nonneg (Nat.cast_nonneg _) gauged.seconds_pos.le
  have positive : 0 ≤ ((bitsSent.toNat : ℚ) / seconds).floor :=
    Rat.le_floor_iff.mpr (by exact_mod_cast average)
  have small : ((bitsSent.toNat : ℚ) / seconds).floor < 2 ^ 62 := by
    have floor := (Rat.floor_le ((bitsSent.toNat : ℚ) / seconds)).trans_lt gauged.average_lt
    exact_mod_cast floor
  refine ⟨?_, small⟩
  rw [sizeOfDouble, UInt64.toNat_ofNat']
  omega

/-- The missing rate is the difference of the two rates, with its sign. -/
theorem Gauged.missingRate_toInt (gauged : Gauged rate bitsSent seconds)
    : (missingRate rate bitsSent seconds).toInt
      = rate.toNat - ((bitsSent.toNat : ℚ) / seconds).floor := by
  obtain ⟨average, small⟩ := gauged.average
  have allowed := gauged.allowed
  have signed (a : UInt64) (fits : a.toNat < 2 ^ 62) : a.toInt64.toInt = a.toNat := by
    have unsigned : a.toInt64.toInt = Int.bmod a.toNat (2 ^ 64) := BitVec.toInt_eq_toNat_bmod _
    rw [unsigned, Int.bmod_eq_of_le] <;> omega
  have difference (a b : UInt64) (fitsA : a.toNat < 2 ^ 62) (fitsB : b.toNat < 2 ^ 62)
      : (a - b).toInt64.toInt = (a.toNat : Int) - b.toNat := by
    rw [UInt64.toInt64_sub, Int64.toInt_sub, signed a fitsA, signed b fitsB]
    rw [Int.bmod_eq_of_le] <;> omega
  rw [missingRate, difference _ _ (by omega) (by omega), average]

/-- While the light turns green by itself the target is not exceeded. -/
theorem Gauged.of_missing (gauged : Gauged rate bitsSent seconds)
    (missing : 0 < missingRate rate bitsSent seconds)
    : (bitsSent.toNat : ℚ) ≤ rate.toNat * seconds := by
  rw [Int64.lt_iff_toInt_lt, gauged.missingRate_toInt] at missing
  have below : ((bitsSent.toNat : ℚ) / seconds).floor + 1 ≤ rate.toNat := by
    simp only [Int64.toInt_zero] at missing
    omega
  have fraction := Rat.lt_floor_add_one ((bitsSent.toNat : ℚ) / seconds)
  have cast : ((((bitsSent.toNat : ℚ) / seconds).floor + 1 : Int) : ℚ) ≤ rate.toNat := by
    exact_mod_cast below
  exact ((div_lt_iff₀ gauged.seconds_pos).mp (fraction.trans_le cast)).le

/-- A rate that is not missing is exceeded. -/
theorem Gauged.of_exceeded (gauged : Gauged rate bitsSent seconds)
    (exceeded : missingRate rate bitsSent seconds < 0)
    : seconds * rate.toNat < bitsSent.toNat := by
  rw [Int64.lt_iff_toInt_lt, gauged.missingRate_toInt] at exceeded
  have above : (rate.toNat : Int) + 1 ≤ ((bitsSent.toNat : ℚ) / seconds).floor := by
    simp only [Int64.toInt_zero] at exceeded
    omega
  have cast : ((rate.toNat : Int) + 1 : ℚ) ≤ ((bitsSent.toNat : ℚ) / seconds).floor := by
    exact_mod_cast above
  have reached := cast.trans (Rat.floor_le _)
  rw [le_div_iff₀ gauged.seconds_pos] at reached
  have positive := gauged.seconds_pos
  push_cast at reached
  linarith

/-- The bits ahead of the target, to the bit. -/
theorem Gauged.deltaBits_toInt (gauged : Gauged rate bitsSent seconds)
    (exceeded : seconds * rate.toNat ≤ bitsSent.toNat)
    : (deltaBits rate bitsSent seconds).toInt
        = ((bitsSent.toNat : ℚ) - seconds * rate.toNat).floor
      ∧ 0 ≤ (deltaBits rate bitsSent seconds).toInt
      ∧ 10 ^ 9 * (deltaBits rate bitsSent seconds).toInt < 2 ^ 64 := by
  have ahead : (0 : ℚ) ≤ (bitsSent.toNat : ℚ) - seconds * rate.toNat := sub_nonneg.mpr exceeded
  have positive : 0 ≤ ((bitsSent.toNat : ℚ) - seconds * rate.toNat).floor :=
    Rat.le_floor_iff.mpr (by exact_mod_cast ahead)
  have small : 10 ^ 9 * ((bitsSent.toNat : ℚ) - seconds * rate.toNat).floor < 2 ^ 64 := by
    have floor := Rat.floor_le ((bitsSent.toNat : ℚ) - seconds * rate.toNat)
    have lead := gauged.lead
    have cast : (10 ^ 9 * (((bitsSent.toNat : ℚ) - seconds * rate.toNat).floor : ℚ)) < 2 ^ 64 := by
      linarith
    exact_mod_cast cast
  have exact_ : (deltaBits rate bitsSent seconds).toInt
      = ((bitsSent.toNat : ℚ) - seconds * rate.toNat).floor := by
    rw [deltaBits, int64OfDouble, if_pos ahead]
    apply Int64.toInt_ofIntClamp
    · exact le_trans (by decide) positive
    · have bound : Int64.maxValue.toInt = 2 ^ 63 - 1 := by decide
      omega
  exact ⟨exact_, exact_ ▸ positive, exact_ ▸ small⟩

/-- The time to the green light is the quotient over the exact product, also where the signed
product is out of range: the unsigned division reads it modulo `2 ^ 64`.
-/
theorem Gauged.timeToGreenLight_toNat (gauged : Gauged rate bitsSent seconds)
    (exceeded : seconds * rate.toNat ≤ bitsSent.toNat)
    (sleeps : 0 ≤ timeToGreenLight rate bitsSent seconds)
    : ((timeToGreenLight rate bitsSent seconds).toNatClampNeg : Int)
      = 10 ^ 9 * (deltaBits rate bitsSent seconds).toInt / rate.toNat := by
  obtain ⟨-, positive, small⟩ := gauged.deltaBits_toInt exceeded
  have product : ((secToNs * deltaBits rate bitsSent seconds).toUInt64.toNat : Int)
      = 10 ^ 9 * (deltaBits rate bitsSent seconds).toInt := by
    have unsigned : (deltaBits rate bitsSent seconds).toUInt64.toNat
        = (deltaBits rate bitsSent seconds).toInt.toNat :=
      Int64.toNat_toUInt64_of_le (Int64.le_iff_toInt_le.mpr positive)
    have factor : secToNs.toUInt64.toNat = 10 ^ 9 := by decide
    rw [Int64.toUInt64_mul, UInt64.toNat_mul, unsigned, factor]
    omega
  have quotient : (timeToGreenLight rate bitsSent seconds).toUInt64.toNat
      = (secToNs * deltaBits rate bitsSent seconds).toUInt64.toNat / rate.toNat := by
    rw [timeToGreenLight, UInt64.toUInt64_toInt64, UInt64.toNat_div]
  rw [← Int64.toNat_toUInt64_of_le sleeps, quotient, Int.natCast_div, product]

-----------------------------------------------------------------------------------------
-- What a check promises
-----------------------------------------------------------------------------------------

/-- The slack of a green light: the dropped fraction of a bit, and what the rate sends in the
dropped fraction of a nanosecond.
-/
def lightSlack (rate : UInt64) : ℚ := 1 + rate.toNat / 10 ^ 9

/-- The time a stream has to sleep pays for its lead, but for the slack. -/
theorem Gauged.sleep_pays (gauged : Gauged rate bitsSent seconds)
    (exceeded : seconds * rate.toNat ≤ bitsSent.toNat)
    (sleeps : 0 ≤ timeToGreenLight rate bitsSent seconds)
    : (bitsSent.toNat : ℚ) - seconds * rate.toNat
      ≤ rate.toNat * ((timeToGreenLight rate bitsSent seconds).toNatClampNeg / 1000000000)
        + lightSlack rate := by
  have exact_ := (gauged.deltaBits_toInt exceeded).1
  have positive : (0 : ℚ) < rate.toNat := by exact_mod_cast gauged.positive
  have fraction := Rat.lt_floor_add_one ((bitsSent.toNat : ℚ) - seconds * rate.toNat)
  rw [← exact_] at fraction
  have whole : 10 ^ 9 * (deltaBits rate bitsSent seconds).toInt
      < rate.toNat * ((timeToGreenLight rate bitsSent seconds).toNatClampNeg : Int)
        + rate.toNat := by
    have divided := Int.lt_mul_ediv_self_add (x := 10 ^ 9 * (deltaBits rate bitsSent seconds).toInt)
      (show (0 : Int) < rate.toNat by exact_mod_cast gauged.positive)
    rw [gauged.timeToGreenLight_toNat exceeded sleeps]
    exact divided
  have cast : (10 : ℚ) ^ 9 * (deltaBits rate bitsSent seconds).toInt
      < rate.toNat * ((timeToGreenLight rate bitsSent seconds).toNatClampNeg : ℚ)
        + rate.toNat := by
    exact_mod_cast whole
  push_cast at fraction
  unfold lightSlack
  linarith

/-- What a check on a gauged stream promises: it takes no negative time, a green light finds
the stream within the slack of its target, and the products it computes are at most the lead in
nanoseconds.
-/
theorem iperfCheckThrottle_spec {test : Test} {sp : Stream} {greenLight : Bool} {now : IperfTime}
    {naps : List Nap} {out : Throttled}
    (checked : iperfCheckThrottle test sp greenLight now naps = some out)
    (running : test.done = false)
    (gauged : Gauged test.settings.rate (sp.result.bytesSent * 8)
      (iperfTimeInSecs (iperfTimeDiff sp.result.startTimeFixed now).2))
    : 0 ≤ out.slept
      ∧ (out.greenLight = true →
        ((sp.result.bytesSent * 8).toNat : ℚ)
          ≤ test.settings.rate.toNat
              * (iperfTimeInSecs (iperfTimeDiff sp.result.startTimeFixed now).2 + out.slept)
            + lightSlack test.settings.rate)
      ∧ ∀ product ∈ out.products, (product : ℚ)
        ≤ 10 ^ 9 * ((sp.result.bytesSent * 8).toNat
          - iperfTimeInSecs (iperfTimeDiff sp.result.startTimeFixed now).2
            * test.settings.rate.toNat) := by
  have paced : ¬ (test.done = true ∨ test.settings.rate = 0) := by
    have positive := gauged.positive
    rw [running]
    rintro (done | zero)
    · cases done
    · rw [zero] at positive
      cases positive
  have slack : 0 ≤ lightSlack test.settings.rate := by
    unfold lightSlack
    positivity
  rw [iperfCheckThrottle, if_neg paced] at checked
  dsimp only at checked
  generalize iperfTimeInSecs (iperfTimeDiff sp.result.startTimeFixed now).2 = seconds
    at checked gauged ⊢
  generalize sp.result.bytesSent * 8 = bitsSent at checked gauged ⊢
  split at checked
  · next exceeded =>
      have ahead := (gauged.of_exceeded exceeded).le
      have product : ((secToNs.toInt * (deltaBits test.settings.rate bitsSent seconds).toInt : Int)
          : ℚ) ≤ 10 ^ 9 * ((bitsSent.toNat : ℚ) - seconds * test.settings.rate.toNat) := by
        have floor := Rat.floor_le ((bitsSent.toNat : ℚ) - seconds * test.settings.rate.toNat)
        rw [← (gauged.deltaBits_toInt ahead).1] at floor
        have factor : secToNs.toInt = 10 ^ 9 := by decide
        rw [factor]
        push_cast
        linarith
      split at checked
      · next sleeps =>
          obtain ⟨slept, napped, rfl⟩ := Option.map_eq_some_iff.mp checked
          obtain ⟨forward, enough⟩ := nanosleepLoop_seconds napped
          refine ⟨forward, ?_, by simpa using product⟩
          intro completed
          have rest := enough completed
          let target : Pacing.Target ℚ :=
            ⟨test.settings.rate.toNat, lightSlack test.settings.rate, 0⟩
          have behind (time d sent : ℚ) := @Pacing.Target.behind_of_paid ℚ _ _ _ target time d sent
            ((bitsSent.toNat : ℚ) - seconds * test.settings.rate.toNat)
          apply behind
          · linarith
          · have paid := mul_le_mul_of_nonneg_left rest
              (show (0 : ℚ) ≤ test.settings.rate.toNat by positivity)
            exact (gauged.sleep_pays ahead sleeps).trans (by dsimp only; linarith)
      · obtain rfl := Option.some.inj checked
        exact ⟨le_refl _, nofun, by simpa using product⟩
  · obtain rfl := Option.some.inj checked
    refine ⟨le_refl _, ?_, by simp⟩
    intro green
    have missing := gauged.of_missing (of_decide_eq_true green)
    rw [add_zero]
    linarith

end Iperf
