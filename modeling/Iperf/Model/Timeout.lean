import Iperf.Model.Time

/-! `tmr_timeout`: how long `select(2)` may wait for the first timer. -/

namespace Iperf

/-- `struct timeval`. -/
structure Timeval where
  sec : Nat
  usec : Nat
deriving DecidableEq, Repr

def Timeval.inUsecs (timeval : Timeval) : Nat := timeval.sec * 1000000 + timeval.usec

/-- A number of microseconds in two parts. -/
def Timeval.ofUsecs (usecs : Nat) : Timeval :=
  { sec := usecs / 1000000, usec := usecs % 1000000 }

/-- `tmr_timeout`, with the time of the first timer on the list. -/
def tmrTimeout (first : Option IperfTime) (now : IperfTime) : Option Timeval :=
  first.map fun time =>
    let (past, diff) := iperfTimeDiff time now
    Timeval.ofUsecs (if past then 0 else iperfTimeInUsecs diff)

theorem Timeval.inUsecs_ofUsecs (usecs : Nat) : (Timeval.ofUsecs usecs).inUsecs = usecs := by
  rw [inUsecs, ofUsecs, Nat.div_add_mod']

theorem Timeval.usec_ofUsecs (usecs : Nat) : (Timeval.ofUsecs usecs).usec < 1000000 :=
  Nat.mod_lt _ (by decide)

/-- On normalised times the timeout is the distance to the first timer, or zero. -/
theorem tmrTimeout_normalised {time now : IperfTime} (normal : time.Normalised)
    (normalNow : now.Normalised)
    : tmrTimeout (some time) now
      = some (Timeval.ofUsecs (iperfTimeInUsecs time - iperfTimeInUsecs now)) := by
  have later := iperfTimeDiff_later normal normalNow
  rw [tmrTimeout, Option.map_some]
  cases past : (iperfTimeDiff time now).1 with
  | true =>
      rw [past] at later
      have due : ¬ iperfTimeInUsecs now < iperfTimeInUsecs time := fun order => by
        cases later.mpr order
      rw [Nat.sub_eq_zero_of_le (Nat.le_of_not_lt due)]
      simp [past]
  | false =>
      have order := later.mp past
      rw [← iperfTimeDiff_inUsecs normal normalNow order]
      simp [past]

end Iperf
