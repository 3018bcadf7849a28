import Iperf.Library.DoubleRounding
import Iperf.Library.ScanFormat
import Mathlib.Data.Nat.Digits.Lemmas
import Mathlib.Data.Rat.Cast.Order

/-! Numbers as decimal texts: the conversion `%g` of `printf`, and the longest number at the start
of a text, as `strtod` reads it.
-/

namespace DecimalText

open DoubleRounding ScanFormat

-----------------------------------------------------------------------------------------
-- Printing
-----------------------------------------------------------------------------------------

/-- The significant digits of a positive number, as a number, and the exponent of the first. -/
def significant (precision : ℕ) (q : ℚ) : ℕ × ℤ :=
  let lead := Int.log 10 q
  let scaled := (roundEven (q / 10 ^ (lead + 1 - precision))).toNat
  -- rounding up may carry into one more digit
  if scaled = 10 ^ precision then (10 ^ (precision - 1), lead + 1) else (scaled, lead)

/-- `%g` removes the zeros at the end. -/
def trimZeros (run : List UInt8) : List UInt8 := run.rdropWhile (· = 48)

/-- The decimals with their point, if any are left. -/
def decimals (run : List UInt8) : List UInt8 :=
  if trimZeros run = [] then [] else 46 :: trimZeros run

/-- The exponent has a sign and two digits at least. -/
def exponentText (x : ℤ) : List UInt8 :=
  101 :: (if x < 0 then 45 else 43) :: (if x.natAbs < 10 then [48] else []) ++ digits x.natAbs

/-- `%g` of a positive number. -/
def positiveText (precision : ℕ) (q : ℚ) : List UInt8 :=
  let (m, x) := significant precision q
  let run := digits m
  if x < -4 ∨ precision ≤ x then
    run.take 1 ++ decimals (run.drop 1) ++ exponentText x
  else if x < 0 then
    48 :: decimals (List.replicate (-x - 1).toNat 48 ++ run)
  else
    run.take (x + 1).toNat ++ decimals (run.drop (x + 1).toNat)

/-- `%g` of a finite number. -/
def general (precision : ℕ) (q : ℚ) : List UInt8 :=
  if q = 0 then [48]
  else if q < 0 then 45 :: positiveText precision (-q)
  else positiveText precision q

/-- The number that `%g` prints. -/
def decimalRounded (precision : ℕ) (q : ℚ) : ℚ :=
  if q = 0 then 0
  else
    let entry := significant precision |q|
    (if q < 0 then -1 else 1) * (entry.1 * 10 ^ (entry.2 + 1 - precision))

-----------------------------------------------------------------------------------------
-- Reading
-----------------------------------------------------------------------------------------

/-- Digits with an optional point: their value, the number of decimals and what follows. -/
def readMantissa (input : List UInt8) : Option (ℕ × ℕ × List UInt8) :=
  let whole := input.takeWhile isDigit
  match input.dropWhile isDigit with
  | 46 :: behind =>
      let run := behind.takeWhile isDigit
      if whole = [] ∧ run = [] then none
      else some (digitsValue (whole ++ run), run.length, behind.dropWhile isDigit)
  | rest => if whole = [] then none else some (digitsValue whole, 0, rest)

/-- An exponent is only one with digits. -/
def readExponent (input : List UInt8) : ℤ × List UInt8 :=
  match input with
  | c :: behind =>
      if c = 101 ∨ c = 69 then (signedNumber behind).getD (0, input) else (0, input)
  | [] => (0, [])

def readUnsigned (input : List UInt8) : Option (ℚ × List UInt8) :=
  (readMantissa input).map fun (m, places, behind) =>
    let (x, rest) := readExponent behind
    (m * 10 ^ (x - places), rest)

/-- The exact value of the longest number at the start of a text. -/
def readNumber : List UInt8 → Option (ℚ × List UInt8)
  | 45 :: rest => (readUnsigned rest).map fun (value, rest) => (-value, rest)
  | 43 :: rest => readUnsigned rest
  | input => readUnsigned input

theorem unsignedNumber_suffix {input rest : List UInt8} {n : ℕ}
    (read : unsignedNumber input = some (n, rest))
    : rest <:+ input := by
  unfold unsignedNumber at read
  dsimp only at read
  split_ifs at read
  cases read
  exact List.dropWhile_suffix _

theorem signedNumber_suffix {input rest : List UInt8} {n : ℤ}
    (read : signedNumber input = some (n, rest))
    : rest <:+ input := by
  have later {behind : List UInt8} {f : ℕ × List UInt8 → ℤ × List UInt8}
      (keeps : ∀ entry, (f entry).2 = entry.2)
      (read : (unsignedNumber behind).map f = some (n, rest))
      : rest <:+ behind := by
    obtain ⟨entry, found, same⟩ := Option.map_eq_some_iff.mp read
    have kept : rest = entry.2 := by rw [← keeps entry, same]
    subst kept
    exact unsignedNumber_suffix found
  unfold signedNumber at read
  split at read
  · exact (later (fun _ => rfl) read).trans (List.suffix_cons _ _)
  · exact (later (fun _ => rfl) read).trans (List.suffix_cons _ _)
  · exact later (fun _ => rfl) read

theorem readMantissa_suffix {input rest : List UInt8} {m places : ℕ}
    (read : readMantissa input = some (m, places, rest))
    : rest <:+ input := by
  have digits : input.dropWhile isDigit <:+ input := List.dropWhile_suffix _
  unfold readMantissa at read
  dsimp only at read
  split at read
  · next behind shape =>
      split_ifs at read
      cases read
      rw [shape] at digits
      exact (List.dropWhile_suffix _).trans ((List.suffix_cons _ _).trans digits)
  · split_ifs at read
    cases read
    exact digits

theorem readExponent_suffix (input : List UInt8) : (readExponent input).2 <:+ input := by
  cases input with
  | nil => exact List.suffix_rfl
  | cons c behind =>
      unfold readExponent
      dsimp only
      split_ifs
      · cases read : signedNumber behind with
        | none => exact List.suffix_rfl
        | some entry => exact (signedNumber_suffix (n := entry.1) read).trans (List.suffix_cons _ _)
      · exact List.suffix_rfl

/-- What is left behind a number is the end of the text. -/
theorem readNumber_suffix {input rest : List UInt8} {value : ℚ}
    (read : readNumber input = some (value, rest))
    : rest <:+ input := by
  have unsigned {behind rest : List UInt8} {value : ℚ}
      (read : readUnsigned behind = some (value, rest))
      : rest <:+ behind := by
    obtain ⟨⟨m, places, between⟩, mantissa, same⟩ := Option.map_eq_some_iff.mp read
    obtain ⟨-, rfl⟩ := Prod.mk.inj same
    exact (readExponent_suffix between).trans (readMantissa_suffix mantissa)
  unfold readNumber at read
  split at read
  · next behind =>
      obtain ⟨⟨value', rest'⟩, found, same⟩ := Option.map_eq_some_iff.mp read
      obtain ⟨-, rfl⟩ := Prod.mk.inj same
      exact (unsigned found).trans (List.suffix_cons _ _)
  · exact (unsigned read).trans (List.suffix_cons _ _)
  · exact unsigned read

-----------------------------------------------------------------------------------------
-- Runs of digits
-----------------------------------------------------------------------------------------

theorem digitsValue_append (front back : List UInt8)
    : digitsValue (front ++ back) = digitsValue front * 10 ^ back.length + digitsValue back := by
  induction back using List.reverseRecOn with
  | nil => simp [digitsValue]
  | append_singleton back c ih =>
      have last (run : List UInt8)
          : digitsValue (run ++ [c]) = 10 * digitsValue run + (c.toNat - 48) := by
        simp only [digitsValue, List.foldl_append, List.foldl_cons, List.foldl_nil]
      rw [← List.append_assoc, last, last, ih, List.length_append, List.length_singleton, pow_succ]
      ring

theorem digitsValue_zeros (n : ℕ) : digitsValue (List.replicate n 48) = 0 := by
  induction n with
  | zero => rfl
  | succ n ih =>
      rw [List.replicate_succ', digitsValue_append, ih]
      rfl

/-- The removed zeros are all that was removed. -/
theorem trimZeros_append (run : List UInt8)
    : ∃ n, run = trimZeros run ++ List.replicate n 48 := by
  refine ⟨(run.rtakeWhile (· = 48)).length, ?_⟩
  have zeros : run.rtakeWhile (· = 48) = List.replicate (run.rtakeWhile (· = 48)).length 48 := by
    refine List.eq_replicate_iff.mpr ⟨rfl, fun c member => ?_⟩
    have zero := List.mem_rtakeWhile_imp member
    exact of_decide_eq_true zero
  rw [← zeros]
  exact List.rdropWhile_append_rtakeWhile.symm

/-- The zeros at the end of the decimals do not count. -/
theorem trimZeros_value (front run : List UInt8)
    : (digitsValue (front ++ trimZeros run) : ℚ) * 10 ^ (-((trimZeros run).length : ℤ))
      = digitsValue (front ++ run) * 10 ^ (-(run.length : ℤ)) := by
  obtain ⟨n, whole⟩ := trimZeros_append run
  have length : (run.length : ℤ) = (trimZeros run).length + n := by
    have same := congrArg List.length whole
    rw [List.length_append, List.length_replicate] at same
    exact_mod_cast same
  have value : digitsValue (front ++ run) = digitsValue (front ++ trimZeros run) * 10 ^ n := by
    rw [whole, ← List.append_assoc, digitsValue_append, digitsValue_zeros, List.length_replicate,
      ← whole]
    rfl
  rw [value, length, neg_add, zpow_add₀ (by norm_num)]
  push_cast
  rw [zpow_neg (10 : ℚ) n, zpow_natCast]
  field_simp

theorem trimZeros_subset {run : List UInt8} {c : UInt8} (member : c ∈ trimZeros run) : c ∈ run :=
  (List.rdropWhile_prefix _ run).subset member

/-- A number between two powers of ten has that many digits. -/
theorem length_digits {n places : ℕ} (low : 10 ^ places ≤ n) (high : n < 10 ^ (places + 1))
    : (digits n).length = places + 1 := by
  have positive : n ≠ 0 := (lt_of_lt_of_le (by positivity) low).ne'
  unfold digits
  rw [if_neg positive, List.length_map, List.length_reverse,
    Nat.length_digits 10 n (by norm_num) positive]
  exact congrArg (· + 1) (Nat.log_eq_of_pow_le_of_lt_pow low high)

-----------------------------------------------------------------------------------------
-- What is printed is read back
-----------------------------------------------------------------------------------------

/-- A text that does not go on with a part of a number. -/
def Stops (tail : List UInt8) : Prop :=
  ∀ c ∈ tail.head?, isDigit c = false ∧ c ≠ 46 ∧ c ≠ 101 ∧ c ≠ 69

theorem Stops.noDigit {tail : List UInt8} (stops : Stops tail) : NoDigit tail :=
  fun c first => (stops c first).1

theorem unsignedNumber_run {run tail : List UInt8} (all : ∀ c ∈ run, isDigit c = true)
    (nonempty : run ≠ []) (stops : NoDigit tail)
    : unsignedNumber (run ++ tail) = some (digitsValue run, tail) := by
  obtain ⟨front, rest⟩ := TextLines.span_append all stops
  unfold unsignedNumber
  dsimp only
  rw [front, rest, if_neg nonempty]

theorem readExponent_exponentText (x : ℤ) {tail : List UInt8} (stops : NoDigit tail)
    : readExponent (exponentText x ++ tail) = (x, tail) := by
  have padded : digitsValue ((if x.natAbs < 10 then [48] else []) ++ digits x.natAbs)
      = x.natAbs := by
    rw [digitsValue_append, digitsValue_digits]
    split_ifs <;> simp [digitsValue]
  have all : ∀ c ∈ (if x.natAbs < 10 then [48] else []) ++ digits x.natAbs, isDigit c = true := by
    intro c member
    rcases List.mem_append.mp member with pad | digit
    · split_ifs at pad
      · obtain rfl := List.mem_singleton.mp pad
        rfl
      · cases pad
    · exact isDigit_of_mem digit
  have nonempty : (if x.natAbs < 10 then [48] else []) ++ digits x.natAbs ≠ [] :=
    List.append_ne_nil_of_right_ne_nil _ (digits_ne_nil _)
  have read := unsignedNumber_run all nonempty stops
  rw [padded] at read
  unfold exponentText
  split_ifs with negative
  all_goals
    simp only [List.cons_append, readExponent, true_or, if_true, signedNumber]
    simp only [List.nil_append, List.cons_append, *, if_true, if_false] at read ⊢
    rw [read]
    simp only [Option.map_some, Option.getD_some, Prod.mk.injEq, and_true]
    omega

theorem readExponent_stops {tail : List UInt8} (stops : Stops tail)
    : readExponent tail = (0, tail) := by
  cases tail with
  | nil => rfl
  | cons c behind =>
      obtain ⟨-, -, small, large⟩ := stops c rfl
      exact if_neg (not_or.mpr ⟨small, large⟩)

/-- Digits and their decimals are read completely. -/
theorem readMantissa_decimals {front run tail : List UInt8}
    (frontDigits : ∀ c ∈ front, isDigit c = true) (runDigits : ∀ c ∈ run, isDigit c = true)
    (nonempty : front ≠ []) (stops : NoDigit tail) (point : ∀ c ∈ tail.head?, c ≠ 46)
    : ∃ m places, readMantissa (front ++ (decimals run ++ tail)) = some (m, places, tail)
      ∧ (m : ℚ) * 10 ^ (-(places : ℤ)) = digitsValue (front ++ run) * 10 ^ (-(run.length : ℤ)) := by
  have value := trimZeros_value front run
  unfold decimals
  by_cases none_ : trimZeros run = []
  · rw [if_pos none_, List.nil_append]
    obtain ⟨whole, rest⟩ := TextLines.span_append frontDigits stops
    rw [none_, List.append_nil] at value
    refine ⟨digitsValue front, 0, ?_, value⟩
    unfold readMantissa
    dsimp only
    rw [whole, rest]
    split
    · exact absurd rfl (point 46 rfl)
    · rw [if_neg nonempty]
  · rw [if_neg none_, List.cons_append]
    have dot : ∀ c ∈ (46 :: (trimZeros run ++ tail)).head?, isDigit c = false := by
      intro c first
      obtain rfl := Option.some.inj first
      rfl
    obtain ⟨whole, rest⟩ := TextLines.span_append frontDigits dot
    obtain ⟨places, behind⟩ := TextLines.span_append
      (fun c member => runDigits c (trimZeros_subset member)) stops
    refine ⟨digitsValue (front ++ trimZeros run), (trimZeros run).length, ?_, value⟩
    unfold readMantissa
    dsimp only
    rw [whole, rest]
    simp only [places, behind]
    rw [if_neg (fun both => nonempty both.1)]

theorem ten_zpow_pos (k : ℤ) : (0 : ℚ) < 10 ^ k := by positivity

/-- The significant digits, before a carry. -/
theorem scaled_bounds {precision : ℕ} {q : ℚ} (positive : 0 < q) (some_ : 0 < precision)
    : (10 : ℤ) ^ (precision - 1) ≤ roundEven (q / 10 ^ (Int.log 10 q + 1 - precision))
      ∧ roundEven (q / 10 ^ (Int.log 10 q + 1 - precision)) ≤ (10 : ℤ) ^ precision := by
  have low : (10 : ℚ) ^ Int.log 10 q ≤ q := by
    exact_mod_cast Int.zpow_log_le_self (b := 10) (by norm_num) positive
  have high : q < (10 : ℚ) ^ (Int.log 10 q + 1) := by
    exact_mod_cast Int.lt_zpow_succ_log_self (b := 10) (by norm_num) q
  have unit := ten_zpow_pos (Int.log 10 q + 1 - precision)
  have first : (10 : ℚ) ^ Int.log 10 q
      = 10 ^ (precision - 1) * 10 ^ (Int.log 10 q + 1 - precision) := by
    rw [← zpow_natCast, ← zpow_add₀ (by norm_num)]
    congr 1
    omega
  have last : (10 : ℚ) ^ (Int.log 10 q + 1)
      = 10 ^ precision * 10 ^ (Int.log 10 q + 1 - precision) := by
    rw [← zpow_natCast, ← zpow_add₀ (by norm_num)]
    congr 1
    omega
  constructor
  · apply le_roundEven
    rw [le_div_iff₀ unit]
    push_cast
    rw [← first]
    exact low
  · apply roundEven_le
    rw [div_le_iff₀ unit]
    push_cast
    rw [← last]
    exact high.le

/-- The significant digits fill the precision. -/
theorem significant_bounds {precision : ℕ} {q : ℚ} (positive : 0 < q) (some_ : 0 < precision)
    : 10 ^ (precision - 1) ≤ (significant precision q).1
      ∧ (significant precision q).1 < 10 ^ precision := by
  obtain ⟨low, high⟩ := scaled_bounds positive some_
  have step : 10 ^ (precision - 1) < 10 ^ precision :=
    Nat.pow_lt_pow_right (by norm_num) (by omega)
  have low' : ((10 ^ (precision - 1) : ℕ) : ℤ)
      ≤ roundEven (q / 10 ^ (Int.log 10 q + 1 - precision)) := by exact_mod_cast low
  have high' : roundEven (q / 10 ^ (Int.log 10 q + 1 - precision))
      ≤ ((10 ^ precision : ℕ) : ℤ) := by exact_mod_cast high
  unfold significant
  dsimp only
  split_ifs with carry
  · exact ⟨le_rfl, step⟩
  · have nonneg := (Int.natCast_nonneg _).trans low'
    exact ⟨(Int.le_toNat nonneg).mpr low', lt_of_le_of_ne (Int.toNat_le.mpr high') carry⟩

/-- A carry does not change the number. -/
theorem significant_value {precision : ℕ} {q : ℚ} (positive : 0 < q) (some_ : 0 < precision)
    : ((significant precision q).1 : ℚ) * 10 ^ ((significant precision q).2 + 1 - precision)
      = roundEven (q / 10 ^ (Int.log 10 q + 1 - precision))
        * 10 ^ (Int.log 10 q + 1 - precision) := by
  obtain ⟨low, -⟩ := scaled_bounds positive some_
  have natural : ((roundEven (q / 10 ^ (Int.log 10 q + 1 - precision))).toNat : ℚ)
      = roundEven (q / 10 ^ (Int.log 10 q + 1 - precision)) := by
    have nonneg : (0 : ℤ) ≤ 10 ^ (precision - 1) := by positivity
    exact_mod_cast Int.toNat_of_nonneg (nonneg.trans low)
  unfold significant
  dsimp only
  split_ifs with carry
  · rw [← natural, carry]
    push_cast
    rw [← zpow_natCast, ← zpow_natCast, ← zpow_add₀ (by norm_num), ← zpow_add₀ (by norm_num)]
    congr 1
    omega
  · rw [natural]

/-- What `%g` prints of a positive number is read back as the rounded number. -/
theorem readUnsigned_positiveText {precision : ℕ} {q : ℚ} {tail : List UInt8} (positive : 0 < q)
    (some_ : 0 < precision) (stops : Stops tail)
    : readUnsigned (positiveText precision q ++ tail)
      = some (((significant precision q).1 : ℚ)
          * 10 ^ ((significant precision q).2 + 1 - precision), tail) := by
  obtain ⟨low, high⟩ := significant_bounds positive some_
  have places : precision - 1 + 1 = precision := by omega
  unfold positiveText
  generalize significant precision q = entry at low high ⊢
  obtain ⟨m, x⟩ := entry
  dsimp only at low high ⊢
  have length : (digits m).length = precision := by
    rw [length_digits low (by rw [places]; exact high), places]
  have all : ∀ c ∈ digits m, isDigit c = true := fun c => isDigit_of_mem
  have nonempty (n : ℕ) : (digits m).take (n + 1) ≠ [] := by
    rw [ne_eq, ← List.length_eq_zero_iff, List.length_take]
    omega
  have mantissa {front run behind : List UInt8} {k : ℤ} {rest : List UInt8}
      (value : digitsValue (front ++ run) = m) (frontDigits : ∀ c ∈ front, isDigit c = true)
      (runDigits : ∀ c ∈ run, isDigit c = true) (nonempty : front ≠ [])
      (noDigit : NoDigit behind) (point : ∀ c ∈ behind.head?, c ≠ 46)
      (exponent : readExponent behind = (k, rest)) (same : k - run.length = x + 1 - precision)
      : readUnsigned (front ++ (decimals run ++ behind))
        = some ((m : ℚ) * 10 ^ (x + 1 - precision), rest) := by
    obtain ⟨m', places', read, agrees⟩ :=
      readMantissa_decimals frontDigits runDigits nonempty noDigit point
    have number : (m' : ℚ) * 10 ^ (k - places') = m * 10 ^ (x + 1 - precision) := by
      rw [sub_eq_add_neg, zpow_add₀ (by norm_num), mul_left_comm, agrees, value, ← same,
        sub_eq_add_neg k, zpow_add₀ (by norm_num)]
      ring
    rw [readUnsigned, read, Option.map_some]
    dsimp only
    rw [exponent]
    dsimp only
    rw [number]
  split_ifs with scientific small
  · have letter : ∀ c ∈ (exponentText x ++ tail).head?, isDigit c = false ∧ c ≠ 46 := by
      intro c first
      obtain rfl := Option.some.inj first
      exact ⟨rfl, by decide⟩
    rw [List.append_assoc, List.append_assoc]
    refine mantissa ?_ (fun c member => all c (List.mem_of_mem_take member))
      (fun c member => all c (List.mem_of_mem_drop member)) (nonempty 0)
      (fun c first => (letter c first).1) (fun c first => (letter c first).2)
      (readExponent_exponentText x stops.noDigit) ?_
    · rw [List.take_append_drop, digitsValue_digits]
    · rw [List.length_drop, length]
      omega
  · refine mantissa ?_ ?_ ?_ (List.cons_ne_nil 48 []) stops.noDigit
      (fun c first => (stops c first).2.1) (readExponent_stops stops) ?_
    · rw [← List.append_assoc, digitsValue_append, digitsValue_append, digitsValue_zeros,
        digitsValue_digits]
      simp [digitsValue]
    · intro c member
      obtain rfl := List.mem_singleton.mp member
      rfl
    · intro c member
      rcases List.mem_append.mp member with zero | digit
      · obtain rfl := List.eq_of_mem_replicate zero
        rfl
      · exact all c digit
    · rw [List.length_append, List.length_replicate, length]
      omega
  · obtain ⟨n, whole⟩ := Int.eq_ofNat_of_zero_le (not_lt.mp small)
    subst whole
    rw [List.append_assoc]
    refine mantissa ?_ (fun c member => all c (List.mem_of_mem_take member))
      (fun c member => all c (List.mem_of_mem_drop member)) (nonempty n) stops.noDigit
      (fun c first => (stops c first).2.1) (readExponent_stops stops) ?_
    · rw [List.take_append_drop, digitsValue_digits]
    · rw [List.length_drop, length]
      omega

/-- A number whose text starts with a digit is read without a sign. -/
theorem readNumber_unsigned {c : UInt8} {rest : List UInt8} (digit : isDigit c = true)
    : readNumber (c :: rest) = readUnsigned (c :: rest) := by
  unfold readNumber
  split
  · next same =>
      obtain ⟨rfl, -⟩ := List.cons.inj same
      cases digit
  · next same =>
      obtain ⟨rfl, -⟩ := List.cons.inj same
      cases digit
  · rfl

theorem positiveText_head (precision : ℕ) (q : ℚ)
    : ∃ c rest, positiveText precision q = c :: rest ∧ isDigit c = true := by
  unfold positiveText
  generalize significant precision q = entry
  obtain ⟨m, x⟩ := entry
  obtain ⟨c, rest, shape⟩ := List.exists_cons_of_ne_nil (digits_ne_nil m)
  have digit : isDigit c = true := isDigit_of_mem (n := m) (shape ▸ List.mem_cons_self)
  dsimp only
  rw [shape]
  split_ifs with scientific small
  · exact ⟨c, _, rfl, digit⟩
  · exact ⟨48, _, rfl, rfl⟩
  · obtain ⟨n, whole⟩ := Int.eq_ofNat_of_zero_le (not_lt.mp small)
    subst whole
    exact ⟨c, _, rfl, digit⟩

/-- What `%g` prints is read back as the rounded number. -/
theorem readNumber_general {precision : ℕ} {q : ℚ} {tail : List UInt8} (some_ : 0 < precision)
    (stops : Stops tail)
    : readNumber (general precision q ++ tail) = some (decimalRounded precision q, tail) := by
  unfold general decimalRounded
  split_ifs with zero negative
  · have read : readUnsigned (48 :: tail) = some (0, tail) := by
      have front : ∀ c ∈ [(48 : UInt8)], isDigit c = true := by simp [isDigit]
      obtain ⟨m, places, mantissa, value⟩ := readMantissa_decimals front
        (List.forall_mem_nil (isDigit · = true)) (List.cons_ne_nil _ _) stops.noDigit
        (fun c first => (stops c first).2.1)
      have zeros : (digitsValue ([48] ++ []) : ℚ) = 0 := by simp [digitsValue]
      rw [zeros, zero_mul] at value
      have none_ : decimals [] = [] := rfl
      rw [none_] at mantissa
      simp only [List.nil_append, List.singleton_append] at mantissa
      rw [readUnsigned, mantissa, Option.map_some]
      dsimp only
      rw [readExponent_stops stops]
      dsimp only
      rw [zero_sub, value]
    exact (readNumber_unsigned rfl).trans read
  · have read := readUnsigned_positiveText (neg_pos.mpr negative) some_ stops
    rw [List.cons_append, readNumber, read, Option.map_some, abs_of_neg negative]
    dsimp only
    rw [neg_one_mul]
  · have positive := lt_of_le_of_ne (not_lt.mp negative) (Ne.symm zero)
    obtain ⟨c, rest, shape, digit⟩ := positiveText_head precision q
    have read := readUnsigned_positiveText positive some_ stops
    rw [shape] at read ⊢
    rw [List.cons_append, readNumber_unsigned digit, ← List.cons_append, read, abs_of_pos positive]
    dsimp only
    rw [one_mul]

theorem readNumber_decimal (n : ℤ) {tail : List UInt8} (stops : Stops tail)
    : readNumber (decimal n ++ tail) = some ((n : ℚ), tail) := by
  have read : readUnsigned (digits n.natAbs ++ tail) = some ((n.natAbs : ℚ), tail) := by
    obtain ⟨m, places, mantissa, value⟩ := readMantissa_decimals
      (fun c => isDigit_of_mem (n := n.natAbs)) (List.forall_mem_nil (isDigit · = true))
      (digits_ne_nil n.natAbs) stops.noDigit (fun c first => (stops c first).2.1)
    have none_ : decimals [] = [] := rfl
    rw [none_] at mantissa
    simp only [List.nil_append] at mantissa
    rw [readUnsigned, mantissa, Option.map_some]
    dsimp only
    rw [readExponent_stops stops]
    dsimp only
    rw [zero_sub, value, List.append_nil, digitsValue_digits]
    simp
  unfold decimal
  split_ifs with negative
  · have magnitude : -((n.natAbs : ℤ) : ℚ) = n := by
      have same : -(n.natAbs : ℤ) = n := by omega
      exact_mod_cast same
    rw [List.cons_append, readNumber, read, Option.map_some]
    simp only [← magnitude, Int.cast_natCast]
  · have magnitude : ((n.natAbs : ℤ) : ℚ) = n := by
      have same : (n.natAbs : ℤ) = n := by omega
      exact_mod_cast same
    obtain ⟨c, rest, shape⟩ := List.exists_cons_of_ne_nil (digits_ne_nil n.natAbs)
    have digit : isDigit c = true := isDigit_of_mem (n := n.natAbs) (shape ▸ List.mem_cons_self)
    rw [shape] at read ⊢
    rw [List.cons_append, readNumber_unsigned digit, ← List.cons_append, read, ← magnitude,
      Int.cast_natCast]

theorem abs_significant_sub_le {precision : ℕ} {q : ℚ} (positive : 0 < q) (some_ : 0 < precision)
    : |((significant precision q).1 : ℚ) * 10 ^ ((significant precision q).2 + 1 - precision) - q|
      ≤ q / (2 * 10 ^ (precision - 1)) := by
  have unit := ten_zpow_pos (Int.log 10 q + 1 - precision)
  have low : (10 : ℚ) ^ Int.log 10 q ≤ q := by
    exact_mod_cast Int.zpow_log_le_self (b := 10) (by norm_num) positive
  have half := abs_roundEven_sub_le (q / 10 ^ (Int.log 10 q + 1 - precision))
  have first : (10 : ℚ) ^ Int.log 10 q
      = 10 ^ (precision - 1) * 10 ^ (Int.log 10 q + 1 - precision) := by
    rw [← zpow_natCast, ← zpow_add₀ (by norm_num)]
    congr 1
    omega
  rw [first] at low
  rw [significant_value positive some_]
  generalize (10 : ℚ) ^ (Int.log 10 q + 1 - precision) = unit' at *
  have scaled : (roundEven (q / unit') : ℚ) * unit' - q
      = (roundEven (q / unit') - q / unit') * unit' := by
    field_simp
  rw [scaled, abs_mul, abs_of_pos unit, le_div_iff₀ (by positivity)]
  calc |(roundEven (q / unit') : ℚ) - q / unit'| * unit' * (2 * 10 ^ (precision - 1))
      ≤ 1 / 2 * unit' * (2 * 10 ^ (precision - 1)) := by gcongr
    _ = 10 ^ (precision - 1) * unit' := by ring
    _ ≤ q := low

/-- The printed number differs by half of its last digit at most. -/
theorem abs_decimalRounded_sub_le {precision : ℕ} (q : ℚ) (some_ : 0 < precision)
    : |decimalRounded precision q - q| ≤ |q| / (2 * 10 ^ (precision - 1)) := by
  unfold decimalRounded
  split_ifs with zero negative
  · simp [zero]
  · have near := abs_significant_sub_le (neg_pos.mpr negative) some_
    rw [abs_of_neg negative]
    dsimp only
    rw [neg_one_mul, ← abs_neg, neg_sub, sub_neg_eq_add, add_comm]
    rw [sub_neg_eq_add] at near
    exact near
  · have positive := lt_of_le_of_ne (not_lt.mp negative) (Ne.symm zero)
    have near := abs_significant_sub_le positive some_
    rw [abs_of_pos positive]
    dsimp only
    rw [one_mul]
    exact near

/-- A number near a decimal one with as many digits is rounded to it. -/
theorem decimalRounded_near {precision m : ℕ} {k : ℤ} {q : ℚ} (some_ : 0 < precision)
    (low : 10 ^ (precision - 1) ≤ m) (high : m < 10 ^ precision)
    (near : |q - m * 10 ^ k| < m * 10 ^ k / (2 * 10 ^ precision))
    : decimalRounded precision q = m * 10 ^ k := by
  have unit := ten_zpow_pos k
  have low' : (10 : ℚ) ^ (precision - 1) ≤ m := by exact_mod_cast low
  have high' : (m : ℚ) + 1 ≤ 10 ^ precision := by exact_mod_cast high
  have tenfold : (10 : ℚ) ^ precision = 10 * 10 ^ (precision - 1) := by
    rw [← pow_succ', Nat.sub_add_cancel some_]
  have first : (10 : ℚ) ^ (precision - 1 + k) = 10 ^ (precision - 1) * 10 ^ k := by
    rw [zpow_add₀ (by norm_num), ← zpow_natCast, Nat.cast_pred some_]
  have power : (1 : ℚ) ≤ 10 ^ (precision - 1) := one_le_pow₀ (by norm_num)
  obtain ⟨p, pIs⟩ : ∃ p : ℚ, p = 10 ^ (precision - 1) := ⟨_, rfl⟩
  rw [← pIs] at low' tenfold first power
  rw [tenfold] at near high'
  have half : (m : ℚ) * 10 ^ k / (2 * (10 * p)) < 10 ^ k / 2 := by
    rw [div_lt_div_iff₀ (by positivity) (by norm_num)]
    nlinarith only [unit, high', power]
  obtain ⟨below, above⟩ := abs_lt.mp near
  have size : (m : ℚ) * 10 ^ k / (2 * (10 * p)) ≤ m * 10 ^ k / 20 := by
    have nonneg : 0 ≤ (m : ℚ) * 10 ^ k := by positivity
    refine div_le_div_of_nonneg_left nonneg (by norm_num) (by linarith)
  have positive : 0 < q := by
    have some_ : 0 < (m : ℚ) * 10 ^ k := by
      have digits : (0 : ℚ) < m := by linarith
      positivity
    linarith
  have shape : decimalRounded precision q
      = roundEven (q / 10 ^ (Int.log 10 q + 1 - precision))
        * 10 ^ (Int.log 10 q + 1 - precision) := by
    rw [decimalRounded, if_neg positive.ne', if_neg positive.le.not_gt, abs_of_pos positive,
      one_mul, significant_value positive some_]
  rw [shape]
  have lead : (10 : ℚ) ^ Int.log 10 q ≤ q := by
    exact_mod_cast Int.zpow_log_le_self (b := 10) (by norm_num) positive
  have next : q < (10 : ℚ) ^ (Int.log 10 q + 1) := by
    exact_mod_cast Int.lt_zpow_succ_log_self (b := 10) (by norm_num) q
  rcases lt_trichotomy (Int.log 10 q + 1 - precision) k with finer | same | coarser
  · -- the digits of the number are finer: then the decimal one is a power of ten
    have bound : q < p * 10 ^ k := by
      rw [← first]
      exact next.trans_le (zpow_le_zpow_right₀ (by norm_num) (by omega))
    have digits : m = 10 ^ (precision - 1) := by
      refine le_antisymm (Nat.lt_succ_iff.mp (not_le.mp fun more => ?_)) low
      have more' : p + 1 ≤ m := by
        rw [pIs]
        exact_mod_cast more
      nlinarith only [more', bound, below, half, unit]
    have digits' : (m : ℚ) = p := by
      rw [digits, pIs]
      push_cast
      rfl
    have tenth : (10 : ℚ) ^ k = 10 * 10 ^ (k - 1) := by
      rw [← zpow_one_add₀ (by norm_num)]
      congr 1
      ring
    have exponent : Int.log 10 q + 1 - precision = k - 1 := by
      have reach : (10 : ℚ) ^ (precision - 1 + (k - 1)) ≤ q := by
        have split : (10 : ℚ) ^ ((precision : ℤ) - 1 + (k - 1)) = p * 10 ^ (k - 1) := by
          rw [zpow_add₀ (by norm_num), pIs, ← zpow_natCast, Nat.cast_pred some_]
        have unit' := ten_zpow_pos (k - 1)
        rw [split]
        rw [digits', tenth] at below size
        nlinarith only [below, size, unit', power]
      have least : (precision : ℤ) - 1 + (k - 1) ≤ Int.log 10 q :=
        (Int.zpow_le_iff_le_log (b := 10) (by norm_num) positive).mp (by push_cast; exact reach)
      omega
    have unit' := ten_zpow_pos (k - 1)
    have exactly : roundEven (q / 10 ^ (k - 1)) = 10 * m := by
      refine roundEven_eq ?_
      have scaled : q / 10 ^ (k - 1) - ((10 * m : ℤ) : ℚ) = (q - m * 10 ^ k) / 10 ^ (k - 1) := by
        rw [tenth]
        push_cast
        field_simp
      rw [scaled, abs_div, abs_of_pos unit', div_lt_iff₀ unit']
      refine near.trans_eq ?_
      rw [digits', tenth]
      field_simp
    rw [exponent, exactly, tenth]
    push_cast
    ring
  · have exactly : roundEven (q / 10 ^ k) = m := by
      refine roundEven_eq ?_
      have scaled : q / 10 ^ k - ((m : ℤ) : ℚ) = (q - m * 10 ^ k) / 10 ^ k := by
        push_cast
        field_simp
      rw [scaled, abs_div, abs_of_pos unit, div_lt_iff₀ unit]
      linarith
    rw [same, exactly]
    push_cast
    rfl
  · have reach : (10 * p) * 10 ^ k ≤ q := by
      have split : (10 : ℚ) ^ ((precision : ℤ) + k) = (10 * p) * 10 ^ k := by
        rw [zpow_add₀ (by norm_num), zpow_natCast, tenfold]
      rw [← split]
      exact (zpow_le_zpow_right₀ (by norm_num) (by omega)).trans lead
    nlinarith only [reach, above, half, high', unit]

theorem decimalRounded_neg (precision : ℕ) (q : ℚ)
    : decimalRounded precision (-q) = -decimalRounded precision q := by
  unfold decimalRounded
  rcases lt_trichotomy q 0 with negative | rfl | positive
  · rw [if_neg (neg_ne_zero.mpr negative.ne), if_neg negative.ne, abs_neg, if_pos negative,
      if_neg (neg_pos.mpr negative).le.not_gt]
    ring
  · simp
  · rw [if_neg (neg_ne_zero.mpr positive.ne'), if_neg positive.ne', abs_neg,
      if_pos (neg_neg_of_pos positive), if_neg positive.le.not_gt]
    ring

/-- Rounding again does not move a number, also if it has been moved a little in between. -/
theorem decimalRounded_again {precision : ℕ} {q r : ℚ} (some_ : 0 < precision)
    (near : |r - decimalRounded precision q| < |decimalRounded precision q| / (2 * 10 ^ precision))
    : decimalRounded precision r = decimalRounded precision q := by
  have positiveCase {q r : ℚ} (positive : 0 < q)
      (near : |r - decimalRounded precision q|
        < |decimalRounded precision q| / (2 * 10 ^ precision))
      : decimalRounded precision r = decimalRounded precision q := by
    have shape : decimalRounded precision q = ((significant precision q).1 : ℚ)
        * 10 ^ ((significant precision q).2 + 1 - precision) := by
      rw [decimalRounded, if_neg positive.ne', if_neg positive.le.not_gt, abs_of_pos positive,
        one_mul]
    obtain ⟨low, high⟩ := significant_bounds positive some_
    have nonneg : 0 ≤ ((significant precision q).1 : ℚ)
        * 10 ^ ((significant precision q).2 + 1 - precision) := by positivity
    rw [shape, abs_of_nonneg nonneg] at near
    rw [shape]
    exact decimalRounded_near some_ low high near
  rcases lt_trichotomy q 0 with negative | rfl | positive
  · have mirrored := positiveCase (q := -q) (r := -r) (neg_pos.mpr negative) (by
      rw [decimalRounded_neg, abs_neg, sub_neg_eq_add, neg_add_eq_sub, abs_sub_comm]
      exact near)
    rw [decimalRounded_neg, decimalRounded_neg] at mirrored
    exact neg_inj.mp mirrored
  · have zero : decimalRounded precision 0 = 0 := if_pos rfl
    rw [zero, abs_zero, zero_div] at near
    exact absurd near (abs_nonneg _).not_gt
  · exact positiveCase positive near

-----------------------------------------------------------------------------------------
-- The shape of the texts
-----------------------------------------------------------------------------------------

/-- The characters that a number may contain. -/
def isNumberChar (c : UInt8) : Bool := isDigit c || c ∈ [43, 45, 46, 69, 101]

theorem isNumberChar_digits {n : ℕ} {c : UInt8} (member : c ∈ digits n)
    : isNumberChar c = true := by
  rw [isNumberChar, isDigit_of_mem member, Bool.true_or]

theorem isNumberChar_decimals {run : List UInt8} (all : ∀ c ∈ run, isNumberChar c = true)
    : ∀ c ∈ decimals run, isNumberChar c = true := by
  intro c member
  unfold decimals at member
  split_ifs at member
  · cases member
  · rcases List.mem_cons.mp member with rfl | digit
    · rfl
    · exact all c (trimZeros_subset digit)

theorem isNumberChar_exponentText (x : ℤ) : ∀ c ∈ exponentText x, isNumberChar c = true := by
  intro c member
  unfold exponentText at member
  rcases List.mem_append.mp member with front | digit
  · split_ifs at front <;> simp only [List.mem_cons, List.not_mem_nil, or_false] at front
      <;> rcases front with rfl | rfl | rfl <;> rfl
  · exact isNumberChar_digits digit

theorem isNumberChar_positiveText (precision : ℕ) (q : ℚ)
    : ∀ c ∈ positiveText precision q, isNumberChar c = true := by
  unfold positiveText
  generalize significant precision q = entry
  obtain ⟨m, x⟩ := entry
  have front (n : ℕ) : ∀ c ∈ (digits m).take n, isNumberChar c = true :=
    fun c member => isNumberChar_digits (List.mem_of_mem_take member)
  have back (n : ℕ) : ∀ c ∈ decimals ((digits m).drop n), isNumberChar c = true :=
    isNumberChar_decimals fun c member => isNumberChar_digits (List.mem_of_mem_drop member)
  dsimp only
  split_ifs with scientific small
  · simp only [List.forall_mem_append]
    exact ⟨⟨front 1, back 1⟩, isNumberChar_exponentText x⟩
  · refine List.forall_mem_cons.mpr ⟨rfl, isNumberChar_decimals ?_⟩
    rw [List.forall_mem_append]
    refine ⟨fun c zero => ?_, fun c => isNumberChar_digits⟩
    rw [List.eq_of_mem_replicate zero]
    rfl
  · rw [List.forall_mem_append]
    exact ⟨front _, back _⟩

theorem isNumberChar_general (precision : ℕ) (q : ℚ)
    : ∀ c ∈ general precision q, isNumberChar c = true := by
  unfold general
  split_ifs
  · simp [isNumberChar, isDigit]
  · exact List.forall_mem_cons.mpr ⟨rfl, isNumberChar_positiveText precision _⟩
  · exact isNumberChar_positiveText precision q

theorem isNumberChar_decimal (n : ℤ) : ∀ c ∈ decimal n, isNumberChar c = true := by
  unfold decimal
  split_ifs
  · exact List.forall_mem_cons.mpr ⟨rfl, fun c => isNumberChar_digits⟩
  · exact fun c => isNumberChar_digits

theorem length_digits_le {n places : ℕ} (some_ : 0 < places) (small : n < 10 ^ places)
    : (digits n).length ≤ places := by
  unfold digits
  split_ifs with zero
  · exact some_
  · rw [List.length_map, List.length_reverse]
    exact (Nat.digits_length_le_iff (by norm_num) n).mpr small

theorem length_decimals_le (run : List UInt8) : (decimals run).length ≤ run.length + 1 := by
  unfold decimals
  split_ifs
  · simp
  · have shorter := (List.rdropWhile_prefix (· = (48 : UInt8)) run).length_le
    rw [List.length_cons]
    exact Nat.succ_le_succ shorter

/-- Of a number of not too many digits the text is short. -/
theorem length_positiveText_le {precision : ℕ} {q : ℚ} (positive : 0 < q) (some_ : 0 < precision)
    (low : (10 : ℚ) ^ (-999 : ℤ) ≤ q) (high : q < 10 ^ (998 : ℤ))
    : (positiveText precision q).length ≤ precision + 6 := by
  have leadLow : -999 ≤ Int.log 10 q :=
    (Int.zpow_le_iff_le_log (by norm_num) positive).mp (by exact_mod_cast low)
  have leadHigh : Int.log 10 q < 998 :=
    (Int.lt_zpow_iff_log_lt (by norm_num) positive).mp (by exact_mod_cast high)
  obtain ⟨filled, below⟩ := significant_bounds positive some_
  have exponent : -999 ≤ (significant precision q).2 ∧ (significant precision q).2 ≤ 998 := by
    unfold significant
    dsimp only
    split_ifs
    · exact ⟨by dsimp only; omega, by dsimp only; omega⟩
    · exact ⟨leadLow, leadHigh.le⟩
  unfold positiveText
  generalize significant precision q = entry at filled below exponent ⊢
  obtain ⟨m, x⟩ := entry
  dsimp only at filled below exponent ⊢
  have length : (digits m).length ≤ precision := length_digits_le some_ below
  have whole : (digits x.natAbs).length ≤ 3 := length_digits_le (by norm_num) (by omega)
  have text : (exponentText x).length ≤ 5 := by
    unfold exponentText
    split_ifs with negative one <;> simp only [List.length_append, List.length_cons,
      List.length_nil]
    · have short := length_digits_le Nat.one_pos (show x.natAbs < 10 ^ 1 by omega)
      omega
    · omega
    · have short := length_digits_le Nat.one_pos (show x.natAbs < 10 ^ 1 by omega)
      omega
    · omega
  split_ifs with scientific small
  · have run := length_decimals_le ((digits m).drop 1)
    simp only [List.length_append, List.length_take, List.length_drop] at run ⊢
    omega
  · have run := length_decimals_le (List.replicate (-x - 1).toNat 48 ++ digits m)
    simp only [List.length_append, List.length_replicate, List.length_cons] at run ⊢
    omega
  · have run := length_decimals_le ((digits m).drop (x + 1).toNat)
    simp only [List.length_append, List.length_take, List.length_drop] at run ⊢
    omega

theorem length_general_le {precision : ℕ} {q : ℚ} (some_ : 0 < precision)
    (range : q ≠ 0 → (10 : ℚ) ^ (-999 : ℤ) ≤ |q| ∧ |q| < 10 ^ (998 : ℤ))
    : (general precision q).length ≤ precision + 7 := by
  unfold general
  split_ifs with zero negative
  · simp
  · obtain ⟨low, high⟩ := range zero
    rw [abs_of_neg negative] at low high
    rw [List.length_cons]
    exact Nat.succ_le_succ (length_positiveText_le (neg_pos.mpr negative) some_ low high)
  · obtain ⟨low, high⟩ := range zero
    have positive := lt_of_le_of_ne (not_lt.mp negative) (Ne.symm zero)
    rw [abs_of_pos positive] at low high
    exact (length_positiveText_le positive some_ low high).trans (Nat.le_succ _)

end DecimalText
