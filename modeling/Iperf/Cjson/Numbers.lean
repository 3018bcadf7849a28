import Iperf.Library.DecimalText
import Iperf.Library.Doubles
import Iperf.Model.Json

/-! The numbers of cJSON: `print_number` and `parse_number`, and how far a number that is printed
and parsed again can move.
-/

namespace Iperf.Cjson

open DecimalText Doubles ScanFormat

/-- `valueint` beside a `valuedouble`: saturated at the ends of `int64_t`. -/
def valueint : Double → Int64
  | .finite value => (CJson.number value).valueint
  | .infinite negative => if negative then Int64.minValue else Int64.maxValue
  -- the conversion is undefined
  | .nan => 0

/-- `DBL_EPSILON` -/
def dblEpsilon : Double := .ofRat (1 / 2 ^ 52)

def compareDouble (a b : Double) : Bool :=
  let maxVal := if b.abs.lt a.abs then a.abs else b.abs
  (a.sub b).abs.le (maxVal.mul dblEpsilon)

/-- `strtod` and `sscanf` with `%lg`: the value, and what is left. -/
def strtod (text : List UInt8) : Option (Double × List UInt8) :=
  (readNumber text).map fun (value, rest) => (.ofRat value, rest)

/-- The text that `print_number` prints. -/
def printNumber (d : Double) : List UInt8 :=
  match d with
  | .infinite _ | .nan => bytesOf "null"
  | .finite value =>
      if d = .ofRat ((valueint d).toInt : ℚ) then decimal (valueint d).toInt
      else
        let text := general 15 value
        match strtod text with
        | some (test, _) => if compareDouble test d then text else general 17 value
        | none => general 17 value

/-- `parse_number`: the characters of a number are copied to a buffer for 63 of them. -/
def parseNumber (input : List UInt8) : Option (Double × List UInt8) :=
  let numberCString := (input.take 63).takeWhile isNumberChar
  (strtod numberCString).map fun (number, rest) =>
    (number, input.drop (numberCString.length - rest.length))

/-- The exact value of what is printed. -/
def printedValue (d : Double) (value : ℚ) : ℚ :=
  if d = .ofRat ((valueint d).toInt : ℚ) then (valueint d).toInt
  else if compareDouble (.ofRat (decimalRounded 15 value)) d then decimalRounded 15 value
  else decimalRounded 17 value

/-- The number that is parsed after it was printed. -/
def reread (value : {q : ℚ // Representable q}) : Double :=
  .ofRat (printedValue (.finite value) value)

theorem strtod_general {precision : ℕ} (value : ℚ) (some_ : 0 < precision)
    : strtod (general precision value) = some (.ofRat (decimalRounded precision value), []) := by
  have read : readNumber (general precision value ++ [])
      = some (decimalRounded precision value, []) :=
    readNumber_general some_ (by simp [Stops])
  rw [List.append_nil] at read
  rw [strtod, read, Option.map_some]

/-- A finite number is printed in one of three ways. -/
theorem printNumber_finite (value : {q : ℚ // Representable q})
    : printNumber (.finite value)
      = if Double.finite value = .ofRat ((valueint (.finite value)).toInt : ℚ) then
          decimal (valueint (.finite value)).toInt
        else if compareDouble (.ofRat (decimalRounded 15 value.1)) (.finite value) then
          general 15 value
        else general 17 value := by
  unfold printNumber
  dsimp only
  rw [strtod_general value.1 (by norm_num)]

/-- What is printed of a finite number is a number. -/
theorem printNumber_read (value : {q : ℚ // Representable q})
    : (∀ c ∈ printNumber (.finite value), isNumberChar c = true)
      ∧ strtod (printNumber (.finite value)) = some (reread value, []) := by
  unfold reread printedValue
  rw [printNumber_finite]
  split_ifs with integral close
  · have read : readNumber (decimal (valueint (.finite value)).toInt ++ [])
        = some (((valueint (.finite value)).toInt : ℚ), []) :=
      readNumber_decimal _ (by simp [Stops])
    rw [List.append_nil] at read
    exact ⟨isNumberChar_decimal _, by rw [strtod, read, Option.map_some]⟩
  · exact ⟨isNumberChar_general 15 _, strtod_general _ (by norm_num)⟩
  · exact ⟨isNumberChar_general 17 _, strtod_general _ (by norm_num)⟩

-----------------------------------------------------------------------------------------
-- The text fits the buffers
-----------------------------------------------------------------------------------------

theorem ten_lt_of_representable {d : ℚ} (known : Representable d) (nonzero : d ≠ 0)
    : (10 : ℚ) ^ (-999 : ℤ) ≤ |d| ∧ |d| < 10 ^ (998 : ℤ) := by
  have eight (k : ℤ) : (2 : ℚ) ^ (3 * k) = 8 ^ k := by
    rw [zpow_mul]
    norm_num
  constructor
  · obtain ⟨m, k, rfl, -, low, -⟩ := known
    have one : (1 : ℚ) ≤ ((|m| : ℤ) : ℚ) := by
      have integer : m ≠ 0 := by
        rintro rfl
        simp at nonzero
      exact_mod_cast Int.one_le_abs integer
    have power := two_zpow_pos k
    rw [abs_mul, abs_of_pos power, ← Int.cast_abs]
    calc (10 : ℚ) ^ (-999 : ℤ) ≤ 8 ^ (-999 : ℤ) := by
          rw [zpow_neg, zpow_neg]
          exact inv_anti₀ (by positivity)
            (zpow_le_zpow_left₀ (by norm_num) (by norm_num) (by norm_num))
      _ = 2 ^ (3 * (-999) : ℤ) := (eight _).symm
      _ ≤ 2 ^ k := zpow_le_zpow_right₀ (by norm_num) (by omega)
      _ ≤ ((|m| : ℤ) : ℚ) * 2 ^ k := le_mul_of_one_le_left power.le one
  · calc |d| < 2 ^ (1024 : ℤ) := known.range
      _ ≤ 2 ^ (3 * 998 : ℤ) := zpow_le_zpow_right₀ (by norm_num) (by norm_num)
      _ = 8 ^ (998 : ℤ) := eight _
      _ ≤ 10 ^ (998 : ℤ) := zpow_le_zpow_left₀ (by norm_num) (by norm_num) (by norm_num)

/-- The longest texts have a sign, 17 digits, a point and an exponent of five characters. -/
theorem length_printNumber_le (d : Double) : (printNumber d).length ≤ 24 := by
  match d with
  | .infinite _ | .nan =>
      have null : (bytesOf "null").length ≤ 24 := by decide
      exact null
  | .finite value =>
      have wide (precision : ℕ) (some_ : 0 < precision)
          : (general precision value).length ≤ precision + 7 :=
        length_general_le some_ (ten_lt_of_representable value.2)
      rw [printNumber_finite]
      split_ifs
      · have low := (valueint (.finite value)).le_toInt
        have high := (valueint (.finite value)).toInt_lt
        have places : (digits (valueint (.finite value)).toInt.natAbs).length ≤ 19 :=
          length_digits_le (by norm_num) (by omega)
        unfold decimal
        split_ifs
        · rw [List.length_cons]
          omega
        · omega
      · exact (wide 15 (by norm_num)).trans (by norm_num)
      · exact wide 17 (by norm_num)

/-- A number is parsed from its text, whatever follows that is not part of a number. -/
theorem parseNumber_printNumber (value : {q : ℚ // Representable q}) {tail : List UInt8}
    (stops : ∀ c ∈ tail.head?, isNumberChar c = false)
    : parseNumber (printNumber (.finite value) ++ tail) = some (reread value, tail) := by
  obtain ⟨all, read⟩ := printNumber_read value
  have short := length_printNumber_le (.finite value)
  generalize printNumber (.finite value) = text at *
  have copied : ((text ++ tail).take 63).takeWhile isNumberChar = text := by
    have cut : ∀ c ∈ (tail.take (63 - text.length)).head?, isNumberChar c = false := by
      intro c first
      cases tail with
      | nil => simp at first
      | cons d rest =>
          have room : 63 - text.length = 62 - text.length + 1 := by omega
          rw [room, List.take_succ_cons] at first
          exact stops c first
    rw [List.take_append, List.take_of_length_le (by omega)]
    exact (TextLines.span_append all cut).1
  rw [parseNumber, copied, read, Option.map_some]
  simp

-----------------------------------------------------------------------------------------
-- What a number becomes
-----------------------------------------------------------------------------------------

/-- With 17 digits a number comes back exactly. -/
theorem decimalRounded_exact (value : {q : ℚ // Representable q})
    : Double.ofRat (decimalRounded 17 value.1) = .finite value := by
  refine Double.ofRat_eq value.2 ?_
  by_cases zero : value.1 = 0
  · rw [zero, decimalRounded, if_pos rfl]
    exact rounded_self (zero ▸ value.2)
  · have near := abs_decimalRounded_sub_le value.1 (show 0 < 17 by norm_num)
    have size := abs_pos.mpr zero
    refine rounded_eq value.2 ?_
    calc |decimalRounded 17 value.1 - value.1| ≤ |value.1| / (2 * 10 ^ 16) := near
      _ < |value.1| / 2 ^ 54 := by gcongr; norm_num

/-- A number that does not come back exactly has been printed with 15 digits, and
`compare_double` takes what comes back for it.
-/
theorem reread_changed {value : {q : ℚ // Representable q}}
    (changed : reread value ≠ .finite value)
    : reread value = .ofRat (decimalRounded 15 value.1)
      ∧ compareDouble (reread value) (.finite value) = true := by
  unfold reread printedValue at changed ⊢
  split_ifs at changed ⊢ with integral close
  · exact absurd integral.symm changed
  · exact ⟨rfl, close⟩
  · exact absurd (decimalRounded_exact value) changed

/-- A finite number comes back exactly, or as one that `compare_double` takes for it. -/
theorem reread_cases (value : {q : ℚ // Representable q})
    : reread value = .finite value ∨ compareDouble (reread value) (.finite value) = true := by
  by_cases exactly : reread value = .finite value
  · exact .inl exactly
  · exact .inr (reread_changed exactly).2

/-- Integers of the type `int64_t` come back exactly. -/
theorem reread_intCast {value : {q : ℚ // Representable q}} {n : ℤ} (whole : value.1 = n)
    (low : -(2 ^ 63) < n) (high : n < 2 ^ 63)
    : reread value = .finite value := by
  have integer : (valueint (.finite value)).toInt = n := by
    rw [valueint, whole, CJson.valueint_intCast low high, Int64.toInt_ofInt_of_le] <;> omega
  have same : Double.finite value = .ofRat ((valueint (.finite value)).toInt : ℚ) := by
    rw [integer, ← whole, Double.ofRat_self]
  unfold reread printedValue
  rw [if_pos same, ← same]

theorem representable_epsilon : Representable (1 / 2 ^ 52) :=
  ⟨1, -52, by norm_num, by norm_num, by norm_num, by norm_num⟩

theorem ofRat_finite {q : ℚ} (range : |rounded q| < 2 ^ (1024 : ℤ))
    : ∃ value : {q : ℚ // Representable q},
        Double.ofRat q = .finite value ∧ value.1 = rounded q :=
  ⟨⟨_, representable_rounded range⟩, dif_pos range, rfl⟩

/-- What `compare_double` says of two finite numbers whose difference is in range. -/
theorem near_of_compareDouble {a b : {q : ℚ // Representable q}} {bound : ℚ}
    (aSize : |a.1| ≤ bound) (bSize : |b.1| ≤ bound)
    (difference : |rounded (a - b)| < 2 ^ (1024 : ℤ)) (large : bound ≤ 2 ^ (1023 : ℤ) * (5 / 4))
    (close : compareDouble (.finite a) (.finite b) = true)
    : |a.1 - b.1| ≤ bound / 2 ^ 52 + bound / 2 ^ 105 + |a.1 - b.1| / 2 ^ 53
        + 2 * 2 ^ (-1075 : ℤ) := by
  obtain ⟨d, sub, subIs⟩ := ofRat_finite difference
  have maximum : ∃ m : {q : ℚ // Representable q},
      (if (Double.finite b).abs.lt (Double.finite a).abs then (Double.finite a).abs
        else (Double.finite b).abs) = .finite m ∧ 0 ≤ m.1 ∧ m.1 ≤ bound := by
    split_ifs
    · exact ⟨⟨|a.1|, a.2.abs⟩, rfl, abs_nonneg _, aSize⟩
    · exact ⟨⟨|b.1|, b.2.abs⟩, rfl, abs_nonneg _, bSize⟩
  obtain ⟨m, maxIs, nonneg, bounded⟩ := maximum
  have tiny : (2 : ℚ) ^ (-1075 : ℤ) ≤ 1 := zpow_le_one_of_nonpos₀ (by norm_num) (by norm_num)
  have top : (2 : ℚ) ^ (1024 : ℤ) = 2 * 2 ^ (1023 : ℤ) := by
    rw [show (1024 : ℤ) = 1 + 1023 from rfl, zpow_add₀ two_ne_zero, zpow_one]
  have one : (1 : ℚ) ≤ 2 ^ (1023 : ℤ) := one_le_zpow₀ (by norm_num) (by norm_num)
  have product := abs_rounded_sub_le_add (m.1 * (1 / 2 ^ 52))
  have moved := abs_rounded_sub_le_add (a.1 - b.1)
  have size : |m.1 * (1 / 2 ^ 52)| = m.1 / 2 ^ 52 := by
    rw [mul_one_div, abs_of_nonneg (by positivity)]
  rw [size] at product
  obtain ⟨productLow, productHigh⟩ := abs_le.mp product
  rw [mul_one_div] at productLow productHigh
  generalize (2 : ℚ) ^ (-1075 : ℤ) = t at *
  generalize (2 : ℚ) ^ (1023 : ℤ) = half at *
  have inRange : |rounded (m.1 * (1 / 2 ^ 52))| < 2 ^ (1024 : ℤ) := by
    rw [top, abs_lt, mul_one_div]
    constructor
    · linarith only [productLow, nonneg, tiny, one]
    · linarith only [productHigh, nonneg, bounded, large, tiny, one]
  obtain ⟨e, mul, mulIs⟩ := ofRat_finite inRange
  have epsilon : dblEpsilon = .finite ⟨1 / 2 ^ 52, representable_epsilon⟩ :=
    Double.ofRat_self ⟨1 / 2 ^ 52, representable_epsilon⟩
  have less : |d.1| ≤ e.1 := by
    unfold compareDouble at close
    dsimp only at close
    rw [maxIs, epsilon, Double.mul, mul, Double.sub, sub] at close
    exact of_decide_eq_true close
  rw [subIs, mulIs, mul_one_div] at less
  have split : |a.1 - b.1| ≤ |rounded (a - b)| + |rounded (a - b) - (a - b)| := by
    calc |a.1 - b.1| = |rounded (a - b) - (rounded (a - b) - (a - b))| := by ring_nf
      _ ≤ |rounded (a - b)| + |rounded (a - b) - (a - b)| := abs_sub _ _
  linarith only [split, less, productHigh, moved, bounded]

/-- A number that is not huge stays finite. -/
theorem reread_finite {value : {q : ℚ // Representable q}} (high : |value.1| ≤ 2 ^ (1023 : ℤ))
    : ∃ value', reread value = .finite value' := by
  by_cases exactly : reread value = .finite value
  · exact ⟨value, exactly⟩
  obtain ⟨shape, -⟩ := reread_changed exactly
  have decimals := abs_decimalRounded_sub_le value.1 (show 0 < 15 by norm_num)
  have binary := abs_rounded_sub_le_add (decimalRounded 15 value.1)
  have tiny : (2 : ℚ) ^ (-1075 : ℤ) ≤ 1 := zpow_le_one_of_nonpos₀ (by norm_num) (by norm_num)
  have one : (32 : ℚ) ≤ 2 ^ (1023 : ℤ) := by
    calc (32 : ℚ) = 2 ^ (5 : ℤ) := by norm_num
      _ ≤ 2 ^ (1023 : ℤ) := zpow_le_zpow_right₀ (by norm_num) (by norm_num)
  have top : (2 : ℚ) ^ (1024 : ℤ) = 2 * 2 ^ (1023 : ℤ) := by
    rw [show (1024 : ℤ) = 1 + 1023 from rfl, zpow_add₀ two_ne_zero, zpow_one]
  have triangle := abs_add_le value.1 (decimalRounded 15 value.1 - value.1)
  have triangle' := abs_add_le (decimalRounded 15 value.1)
    (rounded (decimalRounded 15 value.1) - decimalRounded 15 value.1)
  rw [add_sub_cancel] at triangle triangle'
  have size : |rounded (decimalRounded 15 value.1)| < 2 ^ (1024 : ℤ) := by
    rw [top]
    -- the powers are too large to be evaluated
    generalize (2 : ℚ) ^ (1023 : ℤ) = half at *
    generalize (2 : ℚ) ^ (-1075 : ℤ) = smallest at *
    have nonneg := abs_nonneg value.1
    linarith only [triangle, triangle', decimals, binary, tiny, one, high, nonneg]
  obtain ⟨value', found, -⟩ := ofRat_finite size
  exact ⟨value', shape.trans found⟩

/-- A number that is printed and parsed again moves by one part in `2 ^ 51` at most. -/
theorem reread_near {value : {q : ℚ // Representable q}} (low : 2 ^ (-960 : ℤ) ≤ |value.1|)
    (high : |value.1| ≤ 2 ^ (1023 : ℤ))
    : ∃ value', reread value = .finite value' ∧ |value'.1 - value.1| ≤ |value.1| / 2 ^ 51 := by
  have same (exactly : reread value = .finite value)
      : ∃ value', reread value = .finite value' ∧ |value'.1 - value.1| ≤ |value.1| / 2 ^ 51 := by
    refine ⟨value, exactly, ?_⟩
    rw [sub_self, abs_zero]
    positivity
  by_cases exactly : reread value = .finite value
  · exact same exactly
  obtain ⟨shape, close⟩ := reread_changed exactly
  have decimals := abs_decimalRounded_sub_le value.1 (show 0 < 15 by norm_num)
  have binary := abs_rounded_sub_le_add (decimalRounded 15 value.1)
  have tiny : (2 : ℚ) ^ (-1075 : ℤ) ≤ |value.1| / 2 ^ 115 := by
    rw [le_div_iff₀ (by norm_num)]
    refine le_trans ?_ low
    rw [show (2 : ℚ) ^ 115 = 2 ^ (115 : ℤ) by norm_num, ← zpow_add₀ two_ne_zero]
    exact zpow_le_zpow_right₀ (by norm_num) (by norm_num)
  have top : (2 : ℚ) ^ (1024 : ℤ) = 2 * 2 ^ (1023 : ℤ) := by
    rw [show (1024 : ℤ) = 1 + 1023 from rfl, zpow_add₀ two_ne_zero, zpow_one]
  have nonneg := abs_nonneg value.1
  have positive := two_zpow_pos (1023 : ℤ)
  -- the powers are too large to be evaluated
  obtain ⟨half, halfIs⟩ : ∃ half : ℚ, half = 2 ^ (1023 : ℤ) := ⟨_, rfl⟩
  obtain ⟨smallest, smallestIs⟩ : ∃ smallest : ℚ, smallest = 2 ^ (-1075 : ℤ) := ⟨_, rfl⟩
  rw [← halfIs] at top high positive
  rw [← smallestIs] at tiny binary
  have decimalSize : |decimalRounded 15 value.1| ≤ |value.1| * (9 / 8) := by
    have triangle := abs_add_le value.1 (decimalRounded 15 value.1 - value.1)
    rw [add_sub_cancel] at triangle
    linarith only [triangle, decimals, nonneg]
  have moved : |rounded (decimalRounded 15 value.1) - value.1| ≤ |value.1| / 8 := by
    have triangle := abs_add_le (rounded (decimalRounded 15 value.1) - decimalRounded 15 value.1)
      (decimalRounded 15 value.1 - value.1)
    rw [sub_add_sub_cancel] at triangle
    linarith only [triangle, decimals, binary, decimalSize, tiny, nonneg]
  have size : |rounded (decimalRounded 15 value.1)| ≤ |value.1| * (9 / 8) := by
    have triangle := abs_add_le value.1 (rounded (decimalRounded 15 value.1) - value.1)
    rw [add_sub_cancel] at triangle
    linarith only [triangle, moved]
  obtain ⟨value', found, is⟩ := ofRat_finite (q := decimalRounded 15 value.1) (by
    rw [top]
    linarith only [size, high, positive])
  rw [shape, found] at close
  refine ⟨value', shape.trans found, ?_⟩
  rw [← is] at moved size
  have difference : |rounded (value'.1 - value.1)| < 2 ^ (1024 : ℤ) := by
    have sub := abs_rounded_sub_le_add (value'.1 - value.1)
    rw [← smallestIs] at sub
    have triangle := abs_add_le (value'.1 - value.1)
      (rounded (value'.1 - value.1) - (value'.1 - value.1))
    rw [add_sub_cancel] at triangle
    rw [top]
    linarith only [triangle, sub, moved, tiny, high, positive]
  have large : |value.1| * (9 / 8) ≤ half * (5 / 4) := by linarith only [high, positive]
  have near := near_of_compareDouble size (by linarith only [nonneg]) difference
    (halfIs ▸ large) close
  rw [← smallestIs] at near
  linarith only [near, tiny, nonneg]

/-- One third as a `double`. -/
def oneThird : {q : ℚ // Representable q} :=
  ⟨6004799503160661 / 2 ^ 54, 6004799503160661, -54, by norm_num, by norm_num, by norm_num,
    by norm_num⟩

/-- Witness: one third is printed with 17 digits. -/
theorem reread_near_oneThird
    : ∃ value', reread oneThird = .finite value'
        ∧ |value'.1 - oneThird.1| ≤ |oneThird.1| / 2 ^ 51 := by
  have is : |oneThird.1| = 6004799503160661 / 2 ^ 54 := abs_of_nonneg (by norm_num [oneThird])
  have small : (2 : ℚ) ^ (-960 : ℤ) ≤ 2 ^ (-2 : ℤ) :=
    zpow_le_zpow_right₀ (by norm_num) (by norm_num)
  have large : (1 : ℚ) ≤ 2 ^ (1023 : ℤ) := one_le_zpow₀ (by norm_num) (by norm_num)
  refine reread_near ?_ ?_
  · exact small.trans (by rw [is]; norm_num)
  · exact le_trans (by rw [is]; norm_num) large

/-- Of tiny numbers `compare_double` takes none for another. -/
theorem eq_of_compareDouble {a b : {q : ℚ // Representable q}} {bound : ℚ}
    (aSize : |a.1| ≤ bound) (bSize : |b.1| ≤ bound) (tiny : bound < 2 ^ (-1023 : ℤ))
    (close : compareDouble (.finite a) (.finite b) = true)
    : a = b := by
  have double : (2 : ℚ) ^ (-1022 : ℤ) = 2 * 2 ^ (-1023 : ℤ) := by
    rw [← zpow_one_add₀ two_ne_zero]
    rfl
  have difference : |a.1 - b.1| < 2 ^ (-1022 : ℤ) := by
    have triangle := abs_sub a.1 b.1
    linarith only [triangle, aSize, bSize, tiny, double]
  have representable := a.2.sub b.2 difference
  have sub : Double.ofRat (a.1 - b.1) = .finite ⟨a.1 - b.1, representable⟩ :=
    Double.ofRat_self ⟨a.1 - b.1, representable⟩
  have maximum : ∃ m : {q : ℚ // Representable q},
      (if (Double.finite b).abs.lt (Double.finite a).abs then (Double.finite a).abs
        else (Double.finite b).abs) = .finite m ∧ 0 ≤ m.1 ∧ m.1 ≤ bound := by
    split_ifs
    · exact ⟨⟨|a.1|, a.2.abs⟩, rfl, abs_nonneg _, aSize⟩
    · exact ⟨⟨|b.1|, b.2.abs⟩, rfl, abs_nonneg _, bSize⟩
  obtain ⟨m, maxIs, nonneg, bounded⟩ := maximum
  have zero : Representable 0 := ⟨0, 0, by simp, by simp, by norm_num, by norm_num⟩
  have mul : Double.ofRat (m.1 * (1 / 2 ^ 52)) = .finite ⟨0, zero⟩ := by
    refine Double.ofRat_eq zero (rounded_tiny ?_)
    have power := two_zpow_eq (show (-1023 : ℤ) = -1075 + (52 : ℕ) by norm_num)
    rw [power, Int.cast_pow, Int.cast_ofNat] at tiny
    rw [abs_of_nonneg (by positivity), mul_one_div, div_lt_iff₀ (by norm_num)]
    linarith only [bounded, tiny]
  have epsilon : dblEpsilon = .finite ⟨1 / 2 ^ 52, representable_epsilon⟩ :=
    Double.ofRat_self ⟨1 / 2 ^ 52, representable_epsilon⟩
  have less : |a.1 - b.1| ≤ 0 := by
    unfold compareDouble at close
    dsimp only at close
    rw [maxIs, epsilon, Double.mul, mul, Double.sub, sub] at close
    exact of_decide_eq_true close
  exact Subtype.ext (sub_eq_zero.mp (abs_nonpos_iff.mp less))

/-- A number that has been printed and parsed again stays as it is from then on. -/
theorem reread_settled {value value' : {q : ℚ // Representable q}}
    (first : reread value = .finite value')
    : reread value' = .finite value' := by
  by_cases exactly : reread value = .finite value
  · obtain rfl := Double.finite.inj (exactly.symm.trans first)
    exact exactly
  obtain ⟨shape, close⟩ := reread_changed exactly
  have again : Double.ofRat (decimalRounded 15 value.1) = .finite value' := shape.symm.trans first
  have is : value'.1 = rounded (decimalRounded 15 value.1) := by
    unfold Double.ofRat at again
    split_ifs at again
    exact (congrArg Subtype.val (Double.finite.inj again)).symm
  rw [first] at close
  by_contra changed
  obtain ⟨shape', -⟩ := reread_changed changed
  refine changed (shape'.trans ?_)
  rw [decimalRounded_again (by norm_num) ?_, again]
  have decimals := abs_decimalRounded_sub_le value.1 (show 0 < 15 by norm_num)
  have binary := abs_rounded_sub_le_add (decimalRounded 15 value.1)
  have half := abs_rounded_sub_le (decimalRounded 15 value.1)
  have triangle := abs_add_le value.1 (decimalRounded 15 value.1 - value.1)
  have triangle' := abs_sub_abs_le_abs_sub value.1 (decimalRounded 15 value.1)
  have power := two_zpow_eq (show (-1024 : ℤ) = -1075 + (51 : ℕ) by norm_num)
  have power' := two_zpow_eq (show (-1023 : ℤ) = -1075 + (52 : ℕ) by norm_num)
  have positive := two_zpow_pos (-1075)
  rw [abs_sub_comm value.1] at triangle'
  rw [add_sub_cancel] at triangle
  rw [Int.cast_pow, Int.cast_ofNat] at power power'
  rw [is]
  by_cases large : 2 ^ (-1024 : ℤ) ≤ |value.1|
  · refine half.trans_lt ?_
    rw [power] at large
    have some_ : 0 < |decimalRounded 15 value.1| := by
      linarith only [triangle', decimals, large, positive]
    unfold lastBit
    rcases max_choice (Int.log 2 |decimalRounded 15 value.1| - 52) (-1074) with same | same
    · have unit := DoubleRounding.unit_le some_
      rw [same]
      linarith only [unit, some_]
    · have smallest : (2 : ℚ) ^ (-1074 : ℤ) = 2 * 2 ^ (-1075 : ℤ) := by
        rw [← zpow_one_add₀ two_ne_zero]
        rfl
      rw [same, smallest]
      linarith only [triangle', decimals, large, positive]
  · -- what is printed of a tiny number comes back exactly
    have small := not_le.mp large
    have back : |value'.1| ≤ 2 ^ (-1024 : ℤ) * (5 / 4) := by
      have triangle'' := abs_add_le (decimalRounded 15 value.1)
        (rounded (decimalRounded 15 value.1) - decimalRounded 15 value.1)
      rw [add_sub_cancel] at triangle''
      rw [is]
      rw [power] at small ⊢
      linarith only [triangle'', binary, triangle, decimals, small, positive]
    have same := eq_of_compareDouble back (b := value) (by linarith only [small, positive, power])
      (by rw [power, power']; linarith only [positive]) close
    exact absurd (same ▸ first) exactly

/-- Any finite number is printed into the buffer of `print_number`, is parsed in front of whatever
is no part of a number, and comes back as what `compare_double` takes for it. The second time it
comes back exactly.
-/
theorem number_roundTrip (value : {q : ℚ // Representable q}) {tail : List UInt8}
    (stops : ∀ c ∈ tail.head?, isNumberChar c = false)
    : (printNumber (.finite value)).length ≤ 24
      ∧ parseNumber (printNumber (.finite value) ++ tail) = some (reread value, tail)
      ∧ (reread value = .finite value ∨ compareDouble (reread value) (.finite value) = true)
      ∧ ∀ value', reread value = .finite value' →
        parseNumber (printNumber (.finite value') ++ tail) = some (.finite value', tail) := by
  refine ⟨length_printNumber_le _, parseNumber_printNumber value stops, reread_cases value,
    fun value' first => ?_⟩
  rw [parseNumber_printNumber value' stops, reread_settled first]

/-- A tenth and a fifth as `double`s, added. -/
def tenthAndFifth : {q : ℚ // Representable q} :=
  ⟨1351079888211149 / 2 ^ 52, 1351079888211149, -52, by norm_num, by norm_num, by norm_num,
    by norm_num⟩

/-- Three tenths as a `double`. -/
def threeTenths : {q : ℚ // Representable q} :=
  ⟨5404319552844595 / 2 ^ 54, 5404319552844595, -54, by norm_num, by norm_num, by norm_num,
    by norm_num⟩

/-- Witness: the sum is printed as `0.3`, which is another `double` and stays what it is. -/
theorem number_roundTrip_tenthAndFifth
    : (printNumber (.finite tenthAndFifth)).length ≤ 24
      ∧ parseNumber (printNumber (.finite tenthAndFifth) ++ [44])
        = some (.finite threeTenths, [44])
      ∧ compareDouble (.finite threeTenths) (.finite tenthAndFifth) = true
      ∧ parseNumber (printNumber (.finite threeTenths) ++ [44])
        = some (.finite threeTenths, [44]) := by
  have stops : ∀ c ∈ [(44 : UInt8)].head?, isNumberChar c = false := by
    intro c first
    obtain rfl := Option.some.inj first
    rfl
  have first : reread tenthAndFifth = .finite threeTenths := by decide +kernel
  obtain ⟨short, parsed, changed, settled⟩ := number_roundTrip tenthAndFifth stops
  rw [first] at parsed changed
  refine ⟨short, parsed, changed.resolve_left ?_, settled threeTenths first⟩
  decide +kernel

end Iperf.Cjson
