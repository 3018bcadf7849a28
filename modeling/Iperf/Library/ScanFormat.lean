import Iperf.Library.TextLines
import Mathlib.Data.Nat.Digits.Defs

/-! The formats of `printf` and `scanf` with the conversions `%s` and `%lld`: what is printed is
read back when no printed word contains white space.
-/

namespace ScanFormat

/-- `isspace` in the C locale. -/
def isSpace (c : UInt8) : Bool := c = 32 || (9 ≤ c && c ≤ 13)

def isDigit (c : UInt8) : Bool := 48 ≤ c && c ≤ 57

inductive Token where
  | char (c : UInt8)
  /-- `%s` -/
  | word
  /-- `%lld` -/
  | number

inductive Value where
  | text (bytes : List UInt8)
  | number (n : Int)
deriving DecidableEq

/-- The tokens of a text without conversions. -/
def literal (text : List UInt8) : List Token := text.map .char

def digits (n : Nat) : List UInt8 :=
  if n = 0 then [48] else (Nat.digits 10 n).reverse.map fun digit => 48 + UInt8.ofNat digit

def decimal (n : Int) : List UInt8 := if n < 0 then 45 :: digits n.natAbs else digits n.natAbs

/-- `printf`; the conversions have arguments of their types. -/
def print : List Token → List Value → List UInt8
  | .char c :: format, values => c :: print format values
  | .word :: format, .text bytes :: values => bytes ++ print format values
  | .number :: format, .number n :: values => decimal n ++ print format values
  | _, _ => []

theorem print_literal (text : List UInt8) (format : List Token) (values : List Value)
    : print (literal text ++ format) values = text ++ print format values := by
  induction text with
  | nil => rfl
  | cons c text ih => exact congrArg (c :: ·) ih

/-- The value of a run of digits. -/
def digitsValue (run : List UInt8) : Nat := run.foldl (fun value c => 10 * value + (c.toNat - 48)) 0

def unsignedNumber (input : List UInt8) : Option (Nat × List UInt8) :=
  let run := input.takeWhile isDigit
  if run = [] then none else some (digitsValue run, input.dropWhile isDigit)

/-- An optional sign and digits. -/
def signedNumber : List UInt8 → Option (Int × List UInt8)
  | 45 :: rest => (unsignedNumber rest).map fun (n, rest) => (-(n : Int), rest)
  | 43 :: rest => (unsignedNumber rest).map fun (n, rest) => ((n : Int), rest)
  | input => (unsignedNumber input).map fun (n, rest) => ((n : Int), rest)

/-- `scanf`: the values converted before the first mismatch. White space in the format matches
any amount of it, and both conversions skip it first.
-/
def scan : List Token → List UInt8 → List Value
  | [], _ => []
  | .char c :: format, input =>
      if isSpace c then
        scan format (input.dropWhile isSpace)
      else
        match input with
        | d :: rest => if d = c then scan format rest else []
        | [] => []
  | .word :: format, input =>
      let start := input.dropWhile isSpace
      let run := start.takeWhile (!isSpace ·)
      if run = [] then [] else .text run :: scan format (start.dropWhile (!isSpace ·))
  | .number :: format, input =>
      match signedNumber (input.dropWhile isSpace) with
      | some (n, rest) => .number n :: scan format rest
      | none => []

theorem digit_toNat {digit : Nat} (small : digit < 10)
    : (48 + UInt8.ofNat digit).toNat = 48 + digit := by
  rw [UInt8.toNat_add, UInt8.toNat_ofNat']
  have first : (48 : UInt8).toNat = 48 := rfl
  omega

theorem isDigit_digit {digit : Nat} (small : digit < 10)
    : isDigit (48 + UInt8.ofNat digit) = true := by
  simp only [isDigit, Bool.and_eq_true, decide_eq_true_eq, UInt8.le_iff_toNat_le,
    digit_toNat small]
  exact ⟨by simp, by simp; omega⟩

theorem isDigit_of_mem {n : Nat} {c : UInt8} (member : c ∈ digits n) : isDigit c = true := by
  unfold digits at member
  split_ifs at member
  · obtain rfl := List.mem_singleton.mp member
    rfl
  · obtain ⟨digit, listed, rfl⟩ := List.mem_map.mp member
    exact isDigit_digit (Nat.digits_lt_base (by norm_num) (List.mem_reverse.mp listed))

theorem digits_ne_nil (n : Nat) : digits n ≠ [] := by
  unfold digits
  split_ifs with zero
  · simp
  · simp [Nat.digits_ne_nil_iff_ne_zero.mpr zero]

/-- The digits of a number have its value. -/
theorem digitsValue_digits (n : Nat) : digitsValue (digits n) = n := by
  unfold digits
  split_ifs with zero
  · rw [zero]
    rfl
  · rw [digitsValue, List.foldl_map, List.foldl_reverse]
    have step : ∀ L : List Nat, (∀ digit ∈ L, digit < 10) →
        L.foldr (fun digit value => 10 * value + ((48 + UInt8.ofNat digit).toNat - 48)) 0
          = Nat.ofDigits 10 L := by
      intro L small
      induction L with
      | nil => rfl
      | cons digit L ih =>
          obtain ⟨first, others⟩ := List.forall_mem_cons.mp small
          rw [List.foldr_cons, ih others, Nat.ofDigits_cons, digit_toNat first]
          omega
    rw [step _ fun digit listed => Nat.digits_lt_base (by norm_num) listed,
      Nat.ofDigits_digits]

/-- The input does not go on with a digit. -/
def NoDigit (input : List UInt8) : Prop := ∀ c ∈ input.head?, isDigit c = false

theorem unsignedNumber_digits (n : Nat) {tail : List UInt8} (stops : NoDigit tail)
    : unsignedNumber (digits n ++ tail) = some (n, tail) := by
  obtain ⟨run, rest⟩ := TextLines.span_append (fun c => isDigit_of_mem (n := n)) stops
  unfold unsignedNumber
  dsimp only
  rw [run, rest, if_neg (digits_ne_nil n), digitsValue_digits]

theorem signedNumber_decimal (n : Int) {tail : List UInt8} (stops : NoDigit tail)
    : signedNumber (decimal n ++ tail) = some (n, tail) := by
  unfold decimal
  split_ifs with negative
  · have magnitude : -((n.natAbs : Nat) : Int) = n := by omega
    rw [List.cons_append, signedNumber, unsignedNumber_digits n.natAbs stops]
    simp only [Option.map_some, magnitude]
  · have magnitude : ((n.natAbs : Nat) : Int) = n := by omega
    obtain ⟨c, rest, shape⟩ := List.exists_cons_of_ne_nil (digits_ne_nil n.natAbs)
    have digit : isDigit c = true := isDigit_of_mem (n := n.natAbs) (by simp [shape])
    have read := unsignedNumber_digits n.natAbs stops
    rw [shape, List.cons_append] at read ⊢
    unfold signedNumber
    split
    · next same =>
        obtain ⟨rfl, -⟩ := List.cons.inj same
        cases digit
    · next same =>
        obtain ⟨rfl, -⟩ := List.cons.inj same
        cases digit
    · rw [read]
      simp only [Option.map_some, magnitude]

/-- A word is not empty and has no white space. -/
def IsWord (bytes : List UInt8) : Prop := bytes ≠ [] ∧ ∀ c ∈ bytes, isSpace c = false

/-- The format has a conversion for every value, and white space or nothing behind each. -/
inductive Separated : List Token → List Value → Prop
  | nil : Separated [] []
  | char (c : UInt8) {format values} (rest : Separated format values)
      : Separated (.char c :: format) values
  | lastWord {bytes} (word : IsWord bytes) : Separated [.word] [.text bytes]
  | word {bytes c format values} (word : IsWord bytes) (space : isSpace c)
      (rest : Separated (.char c :: format) values)
      : Separated (.word :: .char c :: format) (.text bytes :: values)
  | lastNumber (n : Int) : Separated [.number] [.number n]
  | number (n : Int) {c format values} (space : isSpace c)
      (rest : Separated (.char c :: format) values)
      : Separated (.number :: .char c :: format) (.number n :: values)

theorem Separated.literal {format : List Token} {values : List Value} (text : List UInt8)
    (rest : Separated format values)
    : Separated (literal text ++ format) values := by
  induction text with
  | nil => exact rest
  | cons c text ih => exact .char c ih

theorem isDigit_of_isSpace {c : UInt8} (space : isSpace c = true) : isDigit c = false := by
  simp only [isSpace, Bool.or_eq_true, Bool.and_eq_true, decide_eq_true_eq] at space
  simp only [isDigit, Bool.and_eq_false_iff, decide_eq_false_iff_not]
  rcases space with rfl | ⟨-, high⟩
  · exact .inl (by decide)
  · refine .inl fun low => absurd (UInt8.le_trans low high) (by decide)

/-- A word in front of white space or the end is converted. -/
theorem scan_word {bytes : List UInt8} (format : List Token) (tail : List UInt8)
    (word : IsWord bytes)
    (stops : ∀ c ∈ tail.head?, isSpace c = true)
    : scan (.word :: format) (bytes ++ tail) = .text bytes :: scan format tail
      ∧ (bytes ++ tail).dropWhile isSpace = bytes ++ tail := by
  obtain ⟨nonempty, noSpace⟩ := word
  have start : (bytes ++ tail).dropWhile isSpace = bytes ++ tail := by
    obtain ⟨c, rest, rfl⟩ := List.exists_cons_of_ne_nil nonempty
    simp [noSpace c (by simp)]
  obtain ⟨run, behind⟩ := @TextLines.span_append _ (!isSpace ·) bytes tail
    (by simpa using noSpace) (by simpa using stops)
  refine ⟨?_, start⟩
  simp only [scan, start, run, behind, if_neg nonempty]

theorem scan_number (n : Int) (format : List Token) {tail : List UInt8} (stops : NoDigit tail)
    : scan (.number :: format) (decimal n ++ tail) = .number n :: scan format tail
      ∧ (decimal n ++ tail).dropWhile isSpace = decimal n ++ tail := by
  have start : (decimal n ++ tail).dropWhile isSpace = decimal n ++ tail := by
    obtain ⟨c, rest, shape⟩ := List.exists_cons_of_ne_nil (digits_ne_nil n.natAbs)
    have digit : isDigit c = true := isDigit_of_mem (n := n.natAbs) (by simp [shape])
    have noSpace : isSpace c = false := by
      by_contra space
      simp only [Bool.not_eq_false] at space
      rw [isDigit_of_isSpace space] at digit
      cases digit
    unfold decimal
    split_ifs
    · rfl
    · simp [shape, noSpace]
  refine ⟨?_, start⟩
  simp only [scan, start, signedNumber_decimal n stops]

/-- What was printed is read back, also behind white space that the format has matched before.
Witness: induction on the separated format.
-/
theorem scan_print {format : List Token} {values : List Value} (separated : Separated format values)
    : scan format (print format values) = values
      ∧ scan format ((print format values).dropWhile isSpace) = values := by
  induction separated with
  | nil => exact ⟨rfl, rfl⟩
  | @char c format values rest ih =>
      obtain ⟨whole, trimmed⟩ := ih
      by_cases space : isSpace c
      · have idempotent := List.dropWhile_idempotent (l := print format values) (p := isSpace)
        simp [print, scan, space, trimmed, idempotent]
      · simp [print, scan, space, whole]
  | lastWord word =>
      obtain ⟨read, start⟩ := scan_word [] [] word (by simp)
      simp only [print]
      rw [start, read]
      exact ⟨rfl, rfl⟩
  | @word bytes c format values word space rest ih =>
      obtain ⟨read, start⟩ := scan_word (.char c :: format)
        (print (.char c :: format) values) word (by simp [print, space])
      rw [print, start, read, ih.1]
      exact ⟨rfl, rfl⟩
  | lastNumber n =>
      obtain ⟨read, start⟩ := @scan_number n [] [] (by simp [NoDigit])
      simp only [print]
      rw [start, read]
      exact ⟨rfl, rfl⟩
  | @number n c format values space rest ih =>
      obtain ⟨read, start⟩ := @scan_number n (.char c :: format)
        (print (.char c :: format) values)
        (by simp [NoDigit, print, isDigit_of_isSpace space])
      rw [print, start, read, ih.1]
      exact ⟨rfl, rfl⟩

/-- No word that is read contains white space. -/
theorem noSpace_of_mem_scan {format : List Token} {input bytes : List UInt8}
    (read : .text bytes ∈ scan format input)
    : ∀ c ∈ bytes, isSpace c = false := by
  induction format generalizing input with
  | nil => cases read
  | cons token format ih =>
      cases token with
      | char c =>
          unfold scan at read
          split at read
          · exact ih read
          · split at read
            · split at read
              · exact ih read
              · cases read
            · cases read
      | word =>
          unfold scan at read
          dsimp only at read
          split at read
          · cases read
          · rcases List.mem_cons.mp read with same | later
            · intro c member
              obtain rfl := Value.text.inj same
              simpa using List.mem_takeWhile_imp member
            · exact ih later
      | number =>
          unfold scan at read
          split at read
          · rcases List.mem_cons.mp read with same | later
            · cases same
            · exact ih later
          · cases read

end ScanFormat
