import Iperf.Cjson.Parser

/-! The texts that cJSON prints, and what parsing makes of them.
-/

namespace Iperf.Cjson

open DecimalText Doubles

/-- What a formatted print has in addition. -/
def formatted (format : Bool) (text : List UInt8) : List UInt8 := if format then text else []

def tabs (depth : Nat) : List UInt8 := List.replicate depth 9

mutual
/-- The text of `print_value`, at a depth. -/
def printValue (format : Bool) (depth : Nat) : Item → List UInt8
  | .null => nullText
  | .bool false => falseText
  | .bool true => trueText
  | .number valuedouble => printNumber valuedouble
  | .string valuestring => printString valuestring.1
  | .array children => 91 :: (printElements format (depth + 1) children ++ [93])
  | .object children =>
      123 :: (formatted format [10] ++ printMembers format (depth + 1) children
        ++ formatted format (tabs depth) ++ [125])

def printElements (format : Bool) (depth : Nat) : List Item → List UInt8
  | [] => []
  | child :: next =>
      printValue format depth child
        ++ (if next.isEmpty then [] else 44 :: formatted format [32])
        ++ printElements format depth next

def printMembers (format : Bool) (depth : Nat) : List (CString × Item) → List UInt8
  | [] => []
  | child :: next =>
      printMember format depth child ++ (if next.isEmpty then [] else [44])
        ++ formatted format [10] ++ printMembers format depth next

def printMember (format : Bool) (depth : Nat) : CString × Item → List UInt8
  | (string, child) =>
      formatted format (tabs depth) ++ printString string.1 ++ [58] ++ formatted format [9]
        ++ printValue format depth child
end

/-- The text of `cJSON_Print` and `cJSON_PrintUnformatted`. -/
def printText (format : Bool) (item : Item) : List UInt8 := printValue format 0 item

mutual
/-- How deep arrays and objects are nested. -/
def nesting : Item → Nat
  | .array children => nestingElements children + 1
  | .object children => nestingMembers children + 1
  | _ => 0

def nestingElements : List Item → Nat
  | [] => 0
  | child :: next => max (nesting child) (nestingElements next)

def nestingMembers : List (CString × Item) → Nat
  | [] => 0
  | child :: next => max (nestingMember child) (nestingMembers next)

def nestingMember : CString × Item → Nat
  | (_, child) => nesting child
end

/-- The item of a number's text. -/
def readBackNumber : Double → Item
  | .finite value => .number (reread value)
  | .infinite _ | .nan => .null

mutual
/-- The item that is parsed from the text of an item. -/
def readBack : Item → Item
  | .number valuedouble => readBackNumber valuedouble
  | .array children => .array (readBackElements children)
  | .object children => .object (readBackMembers children)
  | item => item

def readBackElements : List Item → List Item
  | [] => []
  | child :: next => readBack child :: readBackElements next

def readBackMembers : List (CString × Item) → List (CString × Item)
  | [] => []
  | child :: next => readBackMember child :: readBackMembers next

def readBackMember : CString × Item → CString × Item
  | (string, child) => (string, readBack child)
end

-----------------------------------------------------------------------------------------
-- White space
-----------------------------------------------------------------------------------------

theorem skipWhitespace_suffix (buffer : List UInt8) : skipWhitespace buffer <:+ buffer := by
  unfold skipWhitespace
  dsimp only
  split_ifs
  · exact List.drop_suffix _ _
  · exact List.dropWhile_suffix _

/-- White space in front of anything else is skipped. -/
theorem skipWhitespace_append {front rest : List UInt8} {c : UInt8}
    (white : ∀ c ∈ front, c ≤ 32) (visible : 32 < c)
    : skipWhitespace (front ++ c :: rest) = c :: rest := by
  have stops : ∀ d ∈ (c :: rest).head?, decide (d ≤ 32) = false := by
    intro d first
    obtain rfl := Option.some.inj first
    exact decide_eq_false (UInt8.not_le.mpr visible)
  obtain ⟨-, behind⟩ := TextLines.span_append (p := fun c => decide (c ≤ 32))
    (fun d member => decide_eq_true (white d member)) stops
  unfold skipWhitespace
  dsimp only
  rw [behind, if_neg (List.cons_ne_nil c rest)]

theorem skipWhitespace_cons {rest : List UInt8} {c : UInt8} (visible : 32 < c)
    : skipWhitespace (c :: rest) = c :: rest :=
  skipWhitespace_append (List.forall_mem_nil (· ≤ 32)) visible

theorem white_formatted (format : Bool) {text : List UInt8} (white : ∀ c ∈ text, c ≤ 32)
    : ∀ c ∈ formatted format text, c ≤ 32 := by
  cases format
  · exact fun _ none_ => by cases none_
  · exact white

theorem white_tabs (depth : Nat) : ∀ c ∈ tabs depth, c ≤ 32 := by
  intro c member
  rw [List.eq_of_mem_replicate member]
  decide

/-- The first character of a value. -/
abbrev StartsValue (c : UInt8) : Prop := 32 < c ∧ c ≠ 93 ∧ c ≠ 125 ∧ c ≠ 0xEF

theorem startsValue_digit {c : UInt8} (digit : c = 45 ∨ ScanFormat.isDigit c = true)
    : StartsValue c ∧ c ≠ 34 ∧ c ≠ 110 ∧ c ≠ 102 ∧ c ≠ 116 := by
  have range : 45 ≤ c ∧ c ≤ 57 := by
    rcases digit with rfl | digit
    · decide
    · simp only [ScanFormat.isDigit, Bool.and_eq_true, decide_eq_true_eq] at digit
      exact ⟨UInt8.le_trans (by decide) digit.1, digit.2⟩
  have low := UInt8.le_iff_toNat_le.mp range.1
  have high := UInt8.le_iff_toNat_le.mp range.2
  have away {d : UInt8} (far : 57 < d.toNat ∨ d.toNat < 45) : c ≠ d := by
    rintro rfl
    change 45 ≤ c.toNat at low
    change c.toNat ≤ 57 at high
    omega
  refine ⟨⟨?_, away (by decide), away (by decide), away (by decide)⟩, away (by decide),
    away (by decide), away (by decide), away (by decide)⟩
  rw [UInt8.lt_iff_toNat_lt]
  exact lt_of_lt_of_le (by decide) low

/-- The text of a finite number starts with a sign or a digit. -/
theorem printNumber_head (value : {q : ℚ // Representable q})
    : ∃ c rest, printNumber (.finite value) = c :: rest
        ∧ (c = 45 ∨ ScanFormat.isDigit c = true) := by
  have whole (n : ℤ) : ∃ c rest, ScanFormat.decimal n = c :: rest
      ∧ (c = 45 ∨ ScanFormat.isDigit c = true) := by
    unfold ScanFormat.decimal
    split_ifs
    · exact ⟨45, _, rfl, .inl rfl⟩
    · obtain ⟨c, rest, shape⟩ := List.exists_cons_of_ne_nil (ScanFormat.digits_ne_nil n.natAbs)
      exact ⟨c, rest, shape, .inr (ScanFormat.isDigit_of_mem (n := n.natAbs) (by simp [shape]))⟩
  have fraction (precision : ℕ) (q : ℚ) : ∃ c rest, general precision q = c :: rest
      ∧ (c = 45 ∨ ScanFormat.isDigit c = true) := by
    unfold general
    split_ifs
    · exact ⟨48, _, rfl, .inr rfl⟩
    · exact ⟨45, _, rfl, .inl rfl⟩
    · obtain ⟨c, rest, shape, digit⟩ := positiveText_head precision q
      exact ⟨c, rest, shape, .inr digit⟩
  rw [printNumber_finite]
  split_ifs
  · exact whole _
  · exact fraction 15 _
  · exact fraction 17 _

/-- Every text of a value starts with a visible character, which closes nothing. -/
theorem printValue_head (format : Bool) (depth : Nat) (item : Item)
    : ∃ c rest, printValue format depth item = c :: rest ∧ StartsValue c := by
  match item with
  | .null => exact ⟨110, _, by rw [printValue]; rfl, by decide⟩
  | .bool false => exact ⟨102, _, by rw [printValue]; rfl, by decide⟩
  | .bool true => exact ⟨116, _, by rw [printValue]; rfl, by decide⟩
  | .number (.finite value) =>
      obtain ⟨c, rest, shape, digit⟩ := printNumber_head value
      exact ⟨c, rest, by rw [printValue, shape], (startsValue_digit digit).1⟩
  | .number (.infinite _) => exact ⟨110, [117, 108, 108], by rw [printValue]; rfl, by decide⟩
  | .number .nan => exact ⟨110, [117, 108, 108], by rw [printValue]; rfl, by decide⟩
  | .string valuestring => exact ⟨34, _, by rw [printValue]; rfl, by decide⟩
  | .array children => exact ⟨91, _, by rw [printValue], by decide⟩
  | .object children => exact ⟨123, _, by rw [printValue], by decide⟩

end Iperf.Cjson
