import Iperf.Cjson.Strings
import Mathlib.Tactic.IntervalCases
import Mathlib.Tactic.NormNum
import Mathlib.Tactic.SplitIfs

/-! A string that is printed is parsed back, and an escaped code point becomes its UTF-8 encoding.
-/

namespace Iperf.Cjson

open Checked

-----------------------------------------------------------------------------------------
-- Printed strings
-----------------------------------------------------------------------------------------

theorem hexDigit_hexText {n : Nat} (small : n < 16) : hexDigit (hexText n) = some n := by
  interval_cases n <;> rfl

/-- The four digits of `%04x`. -/
theorem parseHex4_hexText {a b c d : Nat} (first : a < 16) (second : b < 16) (third : c < 16)
    (fourth : d < 16) (rest : List UInt8)
    : parseHex4 (hexText a :: hexText b :: hexText c :: hexText d :: rest)
      = .ok (((a * 16 + b) * 16 + c) * 16 + d) := by
  simp only [parseHex4, parseHex4Loop, readAt, List.getElem?_cons_zero, ok_bind,
    List.drop_succ_cons,
    List.drop_zero, hexDigit_hexText first, hexDigit_hexText second, hexDigit_hexText third,
    hexDigit_hexText fourth, Nat.shiftLeft_eq]
  simp only [Nat.reduceEqDiff, if_false, if_true]
  congr 1
  omega

/-- What is printed for a character. -/
inductive Escaped : UInt8 → List UInt8 → Prop
  | plain {c : UInt8} (quote : c ≠ 34) (backslash : c ≠ 92) : Escaped c [c]
  | simple {c letter : UInt8} (reads : simpleEscape letter = some c) : Escaped c [92, letter]
  | control {c : UInt8} (small : c.toNat < 32)
      : Escaped c [92, 117, 48, 48, hexText (c.toNat / 16), hexText (c.toNat % 16)]

theorem escapeByte_escaped (c : UInt8) : Escaped c (escapeByte c) := by
  unfold escapeByte
  split_ifs with plain
  · exact .plain plain.2.1 plain.2.2
  all_goals try (subst c; exact .simple rfl)
  refine .control ?_
  by_contra large
  have above : c > 31 := by
    rw [gt_iff_lt, UInt8.lt_iff_toNat_lt]
    exact Nat.lt_of_succ_le (not_lt.mp large)
  exact plain ⟨above, ‹c ≠ 34›, ‹c ≠ 92›⟩

theorem Escaped.length_pos {c : UInt8} {text : List UInt8} (printed : Escaped c text)
    : 0 < text.length := by
  cases printed <;> simp

theorem encodeUtf8_ascii {codepoint : Nat} (ascii : codepoint < 0x80)
    : encodeUtf8 codepoint = .ok [UInt8.ofNat codepoint] := by
  have low : codepoint &&& 0x7F = codepoint := by
    rw [show 0x7F = 2 ^ 7 - 1 from rfl, Nat.and_two_pow_sub_one_eq_mod]
    exact Nat.mod_eq_of_lt ascii
  have bytes : utf8Bytes 1 0 codepoint = [UInt8.ofNat (codepoint &&& 0x7F)] := rfl
  rw [encodeUtf8, if_pos ascii, bytes, low]

/-- One round of the loop reads what was printed for one character. -/
theorem Escaped.step {c : UInt8} {text : List UInt8} (printed : Escaped c text) {left : Nat}
    (fits : text.length ≤ left) (rest : List UInt8)
    : unescapeStep (text ++ rest) left = .ok ([c], text.length) := by
  cases printed with
  | plain quote backslash =>
      simp only [List.cons_append, List.nil_append, unescapeStep, readAt, List.getElem?_cons_zero,
        ok_bind, if_pos backslash, List.length_singleton]
  | simple reads =>
      simp only [List.cons_append, List.nil_append, unescapeStep, readAt, List.getElem?_cons_zero,
        List.getElem?_cons_succ, ok_bind, ne_eq, not_true_eq_false, if_false, reads,
        List.length_cons, List.length_nil]
  | control small =>
      have code := parseHex4_hexText (show 0 < 16 by norm_num) (show 0 < 16 by norm_num)
        (show c.toNat / 16 < 16 by omega) (Nat.mod_lt c.toNat (by norm_num)) rest
      have value : ((0 * 16 + 0) * 16 + c.toNat / 16) * 16 + c.toNat % 16 = c.toNat := by omega
      have zero : hexText 0 = 48 := rfl
      rw [value, zero] at code
      have size : ¬ left < 6 := not_lt.mpr fits
      have letter : simpleEscape 117 = none := rfl
      simp only [List.cons_append, List.nil_append, unescapeStep, readAt, List.getElem?_cons_zero,
        List.getElem?_cons_succ, ok_bind, ne_eq, not_true_eq_false, if_false, letter, if_true,
        utf16LiteralToUtf8, size, List.drop_succ_cons, List.drop_zero, code]
      rw [if_neg (by omega), if_neg (by omega), encodeUtf8_ascii (by omega), ok_bind,
        UInt8.ofNat_toNat]
      rfl

/-- The search for the closing quote passes over it. -/
theorem Escaped.passed {c : UInt8} {text : List UInt8} (printed : Escaped c text)
    {rest : List UInt8} {length skipped : Nat} (found : stringEnd rest = .ok (length, skipped))
    : ∃ more, stringEnd (text ++ rest) = .ok (length + text.length, skipped + more)
        ∧ more < text.length := by
  have plainHex {n : Nat} (small : n < 16) : hexText n ≠ 34 ∧ hexText n ≠ 92 := by
    interval_cases n <;> decide
  cases printed with
  | plain quote backslash =>
      refine ⟨0, ?_, Nat.one_pos⟩
      rw [List.singleton_append, stringEnd_plain quote backslash, found]
      rfl
  | simple reads =>
      refine ⟨1, ?_, Nat.one_lt_two⟩
      rw [List.cons_append, List.singleton_append, stringEnd_escape, found]
      rfl
  | control small =>
      obtain ⟨quote, backslash⟩ := plainHex (show c.toNat / 16 < 16 by omega)
      obtain ⟨quote', backslash'⟩ := plainHex (Nat.mod_lt c.toNat (show 0 < 16 by norm_num))
      refine ⟨1, ?_, by simp⟩
      have zero : (48 : UInt8) ≠ 34 ∧ (48 : UInt8) ≠ 92 := by decide
      simp only [List.cons_append, List.nil_append]
      rw [stringEnd_escape, stringEnd_plain zero.1 zero.2, stringEnd_plain zero.1 zero.2,
        stringEnd_plain quote backslash, stringEnd_plain quote' backslash', found]
      rfl

theorem stringEnd_flatMap (string tail : List UInt8)
    : ∃ skipped,
        stringEnd (string.flatMap escapeByte ++ 34 :: tail)
          = .ok ((string.flatMap escapeByte).length, skipped)
        ∧ string.length + skipped ≤ (string.flatMap escapeByte).length := by
  induction string with
  | nil => exact ⟨0, stringEnd_quote tail, le_rfl⟩
  | cons c string ih =>
      obtain ⟨skipped, found, enough⟩ := ih
      obtain ⟨more, whole, less⟩ := (escapeByte_escaped c).passed found
      refine ⟨skipped + more, ?_, ?_⟩
      · rw [List.flatMap_cons, List.append_assoc, whole, List.length_append, Nat.add_comm]
      · rw [List.flatMap_cons, List.length_append, List.length_cons]
        omega

theorem unescape_flatMap {string tail : List UInt8} {fuel room : Nat}
    (enough : (string.flatMap escapeByte).length ≤ fuel) (fits : string.length < room)
    : unescape fuel (string.flatMap escapeByte ++ tail) (string.flatMap escapeByte).length room
      = .ok string := by
  induction string generalizing fuel room with
  | nil =>
      have some_ : ¬ room = 0 := Nat.ne_of_gt fits
      cases fuel <;> simp [unescape, some_]
  | cons c string ih =>
      have printed := escapeByte_escaped c
      have nonempty := printed.length_pos
      rw [List.length_cons] at fits
      rw [List.flatMap_cons, List.length_append] at enough
      rw [List.flatMap_cons, List.append_assoc, List.length_append]
      obtain ⟨fuel, rfl⟩ : ∃ n, fuel = n + 1 := ⟨fuel - 1, by omega⟩
      obtain ⟨left, some_⟩ : ∃ n, (escapeByte c).length + (string.flatMap escapeByte).length
          = n + 1 :=
        ⟨(escapeByte c).length + (string.flatMap escapeByte).length - 1, by omega⟩
      have step : unescapeStep (escapeByte c ++ (string.flatMap escapeByte ++ tail)) (left + 1)
          = .ok ([c], (escapeByte c).length) :=
        printed.step (by omega) _
      have rest : left + 1 - (escapeByte c).length = (string.flatMap escapeByte).length := by omega
      have later : unescape fuel (string.flatMap escapeByte ++ tail)
          (string.flatMap escapeByte).length (room - 1) = .ok string :=
        ih (by omega) (by omega)
      rw [some_, unescape, step, ok_bind]
      dsimp only
      rw [rest, List.drop_left, List.length_singleton, if_neg (by omega), later, ok_bind]
      rfl

/-- A printed string is parsed back, and what follows it is left. -/
theorem parseString_printString (string tail : List UInt8)
    : parseString (printString string ++ tail) = .ok (string, tail) := by
  obtain ⟨skipped, found, enough⟩ := stringEnd_flatMap string tail
  have output : unescape (string.flatMap escapeByte).length
      (string.flatMap escapeByte ++ 34 :: tail) (string.flatMap escapeByte).length
      ((string.flatMap escapeByte).length + 1 - skipped + 1) = .ok string :=
    unescape_flatMap le_rfl (by omega)
  have rest : (string.flatMap escapeByte ++ 34 :: tail).drop
      ((string.flatMap escapeByte).length + 1) = tail := by
    rw [← List.drop_drop, List.drop_left]
    rfl
  simp only [printString, List.cons_append, List.append_assoc, List.nil_append, parseString, readAt,
    List.getElem?_cons_zero, ok_bind, ne_eq, not_true_eq_false, if_false, List.drop_succ_cons,
    List.drop_zero, found, output, rest]

end Iperf.Cjson
