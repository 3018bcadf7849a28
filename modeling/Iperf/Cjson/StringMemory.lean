import Iperf.Cjson.Strings
import Mathlib.Tactic.SplitIfs

/-! `parse_string` stays inside its memory: it reads nothing behind the closing quote, writes
nothing behind its output, and comes to an end.
-/

namespace Iperf.Cjson

open Checked

/-- Nothing but the text is wrong. -/
def Safe {α : Type} (result : Except ParseStop α) : Prop :=
  ∀ stop, result = .error stop → stop = .invalid

theorem Safe.ok {α : Type} (a : α) : Safe (.ok a : Except ParseStop α) := by
  intro stop absurd
  cases absurd

theorem Safe.invalid {α : Type} : Safe (.error .invalid : Except ParseStop α) := by
  intro stop same
  exact (Except.error.inj same).symm

theorem Safe.bind {α β : Type} {x : Except ParseStop α} {f : α → Except ParseStop β}
    (first : Safe x) (later : ∀ a, x = .ok a → Safe (f a))
    : Safe (x >>= f) := by
  cases x with
  | error stop =>
      rw [first stop rfl]
      exact .invalid
  | ok a => exact later a rfl

theorem Safe.map {α β : Type} {x : Except ParseStop α} (f : α → β) (safe : Safe x)
    : Safe (x.map f) := by
  cases x with
  | error stop =>
      rw [safe stop rfl]
      exact .invalid
  | ok a => exact .ok _

theorem Safe.ite {α : Type} {p : Prop} [Decidable p] {x y : Except ParseStop α}
    (first : p → Safe x) (second : ¬ p → Safe y)
    : Safe (if p then x else y) := by
  split_ifs with holds
  · exact first holds
  · exact second holds

-----------------------------------------------------------------------------------------
-- The memory that a literal needs
-----------------------------------------------------------------------------------------

/-- The bytes of a literal without the backslashes that escape a byte. -/
def unescapedSize : List UInt8 → Nat
  | [] => 0
  | c :: rest =>
      if c = 92 then
        match rest with
        | [] => 1
        | _ :: rest => unescapedSize rest + 1
      else unescapedSize rest + 1

theorem unescapedSize_escape (c : UInt8) (rest : List UInt8)
    : unescapedSize (92 :: c :: rest) = unescapedSize rest + 1 := by
  rw [unescapedSize.eq_def]
  simp

theorem unescapedSize_plain {c : UInt8} (backslash : c ≠ 92) (rest : List UInt8)
    : unescapedSize (c :: rest) = unescapedSize rest + 1 := by
  rw [unescapedSize.eq_def]
  simp [backslash]

/-- The literal from any byte on needs no more, also in the middle of an escape. -/
theorem unescapedSize_tail_le (c : UInt8) (rest : List UInt8)
    : unescapedSize rest ≤ unescapedSize (c :: rest) := by
  by_cases backslash : c = 92
  · subst backslash
    match rest with
    | [] => simp [unescapedSize]
    | d :: rest =>
        rw [unescapedSize_escape]
        by_cases again : d = 92
        · subst again
          match rest with
          | [] => simp [unescapedSize]
          | e :: rest =>
              rw [unescapedSize_escape]
              exact Nat.succ_le_succ (unescapedSize_tail_le e rest)
        · rw [unescapedSize_plain again]
  · rw [unescapedSize_plain backslash]
    exact Nat.le_succ _

theorem unescapedSize_drop_le (input : List UInt8) (n : Nat)
    : unescapedSize (input.drop n) ≤ unescapedSize input := by
  induction n generalizing input with
  | zero => exact le_rfl
  | succ n ih =>
      cases input with
      | nil => exact le_rfl
      | cons c rest => exact (ih rest).trans (unescapedSize_tail_le c rest)

/-- The closing quote stands behind the literal, and the size is counted on the way to it. -/
theorem stringEnd_size {input : List UInt8} {length skipped : Nat}
    (found : stringEnd input = .ok (length, skipped))
    : length < input.length ∧ unescapedSize (input.take length) + skipped = length := by
  match input with
  | [] => cases found
  | c :: rest =>
      by_cases quote : c = 34
      · subst quote
        rw [stringEnd_quote] at found
        cases found
        exact ⟨by simp, rfl⟩
      by_cases backslash : c = 92
      · subst backslash
        match rest with
        | [] => simp [stringEnd] at found
        | d :: rest =>
            rw [stringEnd_escape, map_eq_ok] at found
            obtain ⟨⟨length', skipped'⟩, later, same⟩ := found
            cases same
            obtain ⟨inside, size⟩ := stringEnd_size later
            rw [List.length_cons, List.length_cons, List.take_succ_cons, List.take_succ_cons,
              unescapedSize_escape]
            omega
      · rw [stringEnd_plain quote backslash, map_eq_ok] at found
        obtain ⟨⟨length', skipped'⟩, later, same⟩ := found
        cases same
        obtain ⟨inside, size⟩ := stringEnd_size later
        rw [List.length_cons, List.take_succ_cons, unescapedSize_plain backslash]
        omega

/-- The search stops at a closing quote. -/
theorem stringEnd_quoteAt {input : List UInt8} {length skipped : Nat}
    (found : stringEnd input = .ok (length, skipped))
    : ∃ rest, input.drop length = 34 :: rest := by
  match input with
  | [] => cases found
  | c :: rest =>
      by_cases quote : c = 34
      · subst quote
        rw [stringEnd_quote] at found
        cases found
        exact ⟨rest, rfl⟩
      by_cases backslash : c = 92
      · subst backslash
        match rest with
        | [] => simp [stringEnd] at found
        | d :: rest =>
            rw [stringEnd_escape, map_eq_ok] at found
            obtain ⟨⟨length', skipped'⟩, later, same⟩ := found
            cases same
            obtain ⟨behind, quoteAt⟩ := stringEnd_quoteAt later
            exact ⟨behind, quoteAt⟩
      · rw [stringEnd_plain quote backslash, map_eq_ok] at found
        obtain ⟨⟨length', skipped'⟩, later, same⟩ := found
        cases same
        obtain ⟨behind, quoteAt⟩ := stringEnd_quoteAt later
        exact ⟨behind, quoteAt⟩

theorem stringEnd_safe (input : List UInt8) : Safe (stringEnd input) := by
  match input with
  | [] => exact .invalid
  | c :: rest =>
      by_cases quote : c = 34
      · subst quote
        rw [stringEnd_quote]
        exact .ok _
      by_cases backslash : c = 92
      · subst backslash
        match rest with
        | [] =>
            rw [stringEnd.eq_def]
            exact .invalid
        | d :: rest =>
            rw [stringEnd_escape]
            exact (stringEnd_safe rest).map _
      · rw [stringEnd_plain quote backslash]
        exact (stringEnd_safe rest).map _

-----------------------------------------------------------------------------------------
-- One round
-----------------------------------------------------------------------------------------

theorem six_of_length {input : List UInt8} (long : 6 ≤ input.length)
    : ∃ x u a b c d rest, input = x :: u :: a :: b :: c :: d :: rest := by
  match input, long with
  | x :: u :: a :: b :: c :: d :: rest, _ => exact ⟨x, u, a, b, c, d, rest, rfl⟩

theorem hexDigit_some {c : UInt8} {digit : Nat} (some_ : hexDigit c = some digit) : c ≠ 92 := by
  rintro rfl
  cases some_

/-- Four readable bytes have a value, and it is not zero only when all of them are digits. -/
theorem parseHex4_cons (a b c d : UInt8) (rest : List UInt8)
    : ∃ h, parseHex4 (a :: b :: c :: d :: rest) = .ok h
        ∧ (h ≠ 0 → a ≠ 92 ∧ b ≠ 92 ∧ c ≠ 92 ∧ d ≠ 92) := by
  simp only [parseHex4, parseHex4Loop, readAt, List.getElem?_cons_zero, ok_bind,
    List.drop_succ_cons, List.drop_zero]
  cases first : hexDigit a with
  | none => exact ⟨0, rfl, fun absurd => (absurd rfl).elim⟩
  | some digit =>
      cases second : hexDigit b with
      | none => exact ⟨0, rfl, fun absurd => (absurd rfl).elim⟩
      | some digit =>
          cases third : hexDigit c with
          | none => exact ⟨0, rfl, fun absurd => (absurd rfl).elim⟩
          | some digit =>
              cases fourth : hexDigit d with
              | none => exact ⟨0, rfl, fun absurd => (absurd rfl).elim⟩
              | some digit =>
                  exact ⟨_, rfl, fun _ => ⟨hexDigit_some first, hexDigit_some second,
                    hexDigit_some third, hexDigit_some fourth⟩⟩

theorem encodeUtf8_safe (codepoint : Nat) : Safe (encodeUtf8 codepoint) := by
  unfold encodeUtf8
  split_ifs
  · exact .ok _
  · exact .ok _
  · exact .ok _
  · exact .ok _
  · exact .invalid

theorem encodeUtf8_length {codepoint : Nat} {bytes : List UInt8}
    (encoded : encodeUtf8 codepoint = .ok bytes)
    : bytes.length ≤ 4 ∧ (codepoint = 0 → bytes.length = 1) := by
  unfold encodeUtf8 at encoded
  split_ifs at encoded <;> cases encoded <;> simp [utf8Bytes, utf8Tail] <;> omega

/-- What a round promises: it moves, it reads inside, and the bytes it writes leave enough memory
for the rest of the literal.
-/
structure Round (input : List UInt8) (left : Nat)
    (result : Except ParseStop (List UInt8 × Nat)) : Prop where
  safe : Safe result
  moves : ∀ bytes n, result = .ok (bytes, n) → 0 < n
  fits : ∀ bytes n, result = .ok (bytes, n) →
    bytes.length + unescapedSize ((input.take left).drop n) ≤ unescapedSize (input.take left)

theorem Round.invalid {input : List UInt8} {left : Nat} : Round input left (.error .invalid) where
  safe := .invalid
  moves _ _ absurd := by cases absurd
  fits _ _ absurd := by cases absurd

theorem Round.ok {input bytes : List UInt8} {left n : Nat} (moves : 0 < n)
    (fits : bytes.length + unescapedSize ((input.take left).drop n)
      ≤ unescapedSize (input.take left))
    : Round input left (.ok (bytes, n)) where
  safe := .ok _
  moves _ _ same := by cases same; exact moves
  fits _ _ same := by cases same; exact fits

/-- A sequence of an escaped code point, whose bytes have been checked. -/
theorem Round.encode {input : List UInt8} {left codepoint n : Nat} (moves : 0 < n)
    (fits : ∀ bytes, encodeUtf8 codepoint = .ok bytes →
      bytes.length + unescapedSize ((input.take left).drop n) ≤ unescapedSize (input.take left))
    : Round input left (encodeUtf8 codepoint >>= fun bytes => .ok (bytes, n)) := by
  have safe := encodeUtf8_safe codepoint
  cases encoded : encodeUtf8 codepoint with
  | error stop =>
      rw [safe stop encoded]
      exact .invalid
  | ok bytes => exact .ok moves (fits bytes encoded)

/-- A sequence with four digits counts for five bytes. -/
theorem unescapedSize_sequence {a b c d : UInt8} (u : UInt8) (rest : List UInt8) (left : Nat)
    (plain : a ≠ 92 ∧ b ≠ 92 ∧ c ≠ 92 ∧ d ≠ 92)
    : unescapedSize ((92 :: u :: a :: b :: c :: d :: rest).take (left + 6))
      = unescapedSize (rest.take left) + 5 := by
  obtain ⟨first, second, third, fourth⟩ := plain
  have region : (92 :: u :: a :: b :: c :: d :: rest).take (left + 6)
      = 92 :: u :: a :: b :: c :: d :: rest.take left := rfl
  rw [region, unescapedSize_escape, unescapedSize_plain first, unescapedSize_plain second,
    unescapedSize_plain third, unescapedSize_plain fourth]

/-- An escaped code point takes at least as many bytes as its encoding. -/
theorem utf16_round {input : List UInt8} {left : Nat} (behind : left < input.length)
    (backslash : input[0]? = some 92)
    : Round input left (utf16LiteralToUtf8 input left) := by
  unfold utf16LiteralToUtf8
  by_cases short : left < 6
  · rw [if_pos short]
    exact .invalid
  rw [if_neg short]
  obtain ⟨x, u, a, b, c, d, rest, rfl⟩ := six_of_length (show 6 ≤ input.length by omega)
  obtain rfl := Option.some.inj backslash
  obtain ⟨left, rfl⟩ : ∃ n, left = n + 6 := ⟨left - 6, by omega⟩
  obtain ⟨first, read, digits⟩ := parseHex4_cons a b c d rest
  simp only [List.drop_succ_cons, List.drop_zero, read, ok_bind]
  by_cases low : 0xDC00 ≤ first ∧ first ≤ 0xDFFF
  · rw [if_pos low]
    exact .invalid
  rw [if_neg low]
  by_cases high : 0xD800 ≤ first ∧ first ≤ 0xDBFF
  · rw [if_pos high]
    by_cases short' : left + 6 - 6 < 6
    · rw [if_pos short']
      exact .invalid
    rw [if_neg short']
    obtain ⟨left, rfl⟩ : ∃ n, left = n + 6 := ⟨left - 6, by omega⟩
    simp only [List.length_cons] at behind
    obtain ⟨x, y, a₂, b₂, c₂, d₂, rest, rfl⟩ := six_of_length (show 6 ≤ rest.length by omega)
    obtain ⟨second, read', digits'⟩ := parseHex4_cons a₂ b₂ c₂ d₂ rest
    simp only [readAt, List.getElem?_cons_zero, List.getElem?_cons_succ, ok_bind,
      List.drop_succ_cons, List.drop_zero, read']
    by_cases letters : x ≠ 92 ∨ y ≠ 117
    · rw [if_pos letters]
      exact .invalid
    rw [if_neg letters]
    push Not at letters
    obtain ⟨rfl, rfl⟩ := letters
    by_cases other : second < 0xDC00 ∨ 0xDFFF < second
    · rw [if_pos other]
      exact .invalid
    rw [if_neg other]
    refine .encode (by norm_num) ?_
    intro bytes encoded
    obtain ⟨four, -⟩ := encodeUtf8_length encoded
    have rest_ : ((92 :: u :: a :: b :: c :: d :: 92 :: 117 :: a₂ :: b₂ :: c₂ :: d₂ :: rest).take
        (left + 6 + 6)).drop 12 = rest.take left := rfl
    rw [rest_, unescapedSize_sequence u _ _ (digits (by omega)),
      unescapedSize_sequence 117 _ _ (digits' (by omega))]
    omega
  · rw [if_neg high]
    refine .encode (by norm_num) ?_
    intro bytes encoded
    obtain ⟨four, one⟩ := encodeUtf8_length encoded
    have rest_ : ((92 :: u :: a :: b :: c :: d :: rest).take (left + 6)).drop 6
        = rest.take left := rfl
    by_cases zero : first = 0
    · have region : (92 :: u :: a :: b :: c :: d :: rest).take (left + 6)
          = 92 :: u :: a :: b :: c :: d :: rest.take left := rfl
      rw [one zero, rest_, region, unescapedSize_escape]
      have less := unescapedSize_drop_le (a :: b :: c :: d :: rest.take left) 4
      simp only [List.drop_succ_cons, List.drop_zero] at less
      omega
    · rw [unescapedSize_sequence u rest left (digits zero), rest_]
      omega

theorem simpleEscape_round {c byte : UInt8} {rest : List UInt8} {left : Nat} (some_ : 0 < left)
    : Round (92 :: c :: rest) left (.ok ([byte], 2)) := by
  refine .ok (by norm_num) ?_
  obtain ⟨left, rfl⟩ := Nat.exists_eq_succ_of_ne_zero (Nat.ne_of_gt some_)
  cases left with
  | zero => simp [unescapedSize]
  | succ left =>
      rw [List.take_succ_cons, List.take_succ_cons, unescapedSize_escape, List.drop_succ_cons,
        List.drop_succ_cons, List.drop_zero, List.length_singleton, Nat.add_comm]

theorem unescapeStep_round {input : List UInt8} {left : Nat} (some_ : 0 < left)
    (behind : left < input.length)
    : Round input left (unescapeStep input left) := by
  match input with
  | [] => simp at behind
  | [_] =>
      rw [List.length_singleton] at behind
      omega
  | c :: escaped :: rest =>
      simp only [unescapeStep, readAt, List.getElem?_cons_zero, List.getElem?_cons_succ, ok_bind]
      by_cases plain : c ≠ 92
      · rw [if_pos plain]
        refine .ok Nat.one_pos ?_
        obtain ⟨left, rfl⟩ := Nat.exists_eq_succ_of_ne_zero (Nat.ne_of_gt some_)
        rw [List.take_succ_cons, unescapedSize_plain plain, List.drop_succ_cons, List.drop_zero,
          List.length_singleton, Nat.add_comm]
      · rw [if_neg plain]
        obtain rfl := not_not.mp plain
        cases simpleEscape escaped with
        | some byte => exact simpleEscape_round some_
        | none =>
            dsimp only
            split_ifs
            · exact utf16_round behind rfl
            · exact .invalid

-----------------------------------------------------------------------------------------
-- The whole literal
-----------------------------------------------------------------------------------------

/-- The loop stays inside its memory, by induction on its bound. The invariant is that the memory
left holds what the rest of the literal needs, and the zero behind it.
-/
theorem unescape_safe {fuel left room : Nat} {input : List UInt8} (enough : left ≤ fuel)
    (behind : left < input.length) (fits : unescapedSize (input.take left) < room)
    : Safe (unescape fuel input left room) := by
  induction fuel generalizing input left room with
  | zero =>
      obtain rfl := Nat.le_zero.mp enough
      rw [unescape, if_neg (by omega)]
      exact .ok _
  | succ fuel ih =>
      cases left with
      | zero =>
          rw [unescape, if_neg (by omega)]
          exact .ok _
      | succ left =>
          have round := unescapeStep_round (show 0 < left + 1 by omega) behind
          rw [unescape]
          refine round.safe.bind ?_
          intro (bytes, n) done
          have moves := round.moves bytes n done
          have memory := round.fits bytes n done
          dsimp only
          rw [if_neg (by omega)]
          refine Safe.bind ?_ (fun output _ => .ok _)
          by_cases over_ : left + 1 ≤ n
          · -- the last sequence may reach behind the closing quote
            rw [Nat.sub_eq_zero_of_le over_]
            cases fuel <;> rw [unescape, if_neg (by omega)] <;> exact .ok _
          · rw [List.drop_take] at memory
            refine ih (by omega) ?_ (by omega)
            rw [List.length_drop]
            omega

/-- Whatever follows the first byte, `parse_string` reads inside the text, writes inside its output
and ends.
-/
theorem parseString_safe {input : List UInt8} (nonempty : input ≠ [])
    : Safe (parseString input) := by
  obtain ⟨c, body, rfl⟩ := List.exists_cons_of_ne_nil nonempty
  simp only [parseString, readAt, List.getElem?_cons_zero, ok_bind, List.drop_succ_cons,
    List.drop_zero]
  refine .ite (fun _ => .invalid) fun _ => ?_
  refine (stringEnd_safe body).bind ?_
  intro (length, skipped) found
  obtain ⟨inside, size⟩ := stringEnd_size found
  have room : unescapedSize (body.take length) < length + 1 - skipped + 1 := by omega
  exact Safe.bind (unescape_safe le_rfl inside room) (fun output _ => .ok _)

end Iperf.Cjson
