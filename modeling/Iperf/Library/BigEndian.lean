import Mathlib.Data.List.Induction
import Mathlib.Data.Nat.Digits.Defs
import Mathlib.Tactic.Ring

/-! Fixed-width big-endian encodings of natural numbers. -/

namespace BigEndian

/-- The `width` low-order bytes of `n`, most significant byte first. -/
def encode : Nat → Nat → List UInt8
  | 0, _ => []
  | width + 1, n => UInt8.ofNat (n / 256 ^ width) :: encode width n

/-- The number whose bytes, most significant first, are `bytes`. -/
def decode (bytes : List UInt8) : Nat :=
  bytes.foldl (fun high byte => high * 256 + byte.toNat) 0

@[simp]
theorem length_encode (width n : Nat) : (encode width n).length = width := by
  induction width with
  | zero => rfl
  | succ width ih => simp [encode, ih]

private theorem foldl_encode (width n high : Nat)
    : (encode width n).foldl (fun high byte => high * 256 + byte.toNat) high
      = high * 256 ^ width + n % 256 ^ width := by
  induction width generalizing high with
  | zero => simp [encode, Nat.mod_one]
  | succ width ih =>
      have byte : (UInt8.ofNat (n / 256 ^ width)).toNat = n / 256 ^ width % 256 :=
        UInt8.toNat_ofNat'
      rw [encode, List.foldl_cons, ih, byte, Nat.mod_pow_succ, Nat.pow_succ]
      ring

/-- Decoding recovers the number modulo the width of its encoding. -/
@[simp]
theorem decode_encode (width n : Nat) : decode (encode width n) = n % 256 ^ width := by
  simp [decode, foldl_encode]

/-- A number that fits its width is recovered exactly. -/
theorem decode_encode_of_lt {width n : Nat} (fits : n < 256 ^ width)
    : decode (encode width n) = n := by
  rw [decode_encode, Nat.mod_eq_of_lt fits]

theorem decode_append_singleton (bytes : List UInt8) (byte : UInt8)
    : decode (bytes ++ [byte]) = decode bytes * 256 + byte.toNat := by
  simp [decode]

/-- By induction on the bytes from the end. -/
theorem decode_lt (bytes : List UInt8) : decode bytes < 256 ^ bytes.length := by
  induction bytes using List.reverseRecOn with
  | nil => simp [decode]
  | append_singleton bytes byte ih =>
      have digit := byte.toNat_lt
      rw [decode_append_singleton, List.length_append, List.length_singleton, Nat.pow_succ]
      omega

end BigEndian
