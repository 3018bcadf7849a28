import Iperf.Library.Checked
import Iperf.Library.TextLines
import Iperf.Model.Net

/-! The strings of cJSON: `print_string_ptr`, and `parse_string` with every access to its input
and to the memory of its output.
-/

namespace Iperf.Cjson

open Checked

/-- Why the parser stops: the text is no JSON, an access leaves the memory, or a loop runs longer
than its bound.
-/
inductive ParseStop where
  | invalid
  | outside
  | endless
deriving DecidableEq

/-- A read at an offset from a pointer. A pointer is the rest of the memory. -/
def readAt (pointer : List UInt8) (i : Nat) : Except ParseStop UInt8 :=
  match pointer[i]? with
  | some c => .ok c
  | none => .error .outside

-----------------------------------------------------------------------------------------
-- Escaped characters
-----------------------------------------------------------------------------------------

def hexDigit (c : UInt8) : Option Nat :=
  if 48 ≤ c ∧ c ≤ 57 then some (c.toNat - 48)
  else if 65 ≤ c ∧ c ≤ 70 then some (10 + c.toNat - 65)
  else if 97 ≤ c ∧ c ≤ 102 then some (10 + c.toNat - 97)
  else none

/-- The loop of `parse_hex4`, with so many digits left. What is no digit makes it zero. -/
def parseHex4Loop : Nat → Nat → List UInt8 → Except ParseStop Nat
  | 0, h, _ => .ok h
  | left + 1, h, input => do
      let c ← readAt input 0
      match hexDigit c with
      | none => .ok 0
      | some digit =>
          let h := h + digit
          -- shift left to make place for the next nibble
          parseHex4Loop left (if left = 0 then h else h <<< 4) (input.drop 1)

def parseHex4 (input : List UInt8) : Except ParseStop Nat := parseHex4Loop 4 0 input

/-- The bytes behind the first from the last one on, and what is left for the first. -/
def utf8Tail : Nat → Nat → List UInt8 → Nat × List UInt8
  | 0, codepoint, bytes => (codepoint, bytes)
  | position + 1, codepoint, bytes =>
      utf8Tail position (codepoint >>> 6)
        (UInt8.ofNat ((codepoint ||| 0x80) &&& 0xBF) :: bytes)

def utf8Bytes (utf8Length : Nat) (firstByteMark : Nat) (codepoint : Nat) : List UInt8 :=
  let (first, bytes) := utf8Tail (utf8Length - 1) codepoint []
  if utf8Length > 1 then UInt8.ofNat ((first ||| firstByteMark) &&& 0xFF) :: bytes
  else [UInt8.ofNat (first &&& 0x7F)]

/-- The encoding of a code point; above `0x10FFFF` there is none. -/
def encodeUtf8 (codepoint : Nat) : Except ParseStop (List UInt8) :=
  if codepoint < 0x80 then .ok (utf8Bytes 1 0 codepoint)
  else if codepoint < 0x800 then .ok (utf8Bytes 2 0xC0 codepoint)
  else if codepoint < 0x10000 then .ok (utf8Bytes 3 0xE0 codepoint)
  else if codepoint ≤ 0x10FFFF then .ok (utf8Bytes 4 0xF0 codepoint)
  else .error .invalid

/-- `utf16_literal_to_utf8` with so many bytes up to the end of the literal: the bytes it writes
and the length of the sequence.
-/
def utf16LiteralToUtf8 (input : List UInt8) (left : Nat) : Except ParseStop (List UInt8 × Nat) := do
  if left < 6 then .error .invalid
  else
    let firstCode ← parseHex4 (input.drop 2)
    if 0xDC00 ≤ firstCode ∧ firstCode ≤ 0xDFFF then .error .invalid
    else if 0xD800 ≤ firstCode ∧ firstCode ≤ 0xDBFF then
      let second := input.drop 6
      if left - 6 < 6 then .error .invalid
      else
        let backslash ← readAt second 0
        let letter ← readAt second 1
        if backslash ≠ 92 ∨ letter ≠ 117 then .error .invalid
        else
          let secondCode ← parseHex4 (second.drop 2)
          if secondCode < 0xDC00 ∨ 0xDFFF < secondCode then .error .invalid
          else
            let codepoint := 0x10000 + ((firstCode &&& 0x3FF) <<< 10 ||| (secondCode &&& 0x3FF))
            let bytes ← encodeUtf8 codepoint
            .ok (bytes, 12)
    else
      let bytes ← encodeUtf8 firstCode
      .ok (bytes, 6)

/-- The escape sequences of two characters. -/
def simpleEscape (c : UInt8) : Option UInt8 :=
  if c = 98 then some 8
  else if c = 102 then some 12
  else if c = 110 then some 10
  else if c = 114 then some 13
  else if c = 116 then some 9
  else if c = 34 ∨ c = 92 ∨ c = 47 then some c
  else none

-----------------------------------------------------------------------------------------
-- Parsing
-----------------------------------------------------------------------------------------

/-- The number of bytes up to the closing quote, and how many backslashes escape a byte. -/
def stringEnd : List UInt8 → Except ParseStop (Nat × Nat)
  | [] => .error .invalid
  | c :: rest =>
      if c = 34 then .ok (0, 0)
      else if c = 92 then
        match rest with
        | [] => .error .invalid
        | _ :: rest => (stringEnd rest).map fun (length, skipped) => (length + 2, skipped + 1)
      else (stringEnd rest).map fun (length, skipped) => (length + 1, skipped)

theorem stringEnd_quote (rest : List UInt8) : stringEnd (34 :: rest) = .ok (0, 0) := by
  rw [stringEnd.eq_def]
  simp

theorem stringEnd_escape (c : UInt8) (rest : List UInt8)
    : stringEnd (92 :: c :: rest)
      = (stringEnd rest).map fun (length, skipped) => (length + 2, skipped + 1) := by
  rw [stringEnd.eq_def]
  simp

theorem stringEnd_plain {c : UInt8} (quote : c ≠ 34) (backslash : c ≠ 92) (rest : List UInt8)
    : stringEnd (c :: rest)
      = (stringEnd rest).map fun (length, skipped) => (length + 1, skipped) := by
  rw [stringEnd.eq_def]
  simp [quote, backslash]

/-- One round of the loop: the bytes it writes, and how far it moves. -/
def unescapeStep (input : List UInt8) (left : Nat) : Except ParseStop (List UInt8 × Nat) := do
  let c ← readAt input 0
  if c ≠ 92 then .ok ([c], 1)
  else
    let escaped ← readAt input 1
    match simpleEscape escaped with
    | some byte => .ok ([byte], 2)
    | none => if escaped = 117 then utf16LiteralToUtf8 input left else .error .invalid

/-- The loop through the literal, with so many bytes up to its end and so much memory left for
the output. The zero at the end takes one byte.
-/
def unescape : Nat → List UInt8 → Nat → Nat → Except ParseStop (List UInt8)
  | _, _, 0, room => if room = 0 then .error .outside else .ok []
  | 0, _, _ + 1, _ => .error .endless
  | fuel + 1, input, left + 1, room => do
      let (bytes, sequenceLength) ← unescapeStep input (left + 1)
      if room < bytes.length then .error .outside
      else
        let output ← unescape fuel (input.drop sequenceLength) (left + 1 - sequenceLength)
          (room - bytes.length)
        .ok (bytes ++ output)

/-- `parse_string`: the output and what follows the literal. -/
def parseString (input : List UInt8) : Except ParseStop (List UInt8 × List UInt8) := do
  let quote ← readAt input 0
  if quote ≠ 34 then .error .invalid
  else
    let body := input.drop 1
    let (length, skipped) ← stringEnd body
    -- the opening quote is counted
    let allocationLength := length + 1 - skipped
    let output ← unescape length body length (allocationLength + 1)
    .ok (output, body.drop (length + 1))

-----------------------------------------------------------------------------------------
-- Printing
-----------------------------------------------------------------------------------------

/-- A digit of `%04x`. -/
def hexText (n : Nat) : UInt8 := if n < 10 then UInt8.ofNat (48 + n) else UInt8.ofNat (87 + n)

/-- What `print_string_ptr` prints for a character. -/
def escapeByte (c : UInt8) : List UInt8 :=
  if c > 31 ∧ c ≠ 34 ∧ c ≠ 92 then [c]
  else if c = 92 then [92, 92]
  else if c = 34 then [92, 34]
  else if c = 8 then [92, 98]
  else if c = 12 then [92, 102]
  else if c = 10 then [92, 110]
  else if c = 13 then [92, 114]
  else if c = 9 then [92, 116]
  else [92, 117, 48, 48, hexText (c.toNat / 16), hexText (c.toNat % 16)]

/-- The text of a C string, with its quotes. -/
def printString (string : List UInt8) : List UInt8 :=
  34 :: string.flatMap escapeByte ++ [34]

end Iperf.Cjson
