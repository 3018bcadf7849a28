import Iperf.Cjson.Printer
import Iperf.Library.Buffer

/-! The printer of cJSON on its buffer, which grows while an item is printed.
-/

namespace Iperf.Cjson

open Doubles

def sizeMax : Nat := 2 ^ 64 - 1

/-- The allocator: it answers every request with the contents of fresh memory or with `NULL`, and
it may be without `realloc`.
-/
structure InternalHooks where
  reallocates : Bool
  allocate : Nat → Option (Nat → UInt8)

/-- A `printbuffer`; a `buffer` of `none` is the null pointer. Beside it, how often the allocator
has been asked, and how many of its blocks are in use.
-/
structure PrintBuffer where
  buffer : Option (List UInt8)
  length : Nat
  offset : Nat := 0
  depth : Nat := 0
  noalloc : Bool := false
  format : Bool
  requests : Nat := 0
  blocks : Nat

namespace PrintBuffer

/-- What a function returns, and the buffer behind it. `none` is an access outside the memory. -/
abbrev Printer := PrintBuffer → Option (Bool × PrintBuffer)

/-- A function that fails makes its caller fail. -/
def andThen (first next : Printer) : Printer := fun p =>
  match first p with
  | some (true, p) => next p
  | stopped => stopped

def fresh (content : Nat → UInt8) (size : Nat) : List UInt8 := (List.range size).map content

/-- The free of a block, unless the pointer is null. -/
def deallocate (p : PrintBuffer) : PrintBuffer :=
  if p.buffer.isSome then { p with buffer := none, blocks := p.blocks - 1 } else p

variable (hooks : InternalHooks)

/-- `ensure`; whether it returns a pointer, which is that of the offset. -/
def ensure (needed : Nat) : Printer := fun p =>
  match p.buffer with
  | none => some (false, p)
  | some memory =>
      if 0 < p.length ∧ p.length ≤ p.offset then some (false, p)
      else
        let needed := (needed + p.offset + 1) % (sizeMax + 1)
        if needed ≤ p.length then some (true, p)
        else if p.noalloc then some (false, p)
        else
          let newsize := if needed > sizeMax / 2 then sizeMax else needed * 2
          match hooks.allocate p.requests with
          | none => some (false, { p.deallocate with length := 0, requests := p.requests + 1 })
          | some content =>
              -- `realloc` keeps everything, `memcpy` reads up to the byte at the offset
              let kept := if hooks.reallocates then memory.length else p.offset + 1
              if memory.length < kept then none
              else
                some (true, {
                  p with
                  buffer := some (memory.take kept ++ fresh content (newsize - kept))
                  length := newsize
                  requests := p.requests + 1
                })

/-- Write bytes into memory. -/
def put (bytes memory : List UInt8) (position : Nat) : Option (List UInt8) :=
  if position + bytes.length ≤ memory.length then some (Buffer.copyAt memory position bytes)
  else none

/-- Reserve memory, write at the offset and move the offset. -/
def reserve (needed : Nat) (write : List UInt8 → Nat → Option (List UInt8)) (advance : Nat)
    : Printer :=
  andThen (ensure hooks needed) fun p =>
    match p.buffer with
    | none => none
    | some memory =>
        (write memory p.offset).map fun memory =>
          (true, { p with buffer := some memory, offset := p.offset + advance })

/-- `update_offset`, with `strlen` of what has been written. -/
def updateOffset : Printer := fun p =>
  match p.buffer with
  | none => some (true, p)
  | some memory =>
      let rest := memory.drop p.offset
      if 0 ∈ rest then
        some (true, { p with offset := p.offset + (rest.takeWhile (· ≠ 0)).length })
      else none

def printNumber (valuedouble : Double) : Printer :=
  let number := Cjson.printNumber valuedouble
  -- the number has been printed into a buffer of its own
  if 25 < number.length then fun p => some (false, p)
  else reserve hooks (number.length + 1) (put (number ++ [0])) number.length

/-- The additional characters for one character. -/
def escapeCharacters (c : UInt8) : Nat :=
  if c ∈ [34, 92, 8, 12, 10, 13, 9] then 1
  else if c < 32 then 5
  else 0

/-- The escape sequences of one character. -/
def shortEscape (c : UInt8) : Option UInt8 :=
  if c = 92 then some 92
  else if c = 34 then some 34
  else if c = 8 then some 98
  else if c = 12 then some 102
  else if c = 10 then some 110
  else if c = 13 then some 114
  else if c = 9 then some 116
  else none

/-- The loop that copies a string and escapes it. -/
def writeEscaped : List UInt8 → List UInt8 → Nat → Option (List UInt8)
  | [], memory, _ => some memory
  | c :: rest, memory, pointer =>
      if c > 31 ∧ c ≠ 34 ∧ c ≠ 92 then do
        writeEscaped rest (← put [c] memory pointer) (pointer + 1)
      else do
        let memory ← put [92] memory pointer
        match shortEscape c with
        | some letter => writeEscaped rest (← put [letter] memory (pointer + 1)) (pointer + 2)
        | none =>
            -- `sprintf` writes a zero behind the digits
            let text := [117, 48, 48, hexText (c.toNat / 16), hexText (c.toNat % 16), 0]
            writeEscaped rest (← put text memory (pointer + 1)) (pointer + 6)

def outputLength (input : List UInt8) : Nat := input.length + (input.map escapeCharacters).sum

def writeString (input memory : List UInt8) (output : Nat) : Option (List UInt8) := do
  let memory ← put [34] memory output
  let memory ← (if (input.map escapeCharacters).sum = 0 then put input memory (output + 1)
    else writeEscaped input memory (output + 1))
  put [34, 0] memory (output + outputLength input + 1)

/-- `print_string_ptr` -/
def printStringPtr (input : List UInt8) : Printer :=
  reserve hooks (outputLength input + 3) (writeString input) 0

def deeper : Printer := fun p => some (true, { p with depth := p.depth + 1 })

def shallower : Printer := fun p => some (true, { p with depth := p.depth - 1 })

/-- The comma behind an element. -/
def putComma : Printer := fun p =>
  let length := if p.format then 2 else 1
  reserve hooks (length + 1) (put (44 :: (formatted p.format [32] ++ [0]))) length p

def putOpening : Printer := fun p =>
  let length := if p.format then 2 else 1
  reserve hooks (length + 1) (put (123 :: formatted p.format [10])) length p

def putIndent : Printer := fun p =>
  if p.format then reserve hooks p.depth (put (tabs p.depth)) p.depth p else some (true, p)

def putColon : Printer := fun p =>
  let length := if p.format then 2 else 1
  reserve hooks length (put (58 :: formatted p.format [9])) length p

/-- What is behind a member; the last one has no comma. -/
def putSeparator (last : Bool) : Printer := fun p =>
  let length := (if p.format then 1 else 0) + (if last then 0 else 1)
  reserve hooks (length + 1)
    (put ((if last then [] else [44]) ++ (formatted p.format [10] ++ [0]))) length p

def putClosing : Printer := fun p =>
  reserve hooks (if p.format then p.depth + 1 else 2)
    (put (formatted p.format (tabs (p.depth - 1)) ++ [125, 0])) 0 p

mutual
def printValue : Item → Printer
  | .null => reserve hooks 5 (put (nullText ++ [0])) 0
  | .bool false => reserve hooks 6 (put (falseText ++ [0])) 0
  | .bool true => reserve hooks 5 (put (trueText ++ [0])) 0
  | .number valuedouble => printNumber hooks valuedouble
  | .string valuestring => printStringPtr hooks valuestring.1
  | .array children =>
      andThen (reserve hooks 1 (put [91]) 1) (andThen deeper (andThen (printElements children)
        (andThen (reserve hooks 2 (put [93, 0]) 0) shallower)))
  | .object children =>
      andThen (putOpening hooks) (andThen deeper (andThen (printMembers children)
        (andThen (putClosing hooks) shallower)))

/-- The loop of `print_array`. -/
def printElements : List Item → Printer
  | [] => fun p => some (true, p)
  | child :: next =>
      andThen (printValue child) (andThen updateOffset
        (andThen (if next.isEmpty then fun p => some (true, p) else putComma hooks)
          (printElements next)))

/-- The loop of `print_object`. -/
def printMembers : List (CString × Item) → Printer
  | [] => fun p => some (true, p)
  | child :: next =>
      andThen (printMember child) (andThen (putSeparator hooks next.isEmpty) (printMembers next))

def printMember : CString × Item → Printer
  | (string, child) =>
      andThen (putIndent hooks) (andThen (printStringPtr hooks string.1) (andThen updateOffset
        (andThen (putColon hooks) (andThen (printValue child) updateOffset))))
end

/-- The buffer of `print`. -/
def initial (format : Bool) (content : Nat → UInt8) : PrintBuffer where
  buffer := some (fresh content 256)
  length := 256
  format
  requests := 1
  blocks := 1

/-- `print`: the block that is returned, and how many blocks are in use then. -/
def print (format : Bool) (item : Item) : Option (Option (List UInt8) × Nat) :=
  match hooks.allocate 0 with
  | none => some (none, 0)
  | some content =>
      match andThen (printValue hooks item) updateOffset (initial format content) with
      | none => none
      | some (false, p) => some (none, p.deallocate.blocks)
      | some (true, p) =>
          match p.buffer, hooks.allocate p.requests with
          | none, _ => none
          | some _, none => some (none, p.deallocate.blocks)
          | some memory, some content =>
              let copied := memory.take (p.offset + 1)
              let printed := copied ++ fresh content (p.offset + 1 - copied.length)
              -- without `realloc`, the zero is written again
              if hooks.reallocates then some (some printed, p.blocks)
              else (put [0] printed p.offset).map fun printed => (some printed, p.blocks)

/-- `cJSON_PrintPreallocated`: whether it succeeds, and the memory behind it. -/
def printPreallocated (item : Item) (buffer : List UInt8) (format : Bool)
    : Option (Bool × Option (List UInt8)) :=
  let p : PrintBuffer :=
    { buffer := some buffer, length := buffer.length, noalloc := true, format, blocks := 0 }
  (printValue hooks item p).map fun (ok, p) => (ok, p.buffer)

end PrintBuffer

end Iperf.Cjson
