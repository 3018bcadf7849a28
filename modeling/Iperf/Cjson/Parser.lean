import Iperf.Cjson.Numbers
import Iperf.Cjson.Strings

/-! The parser of cJSON. A position in the text is the rest of the text with the zero behind it.
-/

namespace Iperf.Cjson

open Checked DecimalText Doubles ScanFormat

/-- A string up to its zero. -/
abbrev CString := {bytes : List UInt8 // 0 ∉ bytes}

/-- What memory contains as a C string. -/
def cString (memory : List UInt8) : CString :=
  ⟨memory.takeWhile (· ≠ 0), fun absurd => by simpa using List.mem_takeWhile_imp absurd⟩

/-- An item with its type, its value and its children. The name of a child of an object is beside
it.
-/
inductive Item where
  | null
  | bool (value : Bool)
  | number (valuedouble : Double)
  | string (valuestring : CString)
  | array (children : List Item)
  | object (children : List (CString × Item))

/-- The items inside which an item may stand. -/
def cjsonNestingLimit : Nat := 1000

/-- `null`, `false` and `true` -/
def nullText : List UInt8 := [110, 117, 108, 108]
def falseText : List UInt8 := [102, 97, 108, 115, 101]
def trueText : List UInt8 := [116, 114, 117, 101]

/-- `buffer_skip_whitespace`: at the end it steps back. -/
def skipWhitespace (buffer : List UInt8) : List UInt8 :=
  let rest := buffer.dropWhile (· ≤ 32)
  if rest = [] then buffer.drop (buffer.length - 1) else rest

section Nested

variable (value : List UInt8 → Except ParseStop (Item × List UInt8))

/-- The loop of `parse_array`, from an element on. -/
def parseElements
    : Nat → List UInt8 → Except ParseStop (List Item × List UInt8)
  | 0, _ => .error .endless
  | fuel + 1, buffer => do
      let (item, buffer) ← value (skipWhitespace buffer)
      match skipWhitespace buffer with
      | [] => .error .invalid
      | c :: buffer =>
          if c = 44 then
            (parseElements fuel buffer).map fun (items, buffer) => (item :: items, buffer)
          else if c = 93 then .ok ([item], buffer)
          else .error .invalid

def parseArray (buffer : List UInt8) : Except ParseStop (Item × List UInt8) := do
  let bracket ← readAt buffer 0
  if bracket ≠ 91 then .error .invalid
  else
    match skipWhitespace (buffer.drop 1) with
    | [] => .error .invalid
    | c :: rest =>
        if c = 93 then .ok (.array [], rest)
        else
          (parseElements value (c :: rest).length (c :: rest)).map fun (items, buffer) =>
            (.array items, buffer)

/-- The loop of `parse_object`, from a name on. -/
def parseMembers
    : Nat → List UInt8 → Except ParseStop (List (CString × Item) × List UInt8)
  | 0, _ => .error .endless
  | fuel + 1, buffer => do
      let (name, buffer) ← parseString (skipWhitespace buffer)
      match skipWhitespace buffer with
      | [] => .error .invalid
      | colon :: buffer =>
          if colon ≠ 58 then .error .invalid
          else
            let (item, buffer) ← value (skipWhitespace buffer)
            match skipWhitespace buffer with
            | [] => .error .invalid
            | c :: buffer =>
                if c = 44 then
                  (parseMembers fuel buffer).map fun (members, buffer) =>
                    ((cString name, item) :: members, buffer)
                else if c = 125 then .ok ([(cString name, item)], buffer)
                else .error .invalid

def parseObject (buffer : List UInt8) : Except ParseStop (Item × List UInt8) :=
  match buffer with
  | [] => .error .invalid
  | brace :: buffer =>
      if brace ≠ 123 then .error .invalid
      else
        match skipWhitespace buffer with
        | [] => .error .invalid
        | c :: rest =>
            if c = 125 then .ok (.object [], rest)
            else
              (parseMembers value (c :: rest).length (c :: rest)).map fun (members, buffer) =>
                (.object members, buffer)

end Nested

/-- The cases of `parse_value`, with what it does for an array and an object. -/
def parseCase (array object : List UInt8 → Except ParseStop (Item × List UInt8))
    (buffer : List UInt8)
    : Except ParseStop (Item × List UInt8) :=
  if nullText <+: buffer then .ok (.null, buffer.drop 4)
  else if falseText <+: buffer then .ok (.bool false, buffer.drop 5)
  else if trueText <+: buffer then .ok (.bool true, buffer.drop 4)
  else
    match buffer with
    | [] => .error .invalid
    | c :: _ =>
        if c = 34 then
          (parseString buffer).map fun (output, buffer) => (.string (cString output), buffer)
        else if c = 45 ∨ isDigit c then
          match parseNumber buffer with
          | some (number, buffer) => .ok (.number number, buffer)
          | none => .error .invalid
        else if c = 91 then array buffer
        else if c = 123 then object buffer
        else .error .invalid

/-- `parse_value`, with so many levels below the limit of nesting. -/
def parseValue : Nat → List UInt8 → Except ParseStop (Item × List UInt8)
  | 0 => parseCase (fun _ => .error .invalid) (fun _ => .error .invalid)
  | levels + 1 => parseCase (parseArray (parseValue levels)) (parseObject (parseValue levels))

/-- `skip_utf8_bom` -/
def skipUtf8Bom (buffer : List UInt8) : List UInt8 :=
  if 4 < buffer.length ∧ [0xEF, 0xBB, 0xBF] <+: buffer then buffer.drop 3 else buffer

/-- `cJSON_ParseWithOpts` on the memory of a C string. -/
def parseWithOpts (value : CString) (requireNullTerminated : Bool) : Except ParseStop Item := do
  let content := value.1 ++ [0]
  let (item, buffer) ← parseValue cjsonNestingLimit (skipWhitespace (skipUtf8Bom content))
  if requireNullTerminated then
    match skipWhitespace buffer with
    | [] => .error .invalid
    | c :: _ => if c ≠ 0 then .error .invalid else .ok item
  else .ok item

/-- `cJSON_Parse`; every failure is `NULL`. -/
def cJSONParse (value : CString) : Option Item := (parseWithOpts value false).toOption

end Iperf.Cjson
