import Iperf.Library.BigEndian
import Iperf.Library.OptionalMembers
import Iperf.Model.Net
import Mathlib.Data.Rat.Floor
import Mathlib.Data.Rat.Cast.Order
import Mathlib.Algebra.Order.Field.Rat
import Mathlib.Tactic.Linarith
import Mathlib.Tactic.NormNum

/-! The cJSON values that the exchanges use, their numbers, and the frames that carry them on
the control connection.
-/

namespace Iperf

/-- The member names the program uses. `cJSON_GetObjectItem` ignores case, so a name stands
for all its spellings.
-/
inductive Key where
  | tcp | udp | sctp | omit | serverAffinity | time | num | blockcount | mss | nodelay
  | parallel | reverse | bidirectional | window | len | bandwidth | fqrate | pacingTimer
  | burst | tos | flowlabel | title | extraData | congestion | congestionUsed
  | getServerOutput | udpCounters64bit | repeatingPayload | zerocopy | dontFragment
  | skipRxCopy | clientVersion
  | cpuUtilTotal | cpuUtilUser | cpuUtilSystem | senderHasRetransmits | serverOutputText
  | serverOutputJson
  | streams | id | bytes | retransmits | jitter | errors | omittedErrors | packets
  | omittedPackets | startTime | endTime
  | other (name : String)
deriving DecidableEq

/-- A parsed document. A number is the exact value of its `double`. -/
inductive CJson where
  | null
  | bool (value : Bool)
  | number (value : ℚ)
  | string (value : String)
  | array (items : List CJson)
  | object (members : List (Key × CJson))

namespace CJson

-----------------------------------------------------------------------------------------
-- Numbers
-----------------------------------------------------------------------------------------

/-- The conversion of an unsigned integer to `double`: 53 significant bits, ties to even. -/
def doubleOfNat (n : Nat) : ℚ :=
  if n ≤ 2 ^ 53 then
    n
  else
    let shift := Nat.log2 n - 52
    let unit := 2 ^ shift
    let quotient := n / unit
    let rest := n % unit
    let rounded :=
      if 2 * rest > unit ∨ (2 * rest = unit ∧ quotient % 2 = 1) then quotient + 1
      else quotient
    ((rounded * unit : Nat) : ℚ)

def ofUInt64 (n : UInt64) : CJson := number (doubleOfNat n.toNat)

def ofInt32 (n : Int32) : CJson := number n.toInt

def ofInt64 (n : Int64) : CJson :=
  number (if n.toInt < 0 then -doubleOfNat n.toInt.natAbs else doubleOfNat n.toInt.natAbs)

/-- `(int64_t)number`: truncated towards zero. -/
def truncate (value : ℚ) : Int := if 0 ≤ value then ⌊value⌋ else ⌈value⌉

/-- `item->valueint`: saturated at the ends of `int64_t`. The parser leaves it zero for what
is no number, except that it sets it for `true`.
-/
def valueint : CJson → Int64
  | number value =>
      if value ≥ 2 ^ 63 then Int64.maxValue
      else if value ≤ -(2 ^ 63) then Int64.minValue
      else Int64.ofInt (truncate value)
  | bool true => 1
  | _ => 0

def valuedouble : CJson → ℚ
  | number value => value
  | _ => 0

theorem truncate_intCast (n : Int) : truncate (n : ℚ) = n := by
  unfold truncate
  split <;> simp

/-- An integer inside `int64_t` is kept. -/
theorem valueint_intCast {n : Int} (low : -(2 ^ 63) < n) (high : n < 2 ^ 63)
    : (number (n : ℚ)).valueint = Int64.ofInt n := by
  have above : ¬ (n : ℚ) ≥ 2 ^ 63 := by
    rw [ge_iff_le, not_le]
    exact_mod_cast high
  have below : ¬ (n : ℚ) ≤ -(2 ^ 63) := by
    rw [not_le]
    exact_mod_cast low
  rw [valueint, if_neg above, if_neg below, truncate_intCast]

theorem valueint_ofInt32 (n : Int32) : (ofInt32 n).valueint.toInt32 = n := by
  have low := n.le_toInt
  have high := n.toInt_lt
  rw [ofInt32, valueint_intCast (by omega) (by omega), Int64.toInt32_ofInt, Int32.ofInt_toInt]

/-- Unsigned integers up to `2 ^ 53` survive the `double`. -/
theorem valueint_ofUInt64 {n : UInt64} (small : n.toNat ≤ 2 ^ 53)
    : (ofUInt64 n).valueint.toUInt64 = n := by
  have exactly : ofUInt64 n = number ((n.toNat : Int) : ℚ) := by
    rw [ofUInt64, doubleOfNat, if_pos small]
    rfl
  rw [exactly, valueint_intCast (by omega) (by omega)]
  apply UInt64.toNat_inj.mp
  rw [Int64.ofInt_eq_ofNat, Int64.toUInt64_ofNat', UInt64.toNat_ofNat', Nat.mod_eq_of_lt (by omega)]

/-- The `double` of a signed integer of magnitude up to `2 ^ 53` is its value. -/
theorem ofInt64_eq {n : Int64} (small : n.toInt.natAbs ≤ 2 ^ 53)
    : ofInt64 n = number (n.toInt : ℚ) := by
  rw [ofInt64, doubleOfNat, if_pos small]
  split
  · have magnitude : n.toInt = -(n.toInt.natAbs : Int) := by omega
    rw [magnitude]
    simp
  · have magnitude : n.toInt = (n.toInt.natAbs : Int) := by omega
    rw [magnitude]
    simp

theorem valueint_ofInt64 {n : Int64} (small : n.toInt.natAbs ≤ 2 ^ 53)
    : (ofInt64 n).valueint = n := by
  rw [ofInt64_eq small, valueint_intCast (by omega) (by omega), Int64.ofInt_toInt]

-----------------------------------------------------------------------------------------
-- Members
-----------------------------------------------------------------------------------------

/-- `cJSON_GetObjectItem`: the first member with the name. -/
def getObjectItem (key : Key) : CJson → Option CJson
  | object members => members.lookup key
  | _ => none

/-- The types `iperf_cJSON_GetObjectItemType` is asked for. `cJSON_True` means any boolean. -/
inductive ItemType where
  | true
  | number
  | string
  | array

def hasType : ItemType → CJson → Bool
  | .true, bool _ => Bool.true
  | .number, number _ => Bool.true
  | .string, string _ => Bool.true
  | .array, array _ => Bool.true
  | _, _ => Bool.false

/-- `iperf_cJSON_GetObjectItemType`: a member of another type counts as absent. -/
def getObjectItemType (key : Key) (type : ItemType) (json : CJson) : Option CJson :=
  (json.getObjectItem key).filter (hasType type)

/-- A boolean, a string or an integer of magnitude at most `2 ^ 53`. -/
def FlatValue : CJson → Prop
  | bool _ => True
  | string _ => True
  | number value => ∃ n : Int, value = n ∧ n.natAbs ≤ 2 ^ 53
  | _ => False

/-- An object of such values. -/
def Flat : CJson → Prop
  | object members => ∀ member ∈ members, FlatValue member.2
  | _ => False

end CJson

-----------------------------------------------------------------------------------------
-- Frames
-----------------------------------------------------------------------------------------

/-- `cJSON_PrintUnformatted` and `cJSON_Parse`. -/
structure JsonText where
  print : CJson → List UInt8
  parse : List UInt8 → Option CJson

/-- `JSON_write`: the bytes it writes when every write succeeds. The length is a `uint32_t`. -/
def jsonWrite (text : JsonText) (json : CJson) : List UInt8 :=
  let str := text.print json
  let hsize := str.length % 2 ^ 32
  BigEndian.encode 4 hsize ++ str.take hsize

/-- `JSON_read` on the bytes of a connection: the document and what is left unread. A
`maxSize` of `0` means no limit.
-/
def jsonRead (text : JsonText) (maxSize : Nat) (stream : List UInt8)
    : Option CJson × List UInt8 :=
  if stream.length < 4 then
    (none, [])
  else
    let hsize := BigEndian.decode (stream.take 4)
    let rest := stream.drop 4
    -- the buffer size `hsize + 1` is computed in 32 bits
    if 0 < hsize ∧ (maxSize = 0 ∨ hsize ≤ maxSize) ∧ (hsize + 1) % 2 ^ 32 ≠ 0 then
      -- the return value of `Nread` is an `int`, compared with the length
      if toInt hsize = hsize ∧ hsize ≤ rest.length then
        (text.parse (rest.take hsize), rest.drop hsize)
      else
        (none, rest.drop hsize)
    else
      (none, rest)

/-- A frame is read back, and the bytes behind it stay. -/
theorem jsonRead_jsonWrite {text : JsonText} {json : CJson} {maxSize : Nat}
    (nonempty : text.print json ≠ []) (small : (text.print json).length < 2 ^ 31)
    (limit : maxSize = 0 ∨ (text.print json).length ≤ maxSize) (behind : List UInt8)
    : jsonRead text maxSize (jsonWrite text json ++ behind)
      = (text.parse (text.print json), behind) := by
  generalize shape : text.print json = str at *
  have positive : 0 < str.length := List.length_pos_iff.mpr nonempty
  have exactly : str.length % 2 ^ 32 = str.length := Nat.mod_eq_of_lt (by omega)
  have frame : jsonWrite text json ++ behind
      = BigEndian.encode 4 str.length ++ (str ++ behind) := by
    simp only [jsonWrite, shape, exactly, List.take_length, List.append_assoc]
  have header := BigEndian.length_encode 4 str.length
  have size : BigEndian.decode (BigEndian.encode 4 str.length) = str.length :=
    BigEndian.decode_encode_of_lt (by norm_num; omega)
  have long : ¬ (BigEndian.encode 4 str.length ++ (str ++ behind)).length < 4 := by
    rw [List.length_append, header]
    omega
  rw [frame, jsonRead, if_neg long, List.take_left' header, List.drop_left' header, size]
  have fits : (str.length + 1) % 2 ^ 32 ≠ 0 := by
    rw [Nat.mod_eq_of_lt (by omega)]
    omega
  have whole : toInt str.length = str.length ∧ str.length ≤ (str ++ behind).length := by
    refine ⟨toInt_of_lt small, ?_⟩
    rw [List.length_append]
    omega
  dsimp only
  rw [if_pos ⟨positive, limit, fits⟩, if_pos whole, List.take_left, List.drop_left]

end Iperf
