import Iperf.Model.Json
import Iperf.Tcp.Streams

/-! `JSON_write` and `JSON_read` on a TCP stream that arrives in arbitrary pieces. -/

namespace Iperf

-----------------------------------------------------------------------------------------
-- A stream in pieces
-----------------------------------------------------------------------------------------

/-- The answers to the system calls of one `Nread` that wants `left` bytes: the pieces in which
`stream` arrives, none of them empty, until all bytes are there or the peer has closed. What
follows stays in the kernel.
-/
inductive Delivered : List UInt8 → Nat → List ReadRound → List UInt8 → Prop where
  | enough (stream : List UInt8) : Delivered stream 0 [] stream
  | closed (left : Nat) : Delivered [] (left + 1) [.ready (.got [] 0)] []
  | piece {piece stream rest : List UInt8} {left : Nat} {rounds : List ReadRound}
    (nonempty : piece ≠ []) (fits : piece.length ≤ left + 1)
    (later : Delivered stream (left + 1 - piece.length) rounds rest)
    : Delivered (piece ++ stream) (left + 1) (.ready (.got piece piece.length) :: rounds) rest

/-- Bytes that were not asked for stay in the kernel. By induction on the pieces. -/
theorem Delivered.behind {stream rest : List UInt8} {left : Nat} {rounds : List ReadRound}
    (delivered : Delivered stream left rounds rest)
    : rest = stream.drop left := by
  induction delivered with
  | enough stream => exact List.drop_zero.symm
  | closed left => exact List.drop_nil.symm
  | piece nonempty short later ih =>
      rw [ih, List.drop_append, List.drop_eq_nil_of_le short, List.nil_append]

theorem nreadLoop_enough (count offset : Nat) (buffer : List UInt8) (rounds : List ReadRound)
    : nreadLoop count buffer offset 0 rounds = { ret := toInt count, buffer } := by
  unfold nreadLoop
  with_reducible rfl

theorem nreadLoop_closed (count offset left : Nat) (buffer : List UInt8)
    (rounds : List ReadRound)
    : nreadLoop count buffer offset (left + 1) (.ready (.got [] 0) :: rounds)
      = { ret := toInt (count - (left + 1)), buffer } := by
  unfold nreadLoop
  exact if_pos (Nat.zero_min _)

theorem nreadLoop_piece {count offset left : Nat} {buffer piece : List UInt8}
    {rounds : List ReadRound} (nonempty : piece ≠ []) (fits : piece.length ≤ left + 1)
    : nreadLoop count buffer offset (left + 1) (.ready (.got piece piece.length) :: rounds)
      = nreadLoop count (Buffer.copyAt buffer offset piece) (offset + piece.length)
          (left + 1 - piece.length) rounds := by
  have all : min piece.length (left + 1) = piece.length := by omega
  have positive : piece.length ≠ 0 := by simpa using nonempty
  rw [nreadLoop.eq_def]
  dsimp only
  rw [all, if_neg positive, List.take_length]

/-- `Nread` does not see the pieces. By induction on them. -/
theorem nreadLoop_delivered {stream rest buffer : List UInt8} {count offset left : Nat}
    {rounds : List ReadRound} (delivered : Delivered stream left rounds rest)
    (total : count = offset + left) (fits : count ≤ buffer.length)
    : nreadLoop count buffer offset left rounds
      = {
          ret := toInt (offset + min left stream.length)
          buffer := Buffer.copyAt buffer offset (stream.take left)
        } := by
  have nothing : Buffer.copyAt buffer offset [] = buffer := by simp [Buffer.copyAt]
  induction delivered generalizing buffer offset with
  | enough stream =>
      rw [nreadLoop_enough, List.take_zero, nothing, Nat.zero_min, total]
  | closed left =>
      have before : count - (left + 1) = offset := by omega
      rw [nreadLoop_closed, List.take_nil, nothing, List.length_nil, Nat.min_zero, before,
        Nat.add_zero]
  | @piece piece stream rest left rounds nonempty short later ih =>
      have size : (Buffer.copyAt buffer offset piece).length = buffer.length :=
        Buffer.length_copyAt (by omega)
      have ran := @ih (Buffer.copyAt buffer offset piece) (offset + piece.length) (by omega)
        (by omega) (by simp [Buffer.copyAt])
      have taken : (piece ++ stream).take (left + 1)
          = piece ++ stream.take (left + 1 - piece.length) := by
        rw [List.take_append, List.take_of_length_le short]
      have counted : offset + piece.length + min (left + 1 - piece.length) stream.length
          = offset + min (left + 1) (piece ++ stream).length := by
        rw [List.length_append]
        omega
      rw [nreadLoop_piece nonempty short, ran, Buffer.copyAt_copyAt piece _ (by omega), taken,
        counted]

/-- `Nread` returns how much arrived, and leaves it at the front of the buffer. -/
theorem nread_delivered {stream rest : List UInt8} {count : Nat} {rounds : List ReadRound}
    (buffer : List UInt8) (delivered : Delivered stream count rounds rest)
    (fits : count ≤ buffer.length)
    : nread buffer count rounds
      = {
          ret := toInt (min count stream.length)
          buffer := Buffer.copyAt buffer 0 (stream.take count)
        } := by
  have read := nreadLoop_delivered delivered (Nat.zero_add count).symm fits
  rw [Nat.zero_add] at read
  exact read

/-- Every stream arrives in some pieces, for example byte by byte. -/
theorem delivered_exists (stream : List UInt8) (left : Nat)
    : ∃ rounds rest, Delivered stream left rounds rest := by
  induction left generalizing stream with
  | zero => exact ⟨_, _, .enough stream⟩
  | succ left ih =>
      cases stream with
      | nil => exact ⟨_, _, .closed left⟩
      | cons byte stream =>
          obtain ⟨rounds, rest, later⟩ := ih stream
          have first : [byte].length ≤ left + 1 := by simp
          exact ⟨_, _, .piece (List.cons_ne_nil byte []) first later⟩

-----------------------------------------------------------------------------------------
-- JSON_write and JSON_read
-----------------------------------------------------------------------------------------

/-- `hsize` in `JSON_write`, a `uint32_t`. -/
def hsize (str : List UInt8) : Nat := str.length % 2 ^ 32

theorem hsize_lt (str : List UInt8) : hsize str < 2 ^ 32 := Nat.mod_lt _ (by norm_num)

/-- A complete `JSON_write` of `str`: both calls of `Nwrite` get everything accepted. -/
def JsonWritten (str bytes : List UInt8) : Prop :=
  ∃ first second header payload,
    nwrite (BigEndian.encode 4 (hsize str)) first = some header
    ∧ nwrite (str.take (hsize str)) second = some payload
    ∧ header.accepted.length = 4
    ∧ payload.accepted.length = hsize str
    ∧ bytes = header.accepted ++ payload.accepted

/-- The size that `JSON_read` goes on with after the first `Nread`. -/
def jsonSize (maxSize : Nat) (nsize : Received) : Option Nat :=
  if nsize.ret = 4 then
    let hsize := BigEndian.decode nsize.buffer
    -- the buffer size `hsize + 1` is computed in 32 bits
    if 0 < hsize ∧ (maxSize = 0 ∨ hsize ≤ maxSize) ∧ (hsize + 1) % 2 ^ 32 ≠ 0 then some hsize
    else none
  else none

/-- The text that `JSON_read` hands to `cJSON_Parse` after the second `Nread`. -/
def jsonPayload (hsize : Nat) (str : Received) : Option (List UInt8) :=
  if 0 ≤ str.ret ∧ str.ret = hsize then some (cString str.buffer) else none

/-- `JSON_read` on a stream, in any pieces: the text it parses, `none` when it returns `NULL`
without parsing, and the bytes it leaves in the stream.
-/
inductive JsonReads (maxSize : Nat) (stream : List UInt8)
    : Option (List UInt8) → List UInt8 → Prop where
  | refused {header : List ReadRound} {behind : List UInt8}
    (first : Delivered stream 4 header behind)
    (refused : jsonSize maxSize (nread (List.replicate 4 0) 4 header) = none)
    : JsonReads maxSize stream none behind
  | payload {header payload : List ReadRound} {behind rest : List UInt8} {hsize : Nat}
    (first : Delivered stream 4 header behind)
    (accepted : jsonSize maxSize (nread (List.replicate 4 0) 4 header) = some hsize)
    (second : Delivered behind hsize payload rest)
    : JsonReads maxSize stream
        (jsonPayload hsize (nread (List.replicate (hsize + 1) 0) hsize payload)) rest

-----------------------------------------------------------------------------------------
-- Frames
-----------------------------------------------------------------------------------------

/-- What a complete `JSON_write` has put on the stream. -/
theorem JsonWritten.bytes {str bytes : List UInt8} (written : JsonWritten str bytes)
    (small : str.length < 2 ^ 31)
    : bytes = BigEndian.encode 4 str.length ++ str := by
  have exactly : hsize str = str.length := Nat.mod_eq_of_lt (by omega)
  obtain ⟨first, second, header, payload, sent, sentToo, size, sizeToo, rfl⟩ := written
  rw [exactly, List.take_length] at sentToo
  rw [exactly] at sent sizeToo
  have short : (BigEndian.encode 4 str.length).length < 2 ^ 31 := by
    rw [BigEndian.length_encode]
    norm_num
  have whole := (nwrite_accepted sent short).1.eq_of_length (by
    rw [size, BigEndian.length_encode])
  have wholeToo := (nwrite_accepted sentToo small).1.eq_of_length sizeToo
  rw [whole, wholeToo]

/-- The size that four bytes announce. -/
theorem jsonSize_encode {maxSize announced : Nat} (fits : announced < 2 ^ 32)
    : jsonSize maxSize { ret := 4, buffer := BigEndian.encode 4 announced }
      = if 0 < announced ∧ (maxSize = 0 ∨ announced ≤ maxSize) ∧ (announced + 1) % 2 ^ 32 ≠ 0
        then some announced else none := by
  have number : BigEndian.decode (BigEndian.encode 4 announced) = announced :=
    BigEndian.decode_encode_of_lt (by norm_num; omega)
  rw [jsonSize, if_pos rfl]
  dsimp only
  rw [number]

/-- The size that arrives is the one announced. -/
theorem jsonSize_announced {maxSize announced : Nat} {sent behind : List UInt8}
    {header : List ReadRound} (fits : announced < 2 ^ 32)
    (first : Delivered (BigEndian.encode 4 announced ++ sent) 4 header behind)
    : jsonSize maxSize (nread (List.replicate 4 0) 4 header)
        = (if 0 < announced ∧ (maxSize = 0 ∨ announced ≤ maxSize)
            ∧ (announced + 1) % 2 ^ 32 ≠ 0 then some announced else none)
      ∧ behind = sent := by
  have length := BigEndian.length_encode 4 announced
  have taken : (BigEndian.encode 4 announced ++ sent).take 4 = BigEndian.encode 4 announced :=
    List.take_left' length
  have full : min 4 (BigEndian.encode 4 announced ++ sent).length = 4 := by
    rw [List.length_append, length]
    omega
  have read := nread_delivered (List.replicate 4 0) first List.length_replicate.ge
  have buffer : Buffer.copyAt (List.replicate 4 0) 0 (BigEndian.encode 4 announced)
      = BigEndian.encode 4 announced := by
    rw [Buffer.copyAt_zero, length]
    simp
  have four : toInt 4 = 4 := toInt_of_lt (by norm_num)
  rw [taken, full, buffer, four] at read
  refine And.intro ?_ ?_
  · rw [read, jsonSize_encode fits]
  · rw [first.behind]
    exact List.drop_left' length

theorem jsonPayload_whole {hsize : Nat} {ret : Int} (buffer : List UInt8)
    (whole : 0 ≤ ret ∧ ret = hsize)
    : jsonPayload hsize ⟨ret, buffer⟩ = some (cString buffer) :=
  if_pos whole

theorem jsonPayload_short {hsize : Nat} {ret : Int} (buffer : List UInt8)
    (short : ¬ (0 ≤ ret ∧ ret = hsize))
    : jsonPayload hsize ⟨ret, buffer⟩ = none :=
  if_neg short

/-- The second `Nread` gives the text when all of it arrives, and nothing otherwise. -/
theorem jsonPayload_delivered {size : Nat} {stream rest : List UInt8}
    {payload : List ReadRound} (fits : size < 2 ^ 32)
    (second : Delivered stream size payload rest)
    : jsonPayload size (nread (List.replicate (size + 1) 0) size payload)
      = if size < 2 ^ 31 ∧ size ≤ stream.length then some (cString (stream.take size ++ [0]))
        else none := by
  have read := nread_delivered (List.replicate (size + 1) 0) second (by simp)
  by_cases whole : size ≤ stream.length
  · have length : (stream.take size).length = size := by simp [whole]
    have buffer : Buffer.copyAt (List.replicate (size + 1) 0) 0 (stream.take size)
        = stream.take size ++ [0] := by
      rw [Buffer.copyAt_zero, length, List.drop_replicate, Nat.add_sub_cancel_left]
      rfl
    rw [Nat.min_eq_left whole, buffer] at read
    by_cases small : size < 2 ^ 31
    · have returned : 0 ≤ toInt size ∧ toInt size = (size : Int) := by
        rw [toInt_of_lt small]
        exact ⟨Int.natCast_nonneg size, rfl⟩
      rw [read, jsonPayload_whole _ returned, if_pos ⟨small, whole⟩]
    · -- such a length is negative as an `int`
      have negative : toInt size < 0 := toInt_neg (by omega) fits
      have returned : ¬ (0 ≤ toInt size ∧ toInt size = (size : Int)) := by omega
      rw [read, jsonPayload_short _ returned, if_neg fun text => small text.1]
  · rw [Nat.min_eq_right (by omega)] at read
    have returned : ¬ (0 ≤ toInt stream.length ∧ toInt stream.length = (size : Int)) := by
      rintro ⟨-, equal⟩
      by_cases small : stream.length < 2 ^ 31
      · rw [toInt_of_lt small] at equal
        omega
      · have negative : toInt stream.length < 0 := toInt_neg (by omega) (by omega)
        omega
    rw [read, jsonPayload_short _ returned, if_neg fun text => whole text.2]

/-- A text without NUL is what stands before the NUL behind it. -/
theorem cString_terminated {str : List UInt8} (nulFree : 0 ∉ str) : cString (str ++ [0]) = str := by
  have all : ∀ byte ∈ str, decide (byte ≠ 0) = true := by
    intro byte member
    simp only [decide_eq_true_eq]
    rintro rfl
    exact nulFree member
  rw [cString, List.takeWhile_append_of_pos all]
  simp

/-- `JSON_read` refuses a length, or reads as much as it says. -/
theorem jsonReads_announced {maxSize announced : Nat} {sent rest : List UInt8}
    {outcome : Option (List UInt8)} (fits : announced < 2 ^ 32)
    (reads : JsonReads maxSize (BigEndian.encode 4 announced ++ sent) outcome rest)
    : if 0 < announced ∧ (maxSize = 0 ∨ announced ≤ maxSize) ∧ (announced + 1) % 2 ^ 32 ≠ 0 then
        rest = sent.drop announced
        ∧ outcome = if announced < 2 ^ 31 ∧ announced ≤ sent.length
            then some (cString (sent.take announced ++ [0])) else none
      else
        rest = sent ∧ outcome = none := by
  cases reads with
  | refused first refused =>
      obtain ⟨size, behind⟩ := @jsonSize_announced maxSize _ _ _ _ fits first
      rw [refused] at size
      split at size
      · cases size
      · next small =>
          rw [if_neg small]
          exact ⟨behind, rfl⟩
  | payload first accepted second =>
      obtain ⟨size, rfl⟩ := @jsonSize_announced maxSize _ _ _ _ fits first
      rw [accepted] at size
      split at size
      · next large =>
          obtain rfl := Option.some.inj size
          rw [if_pos large]
          exact ⟨second.behind, jsonPayload_delivered fits second⟩
      · cases size

/-- A stream can always be read. -/
theorem jsonReads_exists (maxSize : Nat) (stream : List UInt8)
    : ∃ outcome rest, JsonReads maxSize stream outcome rest := by
  obtain ⟨header, behind, first⟩ := delivered_exists stream 4
  cases size : jsonSize maxSize (nread (List.replicate 4 0) 4 header) with
  | none => exact ⟨none, behind, .refused first size⟩
  | some hsize =>
      obtain ⟨payload, rest, second⟩ := delivered_exists behind hsize
      exact ⟨_, rest, .payload first size second⟩

/-- A complete frame is read back exactly, in whatever pieces it arrives, and whatever follows
it stays; a length that is zero, over the limit, `2^32 - 1` or longer than what the peer sends
makes `JSON_read` return without parsing.
-/
theorem jsonFraming_exact
    : (∀ (str bytes behind : List UInt8) (maxSize : Nat), str ≠ [] → 0 ∉ str
        → str.length ≤ 2 ^ 31 - 1 → (maxSize = 0 ∨ str.length ≤ maxSize)
        → JsonWritten str bytes
        → (∃ outcome rest, JsonReads maxSize (bytes ++ behind) outcome rest)
          ∧ ∀ outcome rest, JsonReads maxSize (bytes ++ behind) outcome rest
            → outcome = some str ∧ rest = behind)
      ∧ ∀ (announced maxSize : Nat) (sent : List UInt8), announced < 2 ^ 32
        → (announced = 0 ∨ (maxSize ≠ 0 ∧ maxSize < announced) ∨ announced = 2 ^ 32 - 1
          ∨ sent.length < announced)
        → (∃ outcome rest, JsonReads maxSize (BigEndian.encode 4 announced ++ sent) outcome rest)
          ∧ ∀ outcome rest, JsonReads maxSize (BigEndian.encode 4 announced ++ sent) outcome rest
            → outcome = none := by
  constructor
  · intro str bytes behind maxSize nonempty nulFree small limit written
    refine ⟨jsonReads_exists maxSize _, fun outcome rest reads => ?_⟩
    have positive : 0 < str.length := List.length_pos_iff.mpr nonempty
    rw [written.bytes (by omega), List.append_assoc] at reads
    have read := jsonReads_announced (by omega) reads
    rw [if_pos ⟨positive, limit, by omega⟩, if_pos ⟨by omega, by simp⟩, List.take_left,
      List.drop_left, cString_terminated nulFree] at read
    exact ⟨read.2, read.1⟩
  · intro announced maxSize sent fits bad
    refine ⟨jsonReads_exists maxSize _, fun outcome rest reads => ?_⟩
    have read := jsonReads_announced fits reads
    split at read
    · next accepted =>
        rw [if_neg (by omega)] at read
        exact read.2
    · exact read.2

/-- Witness: the text of an empty object with a limit of two bytes, and a length over it. -/
theorem jsonFraming_exact_emptyObject
    : (∀ outcome rest, JsonReads 2 ([0, 0, 0, 2, 123, 125] ++ [1]) outcome rest
        → outcome = some [123, 125] ∧ rest = [1])
      ∧ ∀ outcome rest, JsonReads 2 (BigEndian.encode 4 3 ++ [123, 125, 32]) outcome rest
        → outcome = none := by
  have written : JsonWritten [123, 125] [0, 0, 0, 2, 123, 125] :=
    ⟨[.accepted 1, .accepted 3], [.accepted 2], _, _, rfl, rfl, by decide, by decide, by decide⟩
  exact ⟨(jsonFraming_exact.1 [123, 125] [0, 0, 0, 2, 123, 125] [1] 2 (by decide) (by decide)
      (by decide) (by decide) written).2,
    (jsonFraming_exact.2 3 2 [123, 125, 32] (by decide) (by decide)).2⟩

/-- The frames of the parameter and result exchanges are read so, as long as the parser takes
its text for a C string.
-/
theorem JsonReads.jsonRead {text : JsonText} {maxSize announced : Nat} {sent rest : List UInt8}
    {outcome : Option (List UInt8)} (fits : announced < 2 ^ 32)
    (terminated : ∀ str, text.parse (cString (str ++ [0])) = text.parse str)
    (reads : JsonReads maxSize (BigEndian.encode 4 announced ++ sent) outcome rest)
    : Iperf.jsonRead text maxSize (BigEndian.encode 4 announced ++ sent)
      = (outcome.bind text.parse, rest) := by
  have length := BigEndian.length_encode 4 announced
  have number : BigEndian.decode (BigEndian.encode 4 announced) = announced :=
    BigEndian.decode_encode_of_lt (by norm_num; omega)
  have long : ¬ (BigEndian.encode 4 announced ++ sent).length < 4 := by
    rw [List.length_append, length]
    omega
  have read := jsonReads_announced fits reads
  rw [Iperf.jsonRead, if_neg long, List.take_left' length, List.drop_left' length, number]
  dsimp only
  split at read
  · next accepted =>
      obtain ⟨rfl, rfl⟩ := read
      rw [if_pos accepted]
      have small : toInt announced = (announced : Int) ↔ announced < 2 ^ 31 := by
        constructor
        · intro equal
          by_contra large
          have negative := toInt_neg (Nat.not_lt.mp large) fits
          omega
        · exact toInt_of_lt
      simp only [small]
      split
      · rw [Option.bind_some, terminated]
      · rfl
  · next refused =>
      obtain ⟨rfl, rfl⟩ := read
      rw [if_neg refused]
      rfl

end Iperf
