import Iperf.Cjson.PrintBuffer
import Iperf.Cjson.RoundTrip

/-! Printing stays inside its buffer, and what it leaves there is the text of the item.
-/

namespace Iperf.Cjson.PrintBuffer

open Doubles

-----------------------------------------------------------------------------------------
-- What a function promises
-----------------------------------------------------------------------------------------

/-- What does not change while an item is printed: the options, and how much memory there can be. -/
structure Setting where
  format : Bool
  noalloc : Bool
  capacity : Nat

/-- A buffer that starts with a text. -/
structure Holds (s : Setting) (depth : Nat) (text : List UInt8) (offset : Nat) (p : PrintBuffer)
    : Prop where
  memory : ∃ memory, p.buffer = some memory ∧ memory.length = p.length ∧ text <+: memory
  position : p.offset = offset
  room : p.length ≤ offset → s.noalloc = true ∧ p.length = 0
  nested : p.depth = depth
  formatted : p.format = s.format
  allocated : p.noalloc = s.noalloc
  limit : p.length ≤ s.capacity
  fixed : s.noalloc = true → p.length = s.capacity
  blocks : p.blocks = if s.noalloc then 0 else 1

/-- Memory of the caller stays where it is, and nothing else is in use beside the buffer. -/
def Owned (s : Setting) (p : PrintBuffer) : Prop :=
  p.blocks = (if s.noalloc then 0 else if p.buffer.isSome then 1 else 0)
  ∧ (s.noalloc = true → ∃ memory, p.buffer = some memory ∧ memory.length = s.capacity)

/-- Every request for memory is granted, or there is none. -/
def Generous (hooks : InternalHooks) (s : Setting) : Prop :=
  s.noalloc = true ∨ ∀ n, (hooks.allocate n).isSome

/-- A function stays inside the memory, and what it leaves there if it succeeds. It succeeds where
there is enough memory.
-/
def Yields (hooks : InternalHooks) (s : Setting) (need : Nat) (post : PrintBuffer → Prop)
    (result : Option (Bool × PrintBuffer)) : Prop :=
  ∃ ok p, result = some (ok, p) ∧ Owned s p ∧ (ok = true → post p)
    ∧ (Generous hooks s → need ≤ s.capacity → ok = true)

/-- There is enough memory for a text and for `piece` behind it, if there are `need` bytes. -/
structure Fits (s : Setting) (need : Nat) (text piece : List UInt8) : Prop where
  size : text.length + piece.length + 2 ≤ need
  small : need ≤ sizeMax
  large : s.noalloc = false → s.capacity = sizeMax

variable {hooks : InternalHooks} {s : Setting} {need depth offset : Nat}
  {text text' piece rest : List UInt8} {p : PrintBuffer} {post post' : PrintBuffer → Prop}

theorem Holds.owned (holds : Holds s depth text offset p) : Owned s p := by
  obtain ⟨memory, some_, length, -⟩ := holds.memory
  rw [Owned, holds.blocks, some_]
  exact ⟨rfl, fun noalloc => ⟨memory, rfl, length.trans (holds.fixed noalloc)⟩⟩

/-- A buffer that starts with a text starts with its front. -/
theorem Holds.shorten (holds : Holds s depth text offset p) (front : text' <+: text)
    : Holds s depth text' offset p := by
  obtain ⟨memory, some_, length, starts⟩ := holds.memory
  exact { holds with memory := ⟨memory, some_, length, front.trans starts⟩ }

theorem Yields.mono {result : Option (Bool × PrintBuffer)}
    (yields : Yields hooks s need post result) (weaker : ∀ p, post p → post' p)
    : Yields hooks s need post' result := by
  obtain ⟨ok, p, same, owned, holds, succeeds⟩ := yields
  exact ⟨ok, p, same, owned, fun ok => weaker p (holds ok), succeeds⟩

theorem Yields.of_holds (holds : Holds s depth text offset p) (leads : post p)
    : Yields hooks s need post (some (true, p)) :=
  ⟨true, p, rfl, holds.owned, fun _ => leads, fun _ _ => rfl⟩

/-- The second function starts where the first one succeeds. -/
theorem Yields.andThen {first next : Printer} (yields : Yields hooks s need post (first p))
    (later : ∀ p, post p → Yields hooks s need post' (next p))
    : Yields hooks s need post' (PrintBuffer.andThen first next p) := by
  obtain ⟨ok, p', same, owned, holds, succeeds⟩ := yields
  unfold PrintBuffer.andThen
  rw [same]
  cases ok with
  | true => exact later p' (holds rfl)
  | false =>
      exact ⟨false, p', rfl, owned, fun absurd => (Bool.false_ne_true absurd).elim, succeeds⟩

theorem Fits.front (fits : Fits s need text (piece ++ rest)) : Fits s need text piece := by
  have size := fits.size
  rw [List.length_append] at size
  exact { fits with size := by omega }

theorem Fits.behind (fits : Fits s need text (piece ++ rest))
    : Fits s need (text ++ piece) rest := by
  have size := fits.size
  rw [List.length_append] at size
  refine { fits with size := ?_ }
  rw [List.length_append]
  omega

-----------------------------------------------------------------------------------------
-- Memory
-----------------------------------------------------------------------------------------

theorem length_fresh (content : Nat → UInt8) (size : Nat) : (fresh content size).length = size := by
  rw [fresh, List.length_map, List.length_range]

/-- The new size is enough, and no more than there can be. -/
theorem newsize_le {needed : Nat} (small : needed ≤ sizeMax)
    : needed ≤ (if needed > sizeMax / 2 then sizeMax else needed * 2)
      ∧ (if needed > sizeMax / 2 then sizeMax else needed * 2) ≤ sizeMax := by
  have top : sizeMax = 18446744073709551615 := rfl
  split_ifs <;> omega

/-- After a successful `ensure` the memory reaches as far as has been asked for. -/
theorem ensure_yields {needed : Nat} (holds : Holds s depth text text.length p)
    (fits : Fits s need text piece) (asked : needed ≤ piece.length + 1)
    : Yields hooks s need
        (fun p => Holds s depth text text.length p ∧ text.length + needed + 1 ≤ p.length)
        (ensure hooks needed p) := by
  obtain ⟨memory, buffer, length, starts⟩ := holds.memory
  have offset := holds.position
  have room := holds.room
  have less : text.length + needed + 1 ≤ need := by
    have size := fits.size
    omega
  have small := less.trans fits.small
  have valid : ¬ (0 < p.length ∧ p.length ≤ p.offset) := by
    rintro ⟨some_, beyond⟩
    rw [offset] at beyond
    exact some_.ne' (room beyond).2
  have exactly : (needed + p.offset + 1) % (sizeMax + 1) = text.length + needed + 1 := by
    rw [offset, Nat.mod_eq_of_lt (by omega)]
    omega
  unfold ensure
  rw [buffer]
  dsimp only
  rw [if_neg valid, exactly]
  by_cases enough : text.length + needed + 1 ≤ p.length
  · rw [if_pos enough]
    exact .of_holds holds ⟨holds, enough⟩
  rw [if_neg enough]
  cases noalloc : s.noalloc with
  | true =>
      rw [if_pos (holds.allocated.trans noalloc)]
      refine ⟨false, p, rfl, holds.owned, fun absurd => (Bool.false_ne_true absurd).elim,
        fun _ possible => ?_⟩
      exact absurd ((less.trans possible).trans_eq (holds.fixed noalloc).symm) enough
  | false =>
      rw [if_neg fun fixed =>
        Bool.false_ne_true (noalloc.symm.trans (holds.allocated.symm.trans fixed))]
      cases granted : hooks.allocate p.requests with
      | none =>
          refine ⟨false, _, rfl, ?_, fun absurd => (Bool.false_ne_true absurd).elim,
            fun generous _ => ?_⟩
          · have blocks := holds.blocks
            rw [noalloc] at blocks
            simp [Owned, noalloc, deallocate, buffer, blocks]
          · rcases generous with fixed | always
            · rw [noalloc] at fixed
              cases fixed
            · have answer := always p.requests
              rw [granted] at answer
              cases answer
      | some content =>
          have inside : text.length < p.length := by
            by_contra beyond
            have fixed := (room (Nat.le_of_not_lt beyond)).1
            rw [noalloc] at fixed
            cases fixed
          have newsize := newsize_le small
          generalize (if text.length + needed + 1 > sizeMax / 2 then sizeMax
            else (text.length + needed + 1) * 2) = size at newsize
          -- the front of the old memory that is in the new one
          obtain ⟨kept, is, above, below, within⟩ :
              ∃ kept, (if hooks.reallocates then memory.length else p.offset + 1) = kept
                ∧ text.length ≤ kept ∧ kept ≤ memory.length ∧ kept ≤ size := by
            split_ifs
            · exact ⟨_, rfl, by omega, le_rfl, by omega⟩
            · exact ⟨_, rfl, by omega, by omega, by omega⟩
          dsimp only
          rw [is, if_neg (by omega)]
          have holds' : Holds s depth text text.length {
              p with
              buffer := some (memory.take kept ++ fresh content (size - kept))
              length := size
              requests := p.requests + 1
            } :=
            { holds with
              memory := by
                refine ⟨_, rfl, ?_, ?_⟩
                · rw [List.length_append, List.length_take, length_fresh, Nat.min_eq_left below]
                  exact Nat.add_sub_cancel' within
                · exact (List.prefix_take_iff.mpr ⟨starts, above⟩).trans (List.prefix_append _ _)
              room := fun beyond => absurd (newsize.1.trans beyond) (by omega)
              limit := newsize.2.trans_eq (fits.large noalloc).symm
              fixed := fun fixed => by
                rw [noalloc] at fixed
                cases fixed
            }
          exact .of_holds holds' ⟨holds', newsize.1⟩

/-- A write succeeds, keeps the size of the memory, and the memory starts with a text then. -/
def Writes (memory text : List UInt8) (result : Option (List UInt8)) : Prop :=
  ∃ memory', result = some memory' ∧ memory'.length = memory.length ∧ text <+: memory'

theorem Writes.bind {memory text text' : List UInt8} {result : Option (List UInt8)}
    {next : List UInt8 → Option (List UInt8)} (first : Writes memory text result)
    (later : ∀ memory', memory'.length = memory.length → text <+: memory' →
      Writes memory' text' (next memory'))
    : Writes memory text' (result >>= next) := by
  obtain ⟨memory', rfl, length, starts⟩ := first
  obtain ⟨memory'', done, length', starts'⟩ := later memory' length starts
  exact ⟨memory'', done, length'.trans length, starts'⟩

/-- Bytes at the end of a text make it longer. -/
theorem put_writes {bytes memory : List UInt8} {position : Nat} (starts : text <+: memory)
    (end_ : position = text.length) (fits : text.length + bytes.length ≤ memory.length)
    : Writes memory (text ++ bytes) (put bytes memory position) := by
  subst end_
  refine ⟨_, if_pos fits, Buffer.length_copyAt fits, ?_⟩
  rw [Buffer.copyAt, ← List.prefix_iff_eq_take.mp starts]
  exact List.prefix_append _ _

/-- What is written into the memory that has been reserved is behind the text. -/
theorem reserve_yields {needed advance : Nat} {bytes : List UInt8}
    {write : List UInt8 → Nat → Option (List UInt8)} (holds : Holds s depth text text.length p)
    (fits : Fits s need text piece) (asked : needed ≤ piece.length + 1) (inside : advance ≤ needed)
    (writes : ∀ memory, text <+: memory → text.length + needed + 1 ≤ memory.length →
      Writes memory (text ++ bytes) (write memory text.length))
    : Yields hooks s need
        (fun p => Holds s depth (text ++ bytes) (text.length + advance) p
          ∧ text.length + needed + 1 ≤ p.length)
        (reserve hooks needed write advance p) := by
  refine (ensure_yields holds fits asked).andThen fun p ensured => ?_
  obtain ⟨holds, enough⟩ := ensured
  obtain ⟨memory, buffer, length, starts⟩ := holds.memory
  obtain ⟨memory', written, length', starts'⟩ := writes memory starts (enough.trans_eq length.symm)
  rw [buffer]
  dsimp only
  rw [holds.position, written, Option.map_some]
  have holds' : Holds s depth (text ++ bytes) (text.length + advance)
      { p with buffer := some memory', offset := text.length + advance } :=
    { holds with
      memory := ⟨memory', rfl, length'.trans length, starts'⟩
      position := rfl
      room := fun beyond => by
        change p.length ≤ text.length + advance at beyond
        omega
    }
  exact .of_holds holds' ⟨holds', enough⟩

-----------------------------------------------------------------------------------------
-- Texts and their ends
-----------------------------------------------------------------------------------------

/-- The offset is at the end of the text. -/
abbrev Ready (s : Setting) (depth : Nat) (text : List UInt8) (p : PrintBuffer) : Prop :=
  Holds s depth text text.length p

/-- A zero ends the text, and the offset is somewhere in front of it. -/
def Written (s : Setting) (depth : Nat) (text : List UInt8) (p : PrintBuffer) : Prop :=
  ∃ offset ≤ text.length, 0 ∉ text.drop offset ∧ Holds s depth (text ++ [0]) offset p
    ∧ text.length + 2 ≤ p.length

/-- `update_offset` finds the end of the text. -/
theorem updateOffset_yields (written : Written s depth text p)
    : Yields hooks s need
        (fun p => Holds s depth (text ++ [0]) text.length p ∧ text.length + 2 ≤ p.length)
        (updateOffset p) := by
  obtain ⟨offset, inside, clean, holds, enough⟩ := written
  obtain ⟨memory, buffer, length, behind, same⟩ := holds.memory
  have rest : memory.drop offset = text.drop offset ++ 0 :: behind := by
    rw [← same, List.append_assoc, List.drop_append_of_le_length inside]
    rfl
  have found : (0 : UInt8) ∈ memory.drop offset := by
    rw [rest]
    exact List.mem_append_right _ List.mem_cons_self
  have strlen : ((memory.drop offset).takeWhile (· ≠ 0)).length = text.length - offset := by
    have plain : ∀ c ∈ text.drop offset, decide (c ≠ 0) = true := by
      intro c member
      refine decide_eq_true ?_
      rintro rfl
      exact clean member
    have stops : ∀ c ∈ (0 :: behind).head?, decide (c ≠ (0 : UInt8)) = false := by
      intro c first
      obtain rfl := Option.some.inj first
      rfl
    rw [rest, (TextLines.span_append plain stops).1, List.length_drop]
  unfold updateOffset
  rw [buffer]
  dsimp only
  rw [holds.position, if_pos found, strlen, Nat.add_sub_cancel' inside]
  have holds' : Holds s depth (text ++ [0]) text.length
      { p with buffer := some memory, offset := text.length } :=
    { holds with
      memory := ⟨memory, rfl, length, behind, same⟩
      position := rfl
      room := fun beyond => by
        change p.length ≤ text.length at beyond
        omega
    }
  exact .of_holds holds' ⟨holds', enough⟩

/-- Write a piece and what ends it for now, and move the offset behind the piece. -/
theorem put_ready (hooks : InternalHooks) {needed length : Nat} (end_ : List UInt8)
    (ready : Ready s depth text p) (fits : Fits s need text piece) (size : piece.length = length)
    (asked : length ≤ needed ∧ needed ≤ length + 1 ∧ end_.length ≤ 1)
    : Yields hooks s need (Ready s depth (text ++ piece))
        (reserve hooks needed (put (piece ++ end_)) length p) := by
  subst size
  obtain ⟨room, enough, last⟩ := asked
  refine (reserve_yields ready fits enough room fun memory starts reserved =>
    put_writes starts rfl ?_).mono fun p written => ?_
  · rw [List.length_append]
    omega
  · have longer : Holds s depth (text ++ piece) (text.length + piece.length) p :=
      written.1.shorten (List.append_assoc text piece end_ ▸ List.prefix_append _ _)
    rwa [← List.length_append] at longer

/-- Write a piece and a zero behind it; the offset may stay in front. -/
theorem put_written {needed advance : Nat} {write : List UInt8 → Nat → Option (List UInt8)}
    (ready : Ready s depth text p) (fits : Fits s need text piece) (clean : 0 ∉ piece)
    (size : piece.length + 1 = needed) (inside : advance ≤ piece.length)
    (writes : ∀ memory, text <+: memory → text.length + piece.length + 2 ≤ memory.length →
      Writes memory (text ++ (piece ++ [0])) (write memory text.length))
    : Yields hooks s need (Written s depth (text ++ piece))
        (reserve hooks needed write advance p) := by
  subst size
  refine (reserve_yields ready fits le_rfl (inside.trans (Nat.le_succ _)) writes).mono
    fun p written => ⟨text.length + advance, ?_, ?_, ?_, ?_⟩
  · rw [List.length_append]
    omega
  · rw [List.drop_append, Nat.add_sub_cancel_left,
      List.drop_eq_nil_of_le (Nat.le_add_right _ _), List.nil_append]
    exact fun zero => clean (List.mem_of_mem_drop zero)
  · rw [List.append_assoc]
    exact written.1
  · rw [List.length_append]
    exact written.2

-----------------------------------------------------------------------------------------
-- Strings
-----------------------------------------------------------------------------------------

/-- The sequences of the loop are those of the text. -/
theorem escapeByte_eq (c : UInt8)
    : escapeByte c
      = if c > 31 ∧ c ≠ 34 ∧ c ≠ 92 then [c]
        else
          match shortEscape c with
          | some letter => [92, letter]
          | none => [92, 117, 48, 48, hexText (c.toNat / 16), hexText (c.toNat % 16)] := by
  unfold escapeByte shortEscape
  split_ifs <;> rfl

/-- The first pass counts what the second one writes. -/
theorem length_escapeByte (c : UInt8) : (escapeByte c).length = 1 + escapeCharacters c := by
  by_cases listed : c ∈ [34, 92, 8, 12, 10, 13, 9]
  · simp only [List.mem_cons, List.not_mem_nil, or_false] at listed
    rcases listed with rfl | rfl | rfl | rfl | rfl | rfl | rfl <;> rfl
  · unfold escapeCharacters
    rw [if_neg listed]
    simp only [List.mem_cons, List.not_mem_nil, or_false, not_or] at listed
    obtain ⟨quote, backslash, b, f, n, r, t⟩ := listed
    unfold escapeByte
    by_cases control : c < 32
    · have low : ¬ c > 31 := by
        rw [gt_iff_lt, UInt8.lt_iff_toNat_lt]
        exact not_lt.mpr (Nat.lt_succ_iff.mp (UInt8.lt_iff_toNat_lt.mp control))
      rw [if_neg fun plain => low plain.1, if_neg backslash, if_neg quote, if_neg b, if_neg f,
        if_neg n, if_neg r, if_neg t, if_pos control]
      rfl
    · have high : c > 31 := by
        rw [gt_iff_lt, UInt8.lt_iff_toNat_lt]
        exact Nat.lt_of_succ_le (UInt8.le_iff_toNat_le.mp (UInt8.not_lt.mp control))
      rw [if_pos ⟨high, quote, backslash⟩, if_neg control]
      rfl

theorem outputLength_eq (input : List UInt8)
    : outputLength input = (input.flatMap escapeByte).length := by
  induction input with
  | nil => rfl
  | cons c rest ih =>
      rw [List.flatMap_cons, List.length_append, ← ih, length_escapeByte]
      simp only [outputLength, List.length_cons, List.map_cons, List.sum_cons]
      omega

/-- Without characters to escape, the text of a string is the string. -/
theorem flatMap_escapeByte {input : List UInt8} (plain : (input.map escapeCharacters).sum = 0)
    : input.flatMap escapeByte = input := by
  induction input with
  | nil => rfl
  | cons c rest ih =>
      rw [List.map_cons, List.sum_cons] at plain
      obtain ⟨first, later⟩ := Nat.add_eq_zero_iff.mp plain
      have single := length_escapeByte c
      rw [escapeByte_eq] at single
      rw [List.flatMap_cons, ih later, escapeByte_eq]
      split_ifs at single ⊢
      · rfl
      · cases letter : shortEscape c <;> simp [letter, first] at single

/-- The loop writes the text, and at most one zero behind it. -/
theorem writeEscaped_writes {input memory : List UInt8} {position : Nat} (starts : text <+: memory)
    (end_ : position = text.length)
    (fits : text.length + (input.flatMap escapeByte).length + 1 ≤ memory.length)
    : Writes memory (text ++ input.flatMap escapeByte) (writeEscaped input memory position) := by
  induction input generalizing text memory position with
  | nil =>
      rw [List.flatMap_nil, List.append_nil]
      exact ⟨memory, rfl, rfl, starts⟩
  | cons c rest ih =>
      rw [List.flatMap_cons, List.length_append] at fits
      rw [writeEscaped, List.flatMap_cons, ← List.append_assoc]
      have shape := escapeByte_eq c
      split_ifs at shape ⊢
      · rw [shape, List.length_singleton] at fits
        rw [shape]
        refine (put_writes starts end_ (by rw [List.length_singleton]; omega)).bind
          fun memory' length starts => ih starts ?_ ?_
        · rw [List.length_append, end_, List.length_singleton]
        · rw [List.length_append, length, List.length_singleton]
          omega
      · have backslash : text.length + [(92 : UInt8)].length ≤ memory.length := by
          rw [length_escapeByte] at fits
          rw [List.length_singleton]
          omega
        refine (put_writes starts end_ backslash).bind fun memory' length starts => ?_
        have behind : position + 1 = (text ++ [92]).length := by
          rw [List.length_append, end_, List.length_singleton]
        cases short : shortEscape c with
        | some letter =>
            rw [short] at shape
            dsimp only at shape
            rw [shape] at fits ⊢
            change _ + (2 + _) + 1 ≤ _ at fits
            have joined : text ++ [92, letter] = text ++ [92] ++ [letter] := by
              rw [List.append_assoc]
              rfl
            rw [joined]
            refine (put_writes starts behind ?_).bind fun memory'' length' starts => ih starts ?_ ?_
            · rw [← behind, List.length_singleton]
              omega
            · rw [List.length_append, ← behind, List.length_singleton]
            · rw [List.length_append, ← behind, List.length_singleton]
              omega
        | none =>
            rw [short] at shape
            dsimp only at shape
            rw [shape] at fits ⊢
            change _ + (6 + _) + 1 ≤ _ at fits
            generalize hexText (c.toNat / 16) = high at *
            generalize hexText (c.toNat % 16) = low at *
            refine (put_writes starts behind ?_).bind fun memory'' length' starts => ih ?_ ?_ ?_
            · rw [← behind]
              change _ + 6 ≤ _
              omega
            -- the zero behind the digits is overwritten next
            · refine List.IsPrefix.trans ⟨[0], ?_⟩ starts
              rw [List.append_assoc, List.append_assoc]
              rfl
            · rw [List.length_append, end_]
              rfl
            · rw [List.length_append]
              change _ + 6 + _ + 1 ≤ _
              omega

/-- `print_string_ptr` writes the text of the string and a zero. -/
theorem writeString_writes {input memory : List UInt8} (starts : text <+: memory)
    (fits : text.length + (printString input).length + 1 ≤ memory.length)
    : Writes memory (text ++ (printString input ++ [0]))
        (writeString input memory text.length) := by
  have size : (printString input).length = (input.flatMap escapeByte).length + 2 := by
    simp only [printString, List.length_append, List.length_cons, List.length_nil]
  rw [size] at fits
  have quote : (text ++ [34]).length = text.length + 1 := List.length_append
  have joined : text ++ (printString input ++ [0])
      = text ++ [34] ++ input.flatMap escapeByte ++ [34, 0] := by
    simp [printString]
  rw [joined]
  refine (put_writes starts rfl ?_).bind fun memory' length starts => ?_
  · rw [List.length_singleton]
    omega
  have inside : Writes memory' (text ++ [34] ++ input.flatMap escapeByte)
      (if (input.map escapeCharacters).sum = 0 then put input memory' (text.length + 1)
        else writeEscaped input memory' (text.length + 1)) := by
    by_cases plain : (input.map escapeCharacters).sum = 0
    · rw [if_pos plain, flatMap_escapeByte plain]
      rw [flatMap_escapeByte plain] at fits
      exact put_writes starts quote.symm (by omega)
    · rw [if_neg plain]
      exact writeEscaped_writes starts quote.symm (by omega)
  refine inside.bind fun memory'' length' starts => put_writes starts ?_ ?_
  · rw [outputLength_eq, List.length_append, quote]
    omega
  · rw [List.length_append, quote]
    change _ + 2 ≤ _
    omega

-----------------------------------------------------------------------------------------
-- Items
-----------------------------------------------------------------------------------------

theorem piece_yields (hooks : InternalHooks) {needed advance : Nat} (ready : Ready s depth text p)
    (fits : Fits s need text piece) (clean : 0 ∉ piece) (size : piece.length + 1 = needed)
    (inside : advance ≤ piece.length)
    : Yields hooks s need (Written s depth (text ++ piece))
        (reserve hooks needed (put (piece ++ [0])) advance p) := by
  refine put_written ready fits clean size inside fun memory starts enough =>
    put_writes starts rfl ?_
  rw [List.length_append]
  exact enough.trans' (by rw [List.length_singleton]; omega)

theorem printNumber_yields (ready : Ready s depth text p) (valuedouble : Double)
    (fits : Fits s need text (Cjson.printNumber valuedouble))
    : Yields hooks s need (Written s depth (text ++ Cjson.printNumber valuedouble))
        (printNumber hooks valuedouble p) := by
  have short := length_printNumber_le valuedouble
  unfold printNumber
  rw [if_neg (by omega)]
  exact piece_yields hooks ready fits (printNumber_nulFree valuedouble) rfl le_rfl

theorem printStringPtr_yields (ready : Ready s depth text p) (string : CString)
    (fits : Fits s need text (printString string.1))
    : Yields hooks s need (Written s depth (text ++ printString string.1))
        (printStringPtr hooks string.1 p) := by
  have size : outputLength string.1 + 3 = (printString string.1).length + 1 := by
    rw [outputLength_eq]
    simp only [printString, List.length_append, List.length_cons, List.length_nil]
  exact put_written ready fits (printString_nulFree string) size.symm (Nat.zero_le _)
    fun memory starts enough => writeString_writes starts (by omega)

theorem Holds.deeper (holds : Holds s depth text offset p)
    : Holds s (depth + 1) text offset { p with depth := p.depth + 1 } :=
  { holds with nested := congrArg (· + 1) holds.nested }

theorem Holds.shallower (holds : Holds s (depth + 1) text offset p)
    : Holds s depth text offset { p with depth := p.depth - 1 } :=
  { holds with nested := congrArg (· - 1) holds.nested }

theorem deeper_yields (ready : Ready s depth text p)
    : Yields hooks s need (Ready s (depth + 1) text) (deeper p) :=
  .of_holds ready.deeper ready.deeper

theorem shallower_yields (written : Written s (depth + 1) text p)
    : Yields hooks s need (Written s depth text) (shallower p) := by
  obtain ⟨offset, inside, clean, holds, enough⟩ := written
  exact .of_holds holds.shallower ⟨offset, inside, clean, holds.shallower, enough⟩

/-- The end of the text is found, and printing goes on there. -/
theorem updateOffset_ready (written : Written s depth text p)
    : Yields hooks s need (Ready s depth text) (updateOffset p) :=
  (updateOffset_yields written).mono fun _ found => found.1.shorten (List.prefix_append _ _)

theorem length_cons_formatted (format : Bool) (c d : UInt8)
    : (c :: formatted format [d]).length = if format then 2 else 1 := by
  cases format <;> rfl

theorem putComma_yields (ready : Ready s depth text p)
    (fits : Fits s need text (44 :: formatted s.format [32]))
    : Yields hooks s need (Ready s depth (text ++ 44 :: formatted s.format [32]))
        (putComma hooks p) := by
  unfold putComma
  rw [ready.formatted]
  exact put_ready hooks _ ready fits (length_cons_formatted _ _ _) ⟨Nat.le_succ _, le_rfl, le_rfl⟩

theorem putOpening_yields (ready : Ready s depth text p)
    (fits : Fits s need text (123 :: formatted s.format [10]))
    : Yields hooks s need (Ready s depth (text ++ 123 :: formatted s.format [10]))
        (putOpening hooks p) := by
  have opened := put_ready hooks [] ready fits (length_cons_formatted _ _ _)
    ⟨Nat.le_succ _, le_rfl, Nat.zero_le _⟩
  rw [List.append_nil] at opened
  unfold putOpening
  rw [ready.formatted]
  exact opened

theorem putIndent_yields (ready : Ready s depth text p)
    (fits : Fits s need text (formatted s.format (tabs depth)))
    : Yields hooks s need (Ready s depth (text ++ formatted s.format (tabs depth)))
        (putIndent hooks p) := by
  unfold putIndent
  rw [ready.formatted]
  cases format : s.format with
  | false =>
      have same : text ++ formatted false (tabs depth) = text := List.append_nil text
      rw [same]
      exact .of_holds ready ready
  | true =>
      rw [format] at fits
      have indented := put_ready hooks [] ready fits List.length_replicate
        ⟨le_rfl, Nat.le_succ _, Nat.zero_le _⟩
      rw [List.append_nil] at indented
      rw [if_pos rfl, ready.nested]
      exact indented

theorem putColon_yields (ready : Ready s depth text p)
    (fits : Fits s need text (58 :: formatted s.format [9]))
    : Yields hooks s need (Ready s depth (text ++ 58 :: formatted s.format [9]))
        (putColon hooks p) := by
  have separated := put_ready hooks [] ready fits
    (length_cons_formatted _ _ _) ⟨le_rfl, Nat.le_succ _, Nat.zero_le _⟩
  rw [List.append_nil] at separated
  unfold putColon
  rw [ready.formatted]
  exact separated

theorem putSeparator_yields (ready : Ready s depth text p) (last : Bool)
    (fits : Fits s need text ((if last then [] else [44]) ++ formatted s.format [10]))
    : Yields hooks s need
        (Ready s depth (text ++ ((if last then [] else [44]) ++ formatted s.format [10])))
        (putSeparator hooks last p) := by
  have length : ((if last then [] else [44]) ++ formatted s.format [10] : List UInt8).length
      = (if s.format then 1 else 0) + (if last then 0 else 1) := by
    cases last <;> cases s.format <;> rfl
  have separated := put_ready hooks [0] ready fits length
    ⟨Nat.le_succ _, le_rfl, le_rfl⟩
  rw [List.append_assoc] at separated
  unfold putSeparator
  rw [ready.formatted]
  exact separated

theorem putClosing_yields (ready : Ready s (depth + 1) text p)
    (fits : Fits s need text (formatted s.format (tabs depth) ++ [125]))
    : Yields hooks s need
        (Written s (depth + 1) (text ++ (formatted s.format (tabs depth) ++ [125])))
        (putClosing hooks p) := by
  have clean : 0 ∉ formatted s.format (tabs depth) ++ [125] := by
    have indent := formatted_nulFree s.format (tabs_nulFree depth)
    simp [indent]
  have size : (formatted s.format (tabs depth) ++ [125]).length + 1
      = if s.format then depth + 1 + 1 else 2 := by
    cases s.format <;> simp [formatted, tabs]
  have closed := piece_yields hooks ready fits clean size (show 0 ≤ _ from Nat.zero_le _)
  rw [List.append_assoc] at closed
  unfold putClosing
  rw [ready.formatted, ready.nested]
  exact closed

mutual
/-- The text of an item is written behind what has been printed, by induction on the item. -/
theorem printValue_yields {item : Item} {depth : Nat} {text : List UInt8} {p : PrintBuffer}
    (ready : Ready s depth text p)
    (fits : Fits s need text (Cjson.printValue s.format depth item))
    : Yields hooks s need (Written s depth (text ++ Cjson.printValue s.format depth item))
        (printValue hooks item p) := by
  have clean := printValue_nulFree s.format depth item
  match item with
  | .null | .bool false | .bool true =>
      rw [Cjson.printValue] at fits clean ⊢
      rw [printValue]
      exact piece_yields hooks ready fits clean rfl (Nat.zero_le _)
  | .number valuedouble =>
      rw [Cjson.printValue] at fits ⊢
      rw [printValue]
      exact printNumber_yields ready valuedouble fits
  | .string valuestring =>
      rw [Cjson.printValue] at fits ⊢
      rw [printValue]
      exact printStringPtr_yields ready valuestring fits
  | .array children =>
      have pieces : Cjson.printValue s.format depth (.array children)
          = [91] ++ (Cjson.printElements s.format (depth + 1) children ++ [93]) := by
        rw [Cjson.printValue]
        rfl
      rw [pieces] at fits ⊢
      rw [printValue, ← List.append_assoc, ← List.append_assoc]
      have opened :=
        put_ready hooks [] ready fits.front rfl ⟨le_rfl, Nat.le_succ 1, Nat.zero_le _⟩
      refine opened.andThen fun p ready => (deeper_yields ready).andThen fun p ready => ?_
      refine (printElements_yields ready fits.behind.front).andThen fun p ready => ?_
      refine (piece_yields hooks ready fits.behind.behind (by decide) rfl (Nat.zero_le _)).andThen
        fun p written => ?_
      exact shallower_yields written
  | .object children =>
      have pieces : Cjson.printValue s.format depth (.object children)
          = (123 :: formatted s.format [10])
            ++ (Cjson.printMembers s.format (depth + 1) children
              ++ (formatted s.format (tabs depth) ++ [125])) := by
        rw [Cjson.printValue, List.cons_append, List.append_assoc, List.append_assoc]
      rw [pieces] at fits ⊢
      rw [printValue, ← List.append_assoc, ← List.append_assoc]
      refine (putOpening_yields ready fits.front).andThen fun p ready =>
        (deeper_yields ready).andThen fun p ready => ?_
      refine (printMembers_yields ready fits.behind.front).andThen fun p ready => ?_
      exact (putClosing_yields ready fits.behind.behind).andThen fun p written =>
        shallower_yields written

theorem printElements_yields {children : List Item} {depth : Nat} {text : List UInt8}
    {p : PrintBuffer} (ready : Ready s depth text p)
    (fits : Fits s need text (Cjson.printElements s.format depth children))
    : Yields hooks s need (Ready s depth (text ++ Cjson.printElements s.format depth children))
        (printElements hooks children p) := by
  match children with
  | [] =>
      rw [Cjson.printElements, List.append_nil, printElements]
      exact .of_holds ready ready
  | child :: next =>
      rw [Cjson.printElements, List.append_assoc] at fits ⊢
      rw [printElements, ← List.append_assoc, ← List.append_assoc]
      refine (printValue_yields ready fits.front).andThen fun p written =>
        (updateOffset_ready written).andThen fun p ready => ?_
      have comma : Yields hooks s need (Ready s depth (text
            ++ Cjson.printValue s.format depth child
            ++ if next.isEmpty then [] else 44 :: formatted s.format [32]))
          ((if next.isEmpty then fun p => some (true, p) else putComma hooks) p) := by
        have room := fits.behind.front
        split_ifs at room ⊢
        · rw [List.append_nil]
          exact .of_holds ready ready
        · exact putComma_yields ready room
      exact comma.andThen fun p ready => printElements_yields ready fits.behind.behind

theorem printMembers_yields {children : List (CString × Item)} {depth : Nat} {text : List UInt8}
    {p : PrintBuffer} (ready : Ready s depth text p)
    (fits : Fits s need text (Cjson.printMembers s.format depth children))
    : Yields hooks s need (Ready s depth (text ++ Cjson.printMembers s.format depth children))
        (printMembers hooks children p) := by
  match children with
  | [] =>
      rw [Cjson.printMembers, List.append_nil, printMembers]
      exact .of_holds ready ready
  | child :: next =>
      have pieces : Cjson.printMembers s.format depth (child :: next)
          = Cjson.printMember s.format depth child
            ++ (((if next.isEmpty then [] else [44]) ++ formatted s.format [10])
              ++ Cjson.printMembers s.format depth next) := by
        rw [Cjson.printMembers, List.append_assoc, List.append_assoc, List.append_assoc]
      rw [pieces] at fits ⊢
      rw [printMembers, ← List.append_assoc, ← List.append_assoc]
      refine (printMember_yields ready fits.front).andThen fun p ready => ?_
      exact (putSeparator_yields ready next.isEmpty fits.behind.front).andThen
        fun p ready => printMembers_yields ready fits.behind.behind

theorem printMember_yields {child : CString × Item} {depth : Nat} {text : List UInt8}
    {p : PrintBuffer} (ready : Ready s depth text p)
    (fits : Fits s need text (Cjson.printMember s.format depth child))
    : Yields hooks s need (Ready s depth (text ++ Cjson.printMember s.format depth child))
        (printMember hooks child p) := by
  match child with
  | (string, child) =>
      have pieces : Cjson.printMember s.format depth (string, child)
          = formatted s.format (tabs depth) ++ (printString string.1
            ++ ((58 :: formatted s.format [9]) ++ Cjson.printValue s.format depth child)) := by
        rw [Cjson.printMember]
        simp only [List.append_assoc, List.cons_append, List.nil_append]
      rw [pieces] at fits ⊢
      rw [printMember, ← List.append_assoc, ← List.append_assoc, ← List.append_assoc]
      refine (putIndent_yields ready fits.front).andThen fun p ready => ?_
      refine (printStringPtr_yields ready string fits.behind.front).andThen fun p written =>
        (updateOffset_ready written).andThen fun p ready => ?_
      refine (putColon_yields ready fits.behind.behind.front).andThen fun p ready => ?_
      exact (printValue_yields ready fits.behind.behind.behind).andThen fun p written =>
        updateOffset_ready written
end

-----------------------------------------------------------------------------------------
-- Documents
-----------------------------------------------------------------------------------------

/-- What is not returned is freed. -/
theorem Owned.deallocate {p : PrintBuffer} (owned : Owned s p) (allocated : s.noalloc = false)
    : p.deallocate.blocks = 0 := by
  have blocks := owned.1
  rw [allocated] at blocks
  unfold PrintBuffer.deallocate
  cases some_ : p.buffer with
  | none =>
      rw [some_] at blocks
      exact blocks
  | some memory =>
      rw [some_] at blocks
      exact congrArg (· - 1) blocks

/-- The front of the memory is copied into the block that is returned. -/
theorem put_copied {memory : List UInt8} (starts : text ++ [0] <+: memory)
    (content : Nat → UInt8)
    : memory.take (text.length + 1)
        ++ fresh content (text.length + 1 - (memory.take (text.length + 1)).length) = text ++ [0]
      ∧ put [0] (text ++ [0]) text.length = some (text ++ [0]) := by
  have copied : memory.take (text.length + 1) = text ++ [0] := by
    have front := List.prefix_iff_eq_take.mp starts
    rw [List.length_append] at front
    exact front.symm
  constructor
  · rw [copied, List.length_append, List.length_singleton, Nat.sub_self]
    exact List.append_nil _
  · have inside : text.length + [(0 : UInt8)].length ≤ (text ++ [0]).length := by
      rw [List.length_append]
    rw [put, if_pos inside, Buffer.copyAt, List.take_left' rfl,
      List.drop_eq_nil_of_le (by rw [List.length_append]), List.append_nil]

/-- `print` returns the text of the item in one block, or it returns `NULL` and has freed what it
allocated. It returns the text if every request for memory is granted.
-/
theorem print_returns (hooks : InternalHooks) (format : Bool) (item : Item)
    (small : (printText format item).length + 2 ≤ sizeMax)
    : (print hooks format item = some (some (printText format item ++ [0]), 1)
        ∨ print hooks format item = some (none, 0))
      ∧ ((∀ n, (hooks.allocate n).isSome) →
        print hooks format item = some (some (printText format item ++ [0]), 1)) := by
  have refused (n : Nat) (nothing : hooks.allocate n = none)
      (always : ∀ n, (hooks.allocate n).isSome) : False := by
    have answer := always n
    rw [nothing] at answer
    cases answer
  unfold print
  cases granted : hooks.allocate 0 with
  | none => exact ⟨.inr rfl, fun always => (refused 0 granted always).elim⟩
  | some content =>
      let s : Setting := { format, noalloc := false, capacity := sizeMax }
      have length : (initial format content).length = 256 := rfl
      have ready : Ready s 0 [] (initial format content) := {
        memory := ⟨_, rfl, length_fresh content 256, List.nil_prefix⟩
        position := rfl
        room := fun beyond => absurd beyond (by rw [length]; decide)
        nested := rfl
        formatted := rfl
        allocated := rfl
        limit := by
          rw [length]
          change 256 ≤ sizeMax
          decide
        fixed := fun fixed => by cases fixed
        blocks := rfl
      }
      have fits : Fits s ((printText format item).length + 2) [] (Cjson.printValue format 0 item) :=
        ⟨(congrArg (· + 2) (Nat.zero_add _)).le, small, fun _ => rfl⟩
      have printed : Yields hooks s _ _ (printValue hooks item (initial format content)) :=
        printValue_yields ready fits
      obtain ⟨ok, p, done, owned, holds, succeeds⟩ :=
        printed.andThen fun p written => updateOffset_yields written
      have freed := owned.deallocate rfl
      dsimp only
      rw [done]
      cases ok with
      | false =>
          refine ⟨.inr (by dsimp only; rw [freed]), fun always => ?_⟩
          cases succeeds (.inr always) small
      | true =>
          have printed : Holds s 0 (printText format item ++ [0])
              (printText format item).length p :=
            (holds rfl).1
          obtain ⟨memory, buffer, -, starts⟩ := printed.memory
          have blocks : p.blocks = 1 := printed.blocks
          dsimp only
          rw [buffer]
          cases again : hooks.allocate p.requests with
          | none => exact ⟨.inr (by dsimp only; rw [freed]), fun always =>
              (refused p.requests again always).elim⟩
          | some content' =>
              obtain ⟨copied, ended⟩ := put_copied starts content'
              dsimp only
              rw [printed.position, copied, ended, blocks]
              split_ifs <;> exact ⟨.inl rfl, fun _ => rfl⟩

/-- `print` and `cJSON_ParseWithOpts` together, for a text whose size with two more bytes is a
`size_t`: the text is in a block of its own, or memory was refused and nothing is in use. The block
is parsed again exactly when the item is not nested too deep, whichever way it was printed; numbers
come back rounded, those that are infinite or not numbers as `null`. Raw items are not modelled.
-/
theorem print_parsed (hooks : InternalHooks) (format : Bool) (item : Item)
    (small : (printText format item).length + 2 ≤ sizeMax) (requireNullTerminated : Bool)
    : ∃ text : CString,
        (print hooks format item = some (some (text.1 ++ [0]), 1)
          ∨ print hooks format item = some (none, 0))
        ∧ ((∀ n, (hooks.allocate n).isSome) →
          print hooks format item = some (some (text.1 ++ [0]), 1))
        ∧ parseWithOpts text requireNullTerminated
          = if nesting item ≤ cjsonNestingLimit then .ok (readBack item) else .error .invalid := by
  obtain ⟨outcome, granted⟩ := print_returns hooks format item small
  exact ⟨printed format item, outcome, granted,
    parseWithOpts_printed format item requireNullTerminated⟩

/-- Two flags in a buffer that need not grow. -/
theorem print_parsed_flags
    : ∃ text : CString,
        print ⟨true, fun _ => some fun _ => 0⟩ false (.array [.null, .bool true])
          = some (some (text.1 ++ [0]), 1)
        ∧ parseWithOpts text true = .ok (.array [.null, .bool true]) := by
  obtain ⟨text, -, granted, parsed⟩ := print_parsed ⟨true, fun _ => some fun _ => 0⟩ false
    (.array [.null, .bool true]) (by decide) true
  have flat : nesting (.array [.null, .bool true]) ≤ cjsonNestingLimit := by decide
  rw [if_pos flat] at parsed
  exact ⟨text, granted fun _ => rfl, parsed⟩

/-- `cJSON_PrintPreallocated` succeeds exactly when the text and two more bytes fit into the memory
of its caller, and writes nothing outside it. The text and two more bytes are a `size_t`.
-/
theorem printPreallocated_fits (hooks : InternalHooks) (item : Item) (buffer : List UInt8)
    (format : Bool) (small : (printText format item).length + 2 ≤ sizeMax)
    : ∃ memory, printPreallocated hooks item buffer format
        = some (decide ((printText format item).length + 2 ≤ buffer.length), some memory)
      ∧ memory.length = buffer.length
      ∧ ((printText format item).length + 2 ≤ buffer.length →
        printText format item ++ [0] <+: memory) := by
  let s : Setting := { format, noalloc := true, capacity := buffer.length }
  let p : PrintBuffer :=
    { buffer := some buffer, length := buffer.length, noalloc := true, format, blocks := 0 }
  have ready : Ready s 0 [] p := {
    memory := ⟨_, rfl, rfl, List.nil_prefix⟩
    position := rfl
    room := fun beyond => ⟨rfl, Nat.le_zero.mp beyond⟩
    nested := rfl
    formatted := rfl
    allocated := rfl
    limit := le_rfl
    fixed := fun _ => rfl
    blocks := rfl
  }
  have fits : Fits s ((printText format item).length + 2) [] (Cjson.printValue format 0 item) :=
    ⟨(congrArg (· + 2) (Nat.zero_add _)).le, small, fun absurd => by cases absurd⟩
  have printed : Yields hooks s _ _ (printValue hooks item p) := printValue_yields ready fits
  obtain ⟨ok, p', done, owned, holds, succeeds⟩ := printed
  obtain ⟨memory, buffer', length⟩ := owned.2 rfl
  have same : ok = decide ((printText format item).length + 2 ≤ buffer.length) := by
    cases ok with
    | false =>
        refine (decide_eq_false fun enough => ?_).symm
        cases succeeds (.inl rfl) enough
    | true =>
        obtain ⟨_, -, -, written, enough⟩ := holds rfl
        exact (decide_eq_true (enough.trans written.limit)).symm
  refine ⟨memory, ?_, length, fun enough => ?_⟩
  · change Option.map _ (printValue hooks item p) = _
    rw [done, Option.map_some, ← same, ← buffer']
  · rw [decide_eq_true enough] at same
    obtain ⟨_, -, -, written, -⟩ := holds same
    obtain ⟨memory', buffer'', -, starts⟩ := written.memory
    rw [buffer'] at buffer''
    obtain rfl := Option.some.inj buffer''
    exact starts

/-- Three bytes are too few for an empty array, four are enough. -/
theorem printPreallocated_fits_emptyArray
    : (∃ memory, printPreallocated ⟨true, fun _ => none⟩ (.array []) [7, 7, 7] false
          = some (false, some memory)
        ∧ memory.length = 3)
      ∧ ∃ memory, printPreallocated ⟨true, fun _ => none⟩ (.array []) [7, 7, 7, 7] false
          = some (true, some memory)
        ∧ memory.length = 4 ∧ [91, 93, 0] <+: memory := by
  obtain ⟨short, failed, shortLength, -⟩ :=
    printPreallocated_fits ⟨true, fun _ => none⟩ (.array []) [7, 7, 7] false (by decide)
  obtain ⟨long, done, longLength, starts⟩ :=
    printPreallocated_fits ⟨true, fun _ => none⟩ (.array []) [7, 7, 7, 7] false (by decide)
  exact ⟨⟨short, failed, shortLength⟩, long, done, longLength, starts (by decide)⟩

end Iperf.Cjson.PrintBuffer
