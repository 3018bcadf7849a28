import Iperf.Cjson.Printer
import Iperf.Cjson.StringMemory

/-! The parser stays inside the text and its zero, comes to an end, and nests no deeper than its
limit.
-/

namespace Iperf.Cjson

open Checked DecimalText Doubles

/-- The rest of a C string in memory. -/
def Terminated (buffer : List UInt8) : Prop := buffer.getLast? = some 0

theorem Terminated.ne_nil {buffer : List UInt8} (zero : Terminated buffer) : buffer ≠ [] := by
  rintro rfl
  cases zero

theorem Terminated.suffix {buffer rest : List UInt8} (zero : Terminated buffer)
    (suffix : rest <:+ buffer) (nonempty : rest ≠ [])
    : Terminated rest := by
  obtain ⟨front, rfl⟩ := suffix
  rw [Terminated, List.getLast?_append_of_ne_nil _ nonempty] at zero
  exact zero

/-- Something follows every byte but the zero. -/
theorem Terminated.tail {c : UInt8} {rest : List UInt8} (zero : Terminated (c :: rest))
    (some_ : c ≠ 0)
    : Terminated rest := by
  refine zero.suffix (List.suffix_cons c rest) ?_
  rintro rfl
  exact some_ (Option.some.inj zero)

/-- What a function of the parser promises on a terminated buffer: it is safe, and the buffer
behind its value is a terminated rest.
-/
structure Advances {α : Type} (buffer : List UInt8)
    (result : Except ParseStop (α × List UInt8)) : Prop where
  safe : Safe result
  rest : ∀ a rest, result = .ok (a, rest) → rest <:+ buffer ∧ Terminated rest

namespace Advances

variable {α β : Type} {buffer : List UInt8} {result : Except ParseStop (α × List UInt8)}

theorem invalid : Advances buffer (.error .invalid : Except ParseStop (α × List UInt8)) where
  safe := .invalid
  rest _ _ absurd := by cases absurd

theorem ok {a : α} {rest : List UInt8} (suffix : rest <:+ buffer) (zero : Terminated rest)
    : Advances buffer (.ok (a, rest)) where
  safe := .ok _
  rest _ _ same := by cases same; exact ⟨suffix, zero⟩

theorem map (advances : Advances buffer result) (f : α → β)
    : Advances buffer (result.map fun (a, rest) => (f a, rest)) where
  safe := advances.safe.map _
  rest b rest same := by
    obtain ⟨⟨a, rest'⟩, done, same⟩ := map_eq_ok.mp same
    obtain ⟨-, rfl⟩ := Prod.mk.inj same
    exact advances.rest a rest' done

theorem bind {f : α × List UInt8 → Except ParseStop (β × List UInt8)}
    (advances : Advances buffer result)
    (later : ∀ a rest, rest <:+ buffer → Terminated rest → Advances buffer (f (a, rest)))
    : Advances buffer (result >>= f) := by
  cases shape : result with
  | error stop =>
      rw [advances.safe stop shape]
      exact .invalid
  | ok entry =>
      obtain ⟨suffix, zero⟩ := advances.rest entry.1 entry.2 shape
      exact later entry.1 entry.2 suffix zero

theorem of_suffix {whole : List UInt8} (advances : Advances buffer result)
    (suffix : buffer <:+ whole)
    : Advances whole result where
  safe := advances.safe
  rest a rest done :=
    let ⟨inner, zero⟩ := advances.rest a rest done
    ⟨inner.trans suffix, zero⟩

end Advances

theorem Terminated.skip {buffer : List UInt8} (zero : Terminated buffer)
    : Terminated (skipWhitespace buffer) := by
  refine zero.suffix (skipWhitespace_suffix buffer) ?_
  have positive := List.length_pos_iff.mpr zero.ne_nil
  unfold skipWhitespace
  dsimp only
  split_ifs with white
  · rw [ne_eq, List.drop_eq_nil_iff]
    omega
  · exact white

-----------------------------------------------------------------------------------------
-- Strings and numbers
-----------------------------------------------------------------------------------------

theorem parseString_advances {buffer : List UInt8} (zero : Terminated buffer)
    : Advances buffer (parseString buffer) where
  safe := parseString_safe zero.ne_nil
  rest output rest done := by
    obtain ⟨c, body, rfl⟩ := List.exists_cons_of_ne_nil zero.ne_nil
    simp only [parseString, readAt, List.getElem?_cons_zero, ok_bind, List.drop_succ_cons,
      List.drop_zero, guard_eq_ok, bind_eq_ok] at done
    obtain ⟨-, ⟨length, skipped⟩, found, output', -, same⟩ := done
    cases same
    obtain ⟨behind, quote⟩ := stringEnd_quoteAt found
    have body_ : body.drop (length + 1) = behind := by
      rw [← List.drop_drop, quote]
      rfl
    have suffix : (34 :: behind) <:+ c :: body := by
      rw [← quote]
      exact (List.drop_suffix _ _).trans (List.suffix_cons c body)
    rw [body_]
    exact ⟨(List.suffix_cons 34 behind).trans suffix,
      (zero.suffix suffix (List.cons_ne_nil _ _)).tail (by decide)⟩

theorem parseNumber_rest {buffer rest : List UInt8} {number : Double} (zero : Terminated buffer)
    (done : parseNumber buffer = some (number, rest))
    : rest <:+ buffer ∧ Terminated rest := by
  obtain ⟨entry, -, same⟩ := Option.map_eq_some_iff.mp done
  obtain ⟨-, rfl⟩ := Prod.mk.inj same
  have suffix := List.drop_suffix
    (((buffer.take 63).takeWhile isNumberChar).length - entry.2.length) buffer
  refine ⟨suffix, zero.suffix suffix ?_⟩
  -- the zero is no part of a number
  have short : ((buffer.take 63).takeWhile isNumberChar).length < buffer.length := by
    have copied : (buffer.take 63).takeWhile isNumberChar <+: buffer :=
      (List.takeWhile_prefix _).trans (List.take_prefix _ _)
    refine lt_of_le_of_ne copied.length_le fun whole => ?_
    have same := copied.eq_of_length whole
    have member : (0 : UInt8) ∈ (buffer.take 63).takeWhile isNumberChar := by
      rw [same]
      exact List.mem_of_getLast? zero
    exact absurd (List.mem_takeWhile_imp member) (by decide)
  rw [ne_eq, List.drop_eq_nil_iff]
  omega

-----------------------------------------------------------------------------------------
-- Arrays and objects
-----------------------------------------------------------------------------------------

section Nested

variable {value : List UInt8 → Except ParseStop (Item × List UInt8)}
  (values : ∀ buffer, Terminated buffer → Advances buffer (value buffer))

include values

/-- The loop has enough rounds, by induction on them: every round leaves a shorter rest. -/
theorem parseElements_advances {fuel : Nat} {buffer : List UInt8} (zero : Terminated buffer)
    (enough : buffer.length ≤ fuel)
    : Advances buffer (parseElements value fuel buffer) := by
  induction fuel generalizing buffer with
  | zero => exact absurd (List.length_eq_zero_iff.mp (Nat.le_zero.mp enough)) zero.ne_nil
  | succ fuel ih =>
      rw [parseElements]
      refine ((values _ zero.skip).of_suffix (skipWhitespace_suffix buffer)).bind ?_
      intro item rest suffix zero
      have inner := zero.skip
      have skipped := (skipWhitespace_suffix rest).trans suffix
      dsimp only
      cases shape : skipWhitespace rest with
      | nil => exact .invalid
      | cons c behind =>
          rw [shape] at inner skipped
          have shorter := skipped.length_le
          have behindSuffix := (List.suffix_cons c behind).trans skipped
          dsimp only
          split_ifs with comma bracket
          · subst comma
            rw [List.length_cons] at shorter
            exact ((ih (inner.tail (by decide)) (by omega)).of_suffix behindSuffix).map (item :: ·)
          · subst bracket
            exact .ok behindSuffix (inner.tail (by decide))
          · exact .invalid

theorem parseMembers_advances {fuel : Nat} {buffer : List UInt8} (zero : Terminated buffer)
    (enough : buffer.length ≤ fuel)
    : Advances buffer (parseMembers value fuel buffer) := by
  induction fuel generalizing buffer with
  | zero => exact absurd (List.length_eq_zero_iff.mp (Nat.le_zero.mp enough)) zero.ne_nil
  | succ fuel ih =>
      rw [parseMembers]
      refine ((parseString_advances zero.skip).of_suffix (skipWhitespace_suffix buffer)).bind ?_
      intro name rest suffix zero
      have inner := zero.skip
      have skipped := (skipWhitespace_suffix rest).trans suffix
      dsimp only
      cases shape : skipWhitespace rest with
      | nil => exact .invalid
      | cons c behind =>
          rw [shape] at inner skipped
          dsimp only
          split_ifs with colon
          · exact .invalid
          obtain rfl := not_not.mp colon
          have zero := inner.tail (by decide)
          have suffix := (List.suffix_cons 58 behind).trans skipped
          refine ((values _ zero.skip).of_suffix
            ((skipWhitespace_suffix behind).trans suffix)).bind ?_
          intro item rest suffix zero
          have inner := zero.skip
          have skipped := (skipWhitespace_suffix rest).trans suffix
          dsimp only
          cases shape : skipWhitespace rest with
          | nil => exact .invalid
          | cons c behind =>
              rw [shape] at inner skipped
              have shorter := skipped.length_le
              have behindSuffix := (List.suffix_cons c behind).trans skipped
              dsimp only
              split_ifs with comma brace
              · subst comma
                rw [List.length_cons] at shorter
                exact ((ih (inner.tail (by decide)) (by omega)).of_suffix behindSuffix).map
                  ((cString name, item) :: ·)
              · subst brace
                exact .ok behindSuffix (inner.tail (by decide))
              · exact .invalid

end Nested

theorem parseArray_advances {value : List UInt8 → Except ParseStop (Item × List UInt8)}
    (values : ∀ buffer, Terminated buffer → Advances buffer (value buffer)) {buffer : List UInt8}
    (zero : Terminated buffer)
    : Advances buffer (parseArray value buffer) := by
  obtain ⟨bracket, behind, rfl⟩ := List.exists_cons_of_ne_nil zero.ne_nil
  have read : readAt (bracket :: behind) 0 = .ok bracket := rfl
  rw [parseArray, read, ok_bind, List.drop_succ_cons, List.drop_zero]
  split_ifs with other
  · exact .invalid
  obtain rfl := not_not.mp other
  have inner := zero.tail (by decide)
  have skipped := (skipWhitespace_suffix behind).trans (List.suffix_cons 91 behind)
  have rest := inner.skip
  cases shape : skipWhitespace behind with
  | nil => exact .invalid
  | cons c elements =>
      rw [shape] at rest skipped
      dsimp only
      split_ifs with closing
      · subst closing
        exact .ok ((List.suffix_cons 93 elements).trans skipped) (rest.tail (by decide))
      · exact ((parseElements_advances values rest le_rfl).of_suffix skipped).map Item.array

theorem parseObject_advances {value : List UInt8 → Except ParseStop (Item × List UInt8)}
    (values : ∀ buffer, Terminated buffer → Advances buffer (value buffer)) {buffer : List UInt8}
    (zero : Terminated buffer)
    : Advances buffer (parseObject value buffer) := by
  obtain ⟨brace, behind, rfl⟩ := List.exists_cons_of_ne_nil zero.ne_nil
  unfold parseObject
  dsimp only
  split_ifs with other
  · exact .invalid
  obtain rfl := not_not.mp other
  have inner := zero.tail (by decide)
  have skipped := (skipWhitespace_suffix behind).trans (List.suffix_cons 123 behind)
  have rest := inner.skip
  cases shape : skipWhitespace behind with
  | nil => exact .invalid
  | cons c members =>
      rw [shape] at rest skipped
      dsimp only
      split_ifs with closing
      · subst closing
        exact .ok ((List.suffix_cons 125 members).trans skipped) (rest.tail (by decide))
      · exact ((parseMembers_advances values rest le_rfl).of_suffix skipped).map Item.object

/-- A literal without a zero leaves a terminated rest. -/
theorem Terminated.literal {buffer text : List UInt8} (zero : Terminated buffer)
    (starts : text <+: buffer) (nulFree : 0 ∉ text)
    : buffer.drop text.length <:+ buffer ∧ Terminated (buffer.drop text.length) := by
  refine ⟨List.drop_suffix _ _, zero.suffix (List.drop_suffix _ _) ?_⟩
  obtain ⟨rest, rfl⟩ := starts
  rw [List.drop_left]
  rintro rfl
  rw [List.append_nil] at zero
  exact nulFree (List.mem_of_getLast? zero)

theorem parseCase_advances {array object : List UInt8 → Except ParseStop (Item × List UInt8)}
    (arrays : ∀ buffer, Terminated buffer → Advances buffer (array buffer))
    (objects : ∀ buffer, Terminated buffer → Advances buffer (object buffer))
    {buffer : List UInt8} (zero : Terminated buffer)
    : Advances buffer (parseCase array object buffer) := by
  obtain ⟨c, behind, rfl⟩ := List.exists_cons_of_ne_nil zero.ne_nil
  unfold parseCase
  dsimp only
  split_ifs with null false_ true_ quote digit bracket brace
  · obtain ⟨suffix, rest⟩ := zero.literal null (by decide)
    exact .ok suffix rest
  · obtain ⟨suffix, rest⟩ := zero.literal false_ (by decide)
    exact .ok suffix rest
  · obtain ⟨suffix, rest⟩ := zero.literal true_ (by decide)
    exact .ok suffix rest
  · exact (parseString_advances zero).map fun output => Item.string (cString output)
  · cases done : parseNumber (c :: behind) with
    | none => exact .invalid
    | some entry =>
        obtain ⟨number, behind'⟩ := entry
        obtain ⟨suffix, rest⟩ := parseNumber_rest zero done
        exact .ok suffix rest
  · exact arrays _ zero
  · exact objects _ zero
  · exact .invalid

/-- Values are parsed inside the text at every level, by induction on the levels. -/
theorem parseValue_advances (levels : Nat) {buffer : List UInt8} (zero : Terminated buffer)
    : Advances buffer (parseValue levels buffer) := by
  induction levels generalizing buffer with
  | zero => exact parseCase_advances (fun _ _ => .invalid) (fun _ _ => .invalid) zero
  | succ levels ih =>
      exact parseCase_advances (fun _ zero => parseArray_advances (fun _ => ih) zero)
        (fun _ zero => parseObject_advances (fun _ => ih) zero) zero

/-- For any C string the parser stays inside the memory of the text, inside the memory of the
strings it makes, and comes to an end.
-/
theorem parseWithOpts_safe (value : CString) (requireNullTerminated : Bool)
    : Safe (parseWithOpts value requireNullTerminated) := by
  have content : Terminated (value.1 ++ [0]) := List.getLast?_concat ..
  have front : Terminated (skipUtf8Bom (value.1 ++ [0])) := by
    unfold skipUtf8Bom
    split_ifs with bom
    · exact (content.literal bom.2 (by decide)).2
    · exact content
  refine (parseValue_advances cjsonNestingLimit front.skip).safe.bind ?_
  intro (item, buffer) done
  dsimp only
  refine .ite (fun _ => ?_) (fun _ => .ok _)
  cases skipWhitespace buffer with
  | nil => exact .invalid
  | cons c rest => exact .ite (fun _ => .invalid) (fun _ => .ok _)

end Iperf.Cjson
