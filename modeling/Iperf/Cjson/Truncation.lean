import Iperf.Cjson.RoundTrip
import Iperf.Cjson.StringMemory

/-! The text of an array or an object is no JSON as long as its end is missing.
-/

namespace Iperf.Cjson

open Checked DecimalText Doubles

/-- No value comes out. -/
def Fails {α : Type} (result : Except ParseStop α) : Prop := ∀ a, result ≠ .ok a

/-- The parser of an array or an object cannot go on here. -/
def Blocked (buffer : List UInt8) : Prop :=
  ∀ c ∈ (skipWhitespace buffer).head?, c ≠ 44 ∧ c ≠ 93 ∧ c ≠ 125

/-- If a value comes out, the parser cannot go on behind it. -/
def Stuck {α : Type} (result : Except ParseStop (α × List UInt8)) : Prop :=
  ∀ a rest, result = .ok (a, rest) → Blocked rest

theorem Fails.error {α : Type} (stop : ParseStop) : Fails (.error stop : Except ParseStop α) :=
  fun _ absurd => by cases absurd

theorem Fails.stuck {α : Type} {result : Except ParseStop (α × List UInt8)} (fails : Fails result)
    : Stuck result :=
  fun a rest done => absurd done (fails (a, rest))

theorem Fails.map {α β : Type} {result : Except ParseStop α} (fails : Fails result) (f : α → β)
    : Fails (result.map f) := by
  intro b done
  obtain ⟨a, found, -⟩ := map_eq_ok.mp done
  exact fails a found

theorem Fails.bind {α β : Type} {result : Except ParseStop α} {f : α → Except ParseStop β}
    (later : ∀ a, result = .ok a → Fails (f a))
    : Fails (result >>= f) := by
  intro b done
  obtain ⟨a, found, next⟩ := bind_eq_ok.mp done
  exact later a found b next

/-- A prefix of two texts ends in the first, or goes on in the second. -/
theorem prefix_cases {q front back : List UInt8} (isPrefix : q <+: front ++ back)
    : (∃ rest, rest ≠ [] ∧ front = q ++ rest) ∨ ∃ q', q = front ++ q' ∧ q' <+: back := by
  rcases List.prefix_or_prefix_of_prefix isPrefix (List.prefix_append front back) with
    inside | beyond
  · obtain ⟨rest, rfl⟩ := inside
    by_cases whole : rest = []
    · subst whole
      refine .inr ⟨[], by simp, List.nil_prefix⟩
    · exact .inl ⟨rest, whole, rfl⟩
  · obtain ⟨q', rfl⟩ := beyond
    exact .inr ⟨q', rfl, (List.prefix_append_right_inj front).mp isPrefix⟩

/-- Nothing but white space is left in front of the zero. -/
theorem skipWhitespace_zero {front : List UInt8} (white : ∀ c ∈ front, c ≤ 32)
    : skipWhitespace (front ++ [0]) = [0] := by
  have all : (front ++ [0]).dropWhile (· ≤ 32) = [] := by
    refine List.dropWhile_eq_nil_iff.mpr fun c member => decide_eq_true ?_
    rcases List.mem_append.mp member with inside | last
    · exact white c inside
    · rw [List.mem_singleton.mp last]
      decide
  unfold skipWhitespace
  dsimp only
  rw [if_pos all, List.length_append, List.length_singleton, Nat.add_sub_cancel, List.drop_left]

/-- White space in front of a text is skipped, also when the text is missing. -/
theorem skipWhitespace_truncated {front q text : List UInt8} {c : UInt8} {rest : List UInt8}
    (white : ∀ c ∈ front, c ≤ 32) (isPrefix : q <+: text) (shape : text = c :: rest)
    (visible : 32 < c)
    : skipWhitespace (front ++ (q ++ [0])) = q ++ [0] := by
  cases q with
  | nil => exact skipWhitespace_zero white
  | cons d q =>
      rw [shape] at isPrefix
      obtain ⟨rfl, -⟩ := List.cons_prefix_cons.mp isPrefix
      exact skipWhitespace_append white visible

-----------------------------------------------------------------------------------------
-- Scalars
-----------------------------------------------------------------------------------------

section Scalars

variable {array object : List UInt8 → Except ParseStop (Item × List UInt8)}

theorem parseCase_zero : Fails (parseCase array object [0]) := by
  rw [parseCase_other (by decide) (by decide) (by decide)]
  exact .error _

/-- A text without a zero that starts a truncated text starts it before the cut. -/
theorem prefix_of_truncated {text q : List UInt8} (nulFree : 0 ∉ text) (starts : text <+: q ++ [0])
    : text <+: q := by
  rcases List.prefix_or_prefix_of_prefix starts (List.prefix_append q [0]) with inside | beyond
  · exact inside
  · obtain ⟨rest, rfl⟩ := beyond
    have zero : rest <+: [0] := (List.prefix_append_right_inj q).mp starts
    cases rest with
    | nil => simp
    | cons d rest =>
        obtain ⟨rfl, -⟩ := List.cons_prefix_cons.mp zero
        simp at nulFree

/-- A literal without its end is no value. -/
theorem parseCase_literal {text q rest : List UInt8}
    (literal : text = nullText ∨ text = falseText ∨ text = trueText) (shape : text = q ++ rest)
    (some_ : rest ≠ [])
    : Fails (parseCase array object (q ++ [0])) := by
  cases q with
  | nil => exact parseCase_zero
  | cons c q =>
      have letters : c = 110 ∨ c = 102 ∨ c = 116 := by
        rcases literal with rfl | rfl | rfl
        · exact .inl (List.cons.inj shape).1.symm
        · exact .inr (.inl (List.cons.inj shape).1.symm)
        · exact .inr (.inr (List.cons.inj shape).1.symm)
      -- a literal that were complete would be the same one
      have incomplete {whole : List UInt8}
          (known : whole = nullText ∨ whole = falseText ∨ whole = trueText)
          : ¬ whole <+: c :: q ++ [0] := by
        intro starts
        have nulFree : 0 ∉ whole := by rcases known with rfl | rfl | rfl <;> decide
        have inside := prefix_of_truncated nulFree starts
        have front : whole <+: text := inside.trans ⟨rest, shape.symm⟩
        have same : whole = text := by
          rcases known with rfl | rfl | rfl <;> rcases literal with rfl | rfl | rfl
            <;> first | rfl | exact absurd front (by decide)
        have long := inside.length_le
        have short := congrArg List.length shape
        have positive := List.length_pos_iff.mpr some_
        rw [List.length_append] at short
        rw [same] at long
        omega
      unfold parseCase
      rw [if_neg (incomplete (.inl rfl)), if_neg (incomplete (.inr (.inl rfl))),
        if_neg (incomplete (.inr (.inr rfl)))]
      dsimp only [List.cons_append]
      rcases letters with rfl | rfl | rfl <;> exact .error _

/-- The search sees nothing behind the quote that it finds. -/
theorem stringEnd_local {q x : List UInt8} {length skipped : Nat}
    (found : stringEnd (q ++ x) = .ok (length, skipped)) (inside : length < q.length)
    (y : List UInt8)
    : stringEnd (q ++ y) = .ok (length, skipped) := by
  match q with
  | [] => simp at inside
  | c :: q =>
      rw [List.cons_append] at found ⊢
      by_cases quote : c = 34
      · subst quote
        rw [stringEnd_quote] at found ⊢
        exact found
      by_cases backslash : c = 92
      · subst backslash
        match q with
        | [] =>
            -- the escaped byte would be behind the cut
            rw [List.length_singleton] at inside
            obtain rfl : length = 0 := by omega
            obtain ⟨rest, quoteAt⟩ := stringEnd_quoteAt found
            cases quoteAt
        | d :: q =>
            rw [List.cons_append, stringEnd_escape, map_eq_ok] at found
            obtain ⟨⟨length', skipped'⟩, later, same⟩ := found
            cases same
            rw [List.length_cons, List.length_cons] at inside
            rw [List.cons_append, stringEnd_escape, stringEnd_local later (by omega) y]
            rfl
      · rw [stringEnd_plain quote backslash, map_eq_ok] at found
        obtain ⟨⟨length', skipped'⟩, later, same⟩ := found
        cases same
        rw [List.length_cons] at inside
        rw [stringEnd_plain quote backslash, stringEnd_local later (by omega) y]
        rfl

/-- A string without its closing quote is none: a quote before the cut would end the whole string
there, too.
-/
theorem stringEnd_truncated {string q : List UInt8} (isPrefix : q <+: string.flatMap escapeByte)
    : Fails (stringEnd (q ++ [0])) := by
  intro (length, skipped) found
  obtain ⟨rest, quoteAt⟩ := stringEnd_quoteAt found
  have inside : length < q.length := by
    by_contra behind
    rw [List.drop_append, List.drop_eq_nil_of_le (not_lt.mp behind), List.nil_append] at quoteAt
    cases drop : length - q.length with
    | zero =>
        rw [drop] at quoteAt
        cases quoteAt
    | succ n =>
        rw [drop] at quoteAt
        simp at quoteAt
  obtain ⟨more, whole⟩ := isPrefix
  obtain ⟨skipped', closing, -⟩ := stringEnd_flatMap string []
  rw [← whole, List.append_assoc] at closing
  have same := (stringEnd_local found inside (more ++ [34])).symm.trans closing
  have ends := congrArg Prod.fst (Except.ok.inj same)
  rw [List.length_append] at ends
  dsimp only at ends
  omega

theorem parseString_truncated {string q : List UInt8} (isPrefix : q <+: printString string)
    (proper : q ≠ printString string)
    : Fails (parseString (q ++ [0])) := by
  cases q with
  | nil =>
      have read : readAt [0] 0 = .ok 0 := rfl
      rw [List.nil_append, parseString, read, ok_bind, if_pos (by decide)]
      exact .error _
  | cons c q =>
      rw [printString, List.cons_append] at isPrefix
      obtain ⟨rfl, inner⟩ := List.cons_prefix_cons.mp isPrefix
      have cut : q <+: string.flatMap escapeByte := by
        rcases prefix_cases inner with ⟨rest, -, shape⟩ | ⟨q', rfl, last⟩
        · exact ⟨rest, shape.symm⟩
        · cases q' with
          | nil => simp
          | cons d q' =>
              obtain ⟨rfl, none_⟩ := List.cons_prefix_cons.mp last
              rw [List.prefix_nil.mp none_] at proper
              exact absurd rfl proper
      simp only [parseString, readAt, List.cons_append, List.getElem?_cons_zero, ok_bind,
        List.drop_succ_cons, List.drop_zero, ne_eq, not_true_eq_false, if_false]
      exact .bind fun entry found => absurd found (stringEnd_truncated cut entry)

/-- A number without its end may be another number, and the zero follows what is left of it. -/
theorem parseNumber_truncated {q rest : List UInt8} {number : Double}
    (all : ∀ c ∈ q, isNumberChar c = true) (short : q.length ≤ 63)
    (parsed : parseNumber (q ++ [0]) = some (number, rest))
    : Blocked rest := by
  have stops : ∀ c ∈ (([0] : List UInt8).take (63 - q.length)).head?, isNumberChar c = false := by
    intro c first
    cases room : 63 - q.length with
    | zero =>
        rw [room] at first
        cases first
    | succ n =>
        rw [room, List.take_succ_cons] at first
        obtain rfl := Option.some.inj first
        decide
  have copied : ((q ++ [0]).take 63).takeWhile isNumberChar = q := by
    rw [List.take_append, List.take_of_length_le short]
    exact (TextLines.span_append all stops).1
  unfold parseNumber at parsed
  dsimp only at parsed
  rw [copied] at parsed
  obtain ⟨⟨value, left⟩, found, same⟩ := Option.map_eq_some_iff.mp parsed
  obtain ⟨⟨exact_, left'⟩, read, same'⟩ := Option.map_eq_some_iff.mp found
  obtain ⟨-, rfl⟩ := Prod.mk.inj same'
  obtain ⟨-, rfl⟩ := Prod.mk.inj same
  obtain ⟨front, rfl⟩ := readNumber_suffix read
  dsimp only
  have behind : (front ++ left' ++ [0]).drop ((front ++ left').length - left'.length)
      = left' ++ [0] := by
    rw [List.length_append, Nat.add_sub_cancel, List.append_assoc, List.drop_left]
  rw [behind]
  intro c first
  have member : c ∈ left' ++ [0] := by
    have suffix : skipWhitespace (left' ++ [0]) <:+ left' ++ [0] := skipWhitespace_suffix _
    exact suffix.subset (List.mem_of_head? first)
  rcases List.mem_append.mp member with digit | zero
  · have number := all c (List.mem_append_right front digit)
    refine ⟨?_, ?_, ?_⟩ <;> rintro rfl <;> exact absurd number (by decide)
  · obtain rfl := List.mem_singleton.mp zero
    decide

end Scalars

-----------------------------------------------------------------------------------------
-- Arrays and objects
-----------------------------------------------------------------------------------------

theorem parseValue_zero (levels : Nat) : Fails (parseValue levels [0]) := by
  obtain ⟨array, object, shape⟩ := parseValue_eq levels
  rw [shape]
  exact parseCase_zero

theorem parseString_zero : Fails (parseString [0]) :=
  parseString_truncated (List.nil_prefix : [] <+: printString []) (by decide)

/-- A cut text in front of which white space stands is cut in the white space or in the text. -/
theorem white_cut {front q text : List UInt8} (white : ∀ c ∈ front, c ≤ 32)
    (isPrefix : q <+: front ++ text)
    : ∃ front' q', q = front' ++ q' ∧ (∀ c ∈ front', c ≤ 32) ∧ q' <+: text := by
  rcases prefix_cases isPrefix with ⟨rest, -, rfl⟩ | ⟨q', rfl, later⟩
  · exact ⟨q, [], by simp, fun c member => white c (List.mem_append_left rest member),
      List.nil_prefix⟩
  · exact ⟨front, q', rfl, white, later⟩

/-- A text without its last character ends in front of it. -/
theorem prefix_of_proper {q text : List UInt8} {last : UInt8} (isPrefix : q <+: text ++ [last])
    (proper : q ≠ text ++ [last])
    : q <+: text := by
  rcases prefix_cases isPrefix with ⟨rest, -, shape⟩ | ⟨q', rfl, later⟩
  · exact ⟨rest, shape.symm⟩
  · cases q' with
    | nil => simp
    | cons c q' =>
        obtain ⟨rfl, none_⟩ := List.cons_prefix_cons.mp later
        rw [List.prefix_nil.mp none_] at proper
        exact absurd rfl proper

theorem parseNumber_stuck {array object : List UInt8 → Except ParseStop (Item × List UInt8)}
    {d : Double} {q : List UInt8} (isPrefix : q <+: printNumber d) (proper : q ≠ printNumber d)
    : Stuck (parseCase array object (q ++ [0])) := by
  have literal (null : printNumber d = nullText) : Stuck (parseCase array object (q ++ [0])) := by
    obtain ⟨rest, shape⟩ := isPrefix
    refine (parseCase_literal (.inl rfl) (null ▸ shape.symm) ?_).stuck
    rintro rfl
    rw [List.append_nil] at shape
    exact proper shape
  have text : bytesOf "null" = nullText := by decide
  match d with
  | .infinite _ => exact literal text
  | .nan => exact literal text
  | .finite value =>
      obtain ⟨first, behind, shape, digit⟩ := printNumber_head value
      obtain ⟨all, -⟩ := printNumber_read value
      have short := isPrefix.length_le.trans (length_printNumber_le _)
      cases q with
      | nil => exact parseCase_zero.stuck
      | cons c q =>
          have same := shape ▸ isPrefix
          obtain ⟨rfl, -⟩ := List.cons_prefix_cons.mp same
          obtain ⟨-, quote, n, f, t⟩ := startsValue_digit digit
          have chars : ∀ d ∈ c :: q, isNumberChar d = true :=
            fun d member => all d (isPrefix.subset member)
          rw [List.cons_append, parseCase_other n f t, if_neg quote, if_pos digit,
            ← List.cons_append]
          intro item rest done
          cases parsed : parseNumber (c :: q ++ [0]) with
          | none =>
              rw [parsed] at done
              cases done
          | some entry =>
              rw [parsed] at done
              cases done
              exact parseNumber_truncated chars (by omega) parsed

/-- Behind a cut value the loop over elements does not go on. -/
theorem Blocked.elements {buffer : List UInt8} (blocked : Blocked buffer)
    {value : List UInt8 → Except ParseStop (Item × List UInt8)} (fuel : Nat) (item : Item)
    : Fails (match skipWhitespace buffer with
        | [] => .error .invalid
        | c :: buffer =>
            if c = 44 then
              (parseElements value fuel buffer).map fun (items, buffer) => (item :: items, buffer)
            else if c = 93 then .ok ([item], buffer)
            else .error .invalid) := by
  cases shape : skipWhitespace buffer with
  | nil => exact .error _
  | cons c rest =>
      obtain ⟨comma, bracket, -⟩ := blocked c (by rw [shape]; rfl)
      dsimp only
      rw [if_neg comma, if_neg bracket]
      exact .error _

theorem Blocked.members {buffer : List UInt8} (blocked : Blocked buffer)
    {value : List UInt8 → Except ParseStop (Item × List UInt8)} (fuel : Nat)
    (member : CString × Item)
    : Fails (match skipWhitespace buffer with
        | [] => .error .invalid
        | c :: buffer =>
            if c = 44 then
              (parseMembers value fuel buffer).map fun (members, buffer) =>
                (member :: members, buffer)
            else if c = 125 then .ok ([member], buffer)
            else .error .invalid) := by
  cases shape : skipWhitespace buffer with
  | nil => exact .error _
  | cons c rest =>
      obtain ⟨comma, -, brace⟩ := blocked c (by rw [shape]; rfl)
      dsimp only
      rw [if_neg comma, if_neg brace]
      exact .error _

theorem blocked_zero {front : List UInt8} (white : ∀ c ∈ front, c ≤ 32)
    : Blocked (front ++ [0]) := by
  intro c first
  rw [skipWhitespace_zero white] at first
  obtain rfl := Option.some.inj first
  decide

theorem nested_ok {α : Type} {levels n : Nat} {a a' : α} {rest rest' : List UInt8}
    (done : nested levels n a rest = .ok (a', rest'))
    : rest' = rest := by
  unfold nested at done
  split_ifs at done
  cases done
  rfl

/-- An array is none if its elements are cut. -/
theorem parseArray_truncated {format : Bool} {depth levels : Nat} {children : List Item}
    {q : List UInt8} (isPrefix : q <+: printElements format depth children)
    (elements : ∀ fuel, Fails (parseElements (parseValue levels) fuel (q ++ [0])))
    : Fails (parseArray (parseValue levels) (91 :: (q ++ [0]))) := by
  have bracket : readAt (91 :: (q ++ [0])) 0 = .ok 91 := rfl
  have first : ∃ c rest, q ++ [0] = c :: rest ∧ c ≠ 93 ∧ skipWhitespace (q ++ [0]) = q ++ [0] := by
    cases q with
    | nil => exact ⟨0, [], rfl, by decide, by decide⟩
    | cons c q =>
        cases children with
        | nil => cases List.prefix_nil.mp isPrefix
        | cons child next =>
            obtain ⟨d, rest, shape, visible, open_, -⟩ := printValue_head format depth child
            rw [printElements, shape, List.cons_append, List.cons_append] at isPrefix
            obtain ⟨rfl, -⟩ := List.cons_prefix_cons.mp isPrefix
            exact ⟨c, _, rfl, open_, skipWhitespace_cons visible⟩
  obtain ⟨c, rest, shape, open_, skipped⟩ := first
  have cut := elements (q ++ [0]).length
  rw [parseArray, bracket, ok_bind, if_neg (not_not.mpr rfl), List.drop_succ_cons, List.drop_zero,
    skipped]
  rw [shape] at cut ⊢
  dsimp only
  rw [if_neg open_]
  exact cut.map _

/-- An object is none if its members are cut. -/
theorem parseObject_truncated {format : Bool} {depth outer levels : Nat}
    {children : List (CString × Item)} {q : List UInt8}
    (isPrefix : q <+: formatted format [10]
      ++ (printMembers format depth children ++ formatted format (tabs outer)))
    (members : ∀ fuel, Fails (parseMembers (parseValue levels) fuel (q ++ [0])))
    : Fails (parseObject (parseValue levels) (123 :: (q ++ [0]))) := by
  have newline : ∀ c ∈ formatted format [10], c ≤ 32 :=
    white_formatted format fun c member => by rw [List.mem_singleton.mp member]; decide
  have indent (n : Nat) : ∀ c ∈ formatted format (tabs n), c ≤ 32 :=
    white_formatted format (white_tabs n)
  have first : ∃ c rest, skipWhitespace (q ++ [0]) = c :: rest ∧ c ≠ 125 := by
    have zero {front : List UInt8} (white : ∀ c ∈ front, c ≤ 32)
        : ∃ c rest, skipWhitespace (front ++ [0]) = c :: rest ∧ c ≠ 125 :=
      ⟨0, [], skipWhitespace_zero white, by decide⟩
    match children with
    | [] =>
        rw [printMembers, List.nil_append] at isPrefix
        exact zero fun c member =>
          List.forall_mem_append.mpr ⟨newline, indent outer⟩ c (isPrefix.subset member)
    | (string, child) :: next =>
        obtain ⟨behind, text, -⟩ := printMembers_text format depth string child next
          (formatted format (tabs outer))
        rw [text, ← List.append_assoc] at isPrefix
        obtain ⟨front, q', rfl, white, later⟩ :=
          white_cut (List.forall_mem_append.mpr ⟨newline, indent depth⟩) isPrefix
        rw [List.append_assoc]
        cases q' with
        | nil => exact zero white
        | cons c q' =>
            obtain ⟨rfl, -⟩ := List.cons_prefix_cons.mp later
            exact ⟨34, _, skipWhitespace_append white (by decide), by decide⟩
  obtain ⟨c, rest, shape, open_⟩ := first
  have cut := members (c :: rest).length
  rw [← parseMembers_skip, shape] at cut
  unfold parseObject
  dsimp only
  rw [if_neg (not_not.mpr rfl), shape]
  dsimp only
  rw [if_neg open_]
  exact cut.map _

theorem isNumberChar_white {c : UInt8} (white : c ≤ 32) : isNumberChar c = false := by
  refine Bool.eq_false_iff.mpr fun number => ?_
  have low := UInt8.le_iff_toNat_le.mp white
  have visible : 43 ≤ c.toNat := by
    rcases Bool.or_eq_true_iff.mp number with digit | sign
    · simp only [ScanFormat.isDigit, Bool.and_eq_true, decide_eq_true_eq] at digit
      exact le_trans (by decide) (UInt8.le_iff_toNat_le.mp digit.1)
    · simp only [List.mem_cons, List.not_mem_nil, or_false, decide_eq_true_eq] at sign
      rcases sign with rfl | rfl | rfl | rfl | rfl <;> decide
  exact absurd (visible.trans low) (by decide)

/-- A whole value is parsed, and the parser cannot go on behind it. -/
theorem parseValue_whole (format : Bool) (depth levels : Nat) (item : Item) {front : List UInt8}
    (white : ∀ c ∈ front, c ≤ 32)
    : Stuck (parseValue levels (printValue format depth item ++ (front ++ [0]))) := by
  have stops : ∀ c ∈ (front ++ [0]).head?, isNumberChar c = false := by
    intro c first
    rcases List.mem_append.mp (List.mem_of_head? first) with space | zero
    · exact isNumberChar_white (white c space)
    · rw [List.mem_singleton.mp zero]
      decide
  intro item' rest done
  rw [parseValue_printValue format depth item levels stops] at done
  rw [nested_ok done]
  exact blocked_zero white

/-- A name and a colon in front of anything. -/
theorem parseMembers_colon {value : List UInt8 → Except ParseStop (Item × List UInt8)}
    {fuel : Nat} {string : CString} {front : List UInt8} (white : ∀ c ∈ front, c ≤ 32)
    (rest : List UInt8)
    : parseMembers value (fuel + 1) (front ++ (printString string.1 ++ 58 :: rest))
      = value (skipWhitespace rest) >>= fun (item, buffer) =>
          match skipWhitespace buffer with
          | [] => .error .invalid
          | c :: buffer =>
              if c = 44 then
                (parseMembers value fuel buffer).map fun (members, buffer) =>
                  ((string, item) :: members, buffer)
              else if c = 125 then .ok ([(string, item)], buffer)
              else .error .invalid := by
  have quote : skipWhitespace (front ++ (printString string.1 ++ 58 :: rest))
      = printString string.1 ++ 58 :: rest :=
    skipWhitespace_append white (by decide)
  have colon : skipWhitespace (58 :: rest) = 58 :: rest := skipWhitespace_cons (by decide)
  rw [parseMembers, quote, parseString_printString, ok_bind]
  dsimp only
  rw [colon]
  dsimp only
  rewrite [if_neg (not_not.mpr rfl), cString_val]
  rfl

/-- The loop over elements comes to no end if its first value is cut or the last. -/
theorem parseElements_stuck {levels : Nat} {buffer : List UInt8}
    (stuck : Stuck (parseValue levels (skipWhitespace buffer))) (fuel : Nat)
    : Fails (parseElements (parseValue levels) fuel buffer) := by
  cases fuel with
  | zero => exact .error _
  | succ fuel =>
      rw [parseElements]
      exact .bind fun (item, rest) done => (stuck item rest done).elements fuel item

/-- A member that is cut in front of its value is none. -/
theorem parseMembers_cut {levels fuel : Nat} {string : CString} {front q behind : List UInt8}
    (white : ∀ c ∈ front, c ≤ 32) (isPrefix : q <+: printString string.1 ++ 58 :: behind)
    (short : ¬ printString string.1 ++ [58] <+: q)
    : Fails (parseMembers (parseValue levels) fuel (front ++ (q ++ [0]))) := by
  cases fuel with
  | zero => exact .error _
  | succ fuel =>
      have skipped : skipWhitespace (front ++ (q ++ [0])) = q ++ [0] :=
        skipWhitespace_truncated white isPrefix rfl (by decide)
      rw [parseMembers, skipped]
      rcases prefix_cases isPrefix with ⟨rest, some_, shape⟩ | ⟨q', rfl, later⟩
      · refine .bind fun entry done => absurd done ?_
        refine parseString_truncated ⟨rest, shape.symm⟩ (fun whole => some_ ?_) entry
        rw [← whole] at shape
        exact List.append_right_eq_self.mp shape.symm
      · cases q' with
        | nil =>
            have zero : skipWhitespace [0] = [0] := by decide
            rw [List.append_nil, parseString_printString, ok_bind]
            dsimp only
            rw [zero]
            exact .error _
        | cons c q' =>
            obtain ⟨rfl, -⟩ := List.cons_prefix_cons.mp later
            exact absurd ⟨q', by simp⟩ short

/-- A member without what is behind its value comes to no end. -/
theorem parseMembers_inside {format : Bool} {depth levels : Nat} {string : CString} {child : Item}
    {front q space : List UInt8} (white : ∀ c ∈ front, c ≤ 32) (whiteBehind : ∀ c ∈ space, c ≤ 32)
    (isPrefix : q <+: memberText format depth string child ++ space)
    (truncated : ∀ q, q <+: printValue format depth child → q ≠ printValue format depth child →
      Stuck (parseValue levels (q ++ [0])))
    (fuel : Nat)
    : Fails (parseMembers (parseValue levels) fuel (front ++ (q ++ [0]))) := by
  have tab : ∀ c ∈ formatted format [9], c ≤ 32 :=
    white_formatted format fun c member => by rw [List.mem_singleton.mp member]; decide
  have text : memberText format depth string child ++ space
      = printString string.1 ++ 58 :: (formatted format [9]
        ++ (printValue format depth child ++ space)) := by
    simp [memberText]
  rw [text] at isPrefix
  by_cases named : printString string.1 ++ [58] <+: q
  · obtain ⟨q, rfl⟩ := named
    rw [List.append_assoc, List.singleton_append] at isPrefix
    have behind := (List.cons_prefix_cons.mp
      ((List.prefix_append_right_inj _).mp isPrefix)).2
    obtain ⟨front', q, rfl, white', cut⟩ := white_cut tab behind
    obtain ⟨c, rest, shape, visible, -⟩ := printValue_head format depth child
    have skipped : skipWhitespace (front' ++ (q ++ [0])) = q ++ [0] :=
      skipWhitespace_truncated white' cut (congrArg (· ++ space) shape) visible
    have stuck : Stuck (parseValue levels (q ++ [0])) := by
      rcases prefix_cases cut with ⟨rest, some_, shape⟩ | ⟨q', rfl, last⟩
      · refine truncated q ⟨rest, shape.symm⟩ fun whole => some_ ?_
        rw [← whole] at shape
        exact List.append_right_eq_self.mp shape.symm
      · rw [List.append_assoc]
        exact parseValue_whole format depth levels child fun c member =>
          whiteBehind c (last.subset member)
    cases fuel with
    | zero => exact .error _
    | succ fuel =>
        have around : front ++ (printString string.1 ++ [58] ++ (front' ++ q) ++ [0])
            = front ++ (printString string.1 ++ 58 :: (front' ++ (q ++ [0]))) := by
          simp
        rw [around, parseMembers_colon white, skipped]
        refine .bind fun entry done => ?_
        obtain ⟨item, rest⟩ := entry
        exact (stuck item rest done).members fuel (string, item)
  · exact parseMembers_cut white isPrefix named

/-- An array is not parsed without its end. -/
theorem parseValue_array_cut {format : Bool} {depth levels : Nat} {children : List Item}
    {q : List UInt8} (isPrefix : q <+: printValue format depth (.array children))
    (proper : q ≠ printValue format depth (.array children))
    (elements : ∀ levels q, q <+: printElements format (depth + 1) children → ∀ fuel,
      Fails (parseElements (parseValue levels) fuel (q ++ [0])))
    : Fails (parseValue levels (q ++ [0])) := by
  rw [printValue] at isPrefix proper
  cases q with
  | nil => exact parseValue_zero levels
  | cons c q =>
      obtain ⟨rfl, inner⟩ := List.cons_prefix_cons.mp isPrefix
      have cut := prefix_of_proper inner fun same => proper (congrArg (91 :: ·) same)
      rw [List.cons_append, parseValue_array]
      cases levels with
      | zero => exact .error _
      | succ levels =>
          rw [if_neg (Nat.succ_ne_zero _), Nat.succ_sub_one]
          exact parseArray_truncated cut (elements levels q cut)

/-- An object is not parsed without its end. -/
theorem parseValue_object_cut {format : Bool} {depth levels : Nat}
    {children : List (CString × Item)} {q : List UInt8}
    (isPrefix : q <+: printValue format depth (.object children))
    (proper : q ≠ printValue format depth (.object children))
    (members : ∀ levels (front q : List UInt8), (∀ c ∈ front, c ≤ 32) →
      q <+: printMembers format (depth + 1) children ++ formatted format (tabs depth) → ∀ fuel,
        Fails (parseMembers (parseValue levels) fuel (front ++ (q ++ [0]))))
    : Fails (parseValue levels (q ++ [0])) := by
  rw [printValue] at isPrefix proper
  cases q with
  | nil => exact parseValue_zero levels
  | cons c q =>
      obtain ⟨rfl, inner⟩ := List.cons_prefix_cons.mp isPrefix
      have cut := prefix_of_proper inner fun same => proper (congrArg (123 :: ·) same)
      rw [List.append_assoc] at cut
      have newline : ∀ c ∈ formatted format [10], c ≤ 32 :=
        white_formatted format fun c member => by rw [List.mem_singleton.mp member]; decide
      rw [List.cons_append, parseValue_object]
      cases levels with
      | zero => exact .error _
      | succ levels =>
          rw [if_neg (Nat.succ_ne_zero _), Nat.succ_sub_one]
          refine parseObject_truncated cut fun fuel => ?_
          obtain ⟨front, q, rfl, white, cut⟩ := white_cut newline cut
          rw [List.append_assoc]
          exact members levels front q white cut fuel

mutual
/-- No value is parsed from a cut text, except for a number, which nothing closes; by induction
on the item.
-/
theorem parseValue_truncated (format : Bool) (depth : Nat) (item : Item) (levels : Nat)
    {q : List UInt8} (isPrefix : q <+: printValue format depth item)
    (proper : q ≠ printValue format depth item)
    : Stuck (parseValue levels (q ++ [0])) := by
  obtain ⟨array, object, scalar⟩ := parseValue_eq levels
  have literal {text : List UInt8} (known : text = nullText ∨ text = falseText ∨ text = trueText)
      (isPrefix : q <+: text) (proper : q ≠ text) : Stuck (parseValue levels (q ++ [0])) := by
    obtain ⟨rest, shape⟩ := isPrefix
    rw [scalar]
    refine (parseCase_literal known shape.symm ?_).stuck
    rintro rfl
    rw [List.append_nil] at shape
    exact proper shape
  match item with
  | .null =>
      rw [printValue] at isPrefix proper
      exact literal (.inl rfl) isPrefix proper
  | .bool false =>
      rw [printValue] at isPrefix proper
      exact literal (.inr (.inl rfl)) isPrefix proper
  | .bool true =>
      rw [printValue] at isPrefix proper
      exact literal (.inr (.inr rfl)) isPrefix proper
  | .number valuedouble =>
      rw [printValue] at isPrefix proper
      rw [scalar]
      exact parseNumber_stuck isPrefix proper
  | .string valuestring =>
      rw [printValue] at isPrefix proper
      have cut := parseString_truncated isPrefix proper
      rw [scalar]
      cases q with
      | nil => exact parseCase_zero.stuck
      | cons c q =>
          rw [printString, List.cons_append] at isPrefix
          obtain ⟨rfl, -⟩ := List.cons_prefix_cons.mp isPrefix
          rw [List.cons_append] at cut ⊢
          rw [parseCase_other (by decide) (by decide) (by decide), if_pos rfl]
          exact (cut.map _).stuck
  | .array children =>
      refine (parseValue_array_cut isPrefix proper fun levels q isPrefix fuel => ?_).stuck
      exact parseElements_truncated format (depth + 1) children levels
        (List.forall_mem_nil (· ≤ 32)) isPrefix fuel
  | .object children =>
      refine (parseValue_object_cut isPrefix proper fun levels front q white isPrefix fuel =>
        ?_).stuck
      exact parseMembers_truncated format (depth + 1) depth children levels white isPrefix fuel

theorem parseElements_truncated (format : Bool) (depth : Nat) (children : List Item)
    (levels : Nat) {front q : List UInt8} (white : ∀ c ∈ front, c ≤ 32)
    (isPrefix : q <+: printElements format depth children) (fuel : Nat)
    : Fails (parseElements (parseValue levels) fuel (front ++ (q ++ [0]))) := by
  match children with
  | [] =>
      rw [printElements] at isPrefix
      rw [List.prefix_nil.mp isPrefix]
      refine parseElements_stuck ?_ fuel
      rw [List.nil_append, skipWhitespace_zero white]
      exact (parseValue_zero levels).stuck
  | child :: next =>
      -- the cut is in the first value, or the first value is there
      obtain ⟨c, rest, shape, visible, -⟩ := printValue_head format depth child
      have text : ∃ rest, printElements format depth (child :: next) = c :: rest := by
        rw [printElements, shape]
        exact ⟨_, rfl⟩
      obtain ⟨rest, text⟩ := text
      have skipped : skipWhitespace (front ++ (q ++ [0])) = q ++ [0] :=
        skipWhitespace_truncated white isPrefix text visible
      have whole : Stuck (parseValue levels (printValue format depth child ++ [0])) :=
        parseValue_whole format depth levels child (List.forall_mem_nil (· ≤ 32))
      have inside (isPrefix : q <+: printValue format depth child)
          : Fails (parseElements (parseValue levels) fuel (front ++ (q ++ [0]))) := by
        refine parseElements_stuck ?_ fuel
        rw [skipped]
        by_cases all : q = printValue format depth child
        · rw [all]
          exact whole
        · exact parseValue_truncated format depth child levels isPrefix all
      match next with
      | [] =>
          have text := printElements_singleton format depth child []
          rw [List.append_nil, List.append_nil] at text
          exact inside (text ▸ isPrefix)
      | child' :: next =>
          have text := printElements_cons format depth child child' next []
          rw [List.append_nil, List.append_nil] at text
          rw [text] at isPrefix
          rcases prefix_cases isPrefix with ⟨rest, -, shape⟩ | ⟨q', rfl, later⟩
          · exact inside ⟨rest, shape.symm⟩
          · cases q' with
            | nil => exact inside (by rw [List.append_nil])
            | cons c q' =>
                obtain ⟨rfl, behind⟩ := List.cons_prefix_cons.mp later
                have space : ∀ c ∈ formatted format [32], c ≤ 32 :=
                  white_formatted format fun c member => by
                    rw [List.mem_singleton.mp member]
                    exact UInt8.le_refl 32
                obtain ⟨front', q', rfl, white', cut⟩ := white_cut space behind
                have comma (behind : List UInt8) : skipWhitespace (44 :: behind) = 44 :: behind :=
                  skipWhitespace_cons (by decide)
                cases fuel with
                | zero => exact .error _
                | succ fuel =>
                    have cut := parseElements_truncated format depth (child' :: next) levels
                      white' cut fuel
                    rw [parseElements, skipped, List.append_assoc, List.cons_append,
                      List.append_assoc,
                      parseValue_printValue format depth child levels (stops_cons (.inl rfl))]
                    refine .bind fun (item, rest) done => ?_
                    rw [nested_ok done]
                    dsimp only
                    rw [comma]
                    dsimp only
                    rw [if_pos rfl]
                    exact cut.map _

theorem parseMembers_truncated (format : Bool) (depth outer : Nat)
    (children : List (CString × Item)) (levels : Nat) {front q : List UInt8}
    (white : ∀ c ∈ front, c ≤ 32)
    (isPrefix : q <+: printMembers format depth children ++ formatted format (tabs outer))
    (fuel : Nat)
    : Fails (parseMembers (parseValue levels) fuel (front ++ (q ++ [0]))) := by
  have indent (n : Nat) : ∀ c ∈ formatted format (tabs n), c ≤ 32 :=
    white_formatted format (white_tabs n)
  have newline : ∀ c ∈ formatted format [10], c ≤ 32 :=
    white_formatted format fun c member => by rw [List.mem_singleton.mp member]; decide
  match children with
  | [] =>
      rw [printMembers, List.nil_append] at isPrefix
      cases fuel with
      | zero => exact .error _
      | succ fuel =>
          have space : ∀ c ∈ front ++ q, c ≤ 32 :=
            List.forall_mem_append.mpr
                ⟨white, fun c member => indent outer c (isPrefix.subset member)⟩
          rw [parseMembers, ← List.append_assoc, skipWhitespace_zero space]
          exact .bind fun entry done => absurd done (parseString_zero entry)
  | (string, child) :: next =>
      have inside {front' q' space : List UInt8} (white' : ∀ c ∈ front ++ front', c ≤ 32)
          (whiteBehind : ∀ c ∈ space, c ≤ 32)
          (isPrefix : q' <+: memberText format depth string child ++ space)
          : Fails (parseMembers (parseValue levels) fuel (front ++ (front' ++ q' ++ [0]))) := by
        rw [List.append_assoc, ← List.append_assoc front]
        refine parseMembers_inside white' whiteBehind isPrefix (fun q isPrefix proper => ?_) fuel
        exact parseValue_truncated format depth child levels isPrefix proper
      match next with
      | [] =>
          rw [printMembers_singleton] at isPrefix
          obtain ⟨front', q, rfl, white', cut⟩ := white_cut (indent depth) isPrefix
          exact inside (List.forall_mem_append.mpr ⟨white, white'⟩)
            (List.forall_mem_append.mpr ⟨newline, indent outer⟩) cut
      | child' :: next =>
          rw [printMembers_cons] at isPrefix
          obtain ⟨front', q, rfl, white', cut⟩ := white_cut (indent depth) isPrefix
          have white' := List.forall_mem_append.mpr ⟨white, white'⟩
          have nothing : ∀ c ∈ ([] : List UInt8), c ≤ 32 := fun _ none_ => by cases none_
          rcases prefix_cases cut with ⟨rest, -, shape⟩ | ⟨q', rfl, later⟩
          · refine inside white' nothing ⟨rest, ?_⟩
            rw [List.append_nil, shape]
          · cases q' with
            | nil =>
                refine inside white' nothing ?_
                rw [List.append_nil]
            | cons c q' =>
                obtain ⟨rfl, behind⟩ := List.cons_prefix_cons.mp later
                obtain ⟨front'', q', rfl, white'', cut⟩ := white_cut newline behind
                have comma (behind : List UInt8) : skipWhitespace (44 :: behind) = 44 :: behind :=
                  skipWhitespace_cons (by decide)
                cases fuel with
                | zero => exact .error _
                | succ fuel =>
                    have cut := parseMembers_truncated format depth outer (child' :: next) levels
                      white'' cut fuel
                    have around : front ++ (front' ++ (memberText format depth string child
                        ++ 44 :: (front'' ++ q')) ++ [0])
                        = front ++ front' ++ (memberText format depth string child
                          ++ 44 :: (front'' ++ (q' ++ [0]))) := by
                      simp
                    rw [around, parseMembers_name white',
                      parseValue_printValue format depth child levels (stops_cons (.inl rfl))]
                    refine .bind fun (item, rest) done => ?_
                    rw [nested_ok done]
                    dsimp only
                    rw [comma]
                    dsimp only
                    rw [if_pos rfl]
                    exact cut.map _
end

/-- An item with a closing bracket or brace. -/
def Closed : Item → Prop
  | .array _ | .object _ => True
  | _ => False

theorem parseValue_closed (format : Bool) (depth levels : Nat) {item : Item} (closed : Closed item)
    {q : List UInt8} (isPrefix : q <+: printValue format depth item)
    (proper : q ≠ printValue format depth item)
    : Fails (parseValue levels (q ++ [0])) := by
  match item with
  | .array children =>
      refine parseValue_array_cut isPrefix proper fun levels q isPrefix fuel => ?_
      exact parseElements_truncated format (depth + 1) children levels
        (List.forall_mem_nil (· ≤ 32)) isPrefix fuel
  | .object children =>
      refine parseValue_object_cut isPrefix proper fun levels front q white isPrefix fuel => ?_
      exact parseMembers_truncated format (depth + 1) depth children levels white isPrefix fuel
  | .null | .bool _ | .number _ | .string _ => exact closed.elim

/-- No part of the text of an array or an object is a document as long as the end is missing,
whichever way it is printed and parsed.
-/
theorem parseWithOpts_truncated (format : Bool) {item : Item} (closed : Closed item)
    {text : CString} (isPrefix : text.1 <+: printText format item)
    (proper : text.1 ≠ printText format item) (requireNullTerminated : Bool)
    : Fails (parseWithOpts text requireNullTerminated) := by
  obtain ⟨c, rest, shape, visible, -, -, bom⟩ := printValue_head format 0 item
  have skipped : skipWhitespace (text.1 ++ [0]) = text.1 ++ [0] :=
    skipWhitespace_truncated (List.forall_mem_nil (· ≤ 32)) isPrefix shape visible
  have noBom : skipUtf8Bom (text.1 ++ [0]) = text.1 ++ [0] := by
    refine if_neg fun ⟨_, starts⟩ => bom ?_
    have inside := prefix_of_truncated (by decide) starts
    have front := inside.trans isPrefix
    rw [printText, shape] at front
    exact (List.cons_prefix_cons.mp front).1.symm
  have fails := parseValue_closed format 0 cjsonNestingLimit closed isPrefix proper
  unfold parseWithOpts
  dsimp only
  rw [noBom, skipped]
  exact .bind fun entry done => absurd done (fails entry)

/-- An array whose bracket is missing. -/
theorem parseWithOpts_truncated_array
    : Fails (parseWithOpts ⟨[91, 116, 114, 117, 101], by decide⟩ false) := by
  have text : printText false (.array [.bool true]) = [91, 116, 114, 117, 101, 93] := by decide
  have closed : Closed (.array [.bool true]) := trivial
  refine parseWithOpts_truncated false closed ?_ ?_ false
  · rw [text]
    exact ⟨[93], rfl⟩
  · rw [text]
    decide

end Iperf.Cjson
