import Iperf.Cjson.Printer
import Iperf.Cjson.StringRoundTrip

/-! What cJSON prints it parses again, if arrays and objects are not nested too deep.
-/

namespace Iperf.Cjson

open Checked DecimalText Doubles

-----------------------------------------------------------------------------------------
-- The cases of a value
-----------------------------------------------------------------------------------------

section Cases

variable {array object : List UInt8 → Except ParseStop (Item × List UInt8)}

/-- No literal starts with another character. -/
theorem parseCase_other {c : UInt8} {rest : List UInt8} (n : c ≠ 110) (f : c ≠ 102) (t : c ≠ 116)
    : parseCase array object (c :: rest)
      = if c = 34 then
          (parseString (c :: rest)).map fun (output, buffer) => (.string (cString output), buffer)
        else if c = 45 ∨ ScanFormat.isDigit c then
          match parseNumber (c :: rest) with
          | some (number, buffer) => .ok (.number number, buffer)
          | none => .error .invalid
        else if c = 91 then array (c :: rest)
        else if c = 123 then object (c :: rest)
        else .error .invalid := by
  have null : ¬ nullText <+: c :: rest := fun starts => n (List.cons_prefix_cons.mp starts).1.symm
  have false_ : ¬ falseText <+: c :: rest :=
    fun starts => f (List.cons_prefix_cons.mp starts).1.symm
  have true_ : ¬ trueText <+: c :: rest := fun starts => t (List.cons_prefix_cons.mp starts).1.symm
  exact (if_neg null).trans ((if_neg false_).trans (if_neg true_))

theorem parseCase_null (rest : List UInt8)
    : parseCase array object (nullText ++ rest) = .ok (.null, rest) := by
  unfold parseCase
  rw [if_pos (List.prefix_append _ _)]
  rfl

theorem parseCase_false (rest : List UInt8)
    : parseCase array object (falseText ++ rest) = .ok (.bool false, rest) := by
  have null : ¬ nullText <+: falseText ++ rest := by
    intro starts
    exact absurd (List.cons_prefix_cons.mp starts).1 (by decide)
  unfold parseCase
  rw [if_neg null, if_pos (List.prefix_append _ _)]
  rfl

theorem parseCase_true (rest : List UInt8)
    : parseCase array object (trueText ++ rest) = .ok (.bool true, rest) := by
  have null : ¬ nullText <+: trueText ++ rest := by
    intro starts
    exact absurd (List.cons_prefix_cons.mp starts).1 (by decide)
  have false_ : ¬ falseText <+: trueText ++ rest := by
    intro starts
    exact absurd (List.cons_prefix_cons.mp starts).1 (by decide)
  unfold parseCase
  rw [if_neg null, if_neg false_, if_pos (List.prefix_append _ _)]
  rfl

theorem cString_val (string : CString) : cString string.1 = string := by
  refine Subtype.ext ?_
  refine List.takeWhile_eq_self_iff.mpr fun c member => ?_
  refine decide_eq_true ?_
  rintro rfl
  exact string.2 member

theorem parseCase_string (string : CString) (rest : List UInt8)
    : parseCase array object (printString string.1 ++ rest) = .ok (.string string, rest) := by
  have parsed := parseString_printString string.1 rest
  rw [printString, List.cons_append] at parsed ⊢
  rw [List.cons_append, parseCase_other (by decide) (by decide) (by decide), if_pos rfl,
    ← List.cons_append, parsed]
  simp only [Except.map, cString_val]

theorem parseCase_number {value : {q : ℚ // Representable q}} {rest : List UInt8}
    (stops : ∀ c ∈ rest.head?, isNumberChar c = false)
    : parseCase array object (printNumber (.finite value) ++ rest)
      = .ok (.number (reread value), rest) := by
  obtain ⟨c, behind, shape, digit⟩ := printNumber_head value
  obtain ⟨-, quote, n, f, t⟩ := startsValue_digit digit
  have parsed := parseNumber_printNumber value stops
  rw [shape, List.cons_append] at parsed ⊢
  rw [parseCase_other n f t, if_neg quote, if_pos digit, parsed]

end Cases

/-- Scalars are parsed at every level. -/
theorem parseValue_eq (levels : Nat)
    : ∃ array object, parseValue levels = parseCase array object := by
  cases levels with
  | zero => exact ⟨_, _, rfl⟩
  | succ levels => exact ⟨_, _, rfl⟩

theorem parseValue_array (levels : Nat) (rest : List UInt8)
    : parseValue levels (91 :: rest)
      = if levels = 0 then .error .invalid
        else parseArray (parseValue (levels - 1)) (91 :: rest) := by
  cases levels <;> rw [parseValue, parseCase_other (by decide) (by decide) (by decide)] <;> rfl

theorem parseValue_object (levels : Nat) (rest : List UInt8)
    : parseValue levels (123 :: rest)
      = if levels = 0 then .error .invalid
        else parseObject (parseValue (levels - 1)) (123 :: rest) := by
  cases levels <;> rw [parseValue, parseCase_other (by decide) (by decide) (by decide)] <;> rfl

/-- Infinite numbers and what is no number are printed as `null`. -/
theorem parseValue_number (levels : Nat) (d : Double) {tail : List UInt8}
    (stops : ∀ c ∈ tail.head?, isNumberChar c = false)
    : parseValue levels (printNumber d ++ tail) = .ok (readBackNumber d, tail) := by
  obtain ⟨array, object, shape⟩ := parseValue_eq levels
  have null : printNumber (.infinite true) = nullText ∧ printNumber (.infinite false) = nullText
      ∧ printNumber .nan = nullText := by
    have text : bytesOf "null" = nullText := by decide
    exact ⟨text, text, text⟩
  rw [shape]
  match d with
  | .finite value => exact parseCase_number stops
  | .infinite true =>
      rw [null.1]
      exact parseCase_null tail
  | .infinite false =>
      rw [null.2.1]
      exact parseCase_null tail
  | .nan =>
      rw [null.2.2]
      exact parseCase_null tail

-----------------------------------------------------------------------------------------
-- Arrays and objects
-----------------------------------------------------------------------------------------

/-- A value whose nesting fits the levels is parsed. -/
def nested {α : Type} (levels nesting : Nat) (a : α) (rest : List UInt8)
    : Except ParseStop (α × List UInt8) :=
  if nesting ≤ levels then .ok (a, rest) else .error .invalid

theorem nested_bind {α β : Type} {levels n m : Nat} {a : α} {b : β} {rest rest' : List UInt8}
    {f : α × List UInt8 → Except ParseStop (β × List UInt8)}
    (next : f (a, rest) = nested levels m b rest')
    : (nested levels n a rest >>= f) = nested levels (max n m) b rest' := by
  unfold nested at *
  by_cases first : n ≤ levels
  · rw [if_pos first, ok_bind, next]
    simp only [max_le_iff, first, true_and]
  · rw [if_neg first, if_neg fun both => first (max_le_iff.mp both).1]
    rfl

theorem nested_map {α β : Type} {levels n : Nat} {a : α} {rest : List UInt8} (f : α → β)
    : (nested levels n a rest).map (fun (a, rest) => (f a, rest)) = nested levels n (f a) rest := by
  unfold nested
  split_ifs <;> rfl

theorem skipWhitespace_skip (buffer : List UInt8)
    : skipWhitespace (skipWhitespace buffer) = skipWhitespace buffer := by
  cases shape : buffer.dropWhile (· ≤ 32) with
  | nil =>
      have white := List.dropWhile_eq_nil_iff.mp shape
      have last : skipWhitespace buffer = buffer.drop (buffer.length - 1) := if_pos shape
      have still : (buffer.drop (buffer.length - 1)).dropWhile (· ≤ 32) = [] :=
        List.dropWhile_eq_nil_iff.mpr fun c member => white c (List.mem_of_mem_drop member)
      have again : skipWhitespace (buffer.drop (buffer.length - 1))
          = (buffer.drop (buffer.length - 1)).drop ((buffer.drop (buffer.length - 1)).length - 1) :=
        if_pos still
      rw [last, again, List.length_drop, List.drop_drop]
      congr 1
      omega
  | cons c rest =>
      have visible : 32 < c := by
        have stops := List.head_dropWhile_not (fun c : UInt8 => decide (c ≤ 32)) (l := buffer)
          (by rw [shape]; exact List.cons_ne_nil c rest)
        simp only [shape, List.head_cons, decide_eq_false_iff_not] at stops
        exact UInt8.not_le.mp stops
      have skipped : skipWhitespace buffer = c :: rest := by
        unfold skipWhitespace
        dsimp only
        rw [shape, if_neg (List.cons_ne_nil c rest)]
      rw [skipped, skipWhitespace_cons visible]

/-- White space in front of a value is skipped. -/
theorem skipWhitespace_value {format : Bool} {depth : Nat} {item : Item} {front : List UInt8}
    (white : ∀ c ∈ front, c ≤ 32) (rest : List UInt8)
    : skipWhitespace (front ++ (printValue format depth item ++ rest))
      = printValue format depth item ++ rest := by
  obtain ⟨c, behind, shape, visible, -⟩ := printValue_head format depth item
  rw [shape]
  exact skipWhitespace_append white visible

theorem delimiter_number {c : UInt8} (delimiter : c = 44 ∨ c = 93 ∨ c = 125 ∨ c = 10 ∨ c = 0)
    : isNumberChar c = false := by
  rcases delimiter with rfl | rfl | rfl | rfl | rfl <;> decide

theorem stops_cons {c : UInt8} {rest : List UInt8}
    (delimiter : c = 44 ∨ c = 93 ∨ c = 125 ∨ c = 10 ∨ c = 0)
    : ∀ d ∈ (c :: rest).head?, isNumberChar d = false := by
  intro d first
  obtain rfl := Option.some.inj first
  exact delimiter_number delimiter

theorem length_printValue_pos (format : Bool) (depth : Nat) (item : Item)
    : 0 < (printValue format depth item).length := by
  obtain ⟨c, rest, shape, -⟩ := printValue_head format depth item
  rw [shape]
  exact Nat.succ_pos _

theorem length_printElements_le (format : Bool) (depth : Nat) (children : List Item)
    : children.length ≤ (printElements format depth children).length := by
  induction children with
  | nil => exact Nat.zero_le _
  | cons child next ih =>
      have positive := length_printValue_pos format depth child
      rw [printElements, List.length_append, List.length_append, List.length_cons]
      omega

/-- A member without the tabs in front of it. -/
def memberText (format : Bool) (depth : Nat) (string : CString) (child : Item) : List UInt8 :=
  printString string.1 ++ (58 :: (formatted format [9] ++ printValue format depth child))

theorem printMember_eq (format : Bool) (depth : Nat) (string : CString) (child : Item)
    : printMember format depth (string, child)
      = formatted format (tabs depth) ++ memberText format depth string child := by
  simp [printMember, memberText]

theorem length_printMembers_le (format : Bool) (depth : Nat) (children : List (CString × Item))
    : children.length ≤ (printMembers format depth children).length := by
  induction children with
  | nil => exact Nat.zero_le _
  | cons child next ih =>
      obtain ⟨string, child⟩ := child
      rw [printMembers, printMember_eq, memberText]
      simp only [List.length_append, List.length_cons]
      omega

section Separators

variable (format : Bool) (depth : Nat)

theorem printElements_singleton (child : Item) (rest : List UInt8)
    : printElements format depth [child] ++ rest = printValue format depth child ++ rest := by
  simp [printElements]

theorem printElements_cons (child child' : Item) (next : List Item) (rest : List UInt8)
    : printElements format depth (child :: child' :: next) ++ rest
      = printValue format depth child
        ++ (44 ::
            (formatted format [32] ++ (printElements format depth (child' :: next) ++ rest))) := by
  rw [printElements]
  simp

theorem printMembers_singleton (string : CString) (child : Item) (rest : List UInt8)
    : printMembers format depth [(string, child)] ++ rest
      = formatted format (tabs depth)
        ++ (memberText format depth string child ++ (formatted format [10] ++ rest)) := by
  simp [printMembers, printMember_eq]

theorem printMembers_cons (string : CString) (child : Item) (child' : CString × Item)
    (next : List (CString × Item)) (rest : List UInt8)
    : printMembers format depth ((string, child) :: child' :: next) ++ rest
      = formatted format (tabs depth)
        ++ (memberText format depth string child ++ (44 :: (formatted format [10]
          ++ (printMembers format depth (child' :: next) ++ rest)))) := by
  rw [printMembers, printMember_eq]
  simp

/-- What a text of members looks like behind its first tabs. -/
theorem printMembers_text (string : CString) (child : Item) (next : List (CString × Item))
    (rest : List UInt8)
    : ∃ behind, printMembers format depth ((string, child) :: next) ++ rest
        = formatted format (tabs depth) ++ (34 :: behind)
        ∧ next.length + rest.length ≤ behind.length := by
  refine ⟨string.1.flatMap escapeByte ++ (34 :: 58 :: (formatted format [9]
    ++ (printValue format depth child ++ ((if next.isEmpty then [] else [44])
      ++ (formatted format [10] ++ (printMembers format depth next ++ rest)))))), ?_, ?_⟩
  · rw [printMembers, printMember_eq, memberText, printString]
    simp
  · have enough := length_printMembers_le format depth next
    simp only [List.length_append, List.length_cons]
    omega

end Separators

/-- The name and the colon of a member are parsed. -/
theorem parseMembers_name {value : List UInt8 → Except ParseStop (Item × List UInt8)}
    {format : Bool} {depth fuel : Nat} {string : CString} {child : Item} {front : List UInt8}
    (white : ∀ c ∈ front, c ≤ 32) (rest : List UInt8)
    : parseMembers value (fuel + 1) (front ++ (memberText format depth string child ++ rest))
      = value (printValue format depth child ++ rest) >>= fun (item, buffer) =>
          match skipWhitespace buffer with
          | [] => .error .invalid
          | c :: buffer =>
              if c = 44 then
                (parseMembers value fuel buffer).map fun (members, buffer) =>
                  ((string, item) :: members, buffer)
              else if c = 125 then .ok ([(string, item)], buffer)
              else .error .invalid := by
  have quote : skipWhitespace (front ++ (memberText format depth string child ++ rest))
      = memberText format depth string child ++ rest :=
    skipWhitespace_append white (by decide)
  have colon (behind : List UInt8) : skipWhitespace (58 :: behind) = 58 :: behind :=
    skipWhitespace_cons (by decide)
  have tab : ∀ c ∈ formatted format [9], c ≤ 32 :=
    white_formatted format fun c member => by rw [List.mem_singleton.mp member]; decide
  rw [parseMembers, quote, memberText, List.append_assoc, parseString_printString, ok_bind]
  dsimp only
  rw [List.cons_append, colon]
  dsimp only
  rewrite [if_neg (not_not.mpr rfl), List.append_assoc, skipWhitespace_value tab, cString_val]
  rfl

/-- Skipping white space twice skips it once. -/
theorem parseMembers_skip (value : List UInt8 → Except ParseStop (Item × List UInt8)) (fuel : Nat)
    (buffer : List UInt8)
    : parseMembers value fuel (skipWhitespace buffer) = parseMembers value fuel buffer := by
  cases fuel with
  | zero => rfl
  | succ fuel => rw [parseMembers, parseMembers, skipWhitespace_skip]

-----------------------------------------------------------------------------------------
-- Whole items
-----------------------------------------------------------------------------------------

/-- An array is parsed if its elements are. -/
theorem parseArray_printElements {format : Bool} {depth : Nat} {children : List Item}
    {levels : Nat} {tail : List UInt8}
    (elements : children ≠ [] → ∀ fuel, children.length ≤ fuel →
      parseElements (parseValue levels) fuel (printElements format depth children ++ 93 :: tail)
        = nested levels (nestingElements children) (readBackElements children) tail)
    : parseArray (parseValue levels) (91 :: (printElements format depth children ++ 93 :: tail))
      = nested levels (nestingElements children) (.array (readBackElements children)) tail := by
  have bracket : readAt (91 :: (printElements format depth children ++ 93 :: tail)) 0 = .ok 91 :=
    rfl
  rw [parseArray, bracket, ok_bind, if_neg (not_not.mpr rfl), List.drop_succ_cons, List.drop_zero]
  match children with
  | [] =>
      have closing : skipWhitespace (93 :: tail) = 93 :: tail := skipWhitespace_cons (by decide)
      rw [printElements, List.nil_append, closing, nestingElements, readBackElements]
      rfl
  | child :: next =>
      have elements := elements (List.cons_ne_nil _ _)
        (printElements format depth (child :: next) ++ 93 :: tail).length
        (by
          have enough := length_printElements_le format depth (child :: next)
          rw [List.length_append]
          omega)
      have skipped : skipWhitespace (printElements format depth (child :: next) ++ 93 :: tail)
          = printElements format depth (child :: next) ++ 93 :: tail := by
        rw [printElements, List.append_assoc, List.append_assoc]
        exact skipWhitespace_value (List.forall_mem_nil (· ≤ 32)) _
      obtain ⟨c, rest, shape, -, open_, -⟩ := printValue_head format depth child
      have text : ∃ rest, printElements format depth (child :: next) ++ 93 :: tail = c :: rest := by
        rw [printElements, shape]
        exact ⟨_, rfl⟩
      obtain ⟨rest, text⟩ := text
      rw [skipped]
      rw [text] at elements ⊢
      dsimp only
      rw [if_neg open_, elements]
      exact nested_map Item.array

/-- An object is parsed if its members are. -/
theorem parseObject_printMembers {format : Bool} {depth outer : Nat}
    {children : List (CString × Item)} {levels : Nat} {tail : List UInt8}
    (members : children ≠ [] → ∀ fuel, children.length ≤ fuel →
      parseMembers (parseValue levels) fuel
          (formatted format [10] ++ (printMembers format depth children
            ++ (formatted format (tabs outer) ++ 125 :: tail)))
        = nested levels (nestingMembers children) (readBackMembers children) tail)
    : parseObject (parseValue levels)
        (123 :: (formatted format [10] ++ (printMembers format depth children
          ++ (formatted format (tabs outer) ++ 125 :: tail))))
      = nested levels (nestingMembers children) (.object (readBackMembers children)) tail := by
  have newline : ∀ c ∈ formatted format [10], c ≤ 32 :=
    white_formatted format fun c member => by rw [List.mem_singleton.mp member]; decide
  have indent (n : Nat) : ∀ c ∈ formatted format (tabs n), c ≤ 32 :=
    white_formatted format (white_tabs n)
  unfold parseObject
  dsimp only
  rw [if_neg (not_not.mpr rfl)]
  match children with
  | [] =>
      rw [printMembers, List.nil_append, ← List.append_assoc,
        skipWhitespace_append (List.forall_mem_append.mpr ⟨newline, indent outer⟩) (by decide),
        nestingMembers, readBackMembers]
      rfl
  | (string, child) :: next =>
      obtain ⟨behind, text, enough⟩ := printMembers_text format depth string child next
        (formatted format (tabs outer) ++ 125 :: tail)
      have skipped : skipWhitespace (formatted format [10]
          ++ (printMembers format depth ((string, child) :: next)
            ++ (formatted format (tabs outer) ++ 125 :: tail))) = 34 :: behind := by
        rw [text, ← List.append_assoc]
        exact skipWhitespace_append (List.forall_mem_append.mpr ⟨newline, indent depth⟩)
          (by decide)
      have members := members (List.cons_ne_nil _ _) (34 :: behind).length
        (by
          rw [List.length_cons, List.length_cons]
          omega)
      rw [← parseMembers_skip] at members
      rw [skipped] at members ⊢
      dsimp only
      rw [if_neg (by decide), members]
      exact nested_map Item.object

mutual
/-- The text of an item is parsed at a level that its nesting fits, by induction on the item. -/
theorem parseValue_printValue (format : Bool) (depth : Nat) (item : Item) (levels : Nat)
    {tail : List UInt8} (stops : ∀ c ∈ tail.head?, isNumberChar c = false)
    : parseValue levels (printValue format depth item ++ tail)
      = nested levels (nesting item) (readBack item) tail := by
  obtain ⟨array, object, scalar⟩ := parseValue_eq levels
  have fits {item : Item} (flat : nesting item = 0)
      : nested levels (nesting item) (readBack item) tail = .ok (readBack item, tail) := by
    rw [flat]
    exact if_pos (Nat.zero_le _)
  match item with
  | .null =>
      rw [fits (by simp [nesting]), printValue, scalar, parseCase_null]
      simp [readBack]
  | .bool false =>
      rw [fits (by simp [nesting]), printValue, scalar, parseCase_false]
      simp [readBack]
  | .bool true =>
      rw [fits (by simp [nesting]), printValue, scalar, parseCase_true]
      simp [readBack]
  | .number valuedouble =>
      rw [fits (by simp [nesting]), printValue, parseValue_number levels _ stops, readBack]
  | .string valuestring =>
      rw [fits (by simp [nesting]), printValue, scalar, parseCase_string]
      simp [readBack]
  | .array children =>
      have rest : printValue format depth (.array children) ++ tail
          = 91 :: (printElements format (depth + 1) children ++ 93 :: tail) := by
        rw [printValue]
        simp only [List.cons_append, List.append_assoc, List.nil_append]
      rw [rest, parseValue_array, nesting, readBack]
      cases levels with
      | zero => rfl
      | succ levels =>
          have limit : nested (levels + 1) (nestingElements children + 1)
              (Item.array (readBackElements children)) tail
                = nested levels (nestingElements children)
                  (Item.array (readBackElements children)) tail := by
            simp only [nested, Nat.add_le_add_iff_right]
          rw [if_neg (Nat.succ_ne_zero _), Nat.succ_sub_one, limit]
          refine parseArray_printElements fun some_ fuel enough => ?_
          exact parseElements_printElements format (depth + 1) children some_ levels tail
            (List.forall_mem_nil (· ≤ 32)) enough
  | .object children =>
      have rest : printValue format depth (.object children) ++ tail
          = 123 :: (formatted format [10] ++ (printMembers format (depth + 1) children
            ++ (formatted format (tabs depth) ++ 125 :: tail))) := by
        rw [printValue]
        simp only [List.cons_append, List.append_assoc, List.nil_append]
      rw [rest, parseValue_object, nesting, readBack]
      cases levels with
      | zero => rfl
      | succ levels =>
          have limit : nested (levels + 1) (nestingMembers children + 1)
              (Item.object (readBackMembers children)) tail
                = nested levels (nestingMembers children)
                  (Item.object (readBackMembers children)) tail := by
            simp only [nested, Nat.add_le_add_iff_right]
          rw [if_neg (Nat.succ_ne_zero _), Nat.succ_sub_one, limit]
          refine parseObject_printMembers fun some_ fuel enough => ?_
          refine parseMembers_printMembers format (depth + 1) depth children some_ levels tail
            (white_formatted format fun c member => ?_) enough
          rw [List.mem_singleton.mp member]
          decide

theorem parseElements_printElements (format : Bool) (depth : Nat) (children : List Item)
    (nonempty : children ≠ []) (levels : Nat) (tail : List UInt8) {front : List UInt8}
    (white : ∀ c ∈ front, c ≤ 32) {fuel : Nat} (enough : children.length ≤ fuel)
    : parseElements (parseValue levels) fuel
        (front ++ (printElements format depth children ++ 93 :: tail))
      = nested levels (nestingElements children) (readBackElements children) tail := by
  have some_ := List.length_pos_iff.mpr nonempty
  obtain ⟨fuel, rfl⟩ : ∃ n, fuel = n + 1 := ⟨fuel - 1, by omega⟩
  have space : ∀ c ∈ formatted format [32], c ≤ 32 :=
    white_formatted format fun c member => by
      rw [List.mem_singleton.mp member]
      exact UInt8.le_refl 32
  match children with
  | [child] =>
      have closing : skipWhitespace (93 :: tail) = 93 :: tail := skipWhitespace_cons (by decide)
      rw [printElements_singleton, parseElements, skipWhitespace_value white,
        parseValue_printValue format depth child levels (stops_cons (.inr (.inl rfl))),
        nestingElements, readBackElements, nestingElements, readBackElements]
      refine nested_bind ?_
      dsimp only
      rw [closing]
      rfl
  | child :: child' :: next =>
      have comma (behind : List UInt8) : skipWhitespace (44 :: behind) = 44 :: behind :=
        skipWhitespace_cons (by decide)
      have later := parseElements_printElements format depth (child' :: next)
        (List.cons_ne_nil _ _) levels tail space (Nat.le_of_succ_le_succ enough)
      rw [printElements_cons, parseElements, skipWhitespace_value white,
        parseValue_printValue format depth child levels (stops_cons (.inl rfl)),
        nestingElements, readBackElements]
      refine nested_bind ?_
      dsimp only
      rw [comma]
      dsimp only
      rw [if_pos rfl, later]
      exact nested_map (readBack child :: ·)

theorem parseMembers_printMembers (format : Bool) (depth outer : Nat)
    (children : List (CString × Item)) (nonempty : children ≠ []) (levels : Nat)
    (tail : List UInt8) {front : List UInt8} (white : ∀ c ∈ front, c ≤ 32) {fuel : Nat}
    (enough : children.length ≤ fuel)
    : parseMembers (parseValue levels) fuel
        (front ++ (printMembers format depth children
          ++ (formatted format (tabs outer) ++ 125 :: tail)))
      = nested levels (nestingMembers children) (readBackMembers children) tail := by
  have some_ := List.length_pos_iff.mpr nonempty
  obtain ⟨fuel, rfl⟩ : ∃ n, fuel = n + 1 := ⟨fuel - 1, by omega⟩
  have newline : ∀ c ∈ formatted format [10], c ≤ 32 :=
    white_formatted format fun c member => by rw [List.mem_singleton.mp member]; decide
  have indent (n : Nat) : ∀ c ∈ formatted format (tabs n), c ≤ 32 :=
    white_formatted format (white_tabs n)
  match children with
  | [(string, child)] =>
      have stops : ∀ c ∈ (formatted format [10] ++ (formatted format (tabs outer)
          ++ 125 :: tail)).head?, isNumberChar c = false := by
        cases format
        · exact stops_cons (.inr (.inr (.inl rfl)))
        · exact stops_cons (.inr (.inr (.inr (.inl rfl))))
      rw [printMembers_singleton, ← List.append_assoc front,
        parseMembers_name (List.forall_mem_append.mpr ⟨white, indent depth⟩),
        parseValue_printValue format depth child levels stops, nestingMembers,
        nestingMember, readBackMembers, readBackMember, nestingMembers, readBackMembers]
      refine nested_bind ?_
      dsimp only
      rw [← List.append_assoc, skipWhitespace_append
        (List.forall_mem_append.mpr ⟨newline, indent outer⟩) (by decide)]
      rfl
  | (string, child) :: child' :: next =>
      have comma (behind : List UInt8) : skipWhitespace (44 :: behind) = 44 :: behind :=
        skipWhitespace_cons (by decide)
      have later := parseMembers_printMembers format depth outer (child' :: next)
        (List.cons_ne_nil _ _) levels tail newline (Nat.le_of_succ_le_succ enough)
      rw [printMembers_cons, ← List.append_assoc front,
        parseMembers_name (List.forall_mem_append.mpr ⟨white, indent depth⟩),
        parseValue_printValue format depth child levels (stops_cons (.inl rfl)),
        nestingMembers, nestingMember, readBackMembers, readBackMember]
      refine nested_bind ?_
      dsimp only
      rw [comma]
      dsimp only
      rw [if_pos rfl, later]
      exact nested_map ((string, readBack child) :: ·)
end

-----------------------------------------------------------------------------------------
-- Documents
-----------------------------------------------------------------------------------------

theorem escapeByte_nulFree {c : UInt8} (some_ : c ≠ 0) : 0 ∉ escapeByte c := by
  have hex {n : Nat} (small : n < 16) : (0 : UInt8) ≠ hexText n := by
    interval_cases n <;> decide
  have range := UInt8.toNat_lt c
  have digits : ¬
      ((0 : UInt8) = hexText (c.toNat / 16) ∨ (0 : UInt8) = hexText (c.toNat % 16)) := by
    by_cases small : c.toNat / 16 < 16
    · exact not_or.mpr ⟨hex small, hex (Nat.mod_lt _ (by norm_num))⟩
    · omega
  unfold escapeByte
  split_ifs <;> simp [Ne.symm some_, not_or.mp digits]

theorem printString_nulFree (string : CString) : 0 ∉ printString string.1 := by
  intro zero
  rw [printString] at zero
  rcases List.mem_append.mp zero with text | quote
  · rcases List.mem_cons.mp text with absurd | inside
    · cases absurd
    · obtain ⟨c, member, escaped⟩ := List.mem_flatMap.mp inside
      refine escapeByte_nulFree ?_ escaped
      rintro rfl
      exact string.2 member
  · cases List.mem_singleton.mp quote

theorem printNumber_nulFree (d : Double) : 0 ∉ printNumber d := by
  match d with
  | .infinite _ | .nan =>
      have text : 0 ∉ bytesOf "null" := by decide
      exact text
  | .finite value =>
      intro zero
      have number := (printNumber_read value).1 0 zero
      exact absurd number (by decide)

theorem formatted_nulFree (format : Bool) {text : List UInt8} (nulFree : 0 ∉ text)
    : 0 ∉ formatted format text := by
  cases format
  · exact List.not_mem_nil
  · exact nulFree

theorem tabs_nulFree (depth : Nat) : 0 ∉ tabs depth := by
  intro zero
  cases List.eq_of_mem_replicate zero

mutual
/-- The text of an item is a C string, by induction on the item. -/
theorem printValue_nulFree (format : Bool) (depth : Nat) (item : Item)
    : 0 ∉ printValue format depth item := by
  match item with
  | .null | .bool false | .bool true =>
      rw [printValue]
      decide
  | .number valuedouble =>
      rw [printValue]
      exact printNumber_nulFree valuedouble
  | .string valuestring =>
      rw [printValue]
      exact printString_nulFree valuestring
  | .array children =>
      have elements := printElements_nulFree format (depth + 1) children
      rw [printValue]
      simp [elements]
  | .object children =>
      have members := printMembers_nulFree format (depth + 1) children
      have newline := formatted_nulFree format (show 0 ∉ [10] by decide)
      have indent := formatted_nulFree format (tabs_nulFree depth)
      rw [printValue]
      simp [members, newline, indent]

theorem printElements_nulFree (format : Bool) (depth : Nat) (children : List Item)
    : 0 ∉ printElements format depth children := by
  match children with
  | [] =>
      rw [printElements]
      exact List.not_mem_nil
  | child :: next =>
      have first := printValue_nulFree format depth child
      have later := printElements_nulFree format depth next
      have space := formatted_nulFree format (show 0 ∉ [32] by decide)
      rw [printElements]
      cases next.isEmpty <;> simp [first, later, space]

theorem printMembers_nulFree (format : Bool) (depth : Nat) (children : List (CString × Item))
    : 0 ∉ printMembers format depth children := by
  match children with
  | [] =>
      rw [printMembers]
      exact List.not_mem_nil
  | (string, child) :: next =>
      have name := printString_nulFree string
      have first := printValue_nulFree format depth child
      have later := printMembers_nulFree format depth next
      have newline := formatted_nulFree format (show 0 ∉ [10] by decide)
      have tab := formatted_nulFree format (show 0 ∉ [9] by decide)
      have indent := formatted_nulFree format (tabs_nulFree depth)
      rw [printMembers, printMember]
      cases next.isEmpty <;> simp [name, first, later, newline, tab, indent]
end

/-- The text of an item in memory. -/
def printed (format : Bool) (item : Item) : CString :=
  ⟨printText format item, printValue_nulFree format 0 item⟩

/-- A printed item is parsed again exactly when it is not nested too deep, whichever way it is
printed and parsed.
-/
theorem parseWithOpts_printed (format : Bool) (item : Item) (requireNullTerminated : Bool)
    : parseWithOpts (printed format item) requireNullTerminated
      = if nesting item ≤ cjsonNestingLimit then .ok (readBack item) else .error .invalid := by
  obtain ⟨c, rest, shape, visible, -, -, bom⟩ := printValue_head format 0 item
  have content : (printed format item).1 ++ [0] = printValue format 0 item ++ [0] := rfl
  have noBom : skipUtf8Bom (printValue format 0 item ++ [0]) = printValue format 0 item ++ [0] := by
    refine if_neg fun both => ?_
    rw [shape, List.cons_append] at both
    exact bom (List.cons_prefix_cons.mp both.2).1.symm
  have noSpace : skipWhitespace (printValue format 0 item ++ [0])
      = printValue format 0 item ++ [0] := by
    rw [shape, List.cons_append]
    exact skipWhitespace_cons visible
  have last : skipWhitespace [0] = [0] := by decide
  have parsed : parseValue cjsonNestingLimit (printValue format 0 item ++ [0])
      = nested cjsonNestingLimit (nesting item) (readBack item) [0] :=
    parseValue_printValue format 0 item cjsonNestingLimit
      (stops_cons (.inr (.inr (.inr (.inr rfl)))))
  unfold parseWithOpts
  dsimp only
  rw [content, noBom, noSpace, parsed, nested]
  by_cases fits : nesting item ≤ cjsonNestingLimit
  · rw [if_pos fits, if_pos fits, ok_bind]
    cases requireNullTerminated
    · rfl
    · dsimp only
      rw [if_pos rfl, last]
      rfl
  · rw [if_neg fits, if_neg fits]
    rfl

end Iperf.Cjson
