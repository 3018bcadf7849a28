import Iperf.Cjson.RoundTrip

/-! Everything that cJSON accepts it prints in a form that it accepts again, and numbers settle.
-/

namespace Iperf.Cjson

open Checked DecimalText Doubles

-----------------------------------------------------------------------------------------
-- What is accepted is not nested too deep
-----------------------------------------------------------------------------------------

/-- Every value that comes out is nested so deep at most. -/
def Nested {α : Type} (depth : α → Nat) (bound : Nat)
    (result : Except ParseStop (α × List UInt8)) : Prop :=
  ∀ a rest, result = .ok (a, rest) → depth a ≤ bound

theorem Nested.error {α : Type} {depth : α → Nat} {bound : Nat} (stop : ParseStop)
    : Nested depth bound (.error stop) :=
  fun _ _ absurd => by cases absurd

theorem Nested.ok {α : Type} {depth : α → Nat} {bound : Nat} {a : α} {rest : List UInt8}
    (inside : depth a ≤ bound)
    : Nested depth bound (.ok (a, rest)) :=
  fun _ _ same => by cases same; exact inside

theorem Nested.map {α β : Type} {depth : α → Nat} {depth' : β → Nat} {bound bound' : Nat}
    {result : Except ParseStop (α × List UInt8)} {f : α → β} (inside : Nested depth bound result)
    (maps : ∀ a, depth a ≤ bound → depth' (f a) ≤ bound')
    : Nested depth' bound' (result.map fun (a, rest) => (f a, rest)) := by
  intro b rest done
  obtain ⟨⟨a, rest'⟩, found, same⟩ := map_eq_ok.mp done
  obtain ⟨rfl, rfl⟩ := Prod.mk.inj same
  exact maps a (inside a rest' found)

section Loops

variable {value : List UInt8 → Except ParseStop (Item × List UInt8)} {bound : Nat}
  (values : ∀ buffer, Nested nesting bound (value buffer))

include values

theorem parseElements_nested (fuel : Nat) (buffer : List UInt8)
    : Nested nestingElements bound (parseElements value fuel buffer) := by
  induction fuel generalizing buffer with
  | zero => exact .error _
  | succ fuel ih =>
      intro items rest done
      rw [parseElements, bind_eq_ok] at done
      obtain ⟨⟨item, rest'⟩, found, done⟩ := done
      have inside := values _ item rest' found
      dsimp only at done
      cases shape : skipWhitespace rest' with
      | nil =>
          rw [shape] at done
          cases done
      | cons c behind =>
          rw [shape] at done
          dsimp only at done
          split_ifs at done with comma bracket
          · obtain ⟨⟨items', rest''⟩, later, same⟩ := map_eq_ok.mp done
            obtain ⟨rfl, rfl⟩ := Prod.mk.inj same
            rw [nestingElements]
            exact max_le inside (ih behind items' rest'' later)
          · cases done
            simp only [nestingElements]
            exact max_le inside (Nat.zero_le bound)

theorem parseMembers_nested (fuel : Nat) (buffer : List UInt8)
    : Nested nestingMembers bound (parseMembers value fuel buffer) := by
  induction fuel generalizing buffer with
  | zero => exact .error _
  | succ fuel ih =>
      intro members rest done
      rw [parseMembers, bind_eq_ok] at done
      obtain ⟨⟨name, named⟩, -, done⟩ := done
      dsimp only at done
      cases shape : skipWhitespace named with
      | nil =>
          rw [shape] at done
          cases done
      | cons colon behind =>
          rw [shape] at done
          dsimp only at done
          rw [guard_eq_ok, bind_eq_ok] at done
          obtain ⟨-, ⟨item, rest'⟩, found, done⟩ := done
          have inside := values _ item rest' found
          dsimp only at done
          cases shape : skipWhitespace rest' with
          | nil =>
              rw [shape] at done
              cases done
          | cons c behind =>
              rw [shape] at done
              dsimp only at done
              split_ifs at done with comma brace
              · obtain ⟨⟨members', rest''⟩, later, same⟩ := map_eq_ok.mp done
                obtain ⟨rfl, rfl⟩ := Prod.mk.inj same
                rw [nestingMembers, nestingMember]
                exact max_le inside (ih behind members' rest'' later)
              · cases done
                simp only [nestingMembers, nestingMember]
                exact max_le inside (Nat.zero_le bound)

theorem parseArray_nested (buffer : List UInt8)
    : Nested nesting (bound + 1) (parseArray value buffer) := by
  intro item rest done
  rw [parseArray, bind_eq_ok] at done
  obtain ⟨bracket, -, done⟩ := done
  rw [guard_eq_ok] at done
  obtain ⟨-, done⟩ := done
  cases shape : skipWhitespace (buffer.drop 1) with
  | nil =>
      rw [shape] at done
      cases done
  | cons c behind =>
      rw [shape] at done
      dsimp only at done
      split_ifs at done
      · cases done
        simp only [nesting, nestingElements]
        omega
      · have elements := parseElements_nested values (c :: behind).length (c :: behind)
        have deeper (items : List Item) (inside : nestingElements items ≤ bound)
            : nesting (.array items) ≤ bound + 1 := by
          rw [nesting]
          exact Nat.succ_le_succ inside
        exact elements.map deeper item rest done

theorem parseObject_nested (buffer : List UInt8)
    : Nested nesting (bound + 1) (parseObject value buffer) := by
  intro item rest done
  unfold parseObject at done
  match buffer with
  | [] => cases done
  | brace :: buffer =>
      dsimp only at done
      rw [guard_eq_ok] at done
      obtain ⟨-, done⟩ := done
      cases shape : skipWhitespace buffer with
      | nil =>
          rw [shape] at done
          cases done
      | cons c behind =>
          rw [shape] at done
          dsimp only at done
          split_ifs at done
          · cases done
            simp only [nesting, nestingMembers]
            omega
          · have members := parseMembers_nested values (c :: behind).length (c :: behind)
            have deeper (items : List (CString × Item)) (inside : nestingMembers items ≤ bound)
                : nesting (.object items) ≤ bound + 1 := by
              rw [nesting]
              exact Nat.succ_le_succ inside
            exact members.map deeper item rest done

end Loops

theorem parseCase_nested {array object : List UInt8 → Except ParseStop (Item × List UInt8)}
    {bound : Nat} (arrays : ∀ buffer, Nested nesting bound (array buffer))
    (objects : ∀ buffer, Nested nesting bound (object buffer)) (buffer : List UInt8)
    : Nested nesting bound (parseCase array object buffer) := by
  have scalar {item : Item} {rest : List UInt8} (flat : nesting item = 0)
      : Nested nesting bound (.ok (item, rest)) := .ok (flat.trans_le (Nat.zero_le bound))
  unfold parseCase
  split_ifs
  · exact scalar (by simp only [nesting])
  · exact scalar (by simp only [nesting])
  · exact scalar (by simp only [nesting])
  match buffer with
  | [] => exact .error _
  | c :: rest =>
      dsimp only
      split_ifs
      · intro item rest' done
        obtain ⟨⟨output, rest''⟩, -, same⟩ := map_eq_ok.mp done
        obtain ⟨rfl, -⟩ := Prod.mk.inj same
        simp only [nesting]
        exact Nat.zero_le bound
      · cases parseNumber (c :: rest) with
        | none => exact .error _
        | some entry => exact scalar (by simp only [nesting])
      · exact arrays _
      · exact objects _
      · exact .error _

/-- A value fits the levels at which it is parsed, by induction on them. -/
theorem parseValue_nested (levels : Nat) (buffer : List UInt8)
    : Nested nesting levels (parseValue levels buffer) := by
  induction levels generalizing buffer with
  | zero => exact parseCase_nested (fun _ => .error _) (fun _ => .error _) buffer
  | succ levels ih => exact parseCase_nested (parseArray_nested ih) (parseObject_nested ih) buffer

theorem nesting_parsed {value : CString} {requireNullTerminated : Bool} {item : Item}
    (accepted : parseWithOpts value requireNullTerminated = .ok item)
    : nesting item ≤ cjsonNestingLimit := by
  unfold parseWithOpts at accepted
  dsimp only at accepted
  obtain ⟨⟨item', buffer⟩, found, done⟩ := bind_eq_ok.mp accepted
  have inside := parseValue_nested cjsonNestingLimit _ item' buffer found
  dsimp only at done
  split_ifs at done
  · cases shape : skipWhitespace buffer with
    | nil =>
        rw [shape] at done
        cases done
    | cons c rest =>
        rw [shape] at done
        dsimp only at done
        split_ifs at done
        cases done
        exact inside
  · cases done
    exact inside

-----------------------------------------------------------------------------------------
-- Numbers settle
-----------------------------------------------------------------------------------------

/-- A number is the same from the second text on: from the first one, unless that is read as an
infinite number, which is then printed as `null`.
-/
theorem readBackNumber_settles (d : Double)
    : readBack (readBack (readBackNumber d)) = readBack (readBackNumber d) := by
  have null : readBack .null = .null := by simp only [readBack]
  match d with
  | .infinite _ | .nan =>
      rw [readBackNumber, null, null]
  | .finite value =>
      rw [readBackNumber, readBack]
      cases first : reread value with
      | finite value' =>
          rw [readBackNumber, reread_settled first, readBack, readBackNumber, reread_settled first]
      | infinite _ | nan => rw [readBackNumber, null]

mutual
/-- An item is the same from the second text on, by induction on the item. -/
theorem readBack_settles (item : Item)
    : readBack (readBack (readBack item)) = readBack (readBack item) := by
  match item with
  | .null | .bool _ | .string _ => simp only [readBack]
  | .number valuedouble =>
      rw [readBack]
      exact readBackNumber_settles valuedouble
  | .array children =>
      have elements := readBackElements_settles children
      simp only [readBack, elements]
  | .object children =>
      have members := readBackMembers_settles children
      simp only [readBack, members]

theorem readBackElements_settles (children : List Item)
    : readBackElements (readBackElements (readBackElements children))
      = readBackElements (readBackElements children) := by
  match children with
  | [] => simp only [readBackElements]
  | child :: next =>
      have first := readBack_settles child
      have later := readBackElements_settles next
      simp only [readBackElements, first, later]

theorem readBackMembers_settles (children : List (CString × Item))
    : readBackMembers (readBackMembers (readBackMembers children))
      = readBackMembers (readBackMembers children) := by
  match children with
  | [] => simp only [readBackMembers]
  | (string, child) :: next =>
      have first := readBack_settles child
      have later := readBackMembers_settles next
      simp only [readBackMembers, readBackMember, first, later]
end

mutual
/-- What comes back is nested no deeper than what was printed. -/
theorem nesting_readBack (item : Item) : nesting (readBack item) = nesting item := by
  match item with
  | .null | .bool _ | .string _ => simp only [readBack]
  | .number valuedouble =>
      rw [readBack]
      match valuedouble with
      | .finite _ | .infinite _ | .nan => simp only [readBackNumber, nesting]
  | .array children =>
      have elements := nesting_readBackElements children
      simp only [readBack, nesting, elements]
  | .object children =>
      have members := nesting_readBackMembers children
      simp only [readBack, nesting, members]

theorem nesting_readBackElements (children : List Item)
    : nestingElements (readBackElements children) = nestingElements children := by
  match children with
  | [] => simp only [readBackElements]
  | child :: next =>
      have first := nesting_readBack child
      have later := nesting_readBackElements next
      simp only [readBackElements, nestingElements, first, later]

theorem nesting_readBackMembers (children : List (CString × Item))
    : nestingMembers (readBackMembers children) = nestingMembers children := by
  match children with
  | [] => simp only [readBackMembers]
  | (string, child) :: next =>
      have first := nesting_readBack child
      have later := nesting_readBackMembers next
      simp only [readBackMembers, readBackMember, nestingMembers, nestingMember, first, later]
end

-----------------------------------------------------------------------------------------
-- Texts
-----------------------------------------------------------------------------------------

/-- Print an item and parse the text. -/
def reprint (format requireNullTerminated : Bool) (item : Item) : Except ParseStop Item :=
  parseWithOpts (printed format item) requireNullTerminated

theorem reprint_of_nesting {item : Item} (fits : nesting item ≤ cjsonNestingLimit)
    (format requireNullTerminated : Bool)
    : reprint format requireNullTerminated item = .ok (readBack item) := by
  rw [reprint, parseWithOpts_printed, if_pos fits]

/-- Whatever cJSON accepts it prints as a text that it accepts, too: the same item up to its
numbers, whichever way it prints and parses.
-/
theorem reprint_accepted (value : CString) (first format second : Bool)
    : (parseWithOpts value first >>= reprint format second)
      = (parseWithOpts value first).map readBack := by
  cases accepted : parseWithOpts value first with
  | error stop => rfl
  | ok item => exact reprint_of_nesting (nesting_parsed accepted) format second

/-- Print and parse again and again, each time with its own options. -/
def rounds : List (Bool × Bool) → Item → Except ParseStop Item
  | [], item => .ok item
  | (format, requireNullTerminated) :: rest, item =>
      reprint format requireNullTerminated item >>= rounds rest

/-- A settled item stays, by induction on the rounds. -/
theorem rounds_settled {item : Item} (fits : nesting item ≤ cjsonNestingLimit)
    (settled : readBack item = item) (options : List (Bool × Bool))
    : rounds options item = .ok item := by
  induction options with
  | nil => rfl
  | cons head rest ih =>
      rw [rounds, reprint_of_nesting fits, settled, ok_bind]
      exact ih

/-- From the second round on nothing changes, however often an accepted item is printed and parsed
again.
-/
theorem rounds_settle (value : CString) (first : Bool) (once twice : Bool × Bool)
    (more : List (Bool × Bool))
    : (parseWithOpts value first >>= rounds (once :: twice :: more))
      = (parseWithOpts value first).map fun item => readBack (readBack item) := by
  cases accepted : parseWithOpts value first with
  | error stop => rfl
  | ok item =>
      have fits := nesting_parsed accepted
      have fits' := (nesting_readBack item).trans_le fits
      have fits'' := (nesting_readBack (readBack item)).trans_le fits'
      have later := rounds_settled fits'' (readBack_settles item) more
      rw [ok_bind, rounds, reprint_of_nesting fits, ok_bind, rounds, reprint_of_nesting fits',
        ok_bind, later]
      rfl

end Iperf.Cjson
