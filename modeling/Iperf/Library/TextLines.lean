import Mathlib.Data.List.DropRight
import Mathlib.Data.List.TakeWhile
import Mathlib.Data.List.Infix

/-! Reading a text the way C does: runs of bytes, `fgets` with a buffer that may be shorter than a
line, and `strtok` with one delimiter.
-/

namespace TextLines

section Runs

variable {α : Type*} {p : α → Bool}

/-- A run with a property ends in front of the first element without it. -/
theorem span_append {run tail : List α} (all : ∀ c ∈ run, p c = true)
    (stops : ∀ c ∈ tail.head?, p c = false)
    : (run ++ tail).takeWhile p = run ∧ (run ++ tail).dropWhile p = tail := by
  rw [List.takeWhile_append_of_pos all, List.dropWhile_append_of_pos all]
  cases tail with
  | nil => simp
  | cons c tail =>
      have stop : p c = false := stops c (by simp)
      simp [stop]

/-- Nothing behind the first element without the property matters. -/
theorem takeWhile_append_of_stop {front : List α} (tail : List α)
    (stop : ∃ c ∈ front, p c = false)
    : (front ++ tail).takeWhile p = front.takeWhile p
      ∧ (front ++ tail).dropWhile p = front.dropWhile p ++ tail := by
  induction front with
  | nil => simp at stop
  | cons c front ih =>
      by_cases goes : p c = true
      · obtain ⟨d, member, stops⟩ := stop
        rcases List.mem_cons.mp member with rfl | later
        · simp [goes] at stops
        · obtain ⟨taken, dropped⟩ := ih ⟨d, later, stops⟩
          simp [goes, taken, dropped]
      · simp [goes]

end Runs

/-- The input up to and with its first newline. -/
def firstLine (input : List UInt8) : List UInt8 :=
  input.takeWhile (· ≠ 10) ++ (input.dropWhile (· ≠ 10)).take 1

/-- `fgets` with room for so many bytes and the NUL. -/
def fgets (room : Nat) (input : List UInt8) : List UInt8 := (firstLine input).take room

theorem firstLine_isPrefix (input : List UInt8) : firstLine input <+: input := by
  have whole := List.takeWhile_append_dropWhile (p := (· ≠ (10 : UInt8))) (l := input)
  refine ⟨(input.dropWhile (· ≠ 10)).drop 1, ?_⟩
  rw [firstLine, List.append_assoc, List.take_append_drop]
  exact whole

theorem fgets_isPrefix (room : Nat) (input : List UInt8) : fgets room input <+: input :=
  (List.take_prefix _ _).trans (firstLine_isPrefix input)

theorem fgets_length_le (room : Nat) (input : List UInt8) : (fgets room input).length ≤ room :=
  List.length_take_le _ _

/-- A newline in the front of the input ends what is read. -/
theorem fgets_append_of_newline (room : Nat) {front : List UInt8} (tail : List UInt8)
    (newline : (10 : UInt8) ∈ front)
    : fgets room (front ++ tail) = fgets room front := by
  obtain ⟨run, rest⟩ := takeWhile_append_of_stop (p := (· ≠ (10 : UInt8))) tail
    ⟨10, newline, by simp⟩
  have some_ : 1 ≤ (front.dropWhile (· ≠ (10 : UInt8))).length := by
    refine List.length_pos_iff.mpr fun none => ?_
    have goes := (List.dropWhile_eq_nil_iff.mp none) 10 newline
    simp at goes
  rw [fgets, fgets, firstLine, firstLine, run, rest, List.take_append_of_le_length some_]

/-- Something is read as long as there is input and room. -/
theorem fgets_ne_nil {room : Nat} {input : List UInt8} (positive : 0 < room)
    (nonempty : input ≠ [])
    : fgets room input ≠ [] := by
  obtain ⟨c, rest, rfl⟩ := List.exists_cons_of_ne_nil nonempty
  have first : firstLine (c :: rest) ≠ [] := by
    unfold firstLine
    by_cases newline : c = 10 <;> simp [newline]
  simp only [fgets, ne_eq, List.take_eq_nil_iff, not_or]
  exact ⟨by omega, first⟩

/-- The pieces that repeated calls of `fgets` read. -/
def pieces (room : Nat) (input : List UInt8) : List (List UInt8) :=
  if _more : 0 < room ∧ input ≠ [] then
    fgets room input :: pieces room (input.drop (fgets room input).length)
  else
    []
termination_by input.length
decreasing_by
  have some_ := List.length_pos_iff.mpr (fgets_ne_nil _more.1 _more.2)
  have input_ := List.length_pos_iff.mpr _more.2
  rw [List.length_drop]
  omega

theorem length_le_of_mem_pieces {room : Nat} {input piece : List UInt8}
    (read : piece ∈ pieces room input)
    : piece.length ≤ room := by
  fun_induction pieces room input with
  | case1 input more ih =>
      rcases List.mem_cons.mp read with rfl | later
      · exact fgets_length_le room input
      · exact ih later
  | case2 input done => cases read

/-- A line of a text, without its newline, and the text behind it. -/
structure IsLine (text line after : List UInt8) : Prop where
  noNewline : (10 : UInt8) ∉ line
  ends : ∀ c ∈ after.head?, c = 10
  place : ∃ before, text = before ++ (line ++ after) ∧ ∀ c ∈ before.getLast?, c = 10

/-- The first piece of every line is read by a call of its own. Witness: induction on the pieces;
what is read in front of the line ends at a newline in front of it.
-/
theorem mem_pieces_of_isLine {room : Nat} {text line after : List UInt8} (positive : 0 < room)
    (isLine : IsLine text line after) (nonempty : line ≠ [])
    : (line ++ after.take 1).take room ∈ pieces room text := by
  obtain ⟨noNewline, ends, before, rfl, starts⟩ := isLine
  have runs : ∀ c ∈ line, decide (c ≠ 10) = true := by
    intro c member
    simp only [ne_eq, decide_eq_true_eq]
    rintro rfl
    exact noNewline member
  generalize size : before.length = n
  induction n using Nat.strong_induction_on generalizing before with
  | _ n ih =>
      have some_ : before ++ (line ++ after) ≠ [] := by simp [nonempty]
      rw [pieces, dif_pos ⟨positive, some_⟩]
      by_cases front : before = []
      · subst front
        have stops : ∀ c ∈ after.head?, decide (c ≠ 10) = false := by
          simpa using ends
        obtain ⟨run, rest⟩ := span_append runs stops
        have read : fgets room (line ++ after) = (line ++ after.take 1).take room := by
          rw [fgets, firstLine, run, rest]
        rw [List.nil_append, read]
        exact List.mem_cons_self
      · have last : (10 : UInt8) ∈ before := by
          have newline := starts _ (by rw [List.getLast?_eq_some_getLast front]; rfl)
          exact newline ▸ List.getLast_mem front
        have read := fgets_append_of_newline room (line ++ after) last
        obtain ⟨behind, split⟩ := fgets_isPrefix room before
        have taken := List.length_pos_iff.mpr (fgets_ne_nil positive front)
        rw [read]
        refine List.mem_cons_of_mem _ ?_
        have dropped : (before ++ (line ++ after)).drop (fgets room before).length
            = behind ++ (line ++ after) := by
          calc (before ++ (line ++ after)).drop (fgets room before).length
              = (fgets room before ++ behind ++ (line ++ after)).drop
                  (fgets room before).length := by
                rw [split]
            _ = behind ++ (line ++ after) := by rw [List.append_assoc, List.drop_left]
        rw [dropped]
        have shorter := congrArg List.length split
        rw [List.length_append] at shorter
        refine ih behind.length (by omega) behind ?_ rfl
        intro c ending
        refine starts c ?_
        rw [← split, List.getLast?_append, Option.mem_def.mp ending]
        rfl

/-- A line of a text is a line of every text that ends with it behind a newline. -/
theorem IsLine.behind {text line after front : List UInt8} (isLine : IsLine text line after)
    (starts : ∀ c ∈ front.getLast?, c = 10)
    : IsLine (front ++ text) line after := by
  obtain ⟨noNewline, ends, before, rfl, first⟩ := isLine
  refine ⟨noNewline, ends, front ++ before, by rw [List.append_assoc], fun c last => ?_⟩
  rw [Option.mem_def, List.getLast?_append, Option.or_eq_some_iff] at last
  rcases last with inBefore | ⟨-, inFront⟩
  · exact first c inBefore
  · exact starts c inFront

/-- The first line of a text, and what is behind it. -/
theorem isLine_takeWhile (text : List UInt8)
    : IsLine text (text.takeWhile (· ≠ 10)) (text.dropWhile (· ≠ 10)) := by
  refine ⟨fun newline => ?_, fun c head => ?_, [], ?_, by simp⟩
  · have other := List.mem_takeWhile_imp newline
    simp at other
  · have stops := List.head?_dropWhile_not (· ≠ (10 : UInt8)) text
    rw [Option.mem_def.mp head] at stops
    simpa using stops
  · rw [List.nil_append, List.takeWhile_append_dropWhile]

/-- If there is room for every line and its newline, then every piece is a line with its newline.
Witness: induction on the pieces; what is left behind a piece begins behind a newline.
-/
theorem isLine_of_mem_pieces {room : Nat} {text piece : List UInt8}
    (short : ∀ line after, IsLine text line after → line.length < room)
    (read : piece ∈ pieces room text)
    : ∃ line after, IsLine text line after ∧ piece = line ++ after.take 1 := by
  fun_induction pieces room text with
  | case2 text done => cases read
  | case1 text more ih =>
      have first := isLine_takeWhile text
      have whole : fgets room text = firstLine text := by
        refine List.take_of_length_le ?_
        have line := short _ _ first
        have newline := List.length_take_le 1 (text.dropWhile (· ≠ 10))
        rw [firstLine, List.length_append]
        omega
      rw [whole] at ih read
      rcases List.mem_cons.mp read with rfl | later
      · exact ⟨_, _, first, rfl⟩
      · have cut := List.takeWhile_append_dropWhile (p := (· ≠ (10 : UInt8))) (l := text)
        generalize behind : text.dropWhile (· ≠ 10) = after at *
        have ends : text = firstLine text ++ after.drop 1 := by
          rw [firstLine, behind, List.append_assoc, List.take_append_drop]
          exact cut.symm
        have left : text.drop (firstLine text).length = after.drop 1 := by
          calc text.drop (firstLine text).length
              = (firstLine text ++ after.drop 1).drop (firstLine text).length := by rw [← ends]
            _ = after.drop 1 := List.drop_left
        have starts : after ≠ [] → ∀ c ∈ (firstLine text).getLast?, c = 10 := by
          intro some_ c last
          obtain ⟨newline, rest, rfl⟩ := List.exists_cons_of_ne_nil some_
          have stop := first.ends newline rfl
          rw [firstLine, behind, List.take_succ_cons, List.take_zero, List.getLast?_concat] at last
          exact (Option.some.inj last).symm.trans stop
        have some_ : after ≠ [] := by
          rintro rfl
          rw [left, List.drop_nil, pieces, dif_neg (by simp)] at later
          cases later
        rw [left] at ih later
        obtain ⟨line, others, isLine, shape⟩ := ih (fun line others isLine =>
          short line others (ends ▸ isLine.behind (starts some_))) later
        exact ⟨line, others, ends ▸ isLine.behind (starts some_), shape⟩

/-- `strtok` with one delimiter: the token, and the text where the next call goes on. -/
def strtok (delimiter : UInt8) (text : List UInt8) : Option (List UInt8) × List UInt8 :=
  let start := text.dropWhile (· = delimiter)
  if start = [] then (none, [])
  else (some (start.takeWhile (· ≠ delimiter)), (start.dropWhile (· ≠ delimiter)).drop 1)

/-- A token is part of the text, and a rest stands behind a delimiter. -/
theorem strtok_some {delimiter : UInt8} {text token rest : List UInt8}
    (cut : strtok delimiter text = (some token, rest))
    : token ≠ [] ∧ (∀ c ∈ token, c ∈ text) ∧ token.length ≤ text.length
      ∧ (rest ≠ [] → token.length + 1 + rest.length ≤ text.length) := by
  unfold strtok at cut
  dsimp only at cut
  by_cases empty : text.dropWhile (· = delimiter) = []
  · rw [if_pos empty] at cut
    cases cut
  rw [if_neg empty] at cut
  obtain ⟨first, rfl⟩ := Prod.mk.inj cut
  obtain rfl := Option.some.inj first
  have suffix_ := List.dropWhile_suffix (l := text) (· = delimiter)
  generalize start : text.dropWhile (· = delimiter) = input at *
  have split := List.takeWhile_append_dropWhile (p := (· ≠ delimiter)) (l := input)
  have lengths := congrArg List.length split
  rw [List.length_append] at lengths
  have shorter := suffix_.length_le
  refine ⟨?_, fun c member => ?_, ?_, fun more => ?_⟩
  · obtain ⟨c, behind, rfl⟩ := List.exists_cons_of_ne_nil empty
    have other : ¬ c = delimiter := by
      have stops := List.head?_dropWhile_not (· = delimiter) text
      rw [start] at stops
      simpa using stops
    simp [other]
  · exact suffix_.subset (List.takeWhile_subset _ member)
  · omega
  · have some_ : 1 ≤ (input.dropWhile (· ≠ delimiter)).length := by
      refine List.length_pos_iff.mpr fun none => more ?_
      rw [none, List.drop_nil]
    rw [List.length_drop]
    omega

/-- The text in front of a delimiter or the end is a token. -/
theorem strtok_append {delimiter : UInt8} {token tail : List UInt8} (nonempty : token ≠ [])
    (plain : delimiter ∉ token) (stops : ∀ c ∈ tail.head?, c = delimiter)
    : strtok delimiter (token ++ tail) = (some token, tail.drop 1) := by
  have other : ∀ c ∈ token, decide (c ≠ delimiter) = true := by
    intro c member
    simp only [ne_eq, decide_eq_true_eq]
    rintro rfl
    exact plain member
  have start : (token ++ tail).dropWhile (· = delimiter) = token ++ tail := by
    obtain ⟨c, rest, rfl⟩ := List.exists_cons_of_ne_nil nonempty
    have first := other c (by simp)
    simp only [ne_eq, decide_eq_true_eq] at first
    simp [first]
  obtain ⟨run, rest⟩ := @span_append _ (· ≠ delimiter) token tail other
    (by simpa using stops)
  unfold strtok
  dsimp only
  rw [start, if_neg (by simp [nonempty]), run, rest]

end TextLines
