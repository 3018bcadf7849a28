import Iperf.Library.TextLines
import Iperf.Auth.Token

/-! The file of authorized users: `check_authentication` reads it in pieces of a buffer, and the
lines of the file that should grant access.
-/

namespace Iperf

open TextLines

-----------------------------------------------------------------------------------------
-- check_authentication
-----------------------------------------------------------------------------------------

/-- `%02x` of a byte. -/
def hexByte (byte : UInt8) : List UInt8 :=
  let hexDigit := fun n : UInt8 => if n < 10 then 48 + n else 87 + n
  [hexDigit (byte / 16), hexDigit (byte % 16)]

/-- `sha256` of the salted password, in hexadecimal. -/
def passwordHash (sha256 : List UInt8 → List UInt8) (username password : List UInt8)
    : List UInt8 :=
  (sha256 (bytesOf "\x7b" ++ username ++ bytesOf "\x7d" ++ password)).flatMap hexByte

/-- What `check_authentication` comes to: its result, or a `strcmp` with a null pointer. -/
inductive AuthOutcome where
  | returns (code : Nat)
  | comparesMissingField
deriving DecidableEq

/-- `sizeof(buf) - 1`. -/
def userLineRoom : Nat := 1023

/-- "strip the \n or \r\n chars": the string in the buffer up to the first of them. -/
def userLine (buf : List UInt8) : List UInt8 := buf.takeWhile fun c => c ≠ 0 ∧ c ≠ 10 ∧ c ≠ 13

/-- "skip empty / not completed / comment lines" -/
def skipsUserLine (line : List UInt8) : Bool := line = [] ∨ 44 ∉ line ∨ line.head? = some 35

/-- The loop over what `fgets` reads. -/
def readUsers (username hash : List UInt8) : List (List UInt8) → AuthOutcome
  | [] => .returns 3
  | buf :: rest =>
      let line := userLine buf
      if skipsUserLine line then
        readUsers username hash rest
      else
        match strtok 44 line with
        | (none, _) => .comparesMissingField
        | (some sUsername, next) =>
            if username = sUsername then
              match (strtok 44 next).1 with
              | none => .comparesMissingField
              | some sPassword =>
                  if hash = sPassword then .returns 0 else readUsers username hash rest
            else
              readUsers username hash rest

/-- The clock of the server and the time in the token. -/
def WithinSkew (utcSeconds ts : Int64) (skewThreshold : Int32) : Prop :=
  ¬ (utcSeconds - ts > skewThreshold.toInt64 ∨ utcSeconds - ts < -skewThreshold.toInt64)

instance (utcSeconds ts : Int64) (skewThreshold : Int32)
    : Decidable (WithinSkew utcSeconds ts skewThreshold) :=
  inferInstanceAs (Decidable (¬ _))

/-- `check_authentication`; the file is `none` when it cannot be opened. -/
def checkAuthentication (sha256 : List UInt8 → List UInt8) (utcSeconds : Int64)
    (username password : List UInt8) (ts : Int64) (file : Option (List UInt8))
    (skewThreshold : Int32)
    : AuthOutcome :=
  if WithinSkew utcSeconds ts skewThreshold then
    match file with
    | none => .returns 2
    | some content =>
        readUsers username (passwordHash sha256 username password) (pieces userLineRoom content)
  else
    .returns 1

-----------------------------------------------------------------------------------------
-- The lines that grant access
-----------------------------------------------------------------------------------------

/-- The first two fields of a line, separated by commas. -/
structure FirstFields (line first second : List UInt8) : Prop where
  first : line.takeWhile (· ≠ 44) = first
  second : ∃ rest, line.dropWhile (· ≠ 44) = 44 :: rest ∧ rest.takeWhile (· ≠ 44) = second

/-- A line without the carriage return of its ending. -/
def withoutReturn (line : List UInt8) : List UInt8 :=
  if line.getLast? = some 13 then line.dropLast else line

/-- A line that is not empty and no comment has the user name and the hash as its first fields. -/
structure GrantsAccess (username hash line : List UInt8) : Prop where
  nonempty : line ≠ []
  noComment : line.head? ≠ some 35
  fields : FirstFields line username hash

/-- Some physical line of the file grants access. -/
def Authorized (username hash file : List UInt8) : Prop :=
  ∃ line after, IsLine file line after ∧ GrantsAccess username hash (withoutReturn line)

/-- No missing field is compared, and access is granted by the lines that grant it. -/
def AuthenticatesExactly (sha256 : List UInt8 → List UInt8) (utcSeconds : Int64)
    (username password : List UInt8) (ts : Int64) (file : List UInt8) (skewThreshold : Int32)
    : Prop :=
  let outcome :=
    checkAuthentication sha256 utcSeconds username password ts (some file) skewThreshold
  outcome ≠ .comparesMissingField
  ∧ (Authorized username (passwordHash sha256 username password) file → outcome = .returns 0)
  ∧ (¬ Authorized username (passwordHash sha256 username password) file → outcome = .returns 3)

-----------------------------------------------------------------------------------------
-- One piece
-----------------------------------------------------------------------------------------

/-- A piece with the user name and the hash as its first two tokens. -/
structure PieceGrants (username hash buf : List UInt8) : Prop where
  taken : skipsUserLine (userLine buf) = false
  tokens : ∃ next, strtok 44 (userLine buf) = (some username, next)
    ∧ (strtok 44 next).1 = some hash

/-- A piece that is compared and has no token, or the user name as its only one. -/
structure PieceLacksField (username buf : List UInt8) : Prop where
  taken : skipsUserLine (userLine buf) = false
  tokens : (strtok 44 (userLine buf)).1 = none
    ∨ ∃ next, strtok 44 (userLine buf) = (some username, next) ∧ (strtok 44 next).1 = none

variable {username hash : List UInt8} {buf : List UInt8} {rest : List (List UInt8)}

theorem PieceGrants.not_lacks (grants : PieceGrants username hash buf)
    : ¬ PieceLacksField username buf := by
  obtain ⟨-, next, name, password⟩ := grants
  rintro ⟨-, empty | ⟨next', name', empty⟩⟩
  · rw [name] at empty
    cases empty
  · obtain ⟨-, rfl⟩ := Prod.mk.inj (name.symm.trans name')
    rw [password] at empty
    cases empty

theorem readUsers_lacks (lacks : PieceLacksField username buf)
    : readUsers username hash (buf :: rest) = .comparesMissingField := by
  obtain ⟨taken, empty | ⟨next, name, empty⟩⟩ := lacks
  · have token : strtok 44 (userLine buf) = (none, (strtok 44 (userLine buf)).2) :=
      Prod.ext empty rfl
    rw [readUsers]
    rw [token]
    simp [taken]
  · rw [readUsers]
    rw [name]
    simp [taken, empty]

theorem readUsers_grants (grants : PieceGrants username hash buf)
    : readUsers username hash (buf :: rest) = .returns 0 := by
  obtain ⟨taken, next, name, password⟩ := grants
  rw [readUsers]
  rw [name]
  simp [taken, password]

theorem readUsers_other (present : ¬ PieceLacksField username buf)
    (denied : ¬ PieceGrants username hash buf)
    : readUsers username hash (buf :: rest) = readUsers username hash rest := by
  rw [readUsers]
  by_cases skipped : skipsUserLine (userLine buf)
  · simp [skipped]
  · simp only [skipped, Bool.false_eq_true, if_false]
    simp only [Bool.not_eq_true] at skipped
    split
    · next empty => exact absurd ⟨skipped, .inl (by rw [empty])⟩ present
    · next sUsername next name =>
        split_ifs with same
        · subst same
          split
          · next empty => exact absurd ⟨skipped, .inr ⟨next, name, empty⟩⟩ present
          · next sPassword password =>
              split_ifs with equal
              · subst equal
                exact absurd ⟨skipped, next, name, password⟩ denied
              · rfl
        · rfl

-----------------------------------------------------------------------------------------
-- The whole file
-----------------------------------------------------------------------------------------

/-- No piece in front of the first that grants access lacks a field. -/
def FieldsPresent (username hash : List UInt8) (bufs : List (List UInt8)) : Prop :=
  ∀ front buf back, bufs = front ++ buf :: back →
    (∀ earlier ∈ front, ¬ PieceGrants username hash earlier) → ¬ PieceLacksField username buf

theorem fieldsPresent_cons
    : FieldsPresent username hash (buf :: rest)
      ↔ ¬ PieceLacksField username buf
        ∧ (PieceGrants username hash buf ∨ FieldsPresent username hash rest) := by
  constructor
  · intro present
    refine ⟨present [] buf rest rfl (by simp), ?_⟩
    by_cases grants : PieceGrants username hash buf
    · exact .inl grants
    · refine .inr fun front later back split denied => ?_
      exact present (buf :: front) later back (by rw [split]; rfl) (by simpa [grants] using denied)
  · rintro ⟨here, others⟩ front later back split denied
    cases front with
    | nil =>
        obtain ⟨rfl, -⟩ := List.cons.inj split
        exact here
    | cons first front =>
        obtain ⟨rfl, behind⟩ := List.cons.inj split
        obtain ⟨notFirst, notFront⟩ := List.forall_mem_cons.mp denied
        rcases others with grants | present
        · exact absurd grants notFirst
        · exact present front later back behind notFront

/-- What the loop comes to, by induction on the pieces. -/
theorem readUsers_outcome (username hash : List UInt8) (bufs : List (List UInt8))
    : (readUsers username hash bufs ≠ .comparesMissingField ↔ FieldsPresent username hash bufs)
      ∧ (FieldsPresent username hash bufs →
        ((∃ buf ∈ bufs, PieceGrants username hash buf) → readUsers username hash bufs = .returns 0)
        ∧ ((¬ ∃ buf ∈ bufs, PieceGrants username hash buf) →
          readUsers username hash bufs = .returns 3)) := by
  induction bufs with
  | nil => simp [readUsers, FieldsPresent]
  | cons buf rest ih =>
      obtain ⟨crash, result⟩ := ih
      rw [fieldsPresent_cons]
      by_cases lacks : PieceLacksField username buf
      · simp [readUsers_lacks lacks, lacks]
      · by_cases grants : PieceGrants username hash buf
        · simp [readUsers_grants grants, lacks, grants]
        · rw [readUsers_other lacks grants]
          exact ⟨by simpa [lacks, grants] using crash, by simpa [lacks, grants] using result⟩

-----------------------------------------------------------------------------------------
-- Lines and their pieces
-----------------------------------------------------------------------------------------

/-- A user name that fits a buffer beside a hash and is a token of its own. -/
structure NameFits (username : List UInt8) : Prop where
  nonempty : username ≠ []
  noReturn : 13 ∉ username
  short : username.length + 65 ≤ userLineRoom

/-- A hash is 64 hexadecimal digits. -/
structure IsHash (hash : List UInt8) : Prop where
  length : hash.length = 64
  plain : ∀ c ∈ hash, c ≠ 44 ∧ c ≠ 0 ∧ c ≠ 10 ∧ c ≠ 13

theorem IsHash.ne_nil (isHash : IsHash hash) : hash ≠ [] := by
  rintro rfl
  cases isHash.length

theorem hexByte_plain (byte : UInt8)
    : ∀ c ∈ hexByte byte, c ≠ 44 ∧ c ≠ 0 ∧ c ≠ 10 ∧ c ≠ 13 := by
  have digit : ∀ n : UInt8, n < 16 → ∀ c, (if n < 10 then 48 + n else 87 + n) = c →
      c ≠ 44 ∧ c ≠ 0 ∧ c ≠ 10 ∧ c ≠ 13 := by
    rintro n small c rfl
    split <;> grind
  intro c member
  simp only [hexByte, List.mem_cons, List.not_mem_nil, or_false] at member
  rcases member with rfl | rfl
  · exact digit (byte / 16) (by grind) _ rfl
  · exact digit (byte % 16) (by grind) _ rfl

theorem isHash_passwordHash {sha256 : List UInt8 → List UInt8}
    (digest : ∀ text, (sha256 text).length = 32) (username password : List UInt8)
    : IsHash (passwordHash sha256 username password) := by
  refine ⟨?_, fun c member => ?_⟩
  · have each : ∀ bytes : List UInt8, (bytes.flatMap hexByte).length = 2 * bytes.length := by
      intro bytes
      induction bytes with
      | nil => rfl
      | cons byte bytes ih =>
          rw [List.flatMap_cons, List.length_append, ih, List.length_cons]
          simp only [hexByte, List.length_cons, List.length_nil]
          omega
    rw [passwordHash, each, digest]
  · obtain ⟨byte, -, digit⟩ := List.mem_flatMap.mp member
    exact hexByte_plain byte c digit

/-- What grants access fits the buffer. -/
theorem PieceGrants.nameFits (isHash : IsHash hash) (room : buf.length ≤ userLineRoom)
    (grants : PieceGrants username hash buf)
    : NameFits username := by
  obtain ⟨-, next, name, password⟩ := grants
  have second : strtok 44 next = (some hash, (strtok 44 next).2) := Prod.ext password rfl
  obtain ⟨nonempty, nameBytes, -, nameLength⟩ := strtok_some name
  obtain ⟨-, -, hashLength, -⟩ := strtok_some second
  have line := (List.takeWhile_prefix (l := buf) fun c => c ≠ 0 ∧ c ≠ 10 ∧ c ≠ 13).length_le
  have more : next ≠ [] := by
    rintro rfl
    cases password
  have lengths := nameLength more
  have digits := isHash.length
  refine ⟨nonempty, fun member => ?_, ?_⟩
  · have taken := List.mem_takeWhile_imp (nameBytes _ member)
    simp at taken
  · unfold userLine at lengths
    omega

/-- The bytes of a line that grants access: the name, the hash, and what is behind its comma. -/
theorem GrantsAccess.shape {line : List UInt8} (grants : GrantsAccess username hash line)
    : ∃ tail, line = username ++ 44 :: (hash ++ tail) ∧ 44 ∉ username
      ∧ ∀ c ∈ tail.head?, c = 44 := by
  obtain ⟨-, -, first, rest, behind, second⟩ := grants
  refine ⟨rest.dropWhile (· ≠ 44), ?_, ?_, ?_⟩
  · rw [← second, List.takeWhile_append_dropWhile, ← behind, ← first,
      List.takeWhile_append_dropWhile]
  · intro member
    rw [← first] at member
    simpa using List.mem_takeWhile_imp member
  · intro c head
    have stops := List.head?_dropWhile_not (· ≠ 44) rest
    rw [Option.mem_def.mp head] at stops
    simpa using stops

/-- The line with its ending is the line, up to the bytes behind it that the program strips. -/
theorem withoutReturn_shape (line : List UInt8)
    : ∃ ending, line = withoutReturn line ++ ending ∧ ∀ c ∈ ending.head?, c = 13 := by
  unfold withoutReturn
  split_ifs with return_
  · refine ⟨[13], ?_, by simp⟩
    obtain ⟨front, rfl⟩ := List.getLast?_eq_some_iff.mp return_
    rw [List.dropLast_concat]
  · exact ⟨[], by simp, by simp⟩

/-- In front of a comma, a line ending or the end, the program sees nothing or a comma. -/
theorem userLine_behind {tail : List UInt8}
    (behind : ∀ c ∈ tail.head?, c = 44 ∨ c = 13 ∨ c = 10)
    : ∀ c ∈ (userLine tail).head?, c = 44 := by
  cases tail with
  | nil => simp [userLine]
  | cons first tail =>
      intro c head
      rcases behind first (by simp) with rfl | rfl | rfl
      · simpa [userLine, eq_comm] using head
      · simp [userLine] at head
      · simp [userLine] at head

/-- A piece that begins with the name, a comma and the hash grants access. -/
theorem pieceGrants_of_shape {more : List UInt8} (isHash : IsHash hash) (nonempty : username ≠ [])
    (plain : ∀ c ∈ username, c ≠ 0 ∧ c ≠ 10 ∧ c ≠ 13) (noComma : 44 ∉ username)
    (noComment : username.head? ≠ some 35)
    (behind : ∀ c ∈ more.head?, c = 44 ∨ c = 13 ∨ c = 10)
    : PieceGrants username hash (username ++ 44 :: (hash ++ more)) := by
  have visible : userLine (username ++ 44 :: (hash ++ more))
      = username ++ 44 :: (hash ++ userLine more) := by
    unfold userLine
    rw [List.takeWhile_append_of_pos (by simpa using plain), List.takeWhile_cons_of_pos (by simp),
      List.takeWhile_append_of_pos]
    intro c member
    have digit := isHash.plain c member
    simp [digit]
  have stops := userLine_behind behind
  have name : strtok 44 (username ++ 44 :: (hash ++ userLine more))
      = (some username, hash ++ userLine more) :=
    strtok_append nonempty noComma (by simp)
  have password : strtok 44 (hash ++ userLine more) = (some hash, (userLine more).drop 1) :=
    strtok_append isHash.ne_nil (fun member => (isHash.plain 44 member).1 rfl) stops
  refine ⟨?_, hash ++ userLine more, by rw [visible]; exact name, by rw [password]⟩
  rw [visible]
  obtain ⟨c, others, rfl⟩ := List.exists_cons_of_ne_nil nonempty
  have noComment : c ≠ 35 := by simpa using noComment
  simp [skipsUserLine, noComment]

/-- The first piece of a line that grants access does so when the name fits. -/
theorem exists_pieceGrants {file : List UInt8} (isHash : IsHash hash) (string : 0 ∉ username)
    (fits : NameFits username) (authorized : Authorized username hash file)
    : ∃ buf ∈ pieces userLineRoom file, PieceGrants username hash buf := by
  obtain ⟨line, after, isLine, grants⟩ := authorized
  obtain ⟨tail, shape, noComma, comma⟩ := grants.shape
  obtain ⟨ending, whole, return_⟩ := withoutReturn_shape line
  have noComment := grants.noComment
  rw [shape, List.append_assoc, List.cons_append] at whole
  rw [shape] at noComment
  have lineBytes : line ≠ [] := by
    rintro rfl
    simp at whole
  refine ⟨_, mem_pieces_of_isLine (by decide) isLine lineBytes, ?_⟩
  have digits := isHash.length
  have short := fits.short
  -- the room ends behind the hash
  have cut : (line ++ after.take 1).take userLineRoom
      = username ++ 44 :: (hash ++ (tail ++ ending ++ after.take 1).take
        (userLineRoom - username.length - 65)) := by
    have front : (username ++ 44 :: hash).length = username.length + 65 := by
      simp only [List.length_append, List.length_cons, digits]
    have parts : line ++ after.take 1
        = (username ++ 44 :: hash) ++ (tail ++ ending ++ after.take 1) := by
      rw [whole]
      simp only [List.append_assoc, List.cons_append]
    rw [parts, List.take_append, List.take_of_length_le (by omega), front, Nat.sub_add_eq]
    simp only [List.append_assoc, List.cons_append]
  rw [cut]
  refine pieceGrants_of_shape isHash fits.nonempty ?_ noComma ?_ ?_
  · intro c member
    refine ⟨fun zero => string (zero ▸ member), fun newline => isLine.noNewline ?_,
      fun return_ => fits.noReturn (return_ ▸ member)⟩
    rw [whole]
    exact List.mem_append_left _ (newline ▸ member)
  · obtain ⟨c, others, rfl⟩ := List.exists_cons_of_ne_nil fits.nonempty
    simpa using noComment
  · intro c head
    obtain ⟨others, shown⟩ := List.head?_eq_some_iff.mp (Option.mem_def.mp head)
    obtain ⟨hidden, all⟩ := List.take_prefix (userLineRoom - username.length - 65)
      (tail ++ ending ++ after.take 1)
    have first : (tail ++ ending ++ after.take 1).head? = some c := by
      rw [← all, shown]
      rfl
    simp only [List.append_assoc, List.head?_append, Option.or_eq_some_iff] at first
    rcases first with inTail | ⟨-, inEnding | ⟨-, inAfter⟩⟩
    · exact .inl (comma c inTail)
    · exact .inr (.inl (return_ c inEnding))
    · refine .inr (.inr (isLine.ends c ?_))
      cases after with
      | nil => simp at inAfter
      | cons d after => simpa using inAfter

-----------------------------------------------------------------------------------------
-- Exactly the lines that grant access
-----------------------------------------------------------------------------------------

/-- A file whose pieces agree with its lines: no field is missing in front of the piece that grants
access, such a piece comes from a line that does, and the name of such a line fits.
-/
structure PiecesAgree (username hash file : List UInt8) : Prop where
  present : FieldsPresent username hash (pieces userLineRoom file)
  fromLine : (∃ buf ∈ pieces userLineRoom file, PieceGrants username hash buf) →
    Authorized username hash file
  fits : Authorized username hash file → NameFits username

/-- A line that fits the buffer with its newline and ends where the program cuts it. If the program
compares it, then neither of its first two fields is empty.
-/
structure TidyLine (line : List UInt8) : Prop where
  short : line.length < userLineRoom
  plain : ∀ c ∈ withoutReturn line, c ≠ 0 ∧ c ≠ 13
  fields : 44 ∈ withoutReturn line → (withoutReturn line).head? ≠ some 35 →
    ∃ first second, FirstFields (withoutReturn line) first second ∧ first ≠ [] ∧ second ≠ []

theorem userLine_tidy {file line after : List UInt8} (isLine : IsLine file line after)
    (tidy : TidyLine line)
    : userLine (line ++ after.take 1) = withoutReturn line := by
  obtain ⟨ending, whole, return_⟩ := withoutReturn_shape line
  have kept : ∀ c ∈ withoutReturn line, decide (c ≠ 0 ∧ c ≠ 10 ∧ c ≠ 13) = true := by
    intro c member
    have newline : c ≠ 10 := by
      rintro rfl
      refine isLine.noNewline ?_
      rw [whole]
      exact List.mem_append_left _ member
    simp [tidy.plain c member, newline]
  have stops : ∀ c ∈ (ending ++ after.take 1).head?, decide (c ≠ 0 ∧ c ≠ 10 ∧ c ≠ 13) = false := by
    intro c head
    rw [Option.mem_def, List.head?_append, Option.or_eq_some_iff] at head
    rcases head with inEnding | ⟨-, inAfter⟩
    · simp [return_ c inEnding]
    · have newline : c = 10 := by
        refine isLine.ends c ?_
        cases after with
        | nil => cases inAfter
        | cons d after => exact inAfter
      simp [newline]
  have cut := (span_append kept stops).1
  rwa [← List.append_assoc, ← whole] at cut

/-- Fields that are not empty are the tokens of a line. -/
theorem FirstFields.tokens {line first second : List UInt8}
    (fields : FirstFields line first second) (some_ : first ≠ []) (some' : second ≠ [])
    : ∃ next, strtok 44 line = (some first, next) ∧ (strtok 44 next).1 = some second := by
  obtain ⟨name, rest, behind, password⟩ := fields
  have plain {text : List UInt8} : (44 : UInt8) ∉ text.takeWhile (· ≠ 44) := by
    intro comma
    simpa using List.mem_takeWhile_imp comma
  have whole : line = first ++ 44 :: rest := by
    rw [← name, ← behind, List.takeWhile_append_dropWhile]
  have others : rest = second ++ rest.dropWhile (· ≠ 44) := by
    rw [← password, List.takeWhile_append_dropWhile]
  refine ⟨rest, ?_, ?_⟩
  · rw [whole]
    exact strtok_append some_ (name ▸ plain) (by simp)
  · rw [others, strtok_append some' (password ▸ plain)]
    intro c head
    have stops := List.head?_dropWhile_not (· ≠ (44 : UInt8)) rest
    rw [Option.mem_def.mp head] at stops
    simpa using stops

/-- The tokens of a tidy line that is compared are its first two fields. -/
theorem TidyLine.tokens {line : List UInt8} (tidy : TidyLine line)
    (taken : skipsUserLine (withoutReturn line) = false)
    : ∃ first second next, FirstFields (withoutReturn line) first second ∧ first ≠ []
        ∧ strtok 44 (withoutReturn line) = (some first, next)
        ∧ (strtok 44 next).1 = some second := by
  simp only [skipsUserLine, decide_eq_false_iff_not, not_or, not_not] at taken
  obtain ⟨-, comma, noComment⟩ := taken
  obtain ⟨first, second, fields, some_, some'⟩ := tidy.fields comma noComment
  obtain ⟨next, name, password⟩ := fields.tokens some_ some'
  exact ⟨first, second, next, fields, some_, name, password⟩

/-- If every line of a file is tidy, then its pieces agree with its lines. -/
theorem piecesAgree_of_tidy {file : List UInt8} (isHash : IsHash hash)
    (tidy : ∀ line after, IsLine file line after → TidyLine line)
    : PiecesAgree username hash file := by
  have fromLine : ∀ buf ∈ pieces userLineRoom file,
      ∃ line after, IsLine file line after ∧ userLine buf = withoutReturn line := by
    intro buf read
    obtain ⟨line, after, isLine, rfl⟩ :=
      isLine_of_mem_pieces (fun line after isLine => (tidy line after isLine).short) read
    exact ⟨line, after, isLine, userLine_tidy isLine (tidy line after isLine)⟩
  refine ⟨?_, ?_, ?_⟩
  · rintro front buf back split - ⟨taken, lacks⟩
    obtain ⟨line, after, isLine, shown⟩ := fromLine buf (split ▸ by simp)
    rw [shown] at taken lacks
    obtain ⟨first, second, next, -, -, name, password⟩ := (tidy line after isLine).tokens taken
    rcases lacks with empty | ⟨next', name', empty⟩
    · rw [name] at empty
      cases empty
    · obtain ⟨-, rfl⟩ := Prod.mk.inj (name.symm.trans name')
      rw [password] at empty
      cases empty
  · rintro ⟨buf, read, taken, next', name', password'⟩
    obtain ⟨line, after, isLine, shown⟩ := fromLine buf read
    rw [shown] at taken name'
    obtain ⟨first, second, next, fields, -, name, password⟩ :=
      (tidy line after isLine).tokens taken
    obtain ⟨same, rfl⟩ := Prod.mk.inj (name'.symm.trans name)
    obtain rfl := Option.some.inj same
    obtain rfl := Option.some.inj (password'.symm.trans password)
    simp only [skipsUserLine, decide_eq_false_iff_not, not_or] at taken
    exact ⟨line, after, isLine, taken.1, taken.2.2, fields⟩
  · rintro ⟨line, after, isLine, grants⟩
    have here := tidy line after isLine
    obtain ⟨tail, shape, comma, -⟩ := grants.shape
    obtain ⟨ending, whole, -⟩ := withoutReturn_shape line
    have named : 44 ∈ withoutReturn line := by
      rw [shape]
      simp
    obtain ⟨first, second, fields, some_, -⟩ := here.fields named grants.noComment
    obtain rfl : first = username := fields.first.symm.trans grants.fields.first
    refine ⟨some_, fun return_ => ?_, ?_⟩
    · refine (here.plain 13 ?_).2 rfl
      rw [shape]
      exact List.mem_append_left _ return_
    · have lengths := congrArg List.length whole
      have digits := isHash.length
      have short := here.short
      rw [shape] at lengths
      simp only [List.length_append, List.length_cons] at lengths
      omega

/-- Access is granted by the right lines exactly when the pieces of the file agree with them. -/
theorem checkAuthentication_exact_iff {sha256 : List UInt8 → List UInt8} {utcSeconds ts : Int64}
    {username password file : List UInt8} {skewThreshold : Int32} (string : 0 ∉ username)
    (digest : ∀ text, (sha256 text).length = 32) (within : WithinSkew utcSeconds ts skewThreshold)
    : AuthenticatesExactly sha256 utcSeconds username password ts file skewThreshold
      ↔ PiecesAgree username (passwordHash sha256 username password) file := by
  have isHash := isHash_passwordHash digest username password
  unfold AuthenticatesExactly checkAuthentication
  rw [if_pos within]
  dsimp only
  generalize passwordHash sha256 username password = hash at *
  obtain ⟨crash, result⟩ := readUsers_outcome username hash (pieces userLineRoom file)
  have room : ∀ buf ∈ pieces userLineRoom file, buf.length ≤ userLineRoom :=
    fun buf read => length_le_of_mem_pieces read
  constructor
  · rintro ⟨compares, granted, denied⟩
    have present := crash.mp compares
    obtain ⟨zero, three⟩ := result present
    refine ⟨present, fun piece => ?_, fun authorized => ?_⟩
    · by_contra unauthorized
      have refused := denied unauthorized
      rw [zero piece] at refused
      cases refused
    · by_cases piece : ∃ buf ∈ pieces userLineRoom file, PieceGrants username hash buf
      · obtain ⟨buf, read, grants⟩ := piece
        exact grants.nameFits isHash (room buf read)
      · have accepted := granted authorized
        rw [three piece] at accepted
        cases accepted
  · rintro ⟨present, fromLine, fits⟩
    obtain ⟨zero, three⟩ := result present
    refine ⟨crash.mpr present, fun authorized => ?_, fun unauthorized => ?_⟩
    · exact zero (exists_pieceGrants isHash string (fits authorized) authorized)
    · exact three fun piece => unauthorized (fromLine piece)

/-- The SHA-256 digest of `{ann}pw`. -/
def sampleDigest : List UInt8 :=
  [15, 185, 114, 31, 115, 86, 122, 87, 128, 168, 162, 46, 19, 226, 49, 123, 247, 25, 30, 156,
    184, 184, 139, 219, 19, 119, 189, 20, 73, 211, 180, 181]

/-- A file with one user. -/
def sampleUsers : List UInt8 := bytesOf "ann," ++ sampleDigest.flatMap hexByte ++ [10]

/-- A file that is read in one piece. -/
theorem pieces_single {file : List UInt8} (nonempty : file ≠ [])
    (line : fgets userLineRoom file = file)
    : pieces userLineRoom file = [file] := by
  have positive : 0 < userLineRoom := by decide
  rw [pieces, dif_pos ⟨positive, nonempty⟩, line, List.drop_length, pieces, dif_neg (by simp)]

theorem checkAuthentication_exact_sample
    : 0 ∉ bytesOf "ann" ∧ (∀ _text : List UInt8, sampleDigest.length = 32) ∧ WithinSkew 7 5 10
      ∧ AuthenticatesExactly (fun _ => sampleDigest) 7 (bytesOf "ann") (bytesOf "pw") 5 sampleUsers
        10 := by
  have string : 0 ∉ bytesOf "ann" := by decide
  have digest : ∀ _text : List UInt8, sampleDigest.length = 32 := fun _ => rfl
  have within : WithinSkew 7 5 10 := by decide
  refine ⟨string, digest, within, (checkAuthentication_exact_iff string digest within).mpr ?_⟩
  have piece : pieces userLineRoom sampleUsers = [sampleUsers] :=
    pieces_single (by decide) (by decide)
  have grants : PieceGrants (bytesOf "ann") (sampleDigest.flatMap hexByte) sampleUsers :=
    ⟨by decide, sampleDigest.flatMap hexByte, by decide, by decide⟩
  have authorized : Authorized (bytesOf "ann") (sampleDigest.flatMap hexByte) sampleUsers := by
    refine ⟨bytesOf "ann," ++ sampleDigest.flatMap hexByte, [10], ?_, ?_⟩
    · exact ⟨by decide, by simp, [], rfl, by simp⟩
    · exact ⟨by decide, by decide, by decide, sampleDigest.flatMap hexByte, by decide, by decide⟩
  refine ⟨?_, fun _ => authorized, fun _ => ⟨by decide, by decide, by decide⟩⟩
  rw [piece, fieldsPresent_cons]
  exact ⟨grants.not_lacks, .inl grants⟩

/-- A line of one comma makes the program compare a field that is not there. -/
theorem checkAuthentication_missing_field
    : ¬ AuthenticatesExactly (fun _ => sampleDigest) 7 (bytesOf "ann") (bytesOf "pw") 5
      (bytesOf ",\n") 10 := by
  rintro ⟨compares, -⟩
  refine compares ?_
  have piece : pieces userLineRoom (bytesOf ",\n") = [bytesOf ",\n"] :=
    pieces_single (by decide) (by decide)
  unfold checkAuthentication
  rw [if_pos (by decide)]
  dsimp only
  rw [piece]
  rfl

end Iperf
