import Iperf.Cjson.Transfer
import Iperf.Parameters.Faithful

/-! The parameter exchange with the texts that cJSON prints.
-/

namespace Iperf.Cjson

open Checked DecimalText Doubles

-----------------------------------------------------------------------------------------
-- The parameters
-----------------------------------------------------------------------------------------

/-- The strings of a test are C strings. -/
structure PlainTexts (test : Test) : Prop where
  title : ∀ text ∈ test.title, Plain text
  extraData : ∀ text ∈ test.extraData, Plain text
  congestion : ∀ text ∈ test.congestion, Plain text
  congestionUsed : ∀ text ∈ test.congestionUsed, Plain text

theorem plain_version : Plain iperfVersion := by
  refine plain_of_plainChars ?_
  rw [iperfVersion, String.toList_ofList]
  decide +kernel

theorem parameterEntries_known (test : Test)
    : (parameterEntries test).map Prod.fst = Key.known.take 32 := rfl

/-- Every member of the parameter document may be sent. -/
theorem parameterEntries_writable {test : Test} (plain : PlainTexts test)
    : ∀ entry ∈ parameterEntries test, ∀ value, entry.2 = some value → Writable value := by
  have guarded {condition : Bool} {inner value : CJson} (writable : Writable inner)
      (found : memberIf condition inner = some value) : Writable value := by
    cases condition
    · cases found
    · obtain rfl := Option.some.inj found
      exact writable
  have text {content : Option String} {value : CJson} (plain : ∀ text ∈ content, Plain text)
      (found : content.map CJson.string = some value) : Writable value := by
    obtain ⟨inner, some_, rfl⟩ := Option.map_eq_some_iff.mp found
    exact .string (plain inner some_)
  have always {inner value : CJson} (writable : Writable inner) (found : some inner = some value)
      : Writable value := Option.some.inj found ▸ writable
  have one : Writable (.number 1) := .number (survives_small (by norm_num))
  have yes : Writable (.bool true) := .bool true
  simp only [parameterEntries, List.forall_mem_cons, List.not_mem_nil, false_implies,
    implies_true, and_true]
  exact ⟨
    fun _ => guarded yes, fun _ => guarded yes, fun _ => guarded yes,
    fun _ => always (writable_ofInt32 _), fun _ => guarded (writable_ofInt32 _),
    fun _ => always (writable_ofInt32 _), fun _ => always (writable_ofUInt64 _),
    fun _ => always (writable_ofUInt64 _), fun _ => guarded (writable_ofInt32 _),
    fun _ => guarded yes, fun _ => always (writable_ofInt32 _), fun _ => guarded yes,
    fun _ => guarded yes, fun _ => guarded (writable_ofInt32 _),
    fun _ => guarded (writable_ofInt32 _), fun _ => guarded (writable_ofUInt64 _),
    fun _ => guarded (writable_ofUInt64 _), fun _ => guarded (writable_ofInt32 _),
    fun _ => guarded (writable_ofInt32 _), fun _ => guarded (writable_ofInt32 _),
    fun _ => guarded (writable_ofInt32 _), fun _ => text plain.title,
    fun _ => text plain.extraData, fun _ => text plain.congestion,
    fun _ => text plain.congestionUsed, fun _ => guarded one, fun _ => guarded one,
    fun _ => guarded one, fun _ => guarded (writable_ofInt32 _),
    fun _ => guarded (writable_ofInt32 _), fun _ => guarded (writable_ofInt32 _),
    fun _ => always (.string plain_version)
  ⟩

theorem writable_sendParameters {test : Test} (plain : PlainTexts test)
    : Writable (sendParameters test) := by
  refine writable_present (fun entry member => ?_) (parameterEntries_writable plain)
  have key := List.mem_map_of_mem (f := Prod.fst) member
  rw [parameterEntries_known] at key
  exact canonical_known (List.mem_of_mem_take key)

/-- The parameters arrive as they were sent. -/
theorem parse_sendParameters {client : Test} (small : SmallIntegers client)
    (plain : PlainTexts client)
    : cjsonText.parse (cjsonText.print (sendParameters client)) = some (sendParameters client) := by
  have flat := sendParameters_flat small
  have shallow : nesting (itemOf (sendParameters client)) ≤ cjsonNestingLimit :=
    (nesting_flat flat).trans (by decide)
  have arrives := reproduced_transferred (writable_sendParameters plain)
  rw [parse_print, if_pos shallow, flat_of_reproduced flat arrives]

-----------------------------------------------------------------------------------------
-- The length of the parameters
-----------------------------------------------------------------------------------------

theorem length_escapeByte_le (c : UInt8) : (escapeByte c).length ≤ 6 := by
  unfold escapeByte
  split_ifs <;> simp

theorem length_printString_le (string : List UInt8)
    : (printString string).length ≤ 6 * string.length + 2 := by
  have body : (string.flatMap escapeByte).length ≤ 6 * string.length := by
    induction string with
    | nil => simp
    | cons c rest ih =>
        have first := length_escapeByte_le c
        rw [List.flatMap_cons, List.length_append, List.length_cons]
        omega
  rw [printString, List.cons_append, List.length_cons, List.length_append, List.length_singleton]
  omega

theorem length_stringOf_le (text : String) : (stringOf text).1.length ≤ text.toList.length := by
  have kept := (List.takeWhile_sublist (p := fun c : UInt8 => decide (c ≠ 0)) (l := bytesOf text))
  exact kept.length_le.trans_eq (List.length_map _)

/-- What the text of a string may need, at six bytes for a character. -/
def textRoom : CJson → Nat
  | .string text => 6 * text.toList.length
  | _ => 0

theorem length_flatValue_le {value : CJson} (flat : CJson.FlatValue value) (depth : Nat)
    : (printValue false depth (itemOf value)).length ≤ 24 + textRoom value := by
  match value with
  | .bool true | .bool false =>
      rw [itemOf, printValue]
      exact (show 5 ≤ 24 by norm_num).trans' (by decide)
  | .number number =>
      rw [itemOf, printValue]
      exact (length_printNumber_le _).trans (Nat.le_add_right _ _)
  | .string text =>
      have bytes := length_stringOf_le text
      have printed := length_printString_le (stringOf text).1
      rw [itemOf, printValue, textRoom]
      omega

/-- What a member may need with its name, its colon and its comma. -/
def memberRoom (member : Key × CJson) : Nat :=
  6 * (bytesOf member.1.spelling).length + 28 + textRoom member.2

theorem length_printMembers_flat {members : List (Key × CJson)} (depth : Nat)
    (flat : ∀ member ∈ members, CJson.FlatValue member.2)
    : (printMembers false depth (membersOf members)).length ≤ (members.map memberRoom).sum := by
  induction members with
  | nil =>
      rw [membersOf, printMembers]
      exact Nat.zero_le _
  | cons member next ih =>
      obtain ⟨key, value⟩ := member
      have later := ih fun member found => flat member (List.mem_cons_of_mem _ found)
      have scalar : CJson.FlatValue value := flat (key, value) List.mem_cons_self
      have first := length_flatValue_le scalar depth
      have name := length_printString_le (stringOf key.spelling).1
      have bytes : (stringOf key.spelling).1.length ≤ (bytesOf key.spelling).length :=
        (List.takeWhile_sublist _).length_le
      have comma (empty : Bool) : (if empty then [] else [44] : List UInt8).length ≤ 1 := by
        cases empty <;> simp
      have separator := comma (membersOf next).isEmpty
      rw [membersOf, memberOf, printMembers, printMember, List.map_cons, List.sum_cons, memberRoom]
      simp only [formatted, Bool.false_eq_true, if_false, List.nil_append, List.append_nil,
        List.length_append, List.length_singleton]
      omega

/-- What the text of an optional member may need. -/
def entryRoom (entry : Key × Option CJson) : Nat := (entry.2.map textRoom).getD 0

/-- The entries that are present need no more than all of them. -/
theorem sum_present_le (entries : List (Key × Option CJson))
    : ((OptionalMembers.present entries).map memberRoom).sum
      ≤ (entries.map fun entry => 6 * (bytesOf entry.1.spelling).length + 28).sum
        + (entries.map entryRoom).sum := by
  induction entries with
  | nil => simp [OptionalMembers.present]
  | cons entry rest ih =>
      obtain ⟨key, value⟩ := entry
      rw [List.map_cons, List.map_cons, List.sum_cons, List.sum_cons]
      cases value with
      | none =>
          have skipped : OptionalMembers.present ((key, none) :: rest)
              = OptionalMembers.present rest := rfl
          have none_ : entryRoom (key, none) = 0 := rfl
          rw [skipped, none_]
          omega
      | some value =>
          have kept : OptionalMembers.present ((key, some value) :: rest)
              = (key, value) :: OptionalMembers.present rest := rfl
          have some_ : entryRoom (key, some value) = textRoom value := rfl
          rw [kept, List.map_cons, List.sum_cons, memberRoom, some_]
          dsimp only
          omega

theorem names_room
    : ((Key.known.take 32).map fun key => 6 * (bytesOf key.spelling).length + 28).sum = 2552 := by
  simp only [Key.known, List.take_succ_cons, List.take_zero, List.map_cons, List.map_nil,
    Key.spelling]
  repeat rw [bytesOf_ofList]
  decide +kernel

/-- The characters of an optional string. -/
def textLength (text : Option String) : Nat := (text.map fun text => text.toList.length).getD 0

/-- The characters of the strings that the parameters contain. -/
def textLengths (test : Test) : Nat :=
  textLength test.title + textLength test.extraData + textLength test.congestion
    + textLength test.congestionUsed

theorem textRoom_memberIf {condition : Bool} {value : CJson} (none_ : textRoom value = 0)
    : ((memberIf condition value).map textRoom).getD 0 = 0 := by
  cases condition
  · rfl
  · exact none_

theorem textRoom_map (text : Option String)
    : ((text.map CJson.string).map textRoom).getD 0 = 6 * textLength text := by
  cases text <;> rfl

theorem texts_room (test : Test)
    : ((parameterEntries test).map entryRoom).sum = 6 * textLengths test + 36 := by
  have version : iperfVersion.toList.length = 6 := by
    rw [iperfVersion, String.toList_ofList]
    rfl
  have yes (key : Key) (condition : Bool) : entryRoom (key, memberIf condition (.bool true)) = 0 :=
    textRoom_memberIf rfl
  have one (key : Key) (condition : Bool) : entryRoom (key, memberIf condition (.number 1)) = 0 :=
    textRoom_memberIf rfl
  have int (key : Key) (condition : Bool) (n : Int32)
      : entryRoom (key, memberIf condition (.ofInt32 n)) = 0 := textRoom_memberIf rfl
  have size (key : Key) (condition : Bool) (n : UInt64)
      : entryRoom (key, memberIf condition (.ofUInt64 n)) = 0 := textRoom_memberIf rfl
  have last : entryRoom (.clientVersion, some (.string iperfVersion)) = 36 := by
    rw [entryRoom, Option.map_some, Option.getD_some, textRoom, version]
  have text (key : Key) (text : Option String)
      : entryRoom (key, text.map .string) = 6 * textLength text := textRoom_map text
  have int' (key : Key) (n : Int32) : entryRoom (key, some (.ofInt32 n)) = 0 := rfl
  have size' (key : Key) (n : UInt64) : entryRoom (key, some (.ofUInt64 n)) = 0 := rfl
  simp only [parameterEntries, List.map_cons, List.map_nil, List.sum_cons, List.sum_nil]
  simp only [yes, one, int, size, int', size', last, text, Nat.zero_add]
  rw [textLengths]
  ring

/-- The parameters of short strings fit the limit of the server. -/
theorem length_sendParameters_le {client : Test} (small : SmallIntegers client)
    : (cjsonText.print (sendParameters client)).length ≤ 2590 + 6 * textLengths client := by
  have members := length_printMembers_flat 1 (sendParameters_flat small)
  have room := sum_present_le (parameterEntries client)
  have names : ((parameterEntries client).map fun entry =>
      6 * (bytesOf entry.1.spelling).length + 28).sum = 2552 := by
    rw [← names_room, ← parameterEntries_known client, List.map_map]
    rfl
  have texts := texts_room client
  have shape : (cjsonText.print (sendParameters client)).length
      = (printMembers false 1
          (membersOf (OptionalMembers.present (parameterEntries client)))).length
        + 2 := by
    change (printText false (itemOf (sendParameters client))).length = _
    rw [printText, sendParameters, itemOf, printValue]
    simp [formatted]
  omega

/-- A client's parameters reach a fresh server through the text that cJSON prints, whatever bytes
follow on the connection, if its strings have 933 characters at most.
-/
theorem parameterTexts_delivered {client : Test} (small : SmallIntegers client)
    (plain : PlainTexts client) (short : textLengths client ≤ 933)
    (protocol : client.protocol ≠ .sctp) (blksize : client.settings.blksize ≠ 0)
    (behind : List UInt8)
    : ∃ server,
        getParametersFrom cjsonText freshServer
            (jsonWrite cjsonText (sendParameters client) ++ behind)
          = (.ok server, behind)
        ∧ exchanged server = exchanged client := by
  have length := length_sendParameters_le small
  have limit : maxParamsJsonString = 8192 := rfl
  have nonempty : cjsonText.print (sendParameters client) ≠ [] := by
    intro none_
    obtain ⟨c, rest, shape, -⟩ := printValue_head false 0 (itemOf (sendParameters client))
    have text : printValue false 0 (itemOf (sendParameters client)) = [] := none_
    rw [shape] at text
    cases text
  have read : jsonRead cjsonText maxParamsJsonString
      (jsonWrite cjsonText (sendParameters client) ++ behind)
        = (cjsonText.parse (cjsonText.print (sendParameters client)), behind) :=
    jsonRead_jsonWrite nonempty (by omega) (Or.inr (by omega)) behind
  obtain ⟨settings, -⟩ := getParameters_exchanged freshServer (sendParameters client)
  refine ⟨getParameters freshServer (sendParameters client), ?_, ?_⟩
  · rw [getParametersFrom, read, parse_sendParameters small plain]
  · rw [settings]
    exact read_sendParameters small protocol blksize

/-- A reverse test of four streams, with a quotation in its title. -/
def quotedTitleClient : Test :=
  {
    iperfConnectSettings reverseParallelClient (some 1448) with
    title := some "a \"b\""
  }

theorem parameterTexts_delivered_quotedTitle
    : ∃ server,
        getParametersFrom cjsonText freshServer
            (jsonWrite cjsonText (sendParameters quotedTitleClient) ++ [])
          = (.ok server, [])
        ∧ exchanged server = exchanged quotedTitleClient := by
  have title : quotedTitleClient.title = some (String.ofList ['a', ' ', '"', 'b', '"']) := by
    rfl
  have plain : PlainTexts quotedTitleClient := by
    have absent : ∀ text ∈ (none : Option String), Plain text := by
      intro text found
      cases found
    refine ⟨fun text found => ?_, absent, absent, absent⟩
    rw [title] at found
    obtain rfl := Option.some.inj found
    refine plain_of_plainChars ?_
    rw [String.toList_ofList]
    decide
  have short : textLengths quotedTitleClient ≤ 933 := by
    rw [textLengths, title, textLength, Option.map_some, String.toList_ofList]
    decide
  exact parameterTexts_delivered ⟨by decide, by decide, by decide, by decide⟩ plain short
    (by decide) (by decide) []

end Iperf.Cjson
