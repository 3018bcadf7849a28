import Iperf.Cjson.Lookup
import Iperf.Cjson.RoundTrip
import Iperf.Model.Json

/-! The documents of the exchanges as items of cJSON: how the program builds an item, and what it
reads in one.
-/

namespace Iperf

/-- The name of a member in the program. -/
def Key.spelling : Key → String
  | .tcp => "tcp"
  | .udp => "udp"
  | .sctp => "sctp"
  | .omit => "omit"
  | .serverAffinity => "server_affinity"
  | .time => "time"
  | .num => "num"
  | .blockcount => "blockcount"
  | .mss => "MSS"
  | .nodelay => "nodelay"
  | .parallel => "parallel"
  | .reverse => "reverse"
  | .bidirectional => "bidirectional"
  | .window => "window"
  | .len => "len"
  | .bandwidth => "bandwidth"
  | .fqrate => "fqrate"
  | .pacingTimer => "pacing_timer"
  | .burst => "burst"
  | .tos => "TOS"
  | .flowlabel => "flowlabel"
  | .title => "title"
  | .extraData => "extra_data"
  | .congestion => "congestion"
  | .congestionUsed => "congestion_used"
  | .getServerOutput => "get_server_output"
  | .udpCounters64bit => "udp_counters_64bit"
  | .repeatingPayload => "repeating_payload"
  | .zerocopy => "zerocopy"
  | .dontFragment => "dont_fragment"
  | .skipRxCopy => "skip_rx_copy"
  | .clientVersion => "client_version"
  | .cpuUtilTotal => "cpu_util_total"
  | .cpuUtilUser => "cpu_util_user"
  | .cpuUtilSystem => "cpu_util_system"
  | .senderHasRetransmits => "sender_has_retransmits"
  | .serverOutputText => "server_output_text"
  | .serverOutputJson => "server_output_json"
  | .streams => "streams"
  | .id => "id"
  | .bytes => "bytes"
  | .retransmits => "retransmits"
  | .jitter => "jitter"
  | .errors => "errors"
  | .omittedErrors => "omitted_errors"
  | .packets => "packets"
  | .omittedPackets => "omitted_packets"
  | .startTime => "start_time"
  | .endTime => "end_time"
  | .other name => name

/-- The names that the program looks for. -/
def Key.known : List Key :=
  [
    .tcp, .udp, .sctp, .omit, .serverAffinity, .time, .num, .blockcount, .mss, .nodelay,
    .parallel, .reverse, .bidirectional, .window, .len, .bandwidth, .fqrate, .pacingTimer,
    .burst, .tos, .flowlabel, .title, .extraData, .congestion, .congestionUsed,
    .getServerOutput, .udpCounters64bit, .repeatingPayload, .zerocopy, .dontFragment,
    .skipRxCopy, .clientVersion, .cpuUtilTotal, .cpuUtilUser, .cpuUtilSystem,
    .senderHasRetransmits, .serverOutputText, .serverOutputJson, .streams, .id, .bytes,
    .retransmits, .jitter, .errors, .omittedErrors, .packets, .omittedPackets, .startTime, .endTime
  ]

namespace Cjson

open Checked DecimalText Doubles

-----------------------------------------------------------------------------------------
-- Strings and names
-----------------------------------------------------------------------------------------

/-- A string whose characters are the bytes of a C string. -/
def Plain (text : String) : Prop := ∀ c ∈ text.toList, 0 < c.toNat ∧ c.toNat < 256

/-- The characters of a C string. -/
def textOf (string : CString) : String := String.ofList (string.1.map Char.ofUInt8)

/-- The bytes of a string, up to a zero. -/
def stringOf (text : String) : CString := cString (bytesOf text)

/-- The key of a name. A name that the program does not look for stays a name, in lower case. -/
def keyOf (name : CString) : Key :=
  (Key.known.find? fun key => lowered (stringOf key.spelling) = lowered name).getD
    (.other (textOf (lowered name)))

theorem stringOf_textOf (string : CString) : stringOf (textOf string) = string := by
  have bytes : bytesOf (textOf string) = string.1 := by
    rw [textOf, bytesOf_ofList, List.map_map]
    exact (List.map_congr_left fun c _ => UInt8.toUInt8_toUInt32 c).trans (List.map_id _)
  rw [stringOf, bytes, cString_val]

/-- The bytes of a plain string are those of all its characters. -/
theorem stringOf_val {text : String} (plain : Plain text) : (stringOf text).1 = bytesOf text := by
  refine List.takeWhile_eq_self_iff.mpr fun c member => decide_eq_true ?_
  obtain ⟨letter, found, rfl⟩ := List.mem_map.mp member
  obtain ⟨positive, small⟩ := plain letter found
  intro zero
  have value : letter.toNat % 2 ^ 8 = 0 := congrArg UInt8.toNat zero
  omega

theorem textOf_stringOf {text : String} (plain : Plain text) : textOf (stringOf text) = text := by
  rw [textOf, stringOf_val plain, bytesOf, List.map_map]
  refine (congrArg String.ofList ?_).trans String.ofList_toList
  refine (List.map_congr_left fun letter member => ?_).trans (List.map_id _)
  obtain ⟨-, small⟩ := plain letter member
  apply Char.toNat_inj.mp
  exact Nat.mod_eq_of_lt small

/-- A key that its spelling leads back to. -/
def Canonical (key : Key) : Prop := keyOf (stringOf key.spelling) = key

/-- The characters of a C string, as a test. -/
def plainChars (text : List Char) : Bool :=
  text.all fun c => decide (0 < c.toNat) && decide (c.toNat < 256)

theorem plain_of_plainChars {text : String} (letters : plainChars text.toList = true)
    : Plain text := by
  intro c member
  have both := List.all_eq_true.mp letters c member
  rw [Bool.and_eq_true, decide_eq_true_eq, decide_eq_true_eq] at both
  exact both

theorem spellings_plain : ∀ key ∈ Key.known, Plain key.spelling := by
  have letters : (Key.known.map fun key => key.spelling.toList).all plainChars = true := by
    simp only [Key.known, List.map_cons, List.map_nil, Key.spelling]
    repeat rw [String.toList_ofList]
    decide +kernel
  exact fun key member =>
    plain_of_plainChars (List.all_eq_true.mp letters _ (List.mem_map_of_mem member))

theorem spellings_distinct
    : (Key.known.map fun key => lowered (stringOf key.spelling)).Nodup := by
  have bytes : (Key.known.map fun key => (bytesOf key.spelling).map tolower).Nodup := by
    simp only [Key.known, List.map_cons, List.map_nil, Key.spelling]
    repeat rw [bytesOf_ofList]
    decide +kernel
  refine List.Nodup.of_map Subtype.val ?_
  rw [List.map_map]
  refine (List.map_congr_left fun key member => ?_) ▸ bytes
  exact (congrArg (List.map tolower) (stringOf_val (spellings_plain key member))).symm

/-- Among distinct entries an entry is found by what it is mapped to. -/
theorem find?_of_nodup_map {α β : Type} [DecidableEq β] {l : List α} {f : α → β}
    (distinct : (l.map f).Nodup) {a : α} (member : a ∈ l)
    : l.find? (fun b => f b = f a) = some a := by
  induction l with
  | nil => cases member
  | cons head rest ih =>
      rw [List.map_cons, List.nodup_cons] at distinct
      rcases List.mem_cons.mp member with rfl | later
      · exact List.find?_cons_of_pos (decide_eq_true rfl)
      · have other : f head ≠ f a := fun same =>
          distinct.1 (same ▸ List.mem_map_of_mem later)
        rw [List.find?_cons_of_neg (by simpa using other)]
        exact ih distinct.2 later

theorem canonical_known {key : Key} (known : key ∈ Key.known) : Canonical key := by
  rw [Canonical, keyOf, find?_of_nodup_map spellings_distinct known, Option.getD_some]

/-- A canonical key stands for the names that are its spelling in lower case. -/
theorem keyOf_eq_iff {key : Key} (canonical : Canonical key) (name : CString)
    : key = keyOf name ↔ lowered (stringOf key.spelling) = lowered name := by
  constructor
  · intro same
    unfold keyOf at same
    cases found : Key.known.find? fun key => lowered (stringOf key.spelling) = lowered name with
    | some entry =>
        rw [found, Option.getD_some] at same
        rw [same]
        have holds := List.find?_some found
        exact of_decide_eq_true holds
    | none =>
        rw [found, Option.getD_none] at same
        rw [same, Key.spelling, stringOf_textOf, lowered_lowered]
  · intro same
    rw [← canonical]
    unfold keyOf
    rw [same]

-----------------------------------------------------------------------------------------
-- Items and documents
-----------------------------------------------------------------------------------------

mutual
/-- The item that the program builds for a document. -/
def itemOf : CJson → Item
  | .null => .null
  | .bool value => .bool value
  | .number value => .number (.ofRat value)
  | .string value => .string (stringOf value)
  | .array items => .array (itemsOf items)
  | .object members => .object (membersOf members)

def itemsOf : List CJson → List Item
  | [] => []
  | item :: next => itemOf item :: itemsOf next

def membersOf : List (Key × CJson) → List (CString × Item)
  | [] => []
  | member :: next => memberOf member :: membersOf next

def memberOf : Key × CJson → CString × Item
  | (key, value) => (stringOf key.spelling, itemOf value)
end

/-- More than every finite number. -/
def beyond : ℚ := 2 ^ (1024 : ℤ)

/-- The value of a number. An infinite one stands beyond all others. -/
def valuedouble : Double → ℚ
  | .finite value => value
  | .infinite negative => if negative then -beyond else beyond
  | .nan => 0

mutual
/-- The document that the program reads in an item. -/
def documentOf : Item → CJson
  | .null => .null
  | .bool value => .bool value
  | .number number => .number (valuedouble number)
  | .string string => .string (textOf string)
  | .array children => .array (documentsOf children)
  | .object children => .object (entriesOf children)

def documentsOf : List Item → List CJson
  | [] => []
  | child :: next => documentOf child :: documentsOf next

def entriesOf : List (CString × Item) → List (Key × CJson)
  | [] => []
  | child :: next => entryOf child :: entriesOf next

def entryOf : CString × Item → Key × CJson
  | (string, child) => (keyOf string, documentOf child)
end

/-- `cJSON_PrintUnformatted`, and `cJSON_Parse` on a buffer that a zero follows. -/
def cjsonText : JsonText where
  print json := printText false (itemOf json)
  parse bytes := (cJSONParse (cString bytes)).map documentOf

theorem entriesOf_eq (children : List (CString × Item))
    : entriesOf children
      = children.map fun (string, child) => (keyOf string, documentOf child) := by
  induction children with
  | nil => rfl
  | cons child next ih =>
      obtain ⟨string, child⟩ := child
      rw [entriesOf, entryOf, ih, List.map_cons]

/-- A member is found in an item as it is found in the document. -/
theorem getObjectItem_documentOf {key : Key} (canonical : Canonical key) (item : Item)
    : (documentOf item).getObjectItem key
      = (getObjectItem (stringOf key.spelling) false item).map documentOf := by
  match item with
  | .object children =>
      rw [documentOf, CJson.getObjectItem, getObjectItem, entriesOf_eq, Option.map_map]
      induction children with
      | nil => rfl
      | cons child next ih =>
          obtain ⟨string, child⟩ := child
          rw [List.map_cons, List.lookup_cons]
          by_cases same : key = keyOf string
          · have found :=
              (caseInsensitiveStrcmp_lowered _ _).mpr ((keyOf_eq_iff canonical _).mp same)
            rw [List.find?_cons_of_pos (by simpa using found), beq_iff_eq.mpr same]
            rfl
          · have other : ¬ caseInsensitiveStrcmp (stringOf key.spelling).1 string.1 = 0 :=
              fun found => same ((keyOf_eq_iff canonical _).mpr
                ((caseInsensitiveStrcmp_lowered _ _).mp found))
            rw [List.find?_cons_of_neg (by simpa using other), beq_eq_false_iff_ne.mpr same]
            exact ih
  | .null | .bool _ | .number _ | .string _ | .array _ =>
      rw [documentOf]
      rfl

/-- A name in capitals, behind a name that it starts with. -/
theorem getObjectItem_documentOf_capitals
    : (documentOf (.object [(⟨[84, 73], by decide⟩, .null),
        (⟨[84, 73, 77, 69], by decide⟩, .bool true)])).getObjectItem .time
      = (getObjectItem (stringOf Key.time.spelling) false
          (.object [(⟨[84, 73], by decide⟩, .null),
            (⟨[84, 73, 77, 69], by decide⟩, .bool true)])).map documentOf :=
  getObjectItem_documentOf (canonical_known (by simp [Key.known])) _

end Cjson

end Iperf
