import Iperf.Cjson.Documents
import Iperf.Results.Agreement

/-! What becomes of a document that one end prints and the other one parses.
-/

namespace Iperf.Cjson

open Checked DecimalText Doubles

-----------------------------------------------------------------------------------------
-- What becomes of a document
-----------------------------------------------------------------------------------------

/-- The document that arrives. -/
def transferred (json : CJson) : CJson := documentOf (readBack (itemOf json))

/-- A number that is finite as a `double`, and again when it is parsed. -/
def Survives (value : ℚ) : Prop :=
  ∃ value', readBackNumber (.ofRat value) = .number (.finite value')

/-- What an end may send: strings are those of C, and no number is too large. -/
inductive Writable : CJson → Prop
  | null : Writable .null
  | bool (value : Bool) : Writable (.bool value)
  | number {value : ℚ} (survives : Survives value) : Writable (.number value)
  | string {value : String} (plain : Plain value) : Writable (.string value)
  | array {items : List CJson} (each : ∀ item ∈ items, Writable item) : Writable (.array items)
  | object {members : List (Key × CJson)} (names : ∀ member ∈ members, Canonical member.1)
      (each : ∀ member ∈ members, Writable member.2)
      : Writable (.object members)

theorem survives_of_abs_le {value : ℚ} (high : |value| ≤ 2 ^ (1000 : ℤ)) : Survives value := by
  have moved := abs_rounded_sub_le_add value
  have tiny : (2 : ℚ) ^ (-1075 : ℤ) ≤ 1 := zpow_le_one_of_nonpos₀ (by norm_num) (by norm_num)
  have one : (1 : ℚ) ≤ 2 ^ (1000 : ℤ) := one_le_zpow₀ (by norm_num) (by norm_num)
  have top : 4 * (2 : ℚ) ^ (1000 : ℤ) ≤ 2 ^ (1023 : ℤ) := by
    rw [show (4 : ℚ) = 2 ^ (2 : ℤ) by norm_num, ← zpow_add₀ two_ne_zero]
    exact zpow_le_zpow_right₀ (by norm_num) (by norm_num)
  have more : (2 : ℚ) ^ (1023 : ℤ) < 2 ^ (1024 : ℤ) :=
    zpow_lt_zpow_right₀ (by norm_num) (by norm_num)
  have triangle := abs_add_le value (rounded value - value)
  rw [add_sub_cancel] at triangle
  have size : |rounded value| ≤ 2 ^ (1023 : ℤ) := by
    -- the powers are too large to be evaluated
    generalize (2 : ℚ) ^ (1023 : ℤ) = half at *
    generalize (2 : ℚ) ^ (1000 : ℤ) = bound at *
    generalize (2 : ℚ) ^ (-1075 : ℤ) = smallest at *
    linarith only [moved, tiny, one, top, triangle, high]
  obtain ⟨double, found, is⟩ := ofRat_finite (size.trans_lt more)
  obtain ⟨value', back⟩ := reread_finite (is ▸ size : |double.1| ≤ 2 ^ (1023 : ℤ))
  exact ⟨value', by rw [found, readBackNumber, back]⟩

/-- What becomes of a number: an integer stays, and a second transfer changes nothing. -/
theorem Survives.transferred {value : ℚ} (survives : Survives value)
    : ∃ value', transferred (.number value) = .number value' ∧ Survives value'
        ∧ ∀ n : ℤ, value = n → n.natAbs ≤ 2 ^ 53 → value' = value := by
  obtain ⟨value', back⟩ := survives
  have shape : Cjson.transferred (.number value) = .number value'.1 := by
    rw [Cjson.transferred, itemOf, readBack, back, documentOf, valuedouble]
  refine ⟨value'.1, shape, ⟨value', ?_⟩, fun n whole small => ?_⟩
  · cases found : Double.ofRat value with
    | finite double =>
        rw [found, readBackNumber] at back
        rw [Double.ofRat_self, readBackNumber,
          reread_settled (Item.number.inj back)]
    | infinite _ =>
        rw [found] at back
        cases back
    | nan =>
        rw [found] at back
        cases back
  · have bits : |n| ≤ 2 ^ 53 := by
      rw [Int.abs_eq_natAbs]
      exact_mod_cast small
    have known : Representable value := whole ▸ representable_intCast bits
    have found := Double.ofRat_self ⟨value, known⟩
    rw [found, readBackNumber, reread_intCast (n := n) whole (by omega) (by omega)] at back
    exact (congrArg Subtype.val (Double.finite.inj (Item.number.inj back))).symm

mutual
/-- A document arrives with its shape, its texts and its integers, by induction on it. -/
theorem reproduced_transferred {json : CJson} (writable : Writable json)
    : Reproduced json (transferred json) := by
  match json with
  | .null =>
      simp only [transferred, itemOf, readBack, documentOf]
      exact .null
  | .bool value =>
      simp only [transferred, itemOf, readBack, documentOf]
      exact .bool value
  | .number value =>
      cases writable with
      | number survives =>
          obtain ⟨value', shape, -, small⟩ := survives.transferred
          rw [shape]
          exact .number value value' small
  | .string value =>
      cases writable with
      | string plain =>
          simp only [transferred, itemOf, readBack, documentOf, textOf_stringOf plain]
          exact .string value
  | .array items =>
      cases writable with
      | array each =>
          simp only [transferred, itemOf, readBack, documentOf]
          exact .array (reproduced_items each)
  | .object members =>
      cases writable with
      | object names each =>
          simp only [transferred, itemOf, readBack, documentOf]
          obtain ⟨keys, same⟩ := reproduced_members names each
          exact .object keys same

theorem reproduced_items {items : List CJson} (each : ∀ item ∈ items, Writable item)
    : List.Forall₂ Reproduced items (documentsOf (readBackElements (itemsOf items))) := by
  match items with
  | [] => exact .nil
  | item :: next =>
      have first := reproduced_transferred (each item List.mem_cons_self)
      have later := reproduced_items fun item member => each item (List.mem_cons_of_mem _ member)
      rw [itemsOf, readBackElements, documentsOf]
      exact .cons first later

theorem reproduced_members {members : List (Key × CJson)}
    (names : ∀ member ∈ members, Canonical member.1)
    (each : ∀ member ∈ members, Writable member.2)
    : (entriesOf (readBackMembers (membersOf members))).map Prod.fst = members.map Prod.fst
      ∧ List.Forall₂ Reproduced (members.map Prod.snd)
        ((entriesOf (readBackMembers (membersOf members))).map Prod.snd) := by
  match members with
  | [] => exact ⟨rfl, .nil⟩
  | (key, value) :: next =>
      have name : Canonical key := names (key, value) List.mem_cons_self
      have first : Reproduced value (transferred value) :=
        reproduced_transferred (each (key, value) List.mem_cons_self)
      obtain ⟨keys, same⟩ := reproduced_members
        (fun member found => names member (List.mem_cons_of_mem _ found))
        (fun member found => each member (List.mem_cons_of_mem _ found))
      rw [membersOf, memberOf, readBackMembers, readBackMember, entriesOf, entryOf]
      refine ⟨?_, .cons first same⟩
      rw [List.map_cons, List.map_cons, keys, name]
end

theorem plain_textOf (string : CString) : Plain (textOf string) := by
  intro letter member
  rw [textOf, String.toList_ofList] at member
  obtain ⟨c, inside, rfl⟩ := List.mem_map.mp member
  have value : (Char.ofUInt8 c).toNat = c.toNat := UInt8.toNat_toUInt32 c
  rw [value]
  refine ⟨Nat.pos_of_ne_zero fun zero => string.2 ?_, c.toNat_lt⟩
  have none_ : c = 0 := UInt8.toNat_inj.mp zero
  exact none_ ▸ inside

mutual
/-- What has arrived may be sent on, by induction on the document. -/
theorem writable_transferred {json : CJson} (writable : Writable json)
    : Writable (transferred json) := by
  match json with
  | .null =>
      simp only [transferred, itemOf, readBack, documentOf]
      exact .null
  | .bool value =>
      simp only [transferred, itemOf, readBack, documentOf]
      exact .bool value
  | .number value =>
      cases writable with
      | number survives =>
          obtain ⟨value', shape, again, -⟩ := survives.transferred
          rw [shape]
          exact .number again
  | .string value =>
      simp only [transferred, itemOf, readBack, documentOf]
      exact .string (plain_textOf _)
  | .array items =>
      cases writable with
      | array each =>
          simp only [transferred, itemOf, readBack, documentOf]
          exact .array (writable_items each)
  | .object members =>
      cases writable with
      | object names each =>
          simp only [transferred, itemOf, readBack, documentOf]
          have arrived := writable_members names each
          exact .object (fun member found => (arrived member found).1)
            fun member found => (arrived member found).2

theorem writable_items {items : List CJson} (each : ∀ item ∈ items, Writable item)
    : ∀ item ∈ documentsOf (readBackElements (itemsOf items)), Writable item := by
  match items with
  | [] =>
      intro item member
      cases member
  | item :: next =>
      have first := writable_transferred (each item List.mem_cons_self)
      have later := writable_items fun item member => each item (List.mem_cons_of_mem _ member)
      rw [itemsOf, readBackElements, documentsOf]
      exact List.forall_mem_cons.mpr ⟨first, later⟩

theorem writable_members {members : List (Key × CJson)}
    (names : ∀ member ∈ members, Canonical member.1)
    (each : ∀ member ∈ members, Writable member.2)
    : ∀ member ∈ entriesOf (readBackMembers (membersOf members)),
        Canonical member.1 ∧ Writable member.2 := by
  match members with
  | [] =>
      intro member found
      cases found
  | (key, value) :: next =>
      have name : Canonical key := names (key, value) List.mem_cons_self
      have first : Writable (transferred value) :=
        writable_transferred (each (key, value) List.mem_cons_self)
      have later := writable_members
        (fun member found => names member (List.mem_cons_of_mem _ found))
        (fun member found => each member (List.mem_cons_of_mem _ found))
      rw [membersOf, memberOf, readBackMembers, readBackMember, entriesOf, entryOf]
      refine List.forall_mem_cons.mpr ⟨⟨?_, first⟩, later⟩
      change Canonical (keyOf (stringOf key.spelling))
      rw [name]
      exact name
end

/-- A member of what has arrived. -/
theorem Writable.getItemType {json item : CJson} {key : Key} {type : CJson.ItemType}
    (writable : Writable json) (found : json.getObjectItemType key type = some item)
    : Writable item := by
  obtain ⟨found, -⟩ := Option.filter_eq_some_iff.mp found
  cases writable with
  | object names each =>
      obtain ⟨front, rest, rfl, -⟩ := List.lookup_eq_some_iff.mp found
      exact each (key, item) (List.mem_append_right front List.mem_cons_self)
  | _ => cases found

/-- A number that is read has arrived as one. -/
theorem Writable.valuedouble {item : CJson} (writable : Writable item)
    : Survives item.valuedouble := by
  have zero : Survives 0 := survives_of_abs_le (by rw [abs_zero]; positivity)
  cases writable with
  | number survives => exact survives
  | _ => exact zero

/-- The text of a document is parsed to what arrives, unless it is nested too deep. -/
theorem parse_print (json : CJson)
    : cjsonText.parse (cjsonText.print json)
      = if nesting (itemOf json) ≤ cjsonNestingLimit then some (transferred json) else none := by
  have text : cString (printText false (itemOf json)) = printed false (itemOf json) :=
    cString_val (printed false (itemOf json))
  have parsed := parseWithOpts_printed false (itemOf json) false
  change (cJSONParse (cString (printText false (itemOf json)))).map documentOf = _
  rw [text, cJSONParse, parsed]
  split_ifs <;> rfl

-----------------------------------------------------------------------------------------
-- Numbers and texts of the documents
-----------------------------------------------------------------------------------------

theorem survives_small {value : ℚ} (small : |value| ≤ 2 ^ 70) : Survives value := by
  refine survives_of_abs_le (small.trans ?_)
  rw [← zpow_natCast]
  exact zpow_le_zpow_right₀ (by norm_num) (by norm_num)

theorem doubleOfNat_bounds (n : Nat)
    : 0 ≤ CJson.doubleOfNat n ∧ CJson.doubleOfNat n ≤ 2 * n := by
  unfold CJson.doubleOfNat
  split_ifs with small
  · refine ⟨Nat.cast_nonneg n, ?_⟩
    linarith [(Nat.cast_nonneg n : (0 : ℚ) ≤ n)]
  · dsimp only
    have unit : 2 ^ (Nat.log2 n - 52) ≤ n :=
      (Nat.pow_le_pow_right (by norm_num) (Nat.sub_le _ _)).trans (Nat.log2_self_le (by omega))
    have quotient := Nat.div_mul_le_self n (2 ^ (Nat.log2 n - 52))
    generalize 2 ^ (Nat.log2 n - 52) = unit' at *
    have bound : (if 2 * (n % unit') > unit' ∨ 2 * (n % unit') = unit' ∧ n / unit' % 2 = 1 then
        n / unit' + 1 else n / unit') * unit' ≤ 2 * n := by
      split_ifs
      · rw [Nat.add_mul, Nat.one_mul]
        omega
      · omega
    exact ⟨Nat.cast_nonneg _, by exact_mod_cast bound⟩

theorem writable_ofInt32 (n : Int32) : Writable (.ofInt32 n) := by
  have low := n.le_toInt
  have high := n.toInt_lt
  refine .number (survives_small (abs_le.mpr ⟨?_, ?_⟩))
  · have bound : (-(2 ^ 31) : ℚ) ≤ (n.toInt : ℚ) := by exact_mod_cast low
    linarith
  · have bound : (n.toInt : ℚ) < 2 ^ 31 := by exact_mod_cast high
    linarith

theorem writable_ofUInt64 (n : UInt64) : Writable (.ofUInt64 n) := by
  obtain ⟨nonneg, high⟩ := doubleOfNat_bounds n.toNat
  have bound : (n.toNat : ℚ) < 2 ^ 64 := by exact_mod_cast n.toNat_lt
  refine .number (survives_small ?_)
  rw [abs_of_nonneg nonneg]
  linarith

theorem writable_ofInt64 (n : Int64) : Writable (.ofInt64 n) := by
  obtain ⟨nonneg, high⟩ := doubleOfNat_bounds n.toInt.natAbs
  have low := n.le_toInt
  have less := n.toInt_lt
  have bound : ((n.toInt.natAbs : ℕ) : ℚ) ≤ 2 ^ 63 := by
    have magnitude : n.toInt.natAbs ≤ 2 ^ 63 := by omega
    exact_mod_cast magnitude
  refine .number (survives_small ?_)
  split_ifs
  · rw [abs_neg, abs_of_nonneg nonneg]
    linarith
  · rw [abs_of_nonneg nonneg]
    linarith

theorem flatValue_of_reproduced {value value' : CJson} (flat : CJson.FlatValue value)
    (same : Reproduced value value')
    : value' = value := by
  cases same with
  | bool _ | string _ => rfl
  | number value value' small =>
      obtain ⟨n, whole, bound⟩ := flat
      rw [small n whole bound]
  | null | array _ | object _ _ => exact flat.elim

/-- A document of scalars that arrives is the one that was sent. -/
theorem flat_of_reproduced {json json' : CJson} (flat : CJson.Flat json)
    (same : Reproduced json json')
    : json' = json := by
  have values {sent arrived : List CJson} (each : List.Forall₂ Reproduced sent arrived)
      (flat : ∀ value ∈ sent, CJson.FlatValue value) : arrived = sent := by
    induction each with
    | nil => rfl
    | cons head tail ih =>
        rw [flatValue_of_reproduced (flat _ List.mem_cons_self) head,
          ih fun value member => flat value (List.mem_cons_of_mem _ member)]
  cases same with
  | @object members members' keys each =>
      have arrived := values each fun value found => by
        obtain ⟨member, listed, rfl⟩ := List.mem_map.mp found
        exact flat member listed
      rw [List.zip_of_prod keys arrived, ← List.zip_of_prod rfl rfl]
  | null | bool _ | string _ | number _ _ _ | array _ => exact flat.elim

-----------------------------------------------------------------------------------------
-- Nesting
-----------------------------------------------------------------------------------------

theorem nestingElements_le {items : List CJson} {bound : Nat}
    (each : ∀ item ∈ items, nesting (itemOf item) ≤ bound)
    : nestingElements (itemsOf items) ≤ bound := by
  induction items with
  | nil =>
      rw [itemsOf, nestingElements]
      exact Nat.zero_le bound
  | cons item next ih =>
      rw [itemsOf, nestingElements]
      exact max_le (each item List.mem_cons_self)
        (ih fun item member => each item (List.mem_cons_of_mem _ member))

theorem nestingMembers_le {members : List (Key × CJson)} {bound : Nat}
    (each : ∀ member ∈ members, nesting (itemOf member.2) ≤ bound)
    : nestingMembers (membersOf members) ≤ bound := by
  induction members with
  | nil =>
      rw [membersOf, nestingMembers]
      exact Nat.zero_le bound
  | cons member next ih =>
      obtain ⟨key, value⟩ := member
      rw [membersOf, memberOf, nestingMembers, nestingMember]
      exact max_le (each (key, value) List.mem_cons_self)
        (ih fun member found => each member (List.mem_cons_of_mem _ found))

theorem nesting_flatValue {value : CJson} (flat : CJson.FlatValue value)
    : nesting (itemOf value) = 0 := by
  match value with
  | .bool _ | .string _ | .number _ =>
      rw [itemOf]
      simp only [nesting]

/-- An object of scalars is nested once. -/
theorem nesting_flat {json : CJson} (flat : CJson.Flat json) : nesting (itemOf json) ≤ 1 := by
  match json with
  | .object members =>
      rw [itemOf, nesting]
      refine Nat.succ_le_succ (nestingMembers_le fun member found => ?_)
      exact (nesting_flatValue (flat member found)).le

/-- An object of optional members with known keys may be sent if its values may. -/
theorem writable_present {entries : List (Key × Option CJson)}
    (known : ∀ entry ∈ entries, Canonical entry.1)
    (each : ∀ entry ∈ entries, ∀ value, entry.2 = some value → Writable value)
    : Writable (.object (OptionalMembers.present entries)) := by
  have listed {member : Key × CJson} (found : member ∈ OptionalMembers.present entries)
      : ∃ entry ∈ entries, entry.1 = member.1 ∧ entry.2 = some member.2 := by
    obtain ⟨entry, inside, value⟩ := List.mem_filterMap.mp found
    obtain ⟨inner, some_, rfl⟩ := Option.map_eq_some_iff.mp value
    exact ⟨entry, inside, rfl, some_⟩
  refine .object (fun member found => ?_) fun member found => ?_
  · obtain ⟨entry, inside, same, -⟩ := listed found
    exact same ▸ known entry inside
  · obtain ⟨entry, inside, -, some_⟩ := listed found
    exact each entry inside member.2 some_

end Iperf.Cjson
