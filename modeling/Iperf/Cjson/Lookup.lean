import Iperf.Cjson.Parser

/-! The names of members: `cJSON_GetObjectItem` finds the first one that differs in case at most.
-/

namespace Iperf.Cjson

/-- `tolower` in the locale of the program. -/
def tolower (c : UInt8) : UInt8 := if 65 ≤ c ∧ c ≤ 90 then c + 32 else c

/-- `case_insensitive_strcmp`: the difference of the first letters that differ, or of a letter and
the zero.
-/
def caseInsensitiveStrcmp : List UInt8 → List UInt8 → Int
  | [], [] => 0
  | [], c₂ :: _ => -(tolower c₂).toNat
  | c₁ :: _, [] => (tolower c₁).toNat
  | c₁ :: string1, c₂ :: string2 =>
      if tolower c₁ = tolower c₂ then caseInsensitiveStrcmp string1 string2
      else (tolower c₁).toNat - (tolower c₂).toNat

/-- `get_object_item`. The elements of an array have no names. -/
def getObjectItem (name : CString) (caseSensitive : Bool) : Item → Option Item
  | .object children =>
      (children.find? fun (string, _) =>
        if caseSensitive then name = string else caseInsensitiveStrcmp name.1 string.1 = 0).map
          Prod.snd
  | _ => none

theorem tolower_ne_zero {c : UInt8} (some_ : c ≠ 0) : tolower c ≠ 0 := by
  unfold tolower
  split_ifs with upper
  · have high := UInt8.le_iff_toNat_le.mp upper.2
    intro zero
    have value := congrArg UInt8.toNat zero
    rw [UInt8.toNat_add] at value
    change (c.toNat + 32) % 256 = 0 at value
    change c.toNat ≤ 90 at high
    omega
  · exact some_

theorem tolower_tolower (c : UInt8) : tolower (tolower c) = tolower c := by
  unfold tolower
  by_cases upper : 65 ≤ c ∧ c ≤ 90
  · rw [if_pos upper]
    refine if_neg fun again => ?_
    have low := UInt8.le_iff_toNat_le.mp upper.1
    have high := UInt8.le_iff_toNat_le.mp upper.2
    have bound := UInt8.le_iff_toNat_le.mp again.2
    rw [UInt8.toNat_add] at bound
    change (c.toNat + 32) % 256 ≤ 90 at bound
    change 65 ≤ c.toNat at low
    change c.toNat ≤ 90 at high
    omega
  · rw [if_neg upper, if_neg upper]

/-- A name in lower case; names are compared so. -/
def lowered (string : CString) : CString :=
  ⟨string.1.map tolower, by
    intro zero
    obtain ⟨c, member, lower⟩ := List.mem_map.mp zero
    refine tolower_ne_zero ?_ lower
    rintro rfl
    exact string.2 member⟩

theorem lowered_lowered (string : CString) : lowered (lowered string) = lowered string := by
  refine Subtype.ext ?_
  change (string.1.map tolower).map tolower = string.1.map tolower
  rw [List.map_map]
  exact List.map_congr_left fun c _ => tolower_tolower c

/-- Two strings are taken for one if they agree in lower case. -/
theorem caseInsensitiveStrcmp_eq_zero {string1 string2 : List UInt8} (nulFree₁ : 0 ∉ string1)
    (nulFree₂ : 0 ∉ string2)
    : caseInsensitiveStrcmp string1 string2 = 0 ↔ string1.map tolower = string2.map tolower := by
  have positive {c : UInt8} (some_ : 0 ≠ c) : (tolower c).toNat ≠ 0 := by
    intro zero
    exact tolower_ne_zero some_.symm (UInt8.toNat_inj.mp zero)
  induction string1 generalizing string2 with
  | nil =>
      cases string2 with
      | nil => simp [caseInsensitiveStrcmp]
      | cons c₂ string2 =>
          have second := positive (List.ne_of_not_mem_cons nulFree₂)
          rw [caseInsensitiveStrcmp, List.map_nil, List.map_cons]
          refine iff_of_false ?_ (List.cons_ne_nil _ _).symm
          omega
  | cons c₁ string1 ih =>
      have first := positive (List.ne_of_not_mem_cons nulFree₁)
      cases string2 with
      | nil =>
          rw [caseInsensitiveStrcmp, List.map_nil, List.map_cons]
          refine iff_of_false ?_ (List.cons_ne_nil _ _)
          omega
      | cons c₂ string2 =>
          have rest := ih (List.not_mem_of_not_mem_cons nulFree₁)
            (List.not_mem_of_not_mem_cons nulFree₂)
          rw [caseInsensitiveStrcmp, List.map_cons, List.map_cons, List.cons.injEq]
          split_ifs with same
          · exact rest.trans (by simp only [same, true_and])
          · refine iff_of_false ?_ fun both => same both.1
            intro zero
            refine same (UInt8.toNat_inj.mp ?_)
            omega

theorem caseInsensitiveStrcmp_lowered (string1 string2 : CString)
    : caseInsensitiveStrcmp string1.1 string2.1 = 0 ↔ lowered string1 = lowered string2 := by
  rw [Subtype.ext_iff]
  exact caseInsensitiveStrcmp_eq_zero string1.2 string2.2

end Iperf.Cjson
