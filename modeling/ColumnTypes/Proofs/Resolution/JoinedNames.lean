import ColumnTypes.Proofs.Resolution.EnumNames
import ColumnTypes.Proofs.Text.Case
import Mathlib.Data.List.Basic

/-!
# Struct names of joined names

An underscore between two names splits each of them on its own, so the struct name of the whole is
the struct names of both, one after the other.  It does not matter what the two names hold: where
one of them is empty, or has an underscore at the seam, an empty part adds nothing.

Inside a part only letters change, and only their case: the parts spell the name without its
underscores (`Text.flatten_splitAt`), and no upper case brings an underscore back.

Main statement (`structName_joined`).
-/

namespace ColumnTypes

namespace StructName

/-! ## Underscores -/

/-- An underscore joins two names. -/
theorem ofChars_append_underscore (as bs : List Char) :
    ofChars (as ++ '_' :: bs) = ofChars as ++ ofChars bs := by
  unfold ofChars
  rw [Text.splitAt_append_cons, List.flatMap_append]

/-- The upper case of an ASCII character is itself or, for a lower-case letter, its capital. -/
theorem upper_of_lt {c : Char} (h : c.toNat < 128) :
    Text.upper c = [if c.isLower then capital c else c] := by
  have hletter : 'a' ≤ c ∧ c ≤ 'z' ↔ c.isLower = true := by
    rw [isLower_iff, Char.le_def, Char.le_def, UInt32.le_iff_toNat_le, UInt32.le_iff_toNat_le]
    rfl
  rw [Text.upper, if_pos h]
  simp only [hletter, capital]

/-- No other character has an underscore in its upper case. -/
theorem underscore_not_mem_upper {c : Char} (h : c ≠ '_') : '_' ∉ Text.upper c := by
  intro hmem
  by_cases hc : c.toNat < 128
  · rw [upper_of_lt hc, List.mem_singleton] at hmem
    split_ifs at hmem with hlower
    · have hmark : (capital c).toNat = 95 := by rw [← hmem]; rfl
      have hvalue := toNat_capital hlower
      have hrange := isLower_iff.1 hlower
      omega
    · exact h hmem.symm
  · have hraised := Text.isRaised_of_mem_upper (by omega) hmem
    exact absurd hraised (by decide)

/-- The exported form of a part without underscores has none. -/
theorem underscore_not_mem_ofPart {part : List Char} (h : '_' ∉ part) : '_' ∉ ofPart part := by
  unfold ofPart
  split_ifs
  · decide
  · cases part with
    | nil => exact h
    | cons c cs =>
        obtain ⟨hc, hcs⟩ := not_or.1 (mt List.mem_cons.2 h)
        rw [capitalized, List.mem_append, not_or]
        exact ⟨underscore_not_mem_upper (Ne.symm hc), hcs⟩

/-- The exported form of a name has no underscores. -/
theorem underscore_not_mem_ofChars (name : List Char) : '_' ∉ ofChars name := by
  intro h
  obtain ⟨part, hpart, hmem⟩ := List.mem_flatMap.1 h
  exact underscore_not_mem_ofPart (Text.not_mem_of_mem_splitAt hpart) hmem

/-! ## Case -/

/-- Lower case takes a capital back to its letter. -/
theorem lowerAscii_capital {c : Char} (h : c.isLower = true) : Text.lowerAscii (capital c) = c := by
  have hvalue := toNat_capital h
  have hrange := isLower_iff.1 h
  have hcapital : 'A' ≤ capital c ∧ capital c ≤ 'Z' := by
    rw [Char.le_def, Char.le_def, UInt32.le_iff_toNat_le, UInt32.le_iff_toNat_le]
    show 65 ≤ (capital c).toNat ∧ (capital c).toNat ≤ 90
    omega
  rw [Text.lowerAscii, if_pos hcapital, hvalue, Nat.sub_add_cancel (by omega), Char.ofNat_toNat]

/-- Lower case leaves a lower-case letter as it is. -/
theorem lowerAscii_of_isLower {c : Char} (h : c.isLower = true) : Text.lowerAscii c = c := by
  have hrange := isLower_iff.1 h
  have hother : ¬('A' ≤ c ∧ c ≤ 'Z') := by
    rw [Char.le_def, Char.le_def, UInt32.le_iff_toNat_le, UInt32.le_iff_toNat_le]
    show ¬(65 ≤ c.toNat ∧ c.toNat ≤ 90)
    omega
  rw [Text.lowerAscii, if_neg hother]

/-- Inside ASCII, upper case changes nothing but the case of a letter. -/
theorem map_lowerAscii_upper {c : Char} (h : c.toNat < 128) :
    (Text.upper c).map Text.lowerAscii = [Text.lowerAscii c] := by
  rw [upper_of_lt h, List.map_singleton]
  split_ifs with hlower
  · rw [lowerAscii_capital hlower, lowerAscii_of_isLower hlower]
  · rfl

/-- The exported form of a part has its characters up to case. -/
theorem map_lowerAscii_ofPart {part : List Char} (h : ∀ c ∈ part, c.toNat < 128) :
    (ofPart part).map Text.lowerAscii = part.map Text.lowerAscii := by
  unfold ofPart
  split_ifs with hid
  · rw [hid]
    decide
  · cases part with
    | nil => rfl
    | cons c cs =>
        rw [capitalized, List.map_append, map_lowerAscii_upper (h c List.mem_cons_self)]
        rfl

/-- The exported form of a name has its characters up to case, less the underscores. -/
theorem map_lowerAscii_ofChars {name : List Char} (h : ∀ c ∈ name, c.toNat < 128) :
    (ofChars name).map Text.lowerAscii = (name.filter (· ≠ '_')).map Text.lowerAscii := by
  have hparts : ∀ part ∈ Text.splitAt '_' name,
      (ofPart part).map Text.lowerAscii = part.map Text.lowerAscii :=
    fun part hpart => map_lowerAscii_ofPart fun c hc => h c (Text.mem_of_mem_splitAt hpart hc)
  calc (ofChars name).map Text.lowerAscii
      = (Text.splitAt '_' name).flatMap fun part => (ofPart part).map Text.lowerAscii :=
        List.map_flatMap
    _ = (Text.splitAt '_' name).flatMap fun part => part.map Text.lowerAscii :=
        List.flatMap_congr hparts
    _ = (Text.splitAt '_' name).flatten.map Text.lowerAscii := by
        rw [List.map_flatten, List.flatMap_def]
    _ = (name.filter (· ≠ '_')).map Text.lowerAscii := by rw [Text.flatten_splitAt]

end StructName

open StructName

/-- The struct name of joined names, without overrides. -/
theorem structName_append_underscore (a b : String) :
    structName [] (a ++ "_" ++ b) = structName [] a ++ structName [] b := by
  have hname : (a ++ "_" ++ b).toList = a.toList ++ '_' :: b.toList := by simp
  show derived (a ++ "_" ++ b) = derived a ++ derived b
  unfold derived
  rw [hname, ofChars_append_underscore, String.ofList_append]

/-- **Joined names.** Without overrides the struct name of two names joined by an underscore is the
struct names of both, one after the other, so an enum outside the default schema has the struct name
of its schema in front of its own. A struct name has no underscore, and that of an ASCII name has
its characters less the underscores, each up to case. -/
theorem structName_joined (a b : String) :
    structName [] (a ++ "_" ++ b) = structName [] a ++ structName [] b ∧
      (∀ (c : Catalog) (settings : Settings) (column : Column) (schema name : String),
        settings.rename = [] → schema ≠ c.defaultSchema →
        c.ResolvesToEnum column.declaredType schema name →
        (c.goType settings column).text = structName [] schema ++ structName [] name) ∧
      '_' ∉ (structName [] a).toList ∧
      ((∀ x ∈ a.toList, x.toNat < 128) →
        (structName [] a).toList.map Text.lowerAscii =
          (a.toList.filter (· ≠ '_')).map Text.lowerAscii) := by
  have htext : (structName [] a).toList = ofChars a.toList := String.toList_ofList
  refine ⟨structName_append_underscore a b, ?_, ?_, ?_⟩
  · intro c settings column schema name hrename hschema henum
    have hkey : c.enumKey schema name = schema ++ "_" ++ name := if_neg hschema
    rw [henum.goType_eq, hrename, hkey, structName_append_underscore]
    rfl
  · rw [htext]
    exact underscore_not_mem_ofChars a.toList
  · intro hascii
    rw [htext]
    exact map_lowerAscii_ofChars hascii

/-- The enum `status` of the schema `billing` is called after both, and the name `id__user` keeps
its letters. -/
theorem structName_billing_status :
    (Catalog.statusCatalog.ResolvesToEnum "billing.status" "billing" "status" ∧
      (Catalog.statusCatalog.goType ⟨none, [], false⟩ ⟨"b", "billing.status", true, false⟩).text =
        "Billing" ++ "Status") ∧
    (∀ x ∈ "id__user".toList, x.toNat < 128) ∧
      (structName [] "id__user").toList.map Text.lowerAscii = "iduser".toList := by
  have hall : ("id__user".toList.all fun x => x.toNat < 128) = true := by decide
  have hascii : ∀ x ∈ "id__user".toList, x.toNat < 128 :=
    fun x hx => of_decide_eq_true (List.all_eq_true.1 hall x hx)
  obtain ⟨-, henum, -, -⟩ := structName_joined "billing" "status"
  obtain ⟨-, -, -, hletters⟩ := structName_joined "id__user" ""
  refine ⟨⟨Catalog.resolvesToEnum_billing, ?_⟩, hascii, ?_⟩
  · exact henum Catalog.statusCatalog ⟨none, [], false⟩ ⟨"b", "billing.status", true, false⟩
      "billing" "status" rfl (by decide) Catalog.resolvesToEnum_billing
  · exact hletters hascii

end ColumnTypes
