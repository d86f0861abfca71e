import ColumnTypes.Proofs.Resolution.EnumNames
import ColumnTypes.Proofs.StructName.Exported

/-!
# Which enums have an exported Go type

The Go type of an enum is the struct name of its key.  Where the names of schemas and enums need no
quotes, it is made of letters and digits, and it is exported exactly if the first character of the
key that is no underscore is a letter (`Catalog.isExported_enum_goType_iff`).  The enums `_1` and
`_` have legal names and no exported Go type (`Catalog.not_isExported_goType`).
-/

namespace ColumnTypes.Catalog

open StructName

/-- A catalog whose schemas and enums all have names that need no quotes. -/
def HasLegalNames (c : Catalog) : Prop :=
  ∀ s ∈ c.schemas, IsLegalName s.name ∧ ∀ e ∈ s.enums, IsLegalName e.name

instance (c : Catalog) : Decidable c.HasLegalNames :=
  inferInstanceAs (Decidable (∀ s ∈ c.schemas, IsLegalName s.name ∧
    ∀ e ∈ s.enums, IsLegalName e.name))

variable {c : Catalog}

/-- The schema and the name of an enum that is found are legal. -/
theorem isLegalName_of_resolvesToEnum {declared schema name : String} (hc : c.HasLegalNames)
    (h : c.ResolvesToEnum declared schema name) : IsLegalName schema ∧ IsLegalName name := by
  obtain ⟨s, hs, rfl, e, he, rfl⟩ := h.exists_mem
  exact ⟨(hc s hs).1, (hc s hs).2 e he⟩

/-- The key of an enum holds only the characters of names where schema and name are legal. -/
theorem all_isNameChar_enumKey {schema name : String} (hs : IsLegalName schema)
    (hn : IsLegalName name) : (c.enumKey schema name).toList.all isNameChar = true := by
  unfold enumKey
  split
  · exact all_isNameChar_of_isLegal hn
  · rw [String.toList_append, String.toList_append, List.all_append, List.all_append,
      all_isNameChar_of_isLegal hs, all_isNameChar_of_isLegal hn]
    decide

/-- **Exported Go types of enums.** Where the names of schemas and enums need no quotes and nothing
is overridden, the Go type of an enum holds ASCII letters and digits only, and it is exported
exactly if the first character of the enum's key that is no underscore is a letter. -/
theorem isExported_enum_goType_iff (hc : c.HasLegalNames) {settings : Settings}
    (hrename : settings.rename = []) {column : Column} {schema name : String}
    (h : c.ResolvesToEnum column.declaredType schema name) :
    (∀ x ∈ (c.goType settings column).text.toList, x.isAlphanum = true) ∧
      (IsExportedName (c.goType settings column).text ↔
        ∃ x, lead? (c.enumKey schema name).toList = some x ∧ x.isLower = true) := by
  obtain ⟨hs, hn⟩ := isLegalName_of_resolvesToEnum hc h
  have hkey := all_isNameChar_enumKey (c := c) hs hn
  have htext : (c.goType settings column).text.toList = ofChars (c.enumKey schema name).toList := by
    rw [goType_of_resolvesToEnum hrename h]
    exact String.toList_ofList
  unfold IsExportedName
  rw [htext]
  exact ⟨fun x hx => List.all_eq_true.1 (all_isAlphanum_ofChars hkey) x hx,
    isExported_ofChars_iff hkey⟩

/-! ## Underscores in front -/

/-- Enums whose names begin with underscores. -/
def underscoredCatalog : Catalog :=
  ⟨"public", [⟨"public", [⟨"_1", []⟩, ⟨"_", []⟩], [], []⟩, ⟨"_app", [⟨"_1", []⟩], [], []⟩]⟩

/-- Behind a schema whose name has a letter, the digit does not come first. -/
theorem isExported_goType_app :
    underscoredCatalog.HasLegalNames ∧ underscoredCatalog.ResolvesToEnum "_app._1" "_app" "_1" ∧
      IsExportedName
        (underscoredCatalog.goType ⟨none, [], false⟩ ⟨"a", "_app._1", true, false⟩).text := by
  have hlegal : underscoredCatalog.HasLegalNames := by decide
  have henum : underscoredCatalog.ResolvesToEnum "_app._1" "_app" "_1" :=
    ⟨by decide, ⟨Family.ofDeclared?_eq_none_iff.1 (by decide), by decide,
      ["_app"], ⟨by decide, by decide⟩, .inl ⟨rfl, by decide⟩⟩, by decide,
      _, ⟨[_], [], rfl, rfl, by decide, by decide⟩, by decide⟩
  have hiff := @isExported_enum_goType_iff underscoredCatalog hlegal ⟨none, [], false⟩ rfl
    ⟨"a", "_app._1", true, false⟩ _ _ henum
  exact ⟨hlegal, henum, hiff.2.2 ⟨'a', by decide, by decide⟩⟩

/-- The enums `_1` and `_` of the default schema have legal names, and the Go types `1` and the
empty text, which Go does not export. -/
theorem not_isExported_goType :
    underscoredCatalog.HasLegalNames ∧ underscoredCatalog.ResolvesToEnum "_1" "public" "_1" ∧
      underscoredCatalog.ResolvesToEnum "_" "public" "_" ∧
      (underscoredCatalog.goType ⟨some .standard, [], false⟩ ⟨"a", "_1", true, false⟩).text = "1" ∧
      (underscoredCatalog.goType ⟨some .standard, [], false⟩ ⟨"b", "_", true, false⟩).text = "" ∧
      ¬IsExportedName "1" ∧ ¬IsExportedName "" := by
  have hone : underscoredCatalog.ResolvesToEnum "_1" "public" "_1" :=
    ⟨by decide, ⟨Family.ofDeclared?_eq_none_iff.1 (by decide), by decide,
      [], ⟨by decide, by decide⟩, .inr ⟨.inl rfl, rfl⟩⟩, by decide,
      _, ⟨[], _, rfl, rfl, by decide, by decide⟩, by decide⟩
  have hmark : underscoredCatalog.ResolvesToEnum "_" "public" "_" :=
    ⟨by decide, ⟨Family.ofDeclared?_eq_none_iff.1 (by decide), by decide,
      [], ⟨by decide, by decide⟩, .inr ⟨.inl rfl, rfl⟩⟩, by decide,
      _, ⟨[], _, rfl, rfl, by decide, by decide⟩, by decide⟩
  exact ⟨by decide, hone, hmark, by decide, by decide, by decide, by decide⟩

end ColumnTypes.Catalog
