import ColumnTypes.Catalog.Loading
import ColumnTypes.Proofs.Validation

/-!
# What reading a catalog accepts

A catalog that has been read is **valid**: every column in it has a declared type that is a text of
at least one character, without surrogates.  Nothing else is asked of the values themselves.

Main statements:

* `Catalog.isValid_of_ofDocument` - only valid catalogs are read;
* `Catalog.ofDocument_toDocument` - a valid catalog is read back from the document that is written
  for it, whichever of its two names the type of a column is given.
-/

namespace ColumnTypes

open Document Checked

/-! ## Validity -/

/-- A column whose declared type can be read. -/
structure Column.IsValid (c : Column) : Prop where
  ne_empty : c.declaredType ≠ ""
  not_broken : Text.hasSurrogate c.declaredType = false

/-- A table with valid columns. -/
def Table.IsValid (t : Table) : Prop :=
  ∀ c ∈ t.columns, c.IsValid

/-- A schema with valid tables. -/
def Schema.IsValid (s : Schema) : Prop :=
  ∀ t ∈ s.tables, t.IsValid

/-- A catalog with valid schemas. -/
def Catalog.IsValid (c : Catalog) : Prop :=
  ∀ s ∈ c.schemas, s.IsValid

/-- A text passes exactly if it is neither broken nor empty. -/
theorem asNonemptyText_eq_ok_iff {d : Document} {s : String} :
    asNonemptyText d = .ok s ↔ asText d = .ok s ∧ s ≠ "" ∧ Text.hasSurrogate s = false := by
  unfold asNonemptyText
  cases asText d with
  | error faults => simp
  | ok t =>
      by_cases hbroken : Text.hasSurrogate t = true
      · simp only [hbroken, if_true, fail, reduceCtorEq, Except.ok.injEq, false_iff]
        rintro ⟨rfl, -, h⟩
        simp [hbroken] at h
      · by_cases hempty : t = ""
        · subst hempty
          simp only [hbroken, fail, Except.ok.injEq]
          constructor
          · intro h
            simp at h
          · rintro ⟨rfl, h, -⟩
            exact absurd rfl h
        · have hbroken : Text.hasSurrogate t = false := by simpa using hbroken
          simp only [hbroken, String.isEmpty_iff, hempty, if_false, Bool.false_eq_true,
            Except.ok.injEq]
          constructor
          · rintro rfl
            exact ⟨rfl, hempty, hbroken⟩
          · exact And.left

/-! ## Fields

A record is read exactly if each of its fields is, and nothing else is there. -/

variable {entries : List (Document × Document)}

/-- The fields of a column. -/
theorem Column.ofEntries_eq_ok_iff {c : Column} :
    Column.ofEntries entries = .ok c ↔
      optionalField ["name"] asText "" entries = .ok c.name ∧
      requiredField ["type", "declared_type"] asNonemptyText entries = .ok c.declaredType ∧
      optionalField ["not_null"] asBool false entries = .ok c.notNull ∧
      optionalField ["is_array"] asBool false entries = .ok c.isArray ∧
      noOtherEntries (usedNames Column.fields entries) entries = .ok () := by
  simp only [Column.ofEntries, map_eq_ok_iff, both_eq_ok_iff]
  constructor
  · rintro ⟨p, h, rfl⟩
    exact h
  · intro h
    exact ⟨⟨c.name, c.declaredType, c.notNull, c.isArray, ()⟩, h, rfl⟩

/-- The fields of an enum type. -/
theorem EnumType.ofEntries_eq_ok_iff {e : EnumType} :
    EnumType.ofEntries entries = .ok e ↔
      requiredField ["name"] asText entries = .ok e.name ∧
      optionalField ["vals"] (asList asText) [] entries = .ok e.values ∧
      noOtherEntries ["name", "vals"] entries = .ok () := by
  simp only [EnumType.ofEntries, map_eq_ok_iff, both_eq_ok_iff]
  constructor
  · rintro ⟨p, h, rfl⟩
    exact h
  · intro h
    exact ⟨⟨e.name, e.values, ()⟩, h, rfl⟩

/-- The fields of a composite type. -/
theorem CompositeType.ofEntries_eq_ok_iff {c : CompositeType} :
    CompositeType.ofEntries entries = .ok c ↔
      requiredField ["name"] asText entries = .ok c.name ∧
      noOtherEntries ["name"] entries = .ok () := by
  simp only [CompositeType.ofEntries, map_eq_ok_iff, both_eq_ok_iff]
  constructor
  · rintro ⟨p, h, rfl⟩
    exact h
  · intro h
    exact ⟨⟨c.name, ()⟩, h, rfl⟩

/-- The fields of a table. -/
theorem Table.ofEntries_eq_ok_iff {t : Table} :
    Table.ofEntries entries = .ok t ↔
      requiredField ["name"] asText entries = .ok t.name ∧
      optionalField ["columns"] (asList Column.ofDocument) [] entries = .ok t.columns ∧
      noOtherEntries ["name", "columns"] entries = .ok () := by
  simp only [Table.ofEntries, map_eq_ok_iff, both_eq_ok_iff]
  constructor
  · rintro ⟨p, h, rfl⟩
    exact h
  · intro h
    exact ⟨⟨t.name, t.columns, ()⟩, h, rfl⟩

/-- The fields of a schema. -/
theorem Schema.ofEntries_eq_ok_iff {s : Schema} :
    Schema.ofEntries entries = .ok s ↔
      requiredField ["name"] asText entries = .ok s.name ∧
      optionalField ["enums"] (asList EnumType.ofDocument) [] entries = .ok s.enums ∧
      optionalField ["composite_types"] (asList CompositeType.ofDocument) [] entries =
        .ok s.composites ∧
      optionalField ["tables"] (asList Table.ofDocument) [] entries = .ok s.tables ∧
      noOtherEntries ["name", "enums", "composite_types", "tables"] entries = .ok () := by
  simp only [Schema.ofEntries, map_eq_ok_iff, both_eq_ok_iff]
  constructor
  · rintro ⟨p, h, rfl⟩
    exact h
  · intro h
    exact ⟨⟨s.name, s.enums, s.composites, s.tables, ()⟩, h, rfl⟩

/-- The fields of a catalog. -/
theorem Catalog.ofEntries_eq_ok_iff {c : Catalog} :
    Catalog.ofEntries entries = .ok c ↔
      optionalField ["default_schema"] asText Catalog.publicSchema entries =
        .ok c.defaultSchema ∧
      optionalField ["schemas"] (asList Schema.ofDocument) [] entries = .ok c.schemas ∧
      noOtherEntries ["default_schema", "schemas"] entries = .ok () := by
  simp only [Catalog.ofEntries, map_eq_ok_iff, both_eq_ok_iff]
  constructor
  · rintro ⟨p, h, rfl⟩
    exact h
  · intro h
    exact ⟨⟨c.defaultSchema, c.schemas, ()⟩, h, rfl⟩

/-! ## Reading is sound -/

/-- A list of records has what every record that is read has. -/
theorem forall_mem_of_optionalField {α : Type} {names : List String}
    {check : Document → Checked α} {as : List α} {P : α → Prop}
    (hcheck : ∀ {d a}, check d = .ok a → P a)
    (h : optionalField names (asList check) [] entries = .ok as) : ∀ a ∈ as, P a := by
  rcases optionalField_eq_ok_iff.1 h with ⟨-, rfl⟩ | ⟨name, d, -, hd⟩
  · simp
  · obtain ⟨items, -, hitems⟩ := asList_eq_ok_iff.1 hd
    intro a ha
    obtain ⟨i, hi, rfl⟩ := List.getElem_of_mem ha
    exact hcheck (hitems.get (hitems.length_eq ▸ hi) hi)

/-- Only valid columns are read. -/
theorem Column.isValid_of_ofDocument {d : Document} {c : Column}
    (h : Column.ofDocument d = .ok c) : c.IsValid := by
  obtain ⟨entries, -, -, h⟩ := asStrictRecord_eq_ok_iff.1 h
  obtain ⟨-, htype, -⟩ := Column.ofEntries_eq_ok_iff.1 h
  obtain ⟨name, d, -, hd⟩ := requiredField_eq_ok_iff.1 htype
  obtain ⟨-, hne, hbroken⟩ := asNonemptyText_eq_ok_iff.1 hd
  exact ⟨hne, hbroken⟩

/-- Only valid tables are read. -/
theorem Table.isValid_of_ofDocument {d : Document} {t : Table}
    (h : Table.ofDocument d = .ok t) : t.IsValid := by
  obtain ⟨entries, -, -, h⟩ := asStrictRecord_eq_ok_iff.1 h
  obtain ⟨-, hcolumns, -⟩ := Table.ofEntries_eq_ok_iff.1 h
  exact forall_mem_of_optionalField Column.isValid_of_ofDocument hcolumns

/-- Only valid schemas are read. -/
theorem Schema.isValid_of_ofDocument {d : Document} {s : Schema}
    (h : Schema.ofDocument d = .ok s) : s.IsValid := by
  obtain ⟨entries, -, -, h⟩ := asStrictRecord_eq_ok_iff.1 h
  obtain ⟨-, -, -, htables, -⟩ := Schema.ofEntries_eq_ok_iff.1 h
  exact forall_mem_of_optionalField Table.isValid_of_ofDocument htables

/-- Only valid catalogs are read, from entries too. -/
theorem Catalog.isValid_of_ofEntries {c : Catalog} (h : Catalog.ofEntries entries = .ok c) :
    c.IsValid := by
  obtain ⟨-, hschemas, -⟩ := Catalog.ofEntries_eq_ok_iff.1 h
  exact forall_mem_of_optionalField Schema.isValid_of_ofDocument hschemas

/-- Parts give a catalog exactly if one is read from their entries. -/
theorem CatalogParts.catalog_eq_ok_iff_ofEntries {parts : CatalogParts} {c : Catalog} :
    parts.catalog = .ok c ↔ Catalog.ofEntries parts.entries = .ok c := by
  have hreport : (Catalog.ofEntries parts.entries).report "Catalog" = .ok c ↔
      Catalog.ofEntries parts.entries = .ok c := report_eq_ok_iff
  rw [← hreport]
  unfold catalog
  cases (Catalog.ofEntries parts.entries).report "Catalog" with
  | error report => simp
  | ok c => simp

/-- Only valid catalogs are read. -/
theorem Catalog.isValid_of_ofDocument {d : Document} {c : Catalog}
    (h : Catalog.ofDocument d = .ok c) : c.IsValid := by
  obtain ⟨entries, -, -, h⟩ := asStrictRecord_eq_ok_iff.1 h
  exact isValid_of_ofEntries h

/-! ## Reading what was written -/

/-- A record is read from its fields if no name of a field is broken. -/
theorem asStrictRecord_record {α : Type} {model : String}
    {check : List (Document × Document) → Checked α} {fields : List (String × Document)} {a : α}
    (names : List String) (hnames : fields.map Prod.fst = names)
    (hwhole : ∀ name ∈ names, Text.hasSurrogate name = false)
    (h : check (fields.map fun (name, value) => (.str name, value)) = .ok a) :
    asStrictRecord model check (.record fields) = .ok a := by
  refine asStrictRecord_eq_ok_iff.2 ⟨_, rfl, ?_, h⟩
  intro e he
  obtain ⟨f, hf, rfl⟩ := List.mem_map.1 he
  exact hwhole f.1 (hnames ▸ List.mem_map_of_mem hf)

/-- A list is read back if every item is. -/
theorem asList_list_map {α : Type} {check : Document → Checked α} {f : α → Document}
    {as : List α} (h : ∀ a ∈ as, check (f a) = .ok a) :
    asList check (.list (as.map f)) = .ok as :=
  each_map h

/-- A column is read back, by either name of its type. -/
theorem Column.ofDocument_toDocument (spelling : TypeSpelling) {c : Column} (h : c.IsValid) :
    Column.ofDocument (c.toDocument spelling) = .ok c := by
  have htype : asNonemptyText (.str c.declaredType) = .ok c.declaredType :=
    asNonemptyText_eq_ok_iff.2 ⟨rfl, h.ne_empty, h.not_broken⟩
  refine asStrictRecord_record ["name", spelling.text, "not_null", "is_array"] rfl
    (by cases spelling <;> decide) ?_
  refine Column.ofEntries_eq_ok_iff.2 ⟨?_, ?_, ?_, ?_, ?_⟩
  · rfl
  · refine requiredField_eq_ok_iff.2 ⟨spelling.text, _, ?_, htype⟩
    cases spelling <;> rfl
  · cases spelling <;> rfl
  · cases spelling <;> rfl
  · cases spelling <;> rfl

/-- An enum type is read back. -/
theorem EnumType.ofDocument_toDocument (e : EnumType) :
    EnumType.ofDocument e.toDocument = .ok e := by
  refine asStrictRecord_record ["name", "vals"] rfl (by decide) ?_
  refine EnumType.ofEntries_eq_ok_iff.2 ⟨rfl, ?_, rfl⟩
  exact under_eq_ok_iff.2 (asList_list_map fun _ _ => rfl)

/-- A composite type is read back. -/
theorem CompositeType.ofDocument_toDocument (c : CompositeType) :
    CompositeType.ofDocument c.toDocument = .ok c := by
  refine asStrictRecord_record ["name"] rfl (by decide) ?_
  exact CompositeType.ofEntries_eq_ok_iff.2 ⟨rfl, rfl⟩

/-- A valid table is read back. -/
theorem Table.ofDocument_toDocument (spelling : TypeSpelling) {t : Table} (h : t.IsValid) :
    Table.ofDocument (t.toDocument spelling) = .ok t := by
  refine asStrictRecord_record ["name", "columns"] rfl (by decide) ?_
  refine Table.ofEntries_eq_ok_iff.2 ⟨rfl, ?_, rfl⟩
  exact under_eq_ok_iff.2
    (asList_list_map fun c hc => Column.ofDocument_toDocument spelling (h c hc))

/-- A valid schema is read back. -/
theorem Schema.ofDocument_toDocument (spelling : TypeSpelling) {s : Schema} (h : s.IsValid) :
    Schema.ofDocument (s.toDocument spelling) = .ok s := by
  refine asStrictRecord_record ["name", "enums", "composite_types", "tables"] rfl
    (by decide) ?_
  refine Schema.ofEntries_eq_ok_iff.2 ⟨rfl, ?_, ?_, ?_, rfl⟩
  · exact under_eq_ok_iff.2 (asList_list_map fun e _ => e.ofDocument_toDocument)
  · exact under_eq_ok_iff.2 (asList_list_map fun c _ => c.ofDocument_toDocument)
  · exact under_eq_ok_iff.2
      (asList_list_map fun t ht => Table.ofDocument_toDocument spelling (h t ht))

/-- The names of the fields of a catalog are whole texts. -/
theorem Catalog.isBrokenText_names :
    ∀ name ∈ ["default_schema", "schemas"], Document.isBrokenText (.str name) = false := by
  decide

/-- **A valid catalog is read back from the document that is written for it.** -/
theorem Catalog.ofDocument_toDocument (spelling : TypeSpelling) {c : Catalog} (h : c.IsValid) :
    Catalog.ofDocument (c.toDocument spelling) = .ok c := by
  refine asStrictRecord_record ["default_schema", "schemas"] rfl isBrokenText_names ?_
  refine Catalog.ofEntries_eq_ok_iff.2 ⟨rfl, ?_, rfl⟩
  exact under_eq_ok_iff.2
    (asList_list_map fun s hs => Schema.ofDocument_toDocument spelling (h s hs))

end ColumnTypes
