import ColumnTypes.Catalog.Loading
import ColumnTypes.Document.Equality
import ColumnTypes.Proofs.Catalog.Listing
import ColumnTypes.Proofs.Catalog.Reading
import ColumnTypes.Proofs.Text.CodePoints
import ColumnTypes.Proofs.Yaml.Reading

/-!
# Catalogs in a single file

A file whose document is a mapping of schemas and a default schema is loaded exactly as its document
is read:

* an **empty entry** counts as absent, so the document is read without it;
* a list of schemas that is written as something else to go through is refused on both ways.

Main statement (`Surroundings.loadCatalog_of_readYaml`).  It also says that no schema of a file gets
by with an entry that is not one of its fields, at any level.

## Strategy

The loader picks two entries out of the document and puts what it goes through in the place of the
list.  The keys of the document are different (`Yaml.isKeyed_of_read`), so what is picked is what a
check of the document finds.  What else than a list can be gone through has no mapping in it, so the
schemas are refused one by one where the check refuses the whole (`schemas_eq_ok_iff`).
-/

namespace ColumnTypes

open Document Checked

variable {d v : Document} {entries : List (Document × Document)} {name : String}

/-! ## Entries that are no fields -/

namespace Document

/-- A mapping with an entry that no field uses. -/
def HasOtherEntry (used : List (Document × Document) → List String) (d : Document) : Prop :=
  ∃ entries, d.entries? = some entries ∧ ∃ e ∈ entries, ∀ s ∈ used entries, e.1 ≠ .str s

/-- A mapping with a list under a name, and in the list an item of a kind. -/
def HasItem (name : String) (P : Document → Prop) (d : Document) : Prop :=
  ∃ entries v items, d.entries? = some entries ∧ valueOf? name entries = some v ∧
    v.items? = some items ∧ ∃ item ∈ items, P item

end Document

/-- A column with an entry that is no field. -/
def Column.HasOtherEntry : Document → Prop :=
  Document.HasOtherEntry (usedNames Column.fields)

/-- An enum type with an entry that is no field. -/
def EnumType.HasOtherEntry : Document → Prop :=
  Document.HasOtherEntry fun _ => ["name", "vals"]

/-- A composite type with an entry that is no field. -/
def CompositeType.HasOtherEntry : Document → Prop :=
  Document.HasOtherEntry fun _ => ["name"]

/-- A table with an entry that is no field, in itself or in a column. -/
def Table.HasOtherEntry (d : Document) : Prop :=
  Document.HasOtherEntry (fun _ => ["name", "columns"]) d ∨
    d.HasItem "columns" Column.HasOtherEntry

/-- A schema with an entry that is no field, in itself or in anything in it. -/
def Schema.HasOtherEntry (d : Document) : Prop :=
  Document.HasOtherEntry (fun _ => ["name", "enums", "composite_types", "tables"]) d ∨
    d.HasItem "enums" EnumType.HasOtherEntry ∨
    d.HasItem "composite_types" CompositeType.HasOtherEntry ∨
    d.HasItem "tables" Table.HasOtherEntry

section Strictness

variable {α : Type} {used : List (Document × Document) → List String} {P : Document → Prop}
  {check : Document → Checked α} {as : List α}

/-- Entries that no field uses are refused. -/
theorem not_hasOtherEntry (hd : d.entries? = some entries)
    (h : noOtherEntries (used entries) entries = .ok ()) : ¬d.HasOtherEntry used := by
  rintro ⟨entries', hentries', e, he, hother⟩
  obtain rfl := Option.some.inj (hd.symm.trans hentries')
  obtain ⟨s, hs, heq⟩ := noOtherEntries_eq_ok_iff.1 h e he
  exact hother s hs heq

/-- A list of which every item is read has no item that cannot be read. -/
theorem not_hasItem (hd : d.entries? = some entries)
    (h : optionalField [name] (asList check) [] entries = .ok as)
    (hP : ∀ item a, check item = .ok a → ¬P item) : ¬d.HasItem name P := by
  rintro ⟨entries', v, items, hentries', hv, hitems, item, hitem, hbad⟩
  obtain rfl := Option.some.inj (hd.symm.trans hentries')
  have hfound : findField? [name] entries = some (name, v) := by rw [findField?_singleton, hv]; rfl
  rcases optionalField_eq_ok_iff.1 h with ⟨hnone, -⟩ | ⟨name', v', hsome, hlist⟩
  · exact nomatch hfound.symm.trans hnone
  · obtain ⟨-, rfl⟩ := Prod.mk.inj (Option.some.inj (hsome.symm.trans hfound))
    obtain ⟨items', hitems', hall⟩ := asList_eq_ok_iff.1 hlist
    obtain rfl := Option.some.inj (hitems.symm.trans hitems')
    obtain ⟨i, hi, rfl⟩ := List.getElem_of_mem hitem
    exact hP _ _ (hall.get hi (hall.length_eq ▸ hi)) hbad

/-- Columns are read strictly. -/
theorem Column.not_hasOtherEntry {c : Column} (h : Column.ofDocument d = .ok c) :
    ¬Column.HasOtherEntry d := by
  obtain ⟨entries, hd, -, hentries⟩ := asStrictRecord_eq_ok_iff.1 h
  exact ColumnTypes.not_hasOtherEntry hd (Column.ofEntries_eq_ok_iff.1 hentries).2.2.2.2

/-- Enum types are read strictly. -/
theorem EnumType.not_hasOtherEntry {e : EnumType} (h : EnumType.ofDocument d = .ok e) :
    ¬EnumType.HasOtherEntry d := by
  obtain ⟨entries, hd, -, hentries⟩ := asStrictRecord_eq_ok_iff.1 h
  exact ColumnTypes.not_hasOtherEntry hd (EnumType.ofEntries_eq_ok_iff.1 hentries).2.2

/-- Composite types are read strictly. -/
theorem CompositeType.not_hasOtherEntry {c : CompositeType}
    (h : CompositeType.ofDocument d = .ok c) : ¬CompositeType.HasOtherEntry d := by
  obtain ⟨entries, hd, -, hentries⟩ := asStrictRecord_eq_ok_iff.1 h
  exact ColumnTypes.not_hasOtherEntry hd (CompositeType.ofEntries_eq_ok_iff.1 hentries).2

/-- Tables are read strictly. -/
theorem Table.not_hasOtherEntry {t : Table} (h : Table.ofDocument d = .ok t) :
    ¬Table.HasOtherEntry d := by
  obtain ⟨entries, hd, -, hentries⟩ := asStrictRecord_eq_ok_iff.1 h
  obtain ⟨-, hcolumns, hothers⟩ := Table.ofEntries_eq_ok_iff.1 hentries
  rintro (hother | hcolumn)
  · exact ColumnTypes.not_hasOtherEntry hd hothers hother
  · exact not_hasItem hd hcolumns (fun _ _ => Column.not_hasOtherEntry) hcolumn

/-- Schemas are read strictly. -/
theorem Schema.not_hasOtherEntry {s : Schema} (h : Schema.ofDocument d = .ok s) :
    ¬Schema.HasOtherEntry d := by
  obtain ⟨entries, hd, -, hentries⟩ := asStrictRecord_eq_ok_iff.1 h
  obtain ⟨-, henums, hcomposites, htables, hothers⟩ := Schema.ofEntries_eq_ok_iff.1 hentries
  rintro (hother | henum | hcomposite | htable)
  · exact ColumnTypes.not_hasOtherEntry hd hothers hother
  · exact not_hasItem hd henums (fun _ _ => EnumType.not_hasOtherEntry) henum
  · exact not_hasItem hd hcomposites (fun _ _ => CompositeType.not_hasOtherEntry) hcomposite
  · exact not_hasItem hd htables (fun _ _ => Table.not_hasOtherEntry) htable

end Strictness

/-! ## What can be gone through -/

/-- What has items is gone through by them. -/
theorem elements?_of_items? {items : List Document} (h : v.items? = some items) :
    CatalogParts.elements? v = some items := by
  unfold items? at h
  unfold CatalogParts.elements?
  split at h
  · next heq => rw [heq]; exact h
  · next heq => rw [heq]; exact h
  · next heq => rw [heq]; exact h
  · exact nomatch h

/-- The elements of what has no items are there, if it is not empty, and none is a mapping. -/
theorem elements_of_items?_eq_none {elements : List Document} (hv : v.IsKeyed)
    (hfilled : v.isEmpty = false) (hitems : v.items? = none)
    (h : CatalogParts.elements? v = some elements) :
    elements ≠ [] ∧ ∀ x ∈ elements, x.entries? = none := by
  rw [← isEmpty_unrolled] at hfilled
  unfold items? at hitems
  unfold CatalogParts.elements? at h
  split at h
  · next heq => exact absurd hitems (by simp [heq])
  · next heq => exact absurd hitems (by simp [heq])
  · next heq => exact absurd hitems (by simp [heq])
  · next entries heq =>
    obtain rfl := Option.some.inj h
    have hscalar := (hv.of_entries? (entries?_eq_some_iff.2 heq)).1
    refine ⟨fun hnil => ?_, List.forall_mem_map.2 fun e he => entries?_of_isScalar (hscalar e he)⟩
    rw [heq, List.map_eq_nil_iff.1 hnil] at hfilled
    exact nomatch hfilled
  · next s heq =>
    obtain rfl := Option.some.inj h
    have hne : s ≠ "" := by
      rintro rfl
      rw [heq] at hfilled
      exact nomatch hfilled
    exact ⟨fun hnil => Text.codes_ne_nil hne (List.map_eq_nil_iff.1 hnil),
      List.forall_mem_map.2 fun _ _ => rfl⟩
  · next b heq =>
    obtain rfl := Option.some.inj h
    refine ⟨fun hnil => ?_, List.forall_mem_map.2 fun _ _ => rfl⟩
    rw [heq, List.map_eq_nil_iff.1 hnil] at hfilled
    exact nomatch hfilled
  · exact nomatch h

/-- A list of schemas passes exactly if the schemas that it is gone through by do. -/
theorem schemas_eq_ok_iff {elements : List Document} {schemas : List Schema} (hv : v.IsKeyed)
    (hfilled : v.isEmpty = false) (h : CatalogParts.elements? v = some elements) :
    asList Schema.ofDocument v = .ok schemas ↔
      asList Schema.ofDocument (.list elements) = .ok schemas := by
  cases hitems : v.items? with
  | some items =>
      obtain rfl := Option.some.inj ((elements?_of_items? hitems).symm.trans h)
      rw [asList_eq_ok_iff, asList_eq_ok_iff, hitems]
      rfl
  | none =>
      obtain ⟨hne, hmapping⟩ := elements_of_items?_eq_none hv hfilled hitems h
      constructor
      · intro hlist
        obtain ⟨items, hsome, -⟩ := asList_eq_ok_iff.1 hlist
        exact nomatch hitems.symm.trans hsome
      · intro hlist
        obtain ⟨items, hsome, hall⟩ := asList_eq_ok_iff.1 hlist
        obtain rfl := Option.some.inj (hsome : some elements = some items)
        cases hall with
        | nil => exact absurd rfl hne
        | cons hfirst _ =>
            obtain ⟨entries, hentries, -⟩ := asStrictRecord_eq_ok_iff.1 hfirst
            exact nomatch (hmapping _ List.mem_cons_self).symm.trans hentries

/-! ## Parts -/

/-- A mapping without the entries that are empty. -/
def Document.filled (d : Document) : Document :=
  match d.entries? with
  | some entries => .map (entries.filter fun e => !e.2.isEmpty)
  | none => d

/-- The fields of the catalog that parts give. -/
theorem CatalogParts.catalog_eq_ok_iff {parts : CatalogParts} {c : Catalog} :
    parts.catalog = .ok c ↔
      optionalField ["default_schema"] asText Catalog.publicSchema parts.entries =
          .ok c.defaultSchema ∧
        asList Schema.ofDocument (.list parts.schemas) = .ok c.schemas := by
  have hothers : noOtherEntries ["default_schema", "schemas"] parts.entries = .ok () := by
    unfold entries
    cases parts.defaultSchema <;> rfl
  have hschemas : optionalField ["schemas"] (asList Schema.ofDocument) [] parts.entries =
      (asList Schema.ofDocument (.list parts.schemas)).under (.field "schemas") := rfl
  rw [catalog_eq_ok_iff_ofEntries, Catalog.ofEntries_eq_ok_iff, hschemas, under_eq_ok_iff]
  simp only [hothers, and_true]

/-- Parts that give no catalog are invalid. -/
theorem CatalogParts.exists_report {parts : CatalogParts} (h : ∀ c, parts.catalog ≠ .ok c) :
    ∃ report, parts.catalog = .error (.invalid report) := by
  unfold catalog at h ⊢
  split at h
  · next c heq => exact absurd rfl (h c)
  · next report heq => exact ⟨report, rfl⟩

/-- The parts of a mapping with a list of schemas. -/
theorem CatalogParts.ofEntries_eq_ok_iff {parts : CatalogParts} :
    CatalogParts.ofEntries entries = .ok parts ↔
      parts.defaultSchema = CatalogParts.filled? "default_schema" entries ∧
        ((CatalogParts.filled? "schemas" entries = none ∧ parts.schemas = []) ∨
          ∃ v, CatalogParts.filled? "schemas" entries = some v ∧
            CatalogParts.elements? v = some parts.schemas) := by
  obtain ⟨defaultSchema, schemas⟩ := parts
  unfold CatalogParts.ofEntries
  cases hschemas : CatalogParts.filled? "schemas" entries with
  | none => simp [eq_comm]
  | some v =>
      cases helements : CatalogParts.elements? v with
      | none => simp [helements]
      | some elements => simp [helements, eq_comm]

/-! ## Picked entries -/

section Picked

variable {schemas : List Schema} {parts : CatalogParts}

/-- Among different keys what is picked is what is found in the filled document. -/
theorem valueOf?_filled (hdistinct : HasDistinctKeys entries) (name : String) :
    valueOf? name (entries.filter fun e => !e.2.isEmpty) = CatalogParts.filled? name entries :=
  valueOf?_filter hdistinct (fun d => !d.isEmpty) name

/-- The fields of a filled document of schemas and a default schema. -/
theorem ofDocument_filled_eq_ok_iff {c : Catalog} (hentries : d.entries? = some entries)
    (hkeys : ∀ e ∈ entries, e.1 = .str "schemas" ∨ e.1 = .str "default_schema") :
    Catalog.ofDocument d.filled = .ok c ↔
      optionalField ["default_schema"] asText Catalog.publicSchema
          (entries.filter fun e => !e.2.isEmpty) = .ok c.defaultSchema ∧
        optionalField ["schemas"] (asList Schema.ofDocument) []
          (entries.filter fun e => !e.2.isEmpty) = .ok c.schemas := by
  have hkept : ∀ e ∈ entries.filter fun e => !e.2.isEmpty,
      e.1 = .str "schemas" ∨ e.1 = .str "default_schema" :=
    fun e he => hkeys e (List.mem_of_mem_filter he)
  have hwhole : ∀ e ∈ entries.filter fun e => !e.2.isEmpty, e.1.isBrokenText = false := by
    intro e he
    rcases hkept e he with h | h
    · rw [h]
      exact Catalog.isBrokenText_names "schemas" (by simp)
    · rw [h]
      exact Catalog.isBrokenText_names "default_schema" (by simp)
  have hothers : noOtherEntries ["default_schema", "schemas"]
      (entries.filter fun e => !e.2.isEmpty) = .ok () := by
    refine noOtherEntries_eq_ok_iff.2 fun e he => ?_
    rcases hkept e he with h | h
    · exact ⟨"schemas", by simp, h⟩
    · exact ⟨"default_schema", by simp, h⟩
  unfold Catalog.ofDocument Document.filled
  rw [hentries, asStrictRecord_of_entries rfl hwhole, Catalog.ofEntries_eq_ok_iff]
  simp only [hothers, and_true]

/-- The default schema of the parts is that of the filled document. -/
theorem default_of_parts (hdistinct : HasDistinctKeys entries)
    (hparts : CatalogParts.ofEntries entries = .ok parts) :
    optionalField ["default_schema"] asText Catalog.publicSchema parts.entries =
      optionalField ["default_schema"] asText Catalog.publicSchema
        (entries.filter fun e => !e.2.isEmpty) := by
  refine optionalField_congr ?_
  rw [valueOf?_filled hdistinct, ← (CatalogParts.ofEntries_eq_ok_iff.1 hparts).1]
  unfold CatalogParts.entries
  cases parts.defaultSchema <;> simp [valueOf?]

/-- The schemas of the parts pass exactly if those of the filled document do. -/
theorem schemas_of_parts (hdistinct : HasDistinctKeys entries)
    (hvalues : ∀ e ∈ entries, e.2.IsKeyed)
    (hparts : CatalogParts.ofEntries entries = .ok parts) :
    optionalField ["schemas"] (asList Schema.ofDocument) []
        (entries.filter fun e => !e.2.isEmpty) = .ok schemas ↔
      asList Schema.ofDocument (.list parts.schemas) = .ok schemas := by
  unfold optionalField
  rw [findField?_singleton, valueOf?_filled hdistinct]
  rcases (CatalogParts.ofEntries_eq_ok_iff.1 hparts).2 with ⟨hnone, hnil⟩ | ⟨v, hv, helements⟩
  · rw [hnone, hnil]
    exact Iff.rfl
  · obtain ⟨hfound, hfilled⟩ := Option.filter_eq_some_iff.1 hv
    have hkeyed : v.IsKeyed := hvalues _ (mem_of_valueOf? hfound)
    rw [hv, Option.map_some]
    dsimp only
    rw [under_eq_ok_iff]
    exact schemas_eq_ok_iff hkeyed (by simpa using hfilled) helements

/-- If the schemas of the filled document pass, they can be gone through. -/
theorem exists_parts (hdistinct : HasDistinctKeys entries)
    (h : optionalField ["schemas"] (asList Schema.ofDocument) []
      (entries.filter fun e => !e.2.isEmpty) = .ok schemas) :
    ∃ parts, CatalogParts.ofEntries entries = .ok parts := by
  unfold optionalField at h
  rw [findField?_singleton, valueOf?_filled hdistinct] at h
  cases hfilled : CatalogParts.filled? "schemas" entries with
  | none =>
      exact ⟨⟨_, []⟩, CatalogParts.ofEntries_eq_ok_iff.2 ⟨rfl, .inl ⟨hfilled, rfl⟩⟩⟩
  | some v =>
      rw [hfilled] at h
      obtain ⟨items, hitems, -⟩ := asList_eq_ok_iff.1 (under_eq_ok_iff.1 h)
      exact ⟨⟨_, items⟩, CatalogParts.ofEntries_eq_ok_iff.2
        ⟨rfl, .inr ⟨v, hfilled, elements?_of_items? hitems⟩⟩⟩

end Picked

/-! ## Loading -/

namespace Surroundings

variable {s : Surroundings} {p : Path}

/-- A path whose file is read leads to a file. -/
theorem catalogFiles_of_readYaml (hread : s.readYaml p = .ok d) : s.catalogFiles p = .ok [p] := by
  obtain ⟨bytes, hbytes, -⟩ := readYaml_eq_ok_iff.1 hread
  have hentry := FileTree.readFile_eq_ok_iff.1 hbytes
  unfold catalogFiles FileTree.entryAt?
  rw [hentry]

/-- A file is loaded by the parts that its entries give. -/
theorem loadCatalog_eq (hread : s.readYaml p = .ok d) (hentries : d.entries? = some entries) :
    s.loadCatalog p = CatalogParts.ofEntries entries >>= CatalogParts.catalog := by
  have hpart : s.catalogPart p = CatalogParts.ofEntries entries := by
    simp only [catalogPart, hread, CatalogParts.ofDocument, bind, Except.bind,
      entries?_eq_some_iff.1 hentries]
  have happend : ∀ parts : CatalogParts, parts.append .empty = parts := by
    rintro ⟨defaultSchema, schemas⟩
    cases defaultSchema <;> simp [CatalogParts.append, CatalogParts.empty]
  unfold loadCatalog
  rw [catalogFiles_of_readYaml hread]
  simp only [bind, Except.bind, catalogParts, hpart, pure, Except.pure]
  cases CatalogParts.ofEntries entries with
  | error e => rfl
  | ok parts => simp only [happend]

/-- The document of a file is keyed. -/
theorem isKeyed_of_readYaml (hread : s.readYaml p = .ok d) : d.IsKeyed := by
  obtain ⟨bytes, -, hyaml⟩ := readYaml_eq_ok_iff.1 hread
  obtain ⟨text, -, hd⟩ := Yaml.readBytes_eq_ok_iff.1 hyaml
  exact Yaml.isKeyed_of_read hd

/-- **Loading a file.** If its document is a mapping of schemas and a default schema only, a catalog
is loaded exactly if one is read from the document without its empty entries, and it is that one.
Whatever else the mapping holds, no schema with an entry that is no field, in itself or in anything
in it, is loaded: the catalog is reported as invalid. -/
theorem loadCatalog_of_readYaml (hread : s.readYaml p = .ok d)
    (hentries : d.entries? = some entries) :
    ((∀ e ∈ entries, e.1 = .str "schemas" ∨ e.1 = .str "default_schema") →
      ∀ c, s.loadCatalog p = .ok c ↔ Catalog.ofDocument d.filled = .ok c) ∧
    (d.HasItem "schemas" Schema.HasOtherEntry →
      ∃ report, s.loadCatalog p = .error (.invalid report)) := by
  obtain ⟨-, hdistinct, hvalues⟩ := (isKeyed_of_readYaml hread).of_entries? hentries
  rw [loadCatalog_eq hread hentries]
  constructor
  · intro hkeys c
    rw [ofDocument_filled_eq_ok_iff hentries hkeys]
    constructor
    · intro h
      obtain ⟨parts, hparts, hcatalog⟩ := bind_eq_ok_iff.1 h
      obtain ⟨hdefault, hschemas⟩ := CatalogParts.catalog_eq_ok_iff.1 hcatalog
      exact ⟨(default_of_parts hdistinct hparts).symm.trans hdefault,
        (schemas_of_parts hdistinct hvalues hparts).2 hschemas⟩
    · rintro ⟨hdefault, hschemas⟩
      obtain ⟨parts, hparts⟩ := exists_parts hdistinct hschemas
      refine bind_eq_ok_iff.2
        ⟨parts, hparts, CatalogParts.catalog_eq_ok_iff.2 ⟨?_, ?_⟩⟩
      · exact (default_of_parts hdistinct hparts).trans hdefault
      · exact (schemas_of_parts hdistinct hvalues hparts).1 hschemas
  · rintro ⟨entries', v, items, hentries', hv, hitems, item, hitem, hother⟩
    obtain rfl := Option.some.inj (hentries.symm.trans hentries')
    have hfilled : CatalogParts.filled? "schemas" entries = some v := by
      have hne : v.isEmpty = false := isEmpty_of_items? hitems (List.ne_nil_of_mem hitem)
      unfold CatalogParts.filled?
      rw [hv, Option.filter_some, hne]
      rfl
    have hparts : CatalogParts.ofEntries entries =
        .ok ⟨CatalogParts.filled? "default_schema" entries, items⟩ :=
      CatalogParts.ofEntries_eq_ok_iff.2 ⟨rfl, .inr ⟨v, hfilled, elements?_of_items? hitems⟩⟩
    rw [hparts]
    refine CatalogParts.exists_report fun c hc => ?_
    obtain ⟨items', hitems', hall⟩ :=
      asList_eq_ok_iff.1 (CatalogParts.catalog_eq_ok_iff.1 hc).2
    obtain rfl := Option.some.inj (hitems' : some items = some items')
    obtain ⟨i, hi, rfl⟩ := List.getElem_of_mem hitem
    exact Schema.not_hasOtherEntry (hall.get hi (hall.length_eq ▸ hi)) hother

/-- Four files: one with an empty entry, one with a schema that has an entry too many, one in which
no list follows the name of the schemas, and one with an entry that is no field of a catalog. -/
def fourFiles : Surroundings where
  files := ⟨[
    (["a.yml"], .file "{default_schema: null, schemas: [{name: s}]}".toUTF8.toList),
    (["b.yml"], .file "{schemas: [{name: s, views: []}]}".toUTF8.toList),
    (["c.yml"], .file "schemas:".toUTF8.toList),
    (["d.yml"], .file "views: []".toUTF8.toList)]⟩
  directory := .ofLocation []
  debugVariable := none

/-- The document of the first file. -/
def emptyDefault : Document :=
  .record [("default_schema", .null), ("schemas", .list [.record [("name", .str "s")]])]

/-- The document of the second file. -/
def schemaWithViews : Document :=
  .record [("schemas", .list [.record [("name", .str "s"), ("views", .list [])]])]

/-- The document of the third file. -/
def nullSchemas : Document :=
  .record [("schemas", .null)]

/-- The document of the fourth file. -/
def catalogWithViews : Document :=
  .record [("views", .list [])]

/-- A catalog is loaded from the first file and none from the second. -/
theorem loadCatalog_fourFiles :
    fourFiles.loadCatalog ⟨.relative, ["a.yml"]⟩ = .ok ⟨"public", [⟨"s", [], [], []⟩]⟩ ∧
      ∃ report, fourFiles.loadCatalog ⟨.relative, ["b.yml"]⟩ = .error (.invalid report) := by
  have hfirst : fourFiles.readYaml ⟨.relative, ["a.yml"]⟩ = .ok emptyDefault := by
    decide +kernel
  have hsecond : fourFiles.readYaml ⟨.relative, ["b.yml"]⟩ = .ok schemaWithViews := by
    decide +kernel
  have hviews : schemaWithViews.HasItem "schemas" Schema.HasOtherEntry := by
    refine ⟨_, _, _, rfl, rfl, rfl, _, List.mem_singleton_self _, .inl ?_⟩
    exact ⟨_, rfl, (.str "views", .list []), by decide, by decide⟩
  constructor
  · refine ((loadCatalog_of_readYaml hfirst rfl).1 ?_ _).2 (by decide)
    decide
  · exact (loadCatalog_of_readYaml hsecond rfl).2 hviews

/-- A catalog is loaded from the third file and from the fourth, though none is read from their
documents. -/
theorem loadCatalog_nullSchemas_catalogWithViews :
    (fourFiles.readYaml ⟨.relative, ["c.yml"]⟩ = .ok nullSchemas ∧
      fourFiles.loadCatalog ⟨.relative, ["c.yml"]⟩ = .ok ⟨"public", []⟩ ∧
      ∀ c, Catalog.ofDocument nullSchemas ≠ .ok c) ∧
    (fourFiles.readYaml ⟨.relative, ["d.yml"]⟩ = .ok catalogWithViews ∧
      fourFiles.loadCatalog ⟨.relative, ["d.yml"]⟩ = .ok ⟨"public", []⟩ ∧
      ∀ c, Catalog.ofDocument catalogWithViews ≠ .ok c) := by
  have hthird : fourFiles.readYaml ⟨.relative, ["c.yml"]⟩ = .ok nullSchemas := by
    decide +kernel
  have hfourth : fourFiles.readYaml ⟨.relative, ["d.yml"]⟩ = .ok catalogWithViews := by
    decide +kernel
  have hnone {d : Document} (h : (Catalog.ofDocument d).toOption = none) (c : Catalog) :
      Catalog.ofDocument d ≠ .ok c := by
    intro hc
    rw [hc] at h
    exact nomatch h
  exact ⟨⟨hthird, loadCatalog_eq hthird rfl, hnone (by decide)⟩,
    ⟨hfourth, loadCatalog_eq hfourth rfl, hnone (by decide)⟩⟩

end Surroundings

end ColumnTypes
