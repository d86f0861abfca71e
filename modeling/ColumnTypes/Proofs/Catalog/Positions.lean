import ColumnTypes.Catalog.Reading
import ColumnTypes.Proofs.Validation.Acceptance
import ColumnTypes.Proofs.Validation.Faults

/-!
# The parts of a catalog and their faults

The documents that are read as columns, tables, schemas and catalogs have shapes that can be told
part by part (`IsColumn` to `IsCatalog`), and reading a catalog reports the faults of its parts:

* `Catalog.accepts_ofDocument` - among JSON values exactly those of a catalog's shape are read;
* `StandsAt.filter_faults` - the faults at the place of a part are those that the part has when it
  is read alone, in the same order, where the keys of all mappings around it can be told;
* `Part.faults_of_brokenKey` - a mapping with a key that cannot be told has no other fault.

A part **stands at** a place (`StandsAt`) if the steps to it lead through mappings and lists.
-/

namespace ColumnTypes

open Document Checked

variable {d v item : Document} {entries : List (Document × Document)} {name : String} {i : Nat}

/-! ## Shapes -/

/-- A column: its type goes under one of two names. -/
def IsColumn : Document → Prop :=
  IsRecord fun entries => MayHaveField "name" IsText entries ∧
    (∃ spelling : TypeSpelling, HasField spelling.text IsNonemptyText entries ∧
      HasOnly ["name", spelling.text, "not_null", "is_array"] entries) ∧
    MayHaveField "not_null" IsTruthValue entries ∧ MayHaveField "is_array" IsTruthValue entries

/-- An enum type. -/
def IsEnumType : Document → Prop :=
  IsRecord fun entries => HasField "name" IsText entries ∧
    MayHaveField "vals" (IsListOf IsText) entries ∧ HasOnly ["name", "vals"] entries

/-- A composite type. -/
def IsCompositeType : Document → Prop :=
  IsRecord fun entries => HasField "name" IsText entries ∧ HasOnly ["name"] entries

/-- A table. -/
def IsTable : Document → Prop :=
  IsRecord fun entries => HasField "name" IsText entries ∧
    MayHaveField "columns" (IsListOf IsColumn) entries ∧ HasOnly ["name", "columns"] entries

/-- A schema. -/
def IsSchema : Document → Prop :=
  IsRecord fun entries => HasField "name" IsText entries ∧
    MayHaveField "enums" (IsListOf IsEnumType) entries ∧
    MayHaveField "composite_types" (IsListOf IsCompositeType) entries ∧
    MayHaveField "tables" (IsListOf IsTable) entries ∧
    HasOnly ["name", "enums", "composite_types", "tables"] entries

/-- A catalog. -/
def IsCatalog : Document → Prop :=
  IsRecord fun entries => MayHaveField "default_schema" IsText entries ∧
    MayHaveField "schemas" (IsListOf IsSchema) entries ∧
    HasOnly ["default_schema", "schemas"] entries

/-! ## Acceptance -/

/-- A key of a mapping is found in it. -/
theorem exists_valueOf?_of_mem {e : Document × Document} (he : e ∈ entries)
    (hkey : e.1 = .str name) : ∃ w, valueOf? name entries = some w := by
  induction entries with
  | nil => exact absurd he List.not_mem_nil
  | cons first entries ih =>
      obtain ⟨k, w⟩ := first
      unfold valueOf?
      rcases List.mem_cons.1 he with rfl | hmem
      · exact ⟨w, by simp [show k = .str name from hkey]⟩
      · split
        · split_ifs
          · exact ⟨w, rfl⟩
          · exact ih hmem
        · exact ih hmem

/-- The name under which a field is found is used. -/
theorem mem_usedNames {fields : List (List String)} {names : List String} (hnames : names ∈ fields)
    (h : findField? names entries = some (name, v)) : name ∈ usedNames fields entries :=
  List.mem_filterMap.2 ⟨names, hnames, by rw [h]; rfl⟩

/-- A column uses the names of its fields, of the names of its type the one that is found. -/
theorem Column.hasOnly_usedNames_iff
    (h : findField? ["type", "declared_type"] entries = some (name, v)) :
    HasOnly (usedNames Column.fields entries) entries ↔
      HasOnly ["name", name, "not_null", "is_array"] entries := by
  refine forall₂_congr fun e he => exists_congr fun s => and_congr_left fun hs => ?_
  have hfound : ∃ w, findField? [s] entries = some (s, w) := by
    obtain ⟨w, hw⟩ := exists_valueOf?_of_mem he hs
    exact ⟨w, by rw [findField?_singleton, hw]; rfl⟩
  obtain ⟨w, hw⟩ := hfound
  constructor
  · intro hmem
    obtain ⟨names, hnames, hused⟩ := List.mem_filterMap.1 hmem
    obtain ⟨⟨s', v'⟩, hfound, rfl⟩ := Option.map_eq_some_iff.1 hused
    have hs' := mem_of_findField? hfound
    simp only [Column.fields, List.mem_cons, List.not_mem_nil, or_false] at hnames
    rcases hnames with rfl | rfl | rfl | rfl
    · simp_all
    · obtain ⟨rfl, -⟩ := Prod.mk.inj (Option.some.inj (h.symm.trans hfound))
      simp
    · simp_all
    · simp_all
  · intro hmem
    simp only [List.mem_cons, List.not_mem_nil, or_false] at hmem
    rcases hmem with rfl | rfl | rfl | rfl
    · exact mem_usedNames (by simp [Column.fields]) hw
    · exact mem_usedNames (by simp [Column.fields]) h
    · exact mem_usedNames (by simp [Column.fields]) hw
    · exact mem_usedNames (by simp [Column.fields]) hw

/-- The type of a column is looked up under its first name and then under the other. -/
theorem Column.findField?_type :
    findField? ["type", "declared_type"] entries =
      ((valueOf? "type" entries).map ("type", ·)).or
        ((valueOf? "declared_type" entries).map ("declared_type", ·)) := by
  unfold findField?
  cases htype : valueOf? "type" entries <;>
    cases hdeclared : valueOf? "declared_type" entries <;> simp [htype, hdeclared]

/-- The type of a column is found by either spelling, by the long one where it is alone. -/
theorem Column.findField?_type_eq_some_iff :
    findField? ["type", "declared_type"] entries = some (name, v) ↔
      ∃ spelling : TypeSpelling, name = spelling.text ∧ valueOf? spelling.text entries = some v ∧
        (spelling = .long → valueOf? "type" entries = none) := by
  rw [Column.findField?_type]
  constructor
  · cases htype : valueOf? "type" entries with
    | some w =>
        intro h
        obtain ⟨rfl, rfl⟩ := Prod.mk.inj (Option.some.inj h)
        exact ⟨.short, rfl, htype, fun h => nomatch h⟩
    | none =>
        intro h
        obtain ⟨w, hdeclared, heq⟩ := Option.map_eq_some_iff.1 h
        obtain ⟨rfl, rfl⟩ := Prod.mk.inj heq
        exact ⟨.long, rfl, hdeclared, fun _ => rfl⟩
  · rintro ⟨spelling, rfl, hvalue, hfirst⟩
    cases spelling with
    | short => rw [show valueOf? "type" entries = some v from hvalue]; rfl
    | long => rw [hfirst rfl, show valueOf? "declared_type" entries = some v from hvalue]; rfl

/-- A column has a type and no other entries exactly if it has them by one name of the type. -/
theorem Column.passes_type_and_others_iff (hentries : (Document.map entries).IsJson) :
    (requiredField ["type", "declared_type"] asNonemptyText entries).Passes ∧
        (noOtherEntries (usedNames Column.fields entries) entries).Passes ↔
      ∃ spelling : TypeSpelling, HasField spelling.text IsNonemptyText entries ∧
        HasOnly ["name", spelling.text, "not_null", "is_array"] entries := by
  rw [passes_noOtherEntries]
  constructor
  · rintro ⟨⟨s, hs⟩, honly⟩
    obtain ⟨name, v, hfound, hv⟩ := requiredField_eq_ok_iff.1 hs
    obtain ⟨spelling, rfl, hvalue, -⟩ := Column.findField?_type_eq_some_iff.1 hfound
    exact ⟨spelling, ⟨v, hvalue, (accepts_asNonemptyText (hentries.of_valueOf? hvalue)).1 ⟨s, hv⟩⟩,
      (Column.hasOnly_usedNames_iff hfound).1 honly⟩
  · rintro ⟨spelling, ⟨v, hvalue, hv⟩, honly⟩
    have hfound : findField? ["type", "declared_type"] entries = some (spelling.text, v) := by
      refine Column.findField?_type_eq_some_iff.2 ⟨spelling, rfl, hvalue, ?_⟩
      rintro rfl
      -- the other name of the type would be an entry that is not allowed
      refine Option.eq_none_iff_forall_ne_some.2 fun w hw => ?_
      obtain ⟨s, hs, heq⟩ := honly _ (mem_of_valueOf? hw)
      rw [← Document.str.inj heq] at hs
      exact absurd hs (by decide)
    obtain ⟨s, hs⟩ := (accepts_asNonemptyText (hentries.of_valueOf? hvalue)).2 hv
    exact ⟨⟨s, requiredField_eq_ok_iff.2 ⟨_, v, hfound, hs⟩⟩,
      (Column.hasOnly_usedNames_iff hfound).2 honly⟩

/-- Columns are accepted by their shape. -/
theorem Column.accepts_ofDocument : Accepts Column.ofDocument IsColumn := by
  refine accepts_asStrictRecord (fun entries h => ?_) fun entries hentries => ?_
  · obtain ⟨-, ⟨spelling, -, honly⟩, -⟩ := h
    exact honly.hasWholeKeys (by cases spelling <;> decide)
  unfold Column.ofEntries
  rw [passes_map, passes_both, passes_both, passes_both, passes_both,
    passes_optionalField accepts_asText hentries, passes_optionalField accepts_asBool hentries,
    passes_optionalField accepts_asBool hentries, ← Column.passes_type_and_others_iff hentries]
  constructor
  · rintro ⟨hname, htype, hnotNull, hisArray, hothers⟩
    exact ⟨hname, ⟨htype, hothers⟩, hnotNull, hisArray⟩
  · rintro ⟨hname, ⟨htype, hothers⟩, hnotNull, hisArray⟩
    exact ⟨hname, htype, hnotNull, hisArray, hothers⟩

/-- Enum types are accepted by their shape. -/
theorem EnumType.accepts_ofDocument : Accepts EnumType.ofDocument IsEnumType := by
  refine accepts_asStrictRecord (fun _ h => h.2.2.hasWholeKeys (by decide))
    fun entries hentries => ?_
  unfold EnumType.ofEntries
  rw [passes_map, passes_both, passes_both, passes_requiredField accepts_asText hentries,
    passes_optionalField (accepts_asList accepts_asText) hentries, passes_noOtherEntries]

/-- Composite types are accepted by their shape. -/
theorem CompositeType.accepts_ofDocument : Accepts CompositeType.ofDocument IsCompositeType := by
  refine accepts_asStrictRecord (fun _ h => h.2.hasWholeKeys (by decide))
    fun entries hentries => ?_
  unfold CompositeType.ofEntries
  rw [passes_map, passes_both, passes_requiredField accepts_asText hentries, passes_noOtherEntries]

/-- Tables are accepted by their shape. -/
theorem Table.accepts_ofDocument : Accepts Table.ofDocument IsTable := by
  refine accepts_asStrictRecord (fun _ h => h.2.2.hasWholeKeys (by decide))
    fun entries hentries => ?_
  unfold Table.ofEntries
  rw [passes_map, passes_both, passes_both, passes_requiredField accepts_asText hentries,
    passes_optionalField (accepts_asList Column.accepts_ofDocument) hentries,
    passes_noOtherEntries]

/-- Schemas are accepted by their shape. -/
theorem Schema.accepts_ofDocument : Accepts Schema.ofDocument IsSchema := by
  refine accepts_asStrictRecord (fun _ h => h.2.2.2.2.hasWholeKeys (by decide))
    fun entries hentries => ?_
  unfold Schema.ofEntries
  rw [passes_map, passes_both, passes_both, passes_both, passes_both,
    passes_requiredField accepts_asText hentries,
    passes_optionalField (accepts_asList EnumType.accepts_ofDocument) hentries,
    passes_optionalField (accepts_asList CompositeType.accepts_ofDocument) hentries,
    passes_optionalField (accepts_asList Table.accepts_ofDocument) hentries,
    passes_noOtherEntries]

/-- Catalogs are accepted by their shape. -/
theorem Catalog.accepts_ofDocument : Accepts Catalog.ofDocument IsCatalog := by
  refine accepts_asStrictRecord (fun _ h => h.2.2.hasWholeKeys (by decide))
    fun entries hentries => ?_
  unfold Catalog.ofEntries
  rw [passes_map, passes_both, passes_both, passes_optionalField accepts_asText hentries,
    passes_optionalField (accepts_asList Schema.accepts_ofDocument) hentries,
    passes_noOtherEntries]

/-! ## Parts -/

/-- The kinds of parts of a catalog, itself among them. -/
inductive Part where
  | catalog | schema | table | column | enumType | compositeType
  deriving DecidableEq, Repr

namespace Part

/-- The check of a document that is read alone as a part of some kind. -/
def check : Part → Document → Checked Unit
  | catalog, d => (Catalog.ofDocument d).map fun _ => ()
  | schema, d => (Schema.ofDocument d).map fun _ => ()
  | table, d => (Table.ofDocument d).map fun _ => ()
  | column, d => (Column.ofDocument d).map fun _ => ()
  | enumType, d => (EnumType.ofDocument d).map fun _ => ()
  | compositeType, d => (CompositeType.ofDocument d).map fun _ => ()

/-- The shape of the parts of a kind. -/
def HasShape : Part → Document → Prop
  | catalog => IsCatalog
  | schema => IsSchema
  | table => IsTable
  | column => IsColumn
  | enumType => IsEnumType
  | compositeType => IsCompositeType

/-- The fields of a part that hold lists of parts. -/
def lists : Part → List (String × Part)
  | catalog => [("schemas", schema)]
  | schema => [("enums", enumType), ("composite_types", compositeType), ("tables", table)]
  | table => [("columns", column)]
  | column | enumType | compositeType => []

/-- Parts of every kind are accepted by their shape. -/
theorem accepts_check (part : Part) : Accepts part.check part.HasShape := by
  intro d hd
  cases part with
  | catalog => exact passes_map.trans (Catalog.accepts_ofDocument hd)
  | schema => exact passes_map.trans (Schema.accepts_ofDocument hd)
  | table => exact passes_map.trans (Table.accepts_ofDocument hd)
  | column => exact passes_map.trans (Column.accepts_ofDocument hd)
  | enumType => exact passes_map.trans (EnumType.accepts_ofDocument hd)
  | compositeType => exact passes_map.trans (CompositeType.accepts_ofDocument hd)

end Part

/-! ## Faults inside a part -/

section Inside

variable {items : List Document} (hitem : items[i]? = some item)

include hitem

/-- The faults of a catalog at a schema. -/
theorem Catalog.filter_faults (hlist : valueOf? "schemas" entries = some (.list items)) :
    (Catalog.ofEntries entries).faults.filter (Fault.isAt [.field "schemas", .item i]) =
      (Schema.ofDocument item).faults.map (Fault.within [.field "schemas", .item i]) := by
  unfold Catalog.ofEntries
  simp only [faults_map, faults_both, List.filter_append]
  rw [filter_listField hlist rfl hitem, filter_optionalField (by decide), filter_noOtherEntries]
  simp only [List.nil_append, List.append_nil]

/-- The faults of a schema at a part in one of its lists. -/
theorem Schema.filter_faults {inner : Part} (h : (name, inner) ∈ Part.schema.lists)
    (hlist : valueOf? name entries = some (.list items)) :
    (Schema.ofEntries entries).faults.filter (Fault.isAt [.field name, .item i]) =
      (inner.check item).faults.map (Fault.within [.field name, .item i]) := by
  simp only [Part.lists, List.mem_cons, Prod.mk.injEq, List.not_mem_nil, or_false] at h
  unfold Schema.ofEntries
  simp only [faults_map, faults_both, List.filter_append]
  -- The other lists are at other fields, whichever of the three it is.
  rcases h with ⟨rfl, rfl⟩ | ⟨rfl, rfl⟩ | ⟨rfl, rfl⟩
  all_goals
    rw [filter_listField hlist rfl hitem, filter_requiredField (by decide) (by decide),
      filter_optionalField (by decide), filter_optionalField (by decide), filter_noOtherEntries]
    simp only [Part.check, faults_map, List.nil_append, List.append_nil]

/-- The faults of a table at a column. -/
theorem Table.filter_faults (hlist : valueOf? "columns" entries = some (.list items)) :
    (Table.ofEntries entries).faults.filter (Fault.isAt [.field "columns", .item i]) =
      (Column.ofDocument item).faults.map (Fault.within [.field "columns", .item i]) := by
  unfold Table.ofEntries
  simp only [faults_map, faults_both, List.filter_append]
  rw [filter_listField hlist rfl hitem, filter_requiredField (by decide) (by decide),
    filter_noOtherEntries]
  simp only [List.nil_append, List.append_nil]

/-- **The faults of a part at a part inside of it are those of the latter.** -/
theorem Part.filter_faults {part inner : Part} (h : (name, inner) ∈ part.lists)
    (hkeys : HasWholeKeys entries)
    (hlist : valueOf? name entries = some (.list items)) :
    (part.check (.map entries)).faults.filter (Fault.isAt [.field name, .item i]) =
      (inner.check item).faults.map (Fault.within [.field name, .item i]) := by
  cases part with
  | catalog =>
      obtain ⟨rfl, rfl⟩ : name = "schemas" ∧ inner = .schema := by simpa [lists] using h
      unfold check Catalog.ofDocument
      rw [faults_map, faults_map, asStrictRecord_of_entries rfl hkeys]
      exact Catalog.filter_faults hitem hlist
  | schema =>
      unfold check Schema.ofDocument
      rw [faults_map, asStrictRecord_of_entries rfl hkeys]
      exact Schema.filter_faults hitem h hlist
  | table =>
      obtain ⟨rfl, rfl⟩ : name = "columns" ∧ inner = .column := by simpa [lists] using h
      unfold check Table.ofDocument
      rw [faults_map, faults_map, asStrictRecord_of_entries rfl hkeys]
      exact Table.filter_faults hitem hlist
  | column => exact absurd h List.not_mem_nil
  | enumType => exact absurd h List.not_mem_nil
  | compositeType => exact absurd h List.not_mem_nil

end Inside

/-- A part with a key that cannot be told has no other fault. -/
theorem Part.faults_of_brokenKey {part : Part} {e : Document × Document}
    (he : entries.find? (·.1.isBrokenText) = some e) :
    (part.check (.map entries)).faults = [⟨[], .brokenText, e.1⟩] := by
  cases part
  all_goals
    unfold check
    rw [faults_map]
    exact congrArg Checked.faults (asStrictRecord_of_brokenKey rfl he)

/-! ## Places -/

/-- A document stands at a place of a catalog as a part of some kind, inside of some mappings: the
catalog itself at the beginning, and the items of the lists of parts further inside. -/
inductive StandsAt (v : Document) :
    List Step → Part → List (List (Document × Document)) → Document → Prop
  | catalog : StandsAt v [] .catalog [] v
  | item {path : List Step} {part inner : Part} {above : List (List (Document × Document))}
      {entries : List (Document × Document)} {name : String} {items : List Document} {i : Nat}
      {d : Document} :
      StandsAt v path part above (.map entries) → (name, inner) ∈ part.lists →
        valueOf? name entries = some (.list items) → items[i]? = some d →
          StandsAt v (path ++ [.field name, .item i]) inner (above ++ [entries]) d

variable {path : List Step} {part : Part} {above : List (List (Document × Document))}

/-- What stands in a JSON value is a JSON value. -/
theorem StandsAt.isJson (h : StandsAt v path part above d) (hv : v.IsJson) : d.IsJson := by
  induction h with
  | catalog => exact hv
  | item _ _ hlist hitem ih => exact (ih.of_valueOf? hlist).of_mem (List.mem_of_getElem? hitem)

/-- **The faults of a catalog at a part are those of the part**, where the keys of all mappings
around it can be told. -/
theorem StandsAt.filter_faults (h : StandsAt v path part above d)
    (hkeys : ∀ entries ∈ above, HasWholeKeys entries) :
    (Catalog.ofDocument v).faults.filter (Fault.isAt path) =
      (part.check d).faults.map (Fault.within path) := by
  induction h with
  | catalog =>
      rw [Fault.filter_isAt_nil, Part.check, faults_map]
      exact (List.map_id _).symm
  | @item path part inner above entries name items i d hstands hinner hlist hitem ih =>
      rw [List.forall_mem_append, List.forall_mem_singleton] at hkeys
      rw [Fault.filter_isAt_append, ih hkeys.1, Fault.filter_isAt_within,
        Part.filter_faults hitem hinner hkeys.2 hlist, List.map_map, Fault.within_comp_within]

/-- **Reading a catalog is told by its parts.**  A JSON value is read exactly if it has the shape of
a catalog, and every part of one exactly if it has the shape of the part.

Where the keys of all mappings around a part can be told, the faults that are reported at its place,
in their order, are those that the part has when it is read alone.  If a key of the part itself
cannot be told, this is the only one of them. -/
theorem Catalog.ofDocument_compositional (hv : v.IsJson) :
    ((∃ c, Catalog.ofDocument v = .ok c) ↔ IsCatalog v) ∧
      ∀ path part above d, StandsAt v path part above d →
        ((part.check d).Passes ↔ part.HasShape d) ∧
          ((∀ entries ∈ above, HasWholeKeys entries) →
            (Catalog.ofDocument v).faults.filter (Fault.isAt path) =
                (part.check d).faults.map (Fault.within path) ∧
              ∀ entries e, d = .map entries → entries.find? (·.1.isBrokenText) = some e →
                (Catalog.ofDocument v).faults.filter (Fault.isAt path) =
                  [⟨path, .brokenText, e.1⟩]) := by
  refine ⟨Catalog.accepts_ofDocument hv, fun path part above d hstands =>
    ⟨part.accepts_check (hstands.isJson hv), fun hkeys => ?_⟩⟩
  have hfaults := hstands.filter_faults hkeys
  refine ⟨hfaults, ?_⟩
  rintro entries e rfl he
  rw [hfaults, Part.faults_of_brokenKey he]
  simp [Fault.within]

/-- A record of JSON values is one. -/
theorem isJson_record {fields : List (String × Document)} (hvalues : ∀ f ∈ fields, f.2.IsJson) :
    (Document.record fields).IsJson := by
  refine .map ?_ ?_
  · intro e he
    obtain ⟨f, hf, rfl⟩ := List.mem_map.1 he
    exact ⟨f.1, rfl⟩
  · intro e he
    obtain ⟨f, hf, rfl⟩ := List.mem_map.1 he
    exact hvalues f hf

/-- A column without a type. -/
def untypedColumn : Document := .record [("type", .str "")]

/-- A table with a column without a type. -/
def faultyTable : Document :=
  .record [("name", .str "users"), ("columns", .list [untypedColumn])]

/-- A schema with a faulty table after something that is no table. -/
def faultySchema : Document :=
  .record [("name", .str "app"), ("tables", .list [.int 5, faultyTable])]

/-- A catalog with a faulty schema. -/
def faultyCatalog : Document := .record [("schemas", .list [faultySchema])]

/-- A faulty catalog is not read, and the fault of a column in it is reported at its place although
what stands before its table has a fault too. -/
theorem Catalog.ofDocument_compositional_faultyCatalog :
    faultyCatalog.IsJson ∧ ¬ IsCatalog faultyCatalog ∧
      ((Catalog.ofDocument faultyCatalog).faults.filter
          (Fault.isAt [.field "schemas", .item 0, .field "tables", .item 1, .field "columns",
            .item 0])).map (fun f => (f.location, f.problem)) =
        [([.field "schemas", .item 0, .field "tables", .item 1, .field "columns", .item 0,
          .field "type"], .emptyText)] := by
  have hcolumn : untypedColumn.IsJson := isJson_record (by simpa using .str)
  have htable : faultyTable.IsJson :=
    isJson_record (by simpa using ⟨.str, .list (by simpa using hcolumn)⟩)
  have hschema : faultySchema.IsJson :=
    isJson_record (by simpa using ⟨.str, .list (by simpa using ⟨.int, htable⟩)⟩)
  have hv : faultyCatalog.IsJson :=
    isJson_record (by simpa using .list (by simpa using hschema))
  have hstands : StandsAt faultyCatalog [.field "schemas", .item 0] .schema _ faultySchema :=
    .item .catalog (by decide) rfl rfl
  have hstands : StandsAt faultyCatalog [.field "schemas", .item 0, .field "tables", .item 1]
      .table _ faultyTable := .item hstands (by decide) rfl rfl
  have hstands : StandsAt faultyCatalog [.field "schemas", .item 0, .field "tables", .item 1,
      .field "columns", .item 0] .column _ untypedColumn := .item hstands (by decide) rfl rfl
  obtain ⟨hread, hparts⟩ := Catalog.ofDocument_compositional hv
  obtain ⟨-, hfaults⟩ := hparts _ _ _ _ hstands
  refine ⟨hv, fun h => not_passes_error _ (hread.2 h), ?_⟩
  rw [(hfaults ?_).1]
  · rfl
  · decide

/-- A schema with a key that cannot be told, and something that is no table. -/
def brokenKeySchema : Document :=
  .record [("name", .str "s"), (Text.ofCodes [0xD800], .null), ("tables", .list [.int 5])]

/-- A catalog with the schema. -/
def brokenKeyCatalog : Document := .record [("schemas", .list [brokenKeySchema])]

/-- **A key that cannot be told hides faults.**  What is no table has a fault when it is read alone,
but none is reported at its place: the key is the only fault of the schema. -/
theorem Catalog.ofDocument_brokenKeyCatalog :
    brokenKeyCatalog.IsJson ∧
      (∃ above, StandsAt brokenKeyCatalog
        [.field "schemas", .item 0, .field "tables", .item 0] .table above (.int 5)) ∧
      (Part.table.check (.int 5)).faults.map Fault.problem = [.notRecord "Table"] ∧
      (Catalog.ofDocument brokenKeyCatalog).faults.filter
        (Fault.isAt [.field "schemas", .item 0, .field "tables", .item 0]) = [] ∧
      (Catalog.ofDocument brokenKeyCatalog).faults.map (fun f => (f.location, f.problem)) =
        [([.field "schemas", .item 0], .brokenText)] := by
  have hschema : brokenKeySchema.IsJson :=
    isJson_record (by simpa using ⟨.str, .null, .list (by simpa using .int)⟩)
  have hstands : StandsAt brokenKeyCatalog [.field "schemas", .item 0] .schema _ brokenKeySchema :=
    .item .catalog (by decide) rfl rfl
  refine ⟨isJson_record (by simpa using .list (by simpa using hschema)),
    ⟨_, .item hstands (by decide) rfl rfl⟩, rfl, rfl, rfl⟩

end ColumnTypes
