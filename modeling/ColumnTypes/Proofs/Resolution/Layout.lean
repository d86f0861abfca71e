import ColumnTypes.Proofs.Resolution.Typing
import Mathlib.Data.List.Forall2
import Mathlib.Data.List.Perm.Basic

/-!
# Resolution and the layout of a catalog

The search takes the first match, so the order of schema entries matters where one name is an enum
in an entry of a schema and a composite type in another.  Where it never is, the catalog is
**unambiguous**, and all that matters of it is its default schema and two sets of pairs of schema
and name: those of the enums and those of the composite types (`Catalog.SameTypes`).

* `userType?_of_isUnambiguous` - the search in terms of these sets;
* `resolution_of_isUnambiguous` - catalogs with the same types give every column the same Go type
  and the same log records, and a catalog in another order has the same rows, up to their order, and
  the same statistics.

## Strategy

The earliest entry that has a name has it as what the sets say, since no other is possible.  A
catalog in another order has the same types, and its rows are those of the first one in another
order because every list of it is (`Rearranged`).
-/

namespace ColumnTypes

/-! ## Lists in another order -/

/-- The elements of a list in another order, each changed as a relation allows. -/
def Rearranged {α β : Type} (R : α → β → Prop) (as : List α) (bs : List β) : Prop :=
  ∃ cs, as.Perm cs ∧ List.Forall₂ R cs bs

namespace Rearranged

variable {α β γ : Type} {R : α → β → Prop} {as : List α} {bs : List β}

/-- Changed lists keep their length. -/
theorem length_eq (h : Rearranged R as bs) : as.length = bs.length := by
  obtain ⟨cs, hperm, hcs⟩ := h
  rw [hperm.length_eq, hcs.length_eq]

/-- What is chosen alike is rearranged alike. -/
theorem filter {p : α → Bool} {q : β → Bool} (h : Rearranged R as bs)
    (hpq : ∀ a b, R a b → p a = q b) : Rearranged R (as.filter p) (bs.filter q) := by
  obtain ⟨cs, hperm, hcs⟩ := h
  refine ⟨cs.filter p, hperm.filter p, ?_⟩
  clear hperm
  induction hcs with
  | nil => exact .nil
  | @cons c b cs bs hcb _ ih =>
      rw [List.filter_cons, List.filter_cons, ← hpq c b hcb]
      split
      · exact .cons hcb ih
      · exact ih

/-- Lists that are rearranged are so when put together. -/
theorem perm_flatMap {f : α → List γ} {g : β → List γ} (h : Rearranged R as bs)
    (hfg : ∀ a b, R a b → (f a).Perm (g b)) : (as.flatMap f).Perm (bs.flatMap g) := by
  obtain ⟨cs, hperm, hcs⟩ := h
  refine (hperm.flatMap_right f).trans ?_
  clear hperm
  induction hcs with
  | nil => exact .refl _
  | @cons c b cs bs hcb _ ih =>
      rw [List.flatMap_cons, List.flatMap_cons]
      exact (hfg c b hcb).append ih

end Rearranged

/-! ## Catalogs in another order -/

/-- A table with its columns in another order. -/
structure Table.IsReordering (t u : Table) : Prop where
  name : u.name = t.name
  columns : t.columns.Perm u.columns

/-- A schema entry with its types, tables and columns in another order. -/
structure Schema.IsReordering (s t : Schema) : Prop where
  name : t.name = s.name
  enums : s.enums.Perm t.enums
  composites : s.composites.Perm t.composites
  tables : Rearranged Table.IsReordering s.tables t.tables

namespace Catalog

/-- A catalog with its schema entries, and what is in them, in another order. -/
structure IsReordering (c d : Catalog) : Prop where
  defaultSchema : d.defaultSchema = c.defaultSchema
  schemas : Rearranged Schema.IsReordering c.schemas d.schemas

/-! ## The types of a catalog -/

/-- The schemas and names of the enums outside the system schema. -/
def enumNames (c : Catalog) : List (String × String) :=
  c.userSchemas.flatMap fun s => s.enums.map fun e => (s.name, e.name)

/-- The schemas and names of the composite types outside the system schema. -/
def compositeNames (c : Catalog) : List (String × String) :=
  c.userSchemas.flatMap fun s => s.composites.map fun k => (s.name, k.name)

/-- No name of a schema is both an enum and a composite type in it. -/
def IsUnambiguous (c : Catalog) : Prop :=
  ∀ p ∈ c.enumNames, p ∉ c.compositeNames

instance (c : Catalog) : Decidable c.IsUnambiguous :=
  inferInstanceAs (Decidable (∀ p ∈ c.enumNames, p ∉ c.compositeNames))

/-- Two catalogs with the same default schema and the same types in the same schemas, however they
are laid out and whatever else is in them. -/
structure SameTypes (c d : Catalog) : Prop where
  defaultSchema : d.defaultSchema = c.defaultSchema
  mem_enumNames_iff : ∀ p, p ∈ d.enumNames ↔ p ∈ c.enumNames
  mem_compositeNames_iff : ∀ p, p ∈ d.compositeNames ↔ p ∈ c.compositeNames

variable {c d : Catalog}

/-- The enums of a schema are those of its entries. -/
theorem mem_enumNames {schema name : String} :
    (schema, name) ∈ c.enumNames ↔ schema ≠ systemSchema ∧
      ∃ s ∈ c.schemas, s.name = schema ∧ name ∈ s.enums.map EnumType.name := by
  simp only [enumNames, userSchemas, List.mem_flatMap, List.mem_filter, List.mem_map,
    Schema.isSystem, Prod.mk.injEq]
  constructor
  · rintro ⟨s, ⟨hs, hsystem⟩, e, he, rfl, rfl⟩
    exact ⟨by simpa using hsystem, s, hs, rfl, e, he, rfl⟩
  · rintro ⟨hsystem, s, hs, rfl, e, he, rfl⟩
    exact ⟨s, ⟨hs, by simpa using hsystem⟩, e, he, rfl, rfl⟩

/-- The composite types of a schema are those of its entries. -/
theorem mem_compositeNames {schema name : String} :
    (schema, name) ∈ c.compositeNames ↔ schema ≠ systemSchema ∧
      ∃ s ∈ c.schemas, s.name = schema ∧ name ∈ s.composites.map CompositeType.name := by
  simp only [compositeNames, userSchemas, List.mem_flatMap, List.mem_filter, List.mem_map,
    Schema.isSystem, Prod.mk.injEq]
  constructor
  · rintro ⟨s, ⟨hs, hsystem⟩, k, hk, rfl, rfl⟩
    exact ⟨by simpa using hsystem, s, hs, rfl, k, hk, rfl⟩
  · rintro ⟨hsystem, s, hs, rfl, k, hk, rfl⟩
    exact ⟨s, ⟨hs, by simpa using hsystem⟩, k, hk, rfl, rfl⟩

/-- A catalog with the types of an unambiguous one is unambiguous. -/
theorem IsUnambiguous.of_sameTypes (hc : c.IsUnambiguous) (h : c.SameTypes d) :
    d.IsUnambiguous := by
  intro p henum hcomposite
  exact hc p ((h.mem_enumNames_iff p).1 henum) ((h.mem_compositeNames_iff p).1 hcomposite)

/-! ## The search by sets -/

/-- In an unambiguous catalog the search finds what the sets of types say. -/
theorem userType?_of_isUnambiguous (hc : c.IsUnambiguous) (i : Identifier) :
    c.userType? i =
      if (c.schemaOf i, i.name) ∈ c.enumNames then
        some (.enum (c.enumKey (c.schemaOf i) i.name))
      else if (c.schemaOf i, i.name) ∈ c.compositeNames then some .composite
      else none := by
  by_cases hsystem : c.schemaOf i = systemSchema
  · rw [userType?_of_system hsystem, if_neg fun h => (mem_enumNames.1 h).1 hsystem,
      if_neg fun h => (mem_compositeNames.1 h).1 hsystem]
  rcases c.isEarliest_or_undefined (c.schemaOf i) i.name with ⟨entry, hentry⟩ | hundefined
  · rw [userType?_of_isEarliest hsystem hentry]
    obtain ⟨before, after, hschemas, hname, hdefines, -⟩ := hentry
    have hmem : entry ∈ c.schemas := by rw [hschemas]; simp
    by_cases henum : i.name ∈ entry.enums.map EnumType.name
    · have hin : (c.schemaOf i, i.name) ∈ c.enumNames :=
        mem_enumNames.2 ⟨hsystem, entry, hmem, hname, henum⟩
      rw [typeIn?_of_enum henum, hname, if_pos hin]
    · have hin : (c.schemaOf i, i.name) ∈ c.compositeNames :=
        mem_compositeNames.2 ⟨hsystem, entry, hmem, hname, hdefines.resolve_left henum⟩
      -- Another entry could have the name as an enum only in an ambiguous catalog.
      rw [typeIn?_of_composite hdefines henum, if_neg fun h => hc _ h hin, if_pos hin]
  · have henum : (c.schemaOf i, i.name) ∉ c.enumNames := by
      intro h
      obtain ⟨-, s, hs, hname, hdefines⟩ := mem_enumNames.1 h
      exact hundefined s hs hname (.inl hdefines)
    have hcomposite : (c.schemaOf i, i.name) ∉ c.compositeNames := by
      intro h
      obtain ⟨-, s, hs, hname, hdefines⟩ := mem_compositeNames.1 h
      exact hundefined s hs hname (.inr hdefines)
    rw [userType?_of_undefined hundefined, if_neg henum, if_neg hcomposite]

/-- The search finds the same in catalogs with the same types. -/
theorem SameTypes.userType?_eq (h : c.SameTypes d) (hc : c.IsUnambiguous) (i : Identifier) :
    d.userType? i = c.userType? i := by
  have hschema : d.schemaOf i = c.schemaOf i := by
    unfold schemaOf
    rw [h.defaultSchema]
  have hkey : d.enumKey (c.schemaOf i) i.name = c.enumKey (c.schemaOf i) i.name := by
    unfold enumKey
    rw [h.defaultSchema]
  rw [userType?_of_isUnambiguous (hc.of_sameTypes h), userType?_of_isUnambiguous hc, hschema, hkey]
  simp only [h.mem_enumNames_iff, h.mem_compositeNames_iff]

/-- A declared type is understood alike in catalogs with the same types. -/
theorem SameTypes.classify_eq (h : c.SameTypes d) (hc : c.IsUnambiguous) (declared : String) :
    d.classify declared = c.classify declared := by
  unfold classify
  simp only [h.userType?_eq hc]

/-- A column has the same Go type in catalogs with the same types. -/
theorem SameTypes.goType_eq (h : c.SameTypes d) (hc : c.IsUnambiguous) (settings : Settings)
    (column : Column) : d.goType settings column = c.goType settings column := by
  rw [goType, goType, h.classify_eq hc]

/-- The same is logged for a column in catalogs with the same types. -/
theorem SameTypes.logs_eq (h : c.SameTypes d) (hc : c.IsUnambiguous) (settings : Settings)
    (column : Column) : d.logs settings column = c.logs settings column := by
  rw [logs, logs, h.classify_eq hc]

/-! ## The rows of a catalog in another order -/

namespace IsReordering

/-- The user schemas are rearranged with all others. -/
theorem userSchemas (h : c.IsReordering d) :
    Rearranged Schema.IsReordering c.userSchemas d.userSchemas :=
  h.schemas.filter fun s t hst => by rw [Schema.isSystem, Schema.isSystem, hst.name]

/-- A catalog in another order has the same types. -/
theorem sameTypes (h : c.IsReordering d) : c.SameTypes d where
  defaultSchema := h.defaultSchema
  mem_enumNames_iff p := by
    have hperm : c.enumNames.Perm d.enumNames := h.userSchemas.perm_flatMap fun s t hst => by
      rw [hst.name]
      exact hst.enums.map _
    exact hperm.mem_iff.symm
  mem_compositeNames_iff p := by
    have hperm : c.compositeNames.Perm d.compositeNames :=
      h.userSchemas.perm_flatMap fun s t hst => by
        rw [hst.name]
        exact hst.composites.map _
    exact hperm.mem_iff.symm

/-- What is made of the names around a column, and of the column, is rearranged. -/
theorem perm_flatMap_tableColumns {α : Type} (h : c.IsReordering d)
    (f : String → String → Column → List α) :
    (c.tableColumns.flatMap fun (s, t, col) => f s.name t.name col).Perm
      (d.tableColumns.flatMap fun (s, t, col) => f s.name t.name col) := by
  simp only [tableColumns, List.flatMap_assoc, List.flatMap_map]
  refine h.userSchemas.perm_flatMap fun s t hst => ?_
  refine hst.tables.perm_flatMap fun t u htu => ?_
  rw [hst.name, htu.name]
  exact htu.columns.flatMap_right _

/-- The tables of a catalog in another order are as many. -/
theorem length_tables (h : c.IsReordering d) :
    (c.userSchemas.flatMap (·.tables)).length = (d.userSchemas.flatMap (·.tables)).length := by
  have hperm : (c.userSchemas.flatMap fun s => s.tables.map fun _ => ()).Perm
      (d.userSchemas.flatMap fun s => s.tables.map fun _ => ()) :=
    h.userSchemas.perm_flatMap fun s t hst => by
      rw [List.map_const', List.map_const', hst.tables.length_eq]
  have hlength := hperm.length_eq
  simpa only [List.length_flatMap, List.length_map] using hlength

variable (settings : Settings)

/-- The rows of a catalog in another order are the same, in another order. -/
theorem perm_columns (h : c.IsReordering d) (hc : c.IsUnambiguous) :
    (c.resolveAll settings).columns.Perm (d.resolveAll settings).columns := by
  have hrow : ∀ x, d.resolveColumn settings x = c.resolveColumn settings x := fun x => by
    rw [resolveColumn, resolveColumn, h.sameTypes.goType_eq hc]
  have hperm := h.perm_flatMap_tableColumns fun s t col =>
    [(⟨s, t, col.name, col.declaredType, c.goType settings col⟩ : ResolvedColumn)]
  simp only [resolveAll, funext hrow, List.map_eq_flatMap]
  exact hperm

/-- So are its log records. -/
theorem perm_logs (h : c.IsReordering d) (hc : c.IsUnambiguous) :
    (c.resolveAll settings).logs.Perm (d.resolveAll settings).logs := by
  have hlogs : ∀ column, d.logs settings column = c.logs settings column :=
    h.sameTypes.logs_eq hc settings
  simpa only [resolveAll, hlogs] using
    h.perm_flatMap_tableColumns fun _ _ column => c.logs settings column

/-- The statistics of a catalog in another order are the same. -/
theorem statistics_eq (h : c.IsReordering d) (hc : c.IsUnambiguous) :
    (d.resolveAll settings).statistics = (c.resolveAll settings).statistics := by
  have hcolumns := h.perm_columns settings hc
  simp only [resolveAll, Statistics.mk.injEq] at hcolumns ⊢
  exact ⟨h.userSchemas.length_eq.symm, h.length_tables.symm, hcolumns.length_eq.symm,
    (hcolumns.filter _).length_eq.symm⟩

end IsReordering

/-- **Resolution in an unambiguous catalog depends on its types and not on its layout**: catalogs
with the same types give every column the same Go type and log the same, and a catalog in another
order has the same rows in another order and the same statistics. -/
theorem resolution_of_isUnambiguous (hc : c.IsUnambiguous) :
    (∀ d, c.SameTypes d → ∀ settings column,
        d.goType settings column = c.goType settings column ∧
          d.logs settings column = c.logs settings column) ∧
      ∀ d, c.IsReordering d → ∀ settings,
        (c.resolveAll settings).columns.Perm (d.resolveAll settings).columns ∧
          (d.resolveAll settings).statistics = (c.resolveAll settings).statistics ∧
          (c.resolveAll settings).logs.Perm (d.resolveAll settings).logs :=
  ⟨fun _ h settings column => ⟨h.goType_eq hc settings column, h.logs_eq hc settings column⟩,
    fun _ h settings => ⟨h.perm_columns settings hc, h.statistics_eq settings hc,
      h.perm_logs settings hc⟩⟩

/-- A catalog with two entries of one schema. -/
def scatteredCatalog : Catalog :=
  ⟨"app", [⟨"billing", [⟨"status", ["open"]⟩], [], [⟨"t", [⟨"a", "billing.status", true, false⟩,
      ⟨"b", "address", false, false⟩]⟩]⟩,
    ⟨"pg_catalog", [⟨"address", []⟩], [], []⟩, ⟨"app", [], [⟨"address"⟩], []⟩,
    ⟨"billing", [⟨"plan", []⟩], [⟨"address"⟩], []⟩]⟩

/-- The catalog with the two entries in one, and with nothing in the system schema. -/
def gatheredCatalog : Catalog :=
  ⟨"app", [⟨"app", [], [⟨"address"⟩, ⟨"address"⟩], []⟩,
    ⟨"billing", [⟨"plan", []⟩, ⟨"status", []⟩], [⟨"address"⟩], []⟩, ⟨"pg_catalog", [], [], []⟩]⟩

/-- The catalog with its entries and columns the other way round. -/
def reversedCatalog : Catalog :=
  ⟨"app", [⟨"billing", [⟨"plan", []⟩], [⟨"address"⟩], []⟩, ⟨"app", [], [⟨"address"⟩], []⟩,
    ⟨"pg_catalog", [⟨"address", []⟩], [], []⟩,
    ⟨"billing", [⟨"status", ["open"]⟩], [], [⟨"t", [⟨"b", "address", false, false⟩,
      ⟨"a", "billing.status", true, false⟩]⟩]⟩]⟩

/-- Neither gathering the entries nor turning them round changes a type. -/
theorem resolution_of_scatteredCatalog :
    scatteredCatalog.IsUnambiguous ∧
      scatteredCatalog.SameTypes gatheredCatalog ∧
      gatheredCatalog.goType ⟨none, [], true⟩ ⟨"a", "billing.status", false, false⟩ =
        scatteredCatalog.goType ⟨none, [], true⟩ ⟨"a", "billing.status", false, false⟩ ∧
      scatteredCatalog.IsReordering reversedCatalog ∧
      (scatteredCatalog.resolveAll ⟨none, [], true⟩).columns.Perm
        (reversedCatalog.resolveAll ⟨none, [], true⟩).columns := by
  have hunambiguous : scatteredCatalog.IsUnambiguous := by decide
  have hsame : scatteredCatalog.SameTypes gatheredCatalog :=
    ⟨rfl, fun p => by simp [enumNames, userSchemas, scatteredCatalog, gatheredCatalog,
        Schema.isSystem, systemSchema, or_comm],
      fun p => by simp [compositeNames, userSchemas, scatteredCatalog, gatheredCatalog,
        Schema.isSystem, systemSchema]⟩
  have hreordering : scatteredCatalog.IsReordering reversedCatalog := by
    refine ⟨rfl, _, (List.reverse_perm _).symm, ?_⟩
    have hsame (s : Schema) (h : s.tables = []) : s.IsReordering s :=
      ⟨rfl, .refl _, .refl _, [], by rw [h], by rw [h]; exact .nil⟩
    refine .cons (hsame _ rfl) (.cons (hsame _ rfl) (.cons (hsame _ rfl) (.cons ?_ .nil)))
    exact ⟨rfl, .refl _, .refl _, _, .refl _, .cons ⟨rfl, .swap _ _ _⟩ .nil⟩
  obtain ⟨htypes, hrows⟩ := resolution_of_isUnambiguous hunambiguous
  exact ⟨hunambiguous, hsame, (htypes _ hsame _ _).1, hreordering, (hrows _ hreordering _).1⟩

end Catalog

end ColumnTypes
