import ColumnTypes.Proofs.Resolution.Typing
import Mathlib.Algebra.Ring.Nat
import Mathlib.Data.List.Basic

/-!
# The walk through a catalog

Resolution of a whole catalog gives rows, numbers and log records.  They are told here without it:

* `Listed` says which elements a list has, and in which order, by the places where they stand; the
  rows are the columns by their places in the catalog (`Catalog.Holds`);
* `Catalog.IsUnmatched` gives the rules by which a declared type is logged.

Main statements: a single walk through the schemas, their tables and the columns of these, which
counts as it goes, gathers all of it in step (`walk_eq_resolveAll`), and rows, numbers and records
are what places and rules say (`resolveAll_in_step`).

## Strategy

What a walk has gathered is determined by the schemas, the tables and the columns that it has come
to (`Gathers`).  One step at each of the three levels keeps this, so the run of each level does.
-/

namespace ColumnTypes

/-! ## Lists by the places of their elements -/

/-- A list of what stands at places, one element for each place and in the order of the places. -/
def Listed {ι α : Type} (before : ι → ι → Prop) (stands : ι → α → Prop) (as : List α) : Prop :=
  ∃ placed : List (ι × α), placed.map Prod.snd = as ∧
    placed.Pairwise (fun x y => before x.1 y.1) ∧ ∀ i a, (i, a) ∈ placed ↔ stands i a

namespace Listed

variable {ι κ α β : Type} {before : ι → ι → Prop} {stands : ι → α → Prop} {as : List α}

/-- The elements of a list stand at their indices. -/
theorem of_indices (as : List α) :
    Listed (· < ·) (fun (i : Nat) (a : α) => as[i]? = some a) as := by
  refine ⟨as.zipIdx.map Prod.swap, ?_, ?_, ?_⟩
  · rw [List.map_map]
    exact List.zipIdx_map_fst 0 as
  · have hindices : (as.zipIdx.map Prod.snd).Pairwise (· < ·) := by
      rw [List.zipIdx_map_snd]
      exact List.pairwise_lt_range'
    exact List.pairwise_map.2 (List.pairwise_map.1 hindices)
  · intro i a
    rw [List.mem_map]
    constructor
    · rintro ⟨⟨a, i⟩, hx, heq⟩
      cases heq
      exact List.mk_mem_zipIdx_iff_getElem?.1 hx
    · intro ha
      exact ⟨(a, i), List.mk_mem_zipIdx_iff_getElem?.2 ha, rfl⟩

/-- Chosen elements stand where they stood. -/
theorem filter (h : Listed before stands as) (p : α → Bool) :
    Listed before (fun i a => stands i a ∧ p a = true) (as.filter p) := by
  obtain ⟨placed, rfl, hordered, hmem⟩ := h
  refine ⟨placed.filter (p ·.2), ?_, hordered.filter _, ?_⟩
  · rw [List.filter_map]
    rfl
  · intro i a
    rw [List.mem_filter, hmem]

/-- Changed elements stand where they stood. -/
theorem map (h : Listed before stands as) (f : α → β) :
    Listed before (fun i b => ∃ a, stands i a ∧ b = f a) (as.map f) := by
  obtain ⟨placed, rfl, hordered, hmem⟩ := h
  refine ⟨placed.map fun x => (x.1, f x.2), ?_, ?_, ?_⟩
  · rw [List.map_map, List.map_map]
    rfl
  · rw [List.pairwise_map]
    exact hordered
  · intro i b
    rw [List.mem_map]
    constructor
    · rintro ⟨⟨j, a⟩, hx, heq⟩
      cases heq
      exact ⟨a, (hmem _ a).1 hx, rfl⟩
    · rintro ⟨a, ha, rfl⟩
      exact ⟨(i, a), (hmem i a).2 ha, rfl⟩

/-- What stands in the elements stands first at the place of its element, then at its own. -/
theorem flatMap {before' : κ → κ → Prop} {stands' : α → κ → β → Prop} {g : α → List β}
    (h : Listed before stands as) (hg : ∀ a, Listed before' (stands' a) (g a)) :
    Listed (Prod.Lex before before') (fun place b => ∃ a, stands place.1 a ∧ stands' a place.2 b)
      (as.flatMap g) := by
  obtain ⟨placed, rfl, hordered, hmem⟩ := h
  choose inner hinner hordered' hmem' using hg
  refine ⟨placed.flatMap fun x => (inner x.2).map fun y => ((x.1, y.1), y.2), ?_, ?_, ?_⟩
  · rw [List.map_flatMap, List.flatMap_map]
    simp only [List.map_map, Function.comp_def, hinner]
  · rw [List.pairwise_flatMap]
    refine ⟨fun x _ => ?_, hordered.imp fun {x y} hxy a ha b hb => ?_⟩
    · rw [List.pairwise_map]
      exact (hordered' x.2).imp fun hlt => .right _ hlt
    · obtain ⟨v, -, rfl⟩ := List.mem_map.1 ha
      obtain ⟨w, -, rfl⟩ := List.mem_map.1 hb
      exact .left _ _ hxy
  · rintro ⟨i, k⟩ b
    simp only [List.mem_flatMap, List.mem_map]
    constructor
    · rintro ⟨⟨i', a⟩, hx, ⟨k', b'⟩, hy, heq⟩
      cases heq
      exact ⟨a, (hmem _ a).1 hx, (hmem' a _ _).1 hy⟩
    · rintro ⟨a, ha, hb⟩
      exact ⟨(i, a), (hmem i a).2 ha, (k, b), (hmem' a k b).2 hb, rfl⟩

end Listed

namespace Catalog

/-! ## Columns by their places -/

/-- A column outside the system schema, by the positions of its schema entry, of its table in the
entry, and of the column in the table. -/
def Holds (c : Catalog) (place : Nat × Nat × Nat) (s : Schema) (t : Table) (column : Column) :
    Prop :=
  c.schemas[place.1]? = some s ∧ s.name ≠ "pg_catalog" ∧ s.tables[place.2.1]? = some t ∧
    t.columns[place.2.2]? = some column

/-- The stored order of places: schema entries come first, then tables, then columns. -/
def StoredBefore : Nat × Nat × Nat → Nat × Nat × Nat → Prop :=
  Prod.Lex (· < ·) (Prod.Lex (· < ·) (· < ·))

/-- The columns that are resolved are those that the catalog holds, in the stored order. -/
theorem listed_tableColumns (c : Catalog) :
    Listed StoredBefore (fun place x => c.Holds place x.1 x.2.1 x.2.2) c.tableColumns := by
  have hschemas := (Listed.of_indices c.schemas).filter (!·.isSystem)
  have hinner : ∀ s : Schema, Listed (Prod.Lex (· < ·) (· < ·))
      (fun place x => ∃ t, s.tables[place.1]? = some t ∧
        ∃ column, t.columns[place.2]? = some column ∧ x = (s, t, column))
      (s.tables.flatMap fun t => t.columns.map fun column => (s, t, column)) := fun s =>
    (Listed.of_indices s.tables).flatMap fun t => (Listed.of_indices t.columns).map _
  obtain ⟨placed, hplaced, hordered, hmem⟩ := hschemas.flatMap hinner
  refine ⟨placed, hplaced, hordered, ?_⟩
  rintro ⟨i, j, k⟩ ⟨s, t, column⟩
  rw [hmem]
  constructor
  · rintro ⟨s, ⟨hs, hsystem⟩, t, ht, column, hcolumn, heq⟩
    cases heq
    exact ⟨hs, by simpa [Schema.isSystem, systemSchema] using hsystem, ht, hcolumn⟩
  · rintro ⟨hs, hsystem, ht, hcolumn⟩
    have huser : s.isSystem = false := by simpa [Schema.isSystem, systemSchema] using hsystem
    exact ⟨s, ⟨hs, by simpa using huser⟩, t, ht, column, hcolumn, rfl⟩

/-! ## Declared types that nothing has -/

/-- A declared type that nothing has: it is no built-in name, has at most two dots, and refers to a
name that is neither an enum nor a composite type of its schema, or to one in the system schema. -/
structure IsUnmatched (c : Catalog) (declared : String) : Prop where
  ne_empty : declared ≠ ""
  not_builtin : ∀ family, ¬Family.IsNamed family declared
  dots_le : Identifier.dots declared ≤ 2
  not_found : ∃ schema name, c.Refers declared schema name ∧
    (schema = "pg_catalog" ∨ ∀ s ∈ c.schemas, s.name = schema → ¬s.Defines name)

/-- Nothing is the type of an empty name. -/
theorem classify_empty (c : Catalog) : c.classify "" = .malformed :=
  rfl

/-- A declared type is understood as unknown exactly if nothing has it. -/
theorem classify_eq_unknown_iff {c : Catalog} {declared : String} :
    c.classify declared = .unknown ↔ c.IsUnmatched declared := by
  constructor
  · intro h
    have hne : declared ≠ "" := by
      rintro rfl
      exact nomatch (c.classify_empty).symm.trans h
    -- The rules for the type of a column tell what else the declared type could be.
    obtain ⟨t, ht⟩ := @exists_typed ⟨"", declared, false, false⟩ c ⟨none, [], false⟩ hne
    cases ht with
    | builtin hnamed => exact nomatch (classify_of_isNamed hnamed).symm.trans h
    | malformed hbuiltin hdots => exact nomatch (classify_of_dots hbuiltin hdots).symm.trans h
    | enum hlook hsystem hentry hname =>
        exact nomatch (classify_of_enum hne hlook hsystem hentry hname).symm.trans h
    | composite hlook hsystem hentry hname =>
        exact nomatch (classify_of_composite hne hlook hsystem hentry hname).symm.trans h
    | unknown hlook hnone =>
        exact ⟨hne, hlook.not_builtin, hlook.dots_le, _, _, hlook.refers, hnone⟩
  · rintro ⟨hne, hbuiltin, hdots, schema, name, hrefers, hnone⟩
    exact classify_of_unknown hne ⟨hbuiltin, hdots, hrefers⟩ hnone

instance (c : Catalog) (declared : String) : Decidable (c.IsUnmatched declared) :=
  decidable_of_iff _ classify_eq_unknown_iff

/-! ## One walk -/

section walk

variable (c : Catalog) (settings : Settings)

/-- The walk comes to a column: it gets a row, is counted and may be logged. -/
def visitColumn (s : Schema) (t : Table) (done : CatalogTypes) (column : Column) : CatalogTypes :=
  let row := c.resolveColumn settings (s, t, column)
  { columns := done.columns ++ [row]
    statistics :=
      { done.statistics with
        columns := done.statistics.columns + 1
        dynamic := if row.isDynamic then done.statistics.dynamic + 1 else done.statistics.dynamic }
    logs := done.logs ++ c.logs settings column }

/-- The walk comes to a table, counts it and goes through its columns. -/
def visitTable (s : Schema) (done : CatalogTypes) (t : Table) : CatalogTypes :=
  t.columns.foldl (c.visitColumn settings s t)
    { done with statistics := { done.statistics with tables := done.statistics.tables + 1 } }

/-- The walk comes to a schema entry, counts it and goes through its tables. -/
def visitSchema (done : CatalogTypes) (s : Schema) : CatalogTypes :=
  s.tables.foldl (c.visitTable settings s)
    { done with statistics := { done.statistics with schemas := done.statistics.schemas + 1 } }

/-- One walk through all entries but those of the system schema. -/
def walk : CatalogTypes :=
  c.userSchemas.foldl (c.visitSchema settings) ⟨[], ⟨0, 0, 0, 0⟩, []⟩

/-- What a walk has gathered when it has come to some schema entries, tables and columns. -/
structure Gathers (schemas : List Schema) (tables : List Table)
    (columns : List (Schema × Table × Column)) (done : CatalogTypes) : Prop where
  columns_eq : done.columns = columns.map (c.resolveColumn settings)
  statistics_eq : done.statistics =
    ⟨schemas.length, tables.length, columns.length, (done.columns.filter (·.isDynamic)).length⟩
  logs_eq : done.logs = columns.flatMap fun (_, _, column) => c.logs settings column

variable {c settings} {schemas : List Schema} {tables : List Table}
  {columns : List (Schema × Table × Column)} {done : CatalogTypes}

/-- What is kept from step to step, with the element that a step has come to, is kept by a run. -/
theorem foldl_of_step {σ α : Type} {P : List α → σ → Prop} {step : σ → α → σ}
    (hstep : ∀ as a state, P as state → P (as ++ [a]) (step state a)) {as : List α} {state : σ}
    (h : P as state) (rest : List α) : P (as ++ rest) (rest.foldl step state) := by
  induction rest generalizing as state with
  | nil => simpa using h
  | cons a rest ih =>
      have hrest := ih (hstep as a state h)
      rwa [List.append_assoc] at hrest

/-- A column keeps rows, numbers and records in step. -/
theorem Gathers.visitColumn (h : c.Gathers settings schemas tables columns done) (s : Schema)
    (t : Table) (column : Column) :
    c.Gathers settings schemas tables (columns ++ [(s, t, column)])
      (c.visitColumn settings s t done column) where
  columns_eq := by simp [Catalog.visitColumn, h.columns_eq]
  statistics_eq := by
    simp only [Catalog.visitColumn, h.statistics_eq, List.filter_append, List.length_append,
      List.length_singleton, List.filter_cons, List.filter_nil]
    split <;> rfl
  logs_eq := by simp [Catalog.visitColumn, h.logs_eq]

/-- So does a table with its columns. -/
theorem Gathers.visitTable (h : c.Gathers settings schemas tables columns done) (s : Schema)
    (t : Table) :
    c.Gathers settings schemas (tables ++ [t])
      (columns ++ t.columns.map fun column => (s, t, column)) (c.visitTable settings s done t) := by
  have hstart : c.Gathers settings schemas (tables ++ [t])
      (columns ++ ([] : List Column).map fun column => (s, t, column))
      { done with statistics := { done.statistics with tables := done.statistics.tables + 1 } } :=
    ⟨by simpa using h.columns_eq, by simp [h.statistics_eq], by simpa using h.logs_eq⟩
  refine foldl_of_step (P := fun visited =>
    c.Gathers settings schemas (tables ++ [t])
      (columns ++ visited.map fun column => (s, t, column))) ?_ hstart t.columns
  intro visited column state hstate
  have hnext := hstate.visitColumn s t column
  rwa [List.append_assoc, ← List.map_singleton (f := fun column => (s, t, column)),
    ← List.map_append] at hnext

/-- So does a schema entry with its tables. -/
theorem Gathers.visitSchema (h : c.Gathers settings schemas tables columns done) (s : Schema) :
    c.Gathers settings (schemas ++ [s]) (tables ++ s.tables)
      (columns ++ s.tables.flatMap fun t => t.columns.map fun column => (s, t, column))
      (c.visitSchema settings done s) := by
  have hstart : c.Gathers settings (schemas ++ [s]) (tables ++ [])
      (columns ++ ([] : List Table).flatMap fun t => t.columns.map fun column => (s, t, column))
      { done with statistics := { done.statistics with schemas := done.statistics.schemas + 1 } } :=
    ⟨by simpa using h.columns_eq, by simp [h.statistics_eq], by simpa using h.logs_eq⟩
  refine foldl_of_step (P := fun visited =>
    c.Gathers settings (schemas ++ [s]) (tables ++ visited)
      (columns ++ visited.flatMap fun t => t.columns.map fun column => (s, t, column))) ?_ hstart
        s.tables
  intro visited t state hstate
  have hnext := hstate.visitTable s t
  rwa [List.append_assoc, List.append_assoc,
    ← List.flatMap_singleton (fun t => t.columns.map fun column => (s, t, column)) t,
    ← List.flatMap_append] at hnext

/-- A walk gathers the tables and the columns of all the entries that it goes through. -/
theorem gathers_walk (c : Catalog) (settings : Settings) :
    c.Gathers settings c.userSchemas (c.userSchemas.flatMap (·.tables)) c.tableColumns
      (c.walk settings) := by
  have hstart : c.Gathers settings [] [] [] ⟨[], ⟨0, 0, 0, 0⟩, []⟩ := ⟨rfl, rfl, rfl⟩
  refine foldl_of_step (P := fun visited =>
    c.Gathers settings visited (visited.flatMap (·.tables))
      (visited.flatMap fun s => s.tables.flatMap fun t => t.columns.map fun column =>
        (s, t, column))) ?_ hstart c.userSchemas
  intro visited s state hstate
  have hnext := hstate.visitSchema s
  rw [List.flatMap_append, List.flatMap_append, List.flatMap_singleton, List.flatMap_singleton]
  exact hnext

/-- **One walk gathers what is told of the whole catalog.** -/
theorem walk_eq_resolveAll (c : Catalog) (settings : Settings) :
    c.walk settings = c.resolveAll settings := by
  obtain ⟨hcolumns, hstatistics, hlogs⟩ := c.gathers_walk settings
  rw [hcolumns] at hstatistics
  unfold resolveAll
  rw [CatalogTypes.mk.injEq]
  exact ⟨hcolumns, by rw [hstatistics, List.length_map], hlogs⟩

end walk

/-! ## Rows, numbers and records -/

variable (c : Catalog) (driver : Option Driver) (rename : Rename) (debug : Bool)

/-- The rows are the columns of the catalog, each with its own Go type. -/
theorem listed_columns :
    Listed StoredBefore (fun place row => ∃ s t column, c.Holds place s t column ∧
      row = ⟨s.name, t.name, column.name, column.declaredType,
        c.goType ⟨driver, rename, debug⟩ column⟩)
      (c.resolveAll ⟨driver, rename, debug⟩).columns := by
  obtain ⟨placed, hplaced, hordered, hmem⟩ :=
    c.listed_tableColumns.map (c.resolveColumn ⟨driver, rename, debug⟩)
  refine ⟨placed, hplaced, hordered, fun place row => ?_⟩
  rw [hmem]
  constructor
  · rintro ⟨⟨s, t, column⟩, hholds, rfl⟩
    exact ⟨s, t, column, hholds, rfl⟩
  · rintro ⟨s, t, column, hholds, rfl⟩
    exact ⟨(s, t, column), hholds, rfl⟩

/-- The columns are as many as the tables of all entries have. -/
theorem length_tableColumns :
    c.tableColumns.length =
      (c.userSchemas.map fun s => (s.tables.map fun t => t.columns.length).sum).sum := by
  simp only [tableColumns, List.length_flatMap, List.length_map]

/-- What is made of the elements of some kind alone is made of these. -/
theorem flatMap_ite_singleton {α β : Type} (p : α → Prop) [DecidablePred p] (f : α → β)
    (as : List α) :
    (as.flatMap fun a => if p a then [f a] else []) = (as.filter fun a => p a).map f := by
  induction as with
  | nil => rfl
  | cons a as ih =>
      rw [List.flatMap_cons, List.filter_cons, ih]
      by_cases ha : p a
      · simp [ha]
      · simp [ha]

/-- What is logged for a column, by the rules for its declared type. -/
theorem logs_eq_ite (column : Column) :
    c.logs ⟨driver, rename, debug⟩ column =
      if debug ∧ c.IsUnmatched column.declaredType then
        [⟨.warning, "unknown PostgreSQL type: " ++ column.declaredType⟩]
      else [] := by
  simp only [logs, unknownTypeRecord, ← classify_eq_unknown_iff, Bool.and_eq_true, beq_iff_eq]

/-- With logging on, there is a record for every row with a type that nothing has. -/
theorem logs_resolveAll :
    (c.resolveAll ⟨driver, rename, debug⟩).logs =
      if debug then
        ((c.resolveAll ⟨driver, rename, debug⟩).columns.filter
          fun row => c.IsUnmatched row.declaredType).map
            fun row => ⟨.warning, "unknown PostgreSQL type: " ++ row.declaredType⟩
      else [] := by
  unfold resolveAll
  dsimp only
  rw [List.filter_map, List.map_map]
  simp only [logs_eq_ite]
  cases debug with
  | false => simp
  | true =>
      simp only [true_and, if_true]
      exact flatMap_ite_singleton (fun x => c.IsUnmatched x.2.2.declaredType) _ c.tableColumns

/-- **Rows, numbers and records of a whole catalog** are gathered in step, by one walk.  There is
one row for each column outside the system schema, in the stored order, with the Go type of that
column alone.  The numbers are those of the schema entries, their tables, the columns of these, and
the rows without a specific Go type.  Logging changes neither; with it on, a record is logged for
each row with a type that nothing has, in the order of the rows, and with it off there is none. -/
theorem resolveAll_in_step (c : Catalog) (driver : Option Driver) (rename : Rename)
    (debug : Bool) :
    let types := c.resolveAll ⟨driver, rename, debug⟩
    let entries := c.schemas.filter fun s => s.name ≠ "pg_catalog"
    c.walk ⟨driver, rename, debug⟩ = types ∧
      Listed StoredBefore (fun place row => ∃ s t column, c.Holds place s t column ∧
        row = ⟨s.name, t.name, column.name, column.declaredType,
          c.goType ⟨driver, rename, debug⟩ column⟩) types.columns ∧
      types.unresolved = types.columns.filter (fun row => row.goType.text = "interface\x7b\x7d") ∧
      types.statistics =
        { schemas := entries.length
          tables := (entries.map fun s => s.tables.length).sum
          columns := (entries.map fun s => (s.tables.map fun t => t.columns.length).sum).sum
          dynamic := types.unresolved.length } ∧
      (∀ debug', (c.resolveAll ⟨driver, rename, debug'⟩).columns = types.columns ∧
        (c.resolveAll ⟨driver, rename, debug'⟩).statistics = types.statistics) ∧
      types.logs =
        if debug then
          (types.columns.filter fun row => c.IsUnmatched row.declaredType).map
            fun row => ⟨.warning, "unknown PostgreSQL type: " ++ row.declaredType⟩
        else [] := by
  have hentries : c.userSchemas = c.schemas.filter fun s => s.name ≠ "pg_catalog" := by
    refine List.filter_congr fun s _ => ?_
    simp [Schema.isSystem, systemSchema, beq_eq_decide]
  refine ⟨c.walk_eq_resolveAll _, c.listed_columns driver rename debug, ?_, ?_, fun _ => ⟨rfl, rfl⟩,
    c.logs_resolveAll driver rename debug⟩
  · exact List.filter_congr fun row _ => rfl
  · rw [← hentries, ← length_tableColumns]
    unfold resolveAll
    dsimp only
    rw [List.length_map, List.length_flatMap]
    rfl

end Catalog

end ColumnTypes
