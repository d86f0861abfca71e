import ColumnTypes.Proofs.Resolution.Typing

/-!
# Types held as identifiers

A type may be held as an identifier and written out again as `Identifier.typeName`, without its
catalog part and without an empty schema.  Main statement (`goType_typeName`): what is written has
the type that was read, with one exception.  Built-in names are told from the whole text, so a
declared type that only looks like one once its first part is gone is none: `db.pg_catalog.int4` is
looked up and not found, but it is written as `pg_catalog.int4`, a built-in name.

## Strategy

Reading what is written gives the name in the same schema (`parse?_typeName`), and the search
depends on nothing else.  Only built-in names remain, and these are written as they are
(`typeName_of_isNamed`).
-/

namespace ColumnTypes

namespace Identifier

variable {i : Identifier} {s : String}

/-- The schema under which an identifier is written: an empty one is left out. -/
def writtenSchema (i : Identifier) : Option String :=
  i.schema.filter (!·.isEmpty)

/-- The parts that are written spell what is written. -/
theorem intercalate_written (i : Identifier) :
    ".".intercalate (i.writtenSchema.toList ++ [i.name]) = i.typeName := by
  unfold writtenSchema typeName
  cases hs : i.schema with
  | none => rfl
  | some schema =>
      cases he : schema.isEmpty with
      | true => simp [Option.filter, he]
      | false => simp [Option.filter, he, String.intercalate_cons_cons]

/-- What is written is read as the name in the schema that is written. -/
theorem parse?_typeName (h : parse? s = some i) (hne : i.typeName ≠ "") :
    parse? i.typeName = some ⟨none, i.writtenSchema, i.name⟩ := by
  obtain ⟨hdots, -⟩ := spelledBy_of_parse? h
  have hspelled : SpelledBy (i.writtenSchema.toList ++ [i.name]) i.typeName := by
    refine ⟨fun segment hsegment => hdots segment ?_, intercalate_written i⟩
    have hwritten : ∀ schema ∈ i.writtenSchema, schema ∈ i.schema := by
      intro schema hschema
      exact (Option.filter_eq_some_iff.1 hschema).1
    simp only [segments, List.mem_append, Option.mem_toList, List.mem_singleton] at hsegment ⊢
    exact hsegment.elim (fun hm => .inl (.inr (hwritten _ hm))) .inr
  have hparts := parts_of_spelledBy hne (by simp) hspelled
  unfold parse?
  cases hw : i.writtenSchema with
  | none => simp [hparts, hw]
  | some schema => simp [hparts, hw]

/-- A built-in name is spelled by a bare one, alone or after the system schema. -/
theorem exists_spelledBy_of_isNamed {family : Family} (hs : family.IsNamed s) :
    ∃ front, ∃ name ∈ family.sqlNames, SpelledBy (front ++ [name]) s ∧
      (front = [] ∨ front = ["pg_catalog"]) := by
  obtain ⟨name, hname, hs⟩ := hs
  have hdot := Family.dot_not_mem_of_mem_sqlNames hname
  rcases hs with rfl | rfl
  · exact ⟨[], s, hname, ⟨by simpa using hdot, String.intercalate_singleton⟩, .inl rfl⟩
  · have hdots : ∀ segment ∈ ["pg_catalog", name], '.' ∉ segment.toList :=
      List.forall_mem_cons.2 ⟨by decide, by simpa using hdot⟩
    exact ⟨["pg_catalog"], name, hname, ⟨hdots, by simp [String.intercalate_cons_cons]⟩, .inr rfl⟩

/-- A built-in name is written as it is. -/
theorem typeName_of_isNamed {family : Family} (h : parse? s = some i) (hs : family.IsNamed s) :
    i.typeName = s := by
  obtain ⟨front, name, -, hspelled, hfront⟩ := exists_spelledBy_of_isNamed hs
  have hparts := parts_of_spelledBy (ne_empty_of_parse? h) (by simp) hspelled
  rw [← hspelled.2]
  rcases hfront with rfl | rfl
  · obtain rfl : ⟨none, none, name⟩ = i := by simpa [parse?, hparts] using h
    rfl
  · obtain rfl : ⟨none, some "pg_catalog", name⟩ = i := by simpa [parse?, hparts] using h
    rfl

/-- A name with a catalog part is no built-in name. -/
theorem not_isNamed_of_catalog (h : parse? s = some i) (hc : i.catalog.isSome) (family : Family) :
    ¬family.IsNamed s := by
  intro hfamily
  have hsame := typeName_of_isNamed h hfamily
  have hread := parse?_typeName h (hsame ▸ ne_empty_of_parse? h)
  rw [hsame, h, Option.some.injEq] at hread
  rw [hread] at hc
  exact absurd hc (by simp)

end Identifier

namespace Catalog

variable {c : Catalog} {i j : Identifier} {declared : String}

/-- The search depends on the name and the schema that it refers to. -/
theorem userType?_congr (hschema : c.schemaOf j = c.schemaOf i) (hname : j.name = i.name) :
    c.userType? j = c.userType? i := by
  rw [userType?, userType?, hschema, hname]

/-- The schema that is written refers to the same schema. -/
theorem schemaOf_written (c : Catalog) (i : Identifier) (name : String) :
    c.schemaOf ⟨none, i.writtenSchema, name⟩ = c.schemaOf i := by
  unfold schemaOf Identifier.writtenSchema
  cases i.schema with
  | none => rfl
  | some schema =>
      cases he : schema.isEmpty with
      | true => simp [Option.filter, he]
      | false => simp [Option.filter, he]

/-- What is no built-in name is what the search finds. -/
theorem classify_of_parse? (hnamed : ∀ family, ¬Family.IsNamed family declared)
    (h : Identifier.parse? declared = some i) :
    c.classify declared = ((c.userType? i).map Finding.user).getD .unknown := by
  rw [classify, Family.ofDeclared?_eq_none_iff.2 hnamed]
  simp only [h]
  cases c.userType? i <;> rfl

/-- What is written is understood as what was read, unless only what is written is a built-in
name. -/
theorem classify_typeName (h : Identifier.parse? declared = some i) (hne : i.typeName ≠ "")
    (hsame : declared = i.typeName ∨ ∀ family, ¬Family.IsNamed family i.typeName) :
    c.classify i.typeName = c.classify declared := by
  rcases hsame with heq | hnamed
  · rw [← heq]
  · have hread : ∀ family, ¬Family.IsNamed family declared := fun family hfamily =>
      hnamed family (Identifier.typeName_of_isNamed h hfamily ▸ hfamily)
    rw [classify_of_parse? hnamed (Identifier.parse?_typeName h hne), classify_of_parse? hread h,
      userType?_congr (schemaOf_written c i i.name) rfl]

/-- The type of a column whose declared type is no built-in name. -/
theorem goType_of_parse? {settings : Settings} {column : Column}
    (hnamed : ∀ family, ¬Family.IsNamed family column.declaredType)
    (h : Identifier.parse? column.declaredType = some i) :
    c.goType settings column = ((c.userType? i).map fun t =>
      t.goType (column.notNull || column.isArray) settings.rename).getD .dynamic := by
  rw [goType_of_classify (classify_of_parse? hnamed h)]
  cases c.userType? i <;> rfl

/-- **What is written for an identifier has the type that was read**, unless it has become a
built-in name: then it has the type of the family, and what was read has that of a user-defined
type. The catalog part of a name has no influence on its type. -/
theorem goType_typeName (c : Catalog) (settings : Settings) (name : String)
    (notNull isArray : Bool) (h : Identifier.parse? declared = some i) (hne : i.typeName ≠ "") :
    ((declared = i.typeName ∨ ∀ family, ¬Family.IsNamed family i.typeName) →
        c.goType settings ⟨name, i.typeName, notNull, isArray⟩ =
          c.goType settings ⟨name, declared, notNull, isArray⟩) ∧
      (∀ family, Family.IsNamed family i.typeName → declared ≠ i.typeName →
        c.goType settings ⟨name, i.typeName, notNull, isArray⟩ =
            family.goType settings.driver (notNull || isArray) ∧
          c.goType settings ⟨name, declared, notNull, isArray⟩ =
            ((c.userType? i).map fun t =>
              t.goType (notNull || isArray) settings.rename).getD .dynamic) ∧
      ∀ other j, Identifier.parse? other = some j → i.catalog.isSome → j.catalog.isSome →
        j.schema = i.schema → j.name = i.name →
          c.goType settings ⟨name, other, notNull, isArray⟩ =
            c.goType settings ⟨name, declared, notNull, isArray⟩ := by
  refine ⟨fun hsame => ?_, fun family hfamily hdiffers => ⟨?_, ?_⟩, ?_⟩
  · rw [goType_of_classify (classify_typeName h hne hsame), goType_of_classify rfl]
  · rw [goType_of_classify (classify_of_isNamed hfamily)]
    rfl
  · have hnamed : ∀ family, ¬Family.IsNamed family declared := fun f hf =>
      hdiffers (Identifier.typeName_of_isNamed h hf).symm
    exact goType_of_parse? hnamed h
  · intro other j hj hi hother hschema hname
    rw [goType_of_parse? (Identifier.not_isNamed_of_catalog hj hother) hj,
      goType_of_parse? (Identifier.not_isNamed_of_catalog h hi) h,
      userType?_congr (by rw [schemaOf, schemaOf, hschema]) hname]

/-- A catalog with an enum that has a built-in name. -/
def shadedCatalog : Catalog :=
  ⟨"app", [⟨"app", [⟨"int4", []⟩], [], []⟩, ⟨"billing", [], [⟨"address"⟩], []⟩]⟩

/-- A composite type of another schema is found under either of the two names, and under any
catalog part. -/
theorem goType_typeName_address :
    Identifier.parse? "db.billing.address" = some ⟨some "db", some "billing", "address"⟩ ∧
      shadedCatalog.goType ⟨some .pgxV4, [], true⟩ ⟨"home", "billing.address", false, false⟩ =
        shadedCatalog.goType ⟨some .pgxV4, [], true⟩
          ⟨"home", "db.billing.address", false, false⟩ ∧
      shadedCatalog.goType ⟨some .pgxV4, [], true⟩ ⟨"home", ".billing.address", false, false⟩ =
        shadedCatalog.goType ⟨some .pgxV4, [], true⟩
          ⟨"home", "db.billing.address", false, false⟩ := by
  have hread : Identifier.parse? "db.billing.address" =
      some ⟨some "db", some "billing", "address"⟩ := by rfl
  obtain ⟨hsame, -, hcatalog⟩ := goType_typeName shadedCatalog ⟨some .pgxV4, [], true⟩ "home"
    false false hread (by decide)
  refine ⟨hread, hsame (.inr ?_), ?_⟩
  · exact Family.ofDeclared?_eq_none_iff.1 (by decide)
  · exact hcatalog ".billing.address" ⟨some "", some "billing", "address"⟩ rfl
      rfl rfl rfl rfl

/-- A name that is built in without its first part is none with it: one with a catalog is not found,
and one with an empty schema is looked up in the default schema. -/
theorem goType_ne_goType_typeName :
    Identifier.parse? "db.pg_catalog.int4" = some ⟨some "db", some "pg_catalog", "int4"⟩ ∧
      (⟨some "db", some "pg_catalog", "int4"⟩ : Identifier).typeName = "pg_catalog.int4" ∧
      shadedCatalog.goType ⟨some .standard, [], false⟩
        ⟨"", "db.pg_catalog.int4", false, false⟩ = .dynamic ∧
      shadedCatalog.goType ⟨some .standard, [], false⟩
        ⟨"", "pg_catalog.int4", false, false⟩ = .int32 ∧
      Identifier.parse? ".int4" = some ⟨none, some "", "int4"⟩ ∧
      (⟨none, some "", "int4"⟩ : Identifier).typeName = "int4" ∧
      shadedCatalog.goType ⟨some .standard, [], false⟩
        ⟨"", ".int4", false, false⟩ = .named "Int4" ∧
      shadedCatalog.goType ⟨some .standard, [], false⟩ ⟨"", "int4", false, false⟩ = .int32 := by
  decide

end Catalog

end ColumnTypes
