import ColumnTypes.Proofs.Resolution.Typing
import ColumnTypes.Proofs.StructName.Collisions

/-!
# Which enums share a Go type

An enum's Go type is made of its **key**: the enum's name in the default schema, and the names of
schema and enum with an underscore between them elsewhere.  The schema's name keeps enums of one
name apart, but not every pair of enums, because the underscore that joins the names may also stand
inside of them, and because keys of the default schema have no schema in front: the enum
`billing_status` of the default schema and the enum `status` of the schema `billing` are both
`BillingStatus` (`goType_prefixed_eq_unprefixed`).

Main statement (`enum_goType_eq_iff`): where names are in snake case and nothing is overridden, two
enums share their Go type exactly if the words of their keys agree, an `i` before a `d` counting as
the word `id`.
-/

namespace ColumnTypes.Catalog

/-- A declared type that resolves to an enum of a schema. -/
structure ResolvesToEnum (c : Catalog) (declared schema name : String) : Prop where
  ne_empty : declared ≠ ""
  looksUp : c.LooksUp declared schema name
  not_system : schema ≠ "pg_catalog"
  found : ∃ entry, c.IsEarliest schema name entry ∧ name ∈ entry.enums.map EnumType.name

/-- A catalog whose schemas and enums all have names in snake case. -/
def HasSnakeCaseNames (c : Catalog) : Prop :=
  ∀ s ∈ c.schemas, StructName.IsSnakeCase s.name ∧ ∀ e ∈ s.enums, StructName.IsSnakeCase e.name

instance (c : Catalog) : Decidable c.HasSnakeCaseNames :=
  inferInstanceAs (Decidable (∀ s ∈ c.schemas, StructName.IsSnakeCase s.name ∧
    ∀ e ∈ s.enums, StructName.IsSnakeCase e.name))

variable {c : Catalog}

/-- An enum that is resolved to is what the declared type is understood as, under its key. -/
theorem ResolvesToEnum.classify_eq {declared schema name : String}
    (h : c.ResolvesToEnum declared schema name) :
    c.classify declared = .user (.enum (c.enumKey schema name)) := by
  obtain ⟨entry, hentry, hname⟩ := h.found
  exact classify_of_enum h.ne_empty h.looksUp h.not_system hentry hname

/-- An enum that is resolved to stands in an entry of its schema. -/
theorem ResolvesToEnum.exists_mem {declared schema name : String}
    (h : c.ResolvesToEnum declared schema name) :
    ∃ s ∈ c.schemas, s.name = schema ∧ ∃ e ∈ s.enums, e.name = name := by
  obtain ⟨entry, ⟨before, after, hschemas, hentry, -⟩, hname⟩ := h.found
  exact ⟨entry, by rw [hschemas]; simp, hentry, List.mem_map.1 hname⟩

/-- An enum has the struct name of its key. -/
theorem ResolvesToEnum.goType_eq {settings : Settings} {column : Column} {schema name : String}
    (h : c.ResolvesToEnum column.declaredType schema name) :
    c.goType settings column = .named (structName settings.rename (c.enumKey schema name)) :=
  goType_of_classify h.classify_eq

/-- Without overrides an enum has the struct name that is derived from its key. -/
theorem goType_of_resolvesToEnum {settings : Settings} {column : Column} {schema name : String}
    (hrename : settings.rename = [])
    (h : c.ResolvesToEnum column.declaredType schema name) :
    c.goType settings column = .named (StructName.derived (c.enumKey schema name)) := by
  rw [h.goType_eq, hrename]
  rfl

/-- The schema and the name of an enum that is found are in snake case. -/
theorem isSnakeCase_of_resolvesToEnum {declared schema name : String}
    (hc : c.HasSnakeCaseNames) (h : c.ResolvesToEnum declared schema name) :
    StructName.IsSnakeCase schema ∧ StructName.IsSnakeCase name := by
  obtain ⟨s, hs, rfl, e, he, rfl⟩ := h.exists_mem
  exact ⟨(hc s hs).1, (hc s hs).2 e he⟩

/-- The key of an enum is in snake case where the names are. -/
theorem isSnakeCase_enumKey {schema name : String} (hs : StructName.IsSnakeCase schema)
    (hn : StructName.IsSnakeCase name) : StructName.IsSnakeCase (c.enumKey schema name) := by
  unfold enumKey
  split
  · exact hn
  · exact StructName.isSnakeCase_joined hs hn

/-- **Two enums share their Go type exactly if the merged words of their keys agree.** -/
theorem enum_goType_eq_iff (hc : c.HasSnakeCaseNames) {settings₁ settings₂ : Settings}
    (hr₁ : settings₁.rename = []) (hr₂ : settings₂.rename = []) {column₁ column₂ : Column}
    {schema₁ schema₂ name₁ name₂ : String}
    (h₁ : c.ResolvesToEnum column₁.declaredType schema₁ name₁)
    (h₂ : c.ResolvesToEnum column₂.declaredType schema₂ name₂) :
    (c.goType settings₁ column₁).text = (c.goType settings₂ column₂).text ↔
      StructName.mergedIds (StructName.words (c.enumKey schema₁ name₁)) =
        StructName.mergedIds (StructName.words (c.enumKey schema₂ name₂)) := by
  obtain ⟨hs₁, hn₁⟩ := isSnakeCase_of_resolvesToEnum hc h₁
  obtain ⟨hs₂, hn₂⟩ := isSnakeCase_of_resolvesToEnum hc h₂
  rw [goType_of_resolvesToEnum hr₁ h₁, goType_of_resolvesToEnum hr₂ h₂,
    ← StructName.derived_eq_iff (isSnakeCase_enumKey hs₁ hn₁) (isSnakeCase_enumKey hs₂ hn₂)]
  rfl

/-! ## Two enums named alike, and two enums with one Go type -/

/-- Two enums named `status` and one that is named like the key of the second. -/
def statusCatalog : Catalog :=
  ⟨"public", [⟨"public", [⟨"status", []⟩, ⟨"billing_status", []⟩], [], []⟩,
    ⟨"billing", [⟨"status", []⟩], [], []⟩]⟩

/-- A bare name of the catalog resolves to the enum of the default schema. -/
theorem resolvesToEnum_status : statusCatalog.ResolvesToEnum "status" "public" "status" :=
  ⟨by decide, ⟨Family.ofDeclared?_eq_none_iff.1 (by decide), by decide,
    [], ⟨by decide, by decide⟩, .inr ⟨.inl rfl, rfl⟩⟩, by decide,
    _, ⟨[], _, rfl, rfl, by decide, by decide⟩, by decide⟩

/-- So does the name that looks like a key. -/
theorem resolvesToEnum_billing_status :
    statusCatalog.ResolvesToEnum "billing_status" "public" "billing_status" :=
  ⟨by decide, ⟨Family.ofDeclared?_eq_none_iff.1 (by decide), by decide,
    [], ⟨by decide, by decide⟩, .inr ⟨.inl rfl, rfl⟩⟩, by decide,
    _, ⟨[], _, rfl, rfl, by decide, by decide⟩, by decide⟩

/-- A qualified name resolves to the enum of the other schema. -/
theorem resolvesToEnum_billing :
    statusCatalog.ResolvesToEnum "billing.status" "billing" "status" :=
  ⟨by decide, ⟨Family.ofDeclared?_eq_none_iff.1 (by decide), by decide,
    ["billing"], ⟨by decide, by decide⟩, .inl ⟨rfl, by decide⟩⟩, by decide,
    _, ⟨[_], [], rfl, rfl, by decide, by decide⟩, by decide⟩

/-- Enums of one name in two schemas: their Go types differ, since their keys do. -/
theorem goType_status_ne_billing :
    statusCatalog.HasSnakeCaseNames ∧ statusCatalog.ResolvesToEnum "status" "public" "status" ∧
      statusCatalog.ResolvesToEnum "billing.status" "billing" "status" ∧
      (statusCatalog.goType ⟨none, [], false⟩ ⟨"a", "status", true, false⟩).text ≠
        (statusCatalog.goType ⟨none, [], false⟩ ⟨"b", "billing.status", true, false⟩).text :=
  ⟨by decide, resolvesToEnum_status, resolvesToEnum_billing,
    fun h => absurd ((enum_goType_eq_iff (by decide) rfl rfl resolvesToEnum_status
      resolvesToEnum_billing).1 h) (by decide)⟩

/-- Two enums of different schemas and different names can have one Go type. -/
theorem goType_prefixed_eq_unprefixed :
    statusCatalog.HasSnakeCaseNames ∧
      statusCatalog.ResolvesToEnum "billing_status" "public" "billing_status" ∧
      statusCatalog.ResolvesToEnum "billing.status" "billing" "status" ∧
      "public" ≠ "billing" ∧ "billing_status" ≠ "status" ∧
      (statusCatalog.goType ⟨some .standard, [], false⟩
          ⟨"a", "billing_status", true, false⟩).text =
        (statusCatalog.goType ⟨some .standard, [], false⟩
          ⟨"b", "billing.status", true, false⟩).text :=
  ⟨by decide, resolvesToEnum_billing_status, resolvesToEnum_billing, by decide, by decide,
    by decide⟩

end ColumnTypes.Catalog
