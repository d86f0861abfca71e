import ColumnTypes.Proofs.Resolution.Search

/-!
# The type of a column, by rules

`Catalog.Typed c settings column t` gives the rules by which a column has a Go type, in terms of
the text of its declared type and of the entries of the catalog.  Main statement
(`goType_eq_iff_typed`): resolution gives a column exactly the type that the rules give, so the
rules give every column one type and no other.

* A built-in name has the type of its family, whatever the catalog and the overrides hold.
* Any other declared type with three dots or more is dynamic.
* Any other refers to a name in a schema.  The earliest entry of that schema that has the name
  decides: an enum has a struct name, made of the name alone in the default schema and of schema
  and name elsewhere; a composite type is text, which may be null.
* What the system schema or no entry has is dynamic.
-/

namespace ColumnTypes.Catalog

/-- The rules by which a column has a Go type. -/
inductive Typed (c : Catalog) (settings : Settings) (column : Column) : GoType → Prop
  | builtin {family : Family} {t : GoType} :
      family.IsNamed column.declaredType →
      family.Represents settings.driver (column.notNull || column.isArray) t →
      Typed c settings column t
  | malformed :
      (∀ family, ¬Family.IsNamed family column.declaredType) →
      3 ≤ Identifier.dots column.declaredType →
      Typed c settings column .dynamic
  | enum {schema name : String} {entry : Schema} :
      c.LooksUp column.declaredType schema name → schema ≠ "pg_catalog" →
      c.IsEarliest schema name entry → name ∈ entry.enums.map EnumType.name →
      Typed c settings column (.named (structName settings.rename
        (if schema = c.defaultSchema then name else schema ++ "_" ++ name)))
  | composite {schema name : String} {entry : Schema} :
      c.LooksUp column.declaredType schema name → schema ≠ "pg_catalog" →
      c.IsEarliest schema name entry → name ∉ entry.enums.map EnumType.name →
      Typed c settings column
        (if column.notNull || column.isArray then .string else .nullString)
  | unknown {schema name : String} :
      c.LooksUp column.declaredType schema name →
      (schema = "pg_catalog" ∨ ∀ s ∈ c.schemas, s.name = schema → ¬s.Defines name) →
      Typed c settings column .dynamic

variable {c : Catalog} {settings : Settings} {column : Column}

/-! ## The type of a column under each rule -/

/-- The type of a column follows from how its declared type is understood. -/
theorem goType_of_classify {f : Finding} (h : c.classify column.declaredType = f) :
    c.goType settings column =
      f.goType settings.driver (column.notNull || column.isArray) settings.rename := by
  rw [goType, h, Column.effectiveNotNull]

/-- A built-in name is understood as its family. -/
theorem classify_of_isNamed {family : Family} {declared : String}
    (h : family.IsNamed declared) : c.classify declared = .builtin family := by
  rw [classify, Family.ofDeclared?_eq_some_iff.2 h]

/-- A name with three dots or more is malformed. -/
theorem classify_of_dots {declared : String}
    (hbuiltin : ∀ family, ¬Family.IsNamed family declared)
    (h : 3 ≤ Identifier.dots declared) : c.classify declared = .malformed := by
  rw [classify, Family.ofDeclared?_eq_none_iff.2 hbuiltin]
  simp only [Identifier.parse?_of_dots h]

/-- An enum is found under the key of its schema. -/
theorem classify_of_enum {declared schema name : String} {entry : Schema} (hd : declared ≠ "")
    (hlook : c.LooksUp declared schema name) (hsystem : schema ≠ systemSchema)
    (hentry : c.IsEarliest schema name entry) (hname : name ∈ entry.enums.map EnumType.name) :
    c.classify declared = .user (.enum (c.enumKey schema name)) := by
  obtain ⟨i, rfl, rfl, hclassify⟩ := classify_of_looksUp hd hlook
  have hentryName : entry.name = c.schemaOf i := by
    obtain ⟨-, -, -, h, -⟩ := hentry
    exact h
  rw [hclassify, userType?_of_isEarliest hsystem hentry, typeIn?_of_enum hname, hentryName]
  rfl

/-- A composite type is found where the entry has no enum of the name. -/
theorem classify_of_composite {declared schema name : String} {entry : Schema}
    (hd : declared ≠ "") (hlook : c.LooksUp declared schema name)
    (hsystem : schema ≠ systemSchema) (hentry : c.IsEarliest schema name entry)
    (hname : name ∉ entry.enums.map EnumType.name) :
    c.classify declared = .user .composite := by
  obtain ⟨i, rfl, rfl, hclassify⟩ := classify_of_looksUp hd hlook
  have hdefines : entry.Defines i.name := by
    obtain ⟨-, -, -, -, h, -⟩ := hentry
    exact h
  rw [hclassify, userType?_of_isEarliest hsystem hentry, typeIn?_of_composite hdefines hname]
  rfl

/-- What the system schema or no entry has is unknown. -/
theorem classify_of_unknown {declared schema name : String} (hd : declared ≠ "")
    (hlook : c.LooksUp declared schema name)
    (h : schema = systemSchema ∨ ∀ s ∈ c.schemas, s.name = schema → ¬s.Defines name) :
    c.classify declared = .unknown := by
  obtain ⟨i, rfl, rfl, hclassify⟩ := classify_of_looksUp hd hlook
  rw [hclassify]
  rcases h with hsystem | hundefined
  · rw [userType?_of_system hsystem]
    rfl
  · rw [userType?_of_undefined hundefined]
    rfl

/-! ## Rules and resolution -/

/-- A type that the rules give is the type of the column. -/
theorem goType_of_typed {t : GoType} (hd : column.declaredType ≠ "")
    (h : c.Typed settings column t) : c.goType settings column = t := by
  cases h with
  | builtin hnamed ht =>
      rw [goType_of_classify (classify_of_isNamed hnamed)]
      exact Family.goType_of_represents ht
  | malformed hbuiltin hdots => rw [goType_of_classify (classify_of_dots hbuiltin hdots)]; rfl
  | enum hlook hsystem hentry hname =>
      rw [goType_of_classify (classify_of_enum hd hlook hsystem hentry hname)]
      rfl
  | composite hlook hsystem hentry hname =>
      rw [goType_of_classify (classify_of_composite hd hlook hsystem hentry hname)]
      rfl
  | unknown hlook h => rw [goType_of_classify (classify_of_unknown hd hlook h)]; rfl

/-- The rules give every column a type. -/
theorem exists_typed (c : Catalog) (settings : Settings) (hd : column.declaredType ≠ "") :
    ∃ t, c.Typed settings column t := by
  by_cases hbuiltin : ∃ family, Family.IsNamed family column.declaredType
  · obtain ⟨family, hnamed⟩ := hbuiltin
    exact ⟨_, .builtin hnamed (Family.represents_goType family _ _)⟩
  · rw [not_exists] at hbuiltin
    by_cases hdots : 3 ≤ Identifier.dots column.declaredType
    · exact ⟨_, .malformed hbuiltin hdots⟩
    · obtain ⟨schema, name, hrefers⟩ := c.exists_refers hd
      have hlook : c.LooksUp column.declaredType schema name :=
        ⟨hbuiltin, by omega, hrefers⟩
      by_cases hsystem : schema = systemSchema
      · exact ⟨_, .unknown hlook (.inl hsystem)⟩
      · rcases c.isEarliest_or_undefined schema name with ⟨entry, hentry⟩ | hundefined
        · by_cases hname : name ∈ entry.enums.map EnumType.name
          · exact ⟨_, .enum hlook hsystem hentry hname⟩
          · exact ⟨_, .composite hlook hsystem hentry hname⟩
        · exact ⟨_, .unknown hlook (.inr hundefined)⟩

/-- **Resolution gives a column the type that the rules give, and the rules give one type.** -/
theorem goType_eq_iff_typed (c : Catalog) (settings : Settings) (column : Column)
    (hd : column.declaredType ≠ "") (t : GoType) :
    c.goType settings column = t ↔ c.Typed settings column t := by
  obtain ⟨u, hu⟩ := exists_typed c settings hd
  constructor
  · rintro rfl
    rwa [goType_of_typed hd hu]
  · exact goType_of_typed hd

/-- A catalog that lists the schema `billing` twice, and has types of one name in three entries. -/
def repeatedSchemas : Catalog :=
  ⟨"app", [⟨"billing", [⟨"plan", []⟩], [], []⟩, ⟨"pg_catalog", [], [⟨"status"⟩], []⟩,
    ⟨"billing", [⟨"status", []⟩], [⟨"status"⟩], []⟩, ⟨"app", [], [⟨"status"⟩], []⟩]⟩

/-- The first entry that has the name decides, whatever comes before it, and in this entry the enum;
an override that is empty counts as none. -/
theorem typed_enum_of_repeated_schema :
    "db.billing.status" ≠ "" ∧
      repeatedSchemas.Typed ⟨none, [("billing_status", "")], true⟩
        ⟨"state", "db.billing.status", false, true⟩ (.named "BillingStatus") :=
  ⟨by decide, (goType_eq_iff_typed repeatedSchemas ⟨none, [("billing_status", "")], true⟩
    ⟨"state", "db.billing.status", false, true⟩ (by decide) (.named "BillingStatus")).1
      (by decide)⟩

end ColumnTypes.Catalog
