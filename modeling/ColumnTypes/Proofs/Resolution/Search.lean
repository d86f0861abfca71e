import ColumnTypes.Proofs.Family
import ColumnTypes.Proofs.Identifier
import ColumnTypes.Resolution

/-!
# The search through a catalog

What a declared type that is no built-in name refers to, and what the search for it finds, both
without a search: `Catalog.Refers` reads the schema and the name off the segments of the declared
type, and `Catalog.IsEarliest` is the first schema entry, in the stored order, that has the name.

The search ends there (`userType?_of_isEarliest`), unless the schema is the system schema, which is
never searched (`userType?_of_system`), or no entry has the name (`userType?_of_undefined`).
-/

namespace ColumnTypes

/-- A schema entry that has an enum or a composite type of a name. -/
def Schema.Defines (s : Schema) (name : String) : Prop :=
  name ∈ s.enums.map EnumType.name ∨ name ∈ s.composites.map CompositeType.name

instance (s : Schema) (name : String) : Decidable (s.Defines name) :=
  inferInstanceAs (Decidable (_ ∨ _))

namespace Catalog

/-- The schema and the name that a declared type refers to: its last segment is the name, and the
segment before it the schema, or else the default schema where there is none or an empty one. -/
def Refers (c : Catalog) (declared schema name : String) : Prop :=
  ∃ front, Identifier.SpelledBy (front ++ [name]) declared ∧
    (front.getLast? = some schema ∧ schema ≠ "" ∨
      (front = [] ∨ front.getLast? = some "") ∧ schema = c.defaultSchema)

/-- A declared type that is looked up in the catalog, as a name in a schema. -/
structure LooksUp (c : Catalog) (declared schema name : String) : Prop where
  not_builtin : ∀ family, ¬Family.IsNamed family declared
  dots_le : Identifier.dots declared ≤ 2
  refers : c.Refers declared schema name

/-- The earliest entry of a schema, in the stored order, that has a name. -/
def IsEarliest (c : Catalog) (schema name : String) (entry : Schema) : Prop :=
  ∃ before after, c.schemas = before ++ entry :: after ∧ entry.name = schema ∧
    entry.Defines name ∧ ∀ s ∈ before, s.name = schema → ¬s.Defines name

variable {c : Catalog}

/-! ## What a name refers to -/

/-- Every declared type refers to a name in a schema. -/
theorem exists_refers (c : Catalog) {declared : String} (hd : declared ≠ "") :
    ∃ schema name, c.Refers declared schema name := by
  obtain ⟨front, name, h⟩ := Identifier.exists_spelledBy hd
  rcases hfront : front.getLast? with _ | schema
  · exact ⟨c.defaultSchema, name, front, h,
      .inr ⟨.inl (List.getLast?_eq_none_iff.1 hfront), rfl⟩⟩
  · by_cases hs : schema = ""
    · exact ⟨c.defaultSchema, name, front, h, .inr ⟨.inr (hs ▸ hfront), rfl⟩⟩
    · exact ⟨schema, name, front, h, .inl ⟨hfront, hs⟩⟩

/-- A declared type is read as the name and the schema that it refers to. -/
theorem exists_parse?_of_refers {declared schema name : String} (hd : declared ≠ "")
    (hdots : Identifier.dots declared ≤ 2) (h : c.Refers declared schema name) :
    ∃ i, Identifier.parse? declared = some i ∧ c.schemaOf i = schema ∧ i.name = name := by
  obtain ⟨front, hspelled, hschema⟩ := h
  obtain ⟨i, hparse, hi, hname⟩ := Identifier.exists_parse?_of_spelledBy hd hspelled hdots
  refine ⟨i, hparse, ?_, hname⟩
  unfold schemaOf
  rcases hschema with ⟨hlast, hne⟩ | ⟨rfl | hlast, rfl⟩
  · simp [hi, hlast, hne]
  · simp [hi]
  · simp [hi, hlast]

/-- A declared type that is looked up is found to be what the search finds. -/
theorem classify_of_looksUp {declared schema name : String} (hd : declared ≠ "")
    (h : c.LooksUp declared schema name) :
    ∃ i : Identifier, c.schemaOf i = schema ∧ i.name = name ∧
      c.classify declared = ((c.userType? i).map Finding.user).getD .unknown := by
  obtain ⟨i, hparse, hschema, hname⟩ := exists_parse?_of_refers hd h.dots_le h.refers
  refine ⟨i, hschema, hname, ?_⟩
  rw [classify, Family.ofDeclared?_eq_none_iff.2 h.not_builtin]
  simp only [hparse]
  cases c.userType? i <;> rfl

/-! ## What one entry has -/

/-- An entry without a name gives it no type. -/
theorem typeIn?_of_undefined {s : Schema} {name : String} (h : ¬s.Defines name) :
    c.typeIn? name s = none := by
  have henum : s.hasEnum name = false := by
    simpa [Schema.hasEnum] using fun e he hn => h (.inl (List.mem_map.2 ⟨e, he, hn⟩))
  have hcomposite : s.hasComposite name = false := by
    simpa [Schema.hasComposite] using fun e he hn => h (.inr (List.mem_map.2 ⟨e, he, hn⟩))
  simp [typeIn?, henum, hcomposite]

/-- An enum of an entry comes before its composite types. -/
theorem typeIn?_of_enum {s : Schema} {name : String} (h : name ∈ s.enums.map EnumType.name) :
    c.typeIn? name s = some (.enum (c.enumKey s.name name)) := by
  have henum : s.hasEnum name = true := by
    simpa [Schema.hasEnum] using h
  simp [typeIn?, henum]

/-- A name that an entry has, but not as an enum, is a composite type. -/
theorem typeIn?_of_composite {s : Schema} {name : String} (h : s.Defines name)
    (hne : name ∉ s.enums.map EnumType.name) : c.typeIn? name s = some .composite := by
  have henum : s.hasEnum name = false := by
    simpa [Schema.hasEnum] using hne
  have hcomposite : s.hasComposite name = true := by
    simpa [Schema.hasComposite] using h.resolve_left hne
  simp [typeIn?, henum, hcomposite]

/-! ## What the search finds -/

/-- The entries that a search goes through. -/
theorem mem_searched_iff {i : Identifier} {s : Schema} :
    s ∈ c.userSchemas.filter (·.name == c.schemaOf i) ↔
      s ∈ c.schemas ∧ s.name ≠ systemSchema ∧ s.name = c.schemaOf i := by
  simp [userSchemas, Schema.isSystem, and_comm]

/-- The system schema is never searched. -/
theorem userType?_of_system {i : Identifier} (h : c.schemaOf i = systemSchema) :
    c.userType? i = none := by
  rw [userType?, List.findSome?_eq_none_iff]
  intro s hs
  obtain ⟨-, hne, hname⟩ := mem_searched_iff.1 hs
  exact absurd (hname.trans h) hne

/-- A name that no entry of the schema has is not found. -/
theorem userType?_of_undefined {i : Identifier}
    (h : ∀ s ∈ c.schemas, s.name = c.schemaOf i → ¬s.Defines i.name) : c.userType? i = none := by
  rw [userType?, List.findSome?_eq_none_iff]
  intro s hs
  obtain ⟨hmem, -, hname⟩ := mem_searched_iff.1 hs
  exact typeIn?_of_undefined (h s hmem hname)

/-- The search ends at the earliest entry that has the name. -/
theorem userType?_of_isEarliest {i : Identifier} {entry : Schema}
    (hsystem : c.schemaOf i ≠ systemSchema) (h : c.IsEarliest (c.schemaOf i) i.name entry) :
    c.userType? i = c.typeIn? i.name entry := by
  obtain ⟨before, after, hschemas, hname, hdefines, hbefore⟩ := h
  have hentry : (!entry.isSystem && entry.name == c.schemaOf i) = true := by
    simp [Schema.isSystem, hname, hsystem]
  have hnone : (before.filter fun s => !s.isSystem && s.name == c.schemaOf i).findSome?
      (c.typeIn? i.name) = none := by
    rw [List.findSome?_eq_none_iff]
    intro s hs
    obtain ⟨hmem, hs⟩ := List.mem_filter.1 hs
    rw [Bool.and_eq_true, beq_iff_eq] at hs
    exact typeIn?_of_undefined (hbefore s hmem hs.2)
  have htype : (c.typeIn? i.name entry).isSome = true := by
    by_cases henum : i.name ∈ entry.enums.map EnumType.name
    · simp [typeIn?_of_enum henum]
    · simp [typeIn?_of_composite hdefines henum]
  obtain ⟨t, ht⟩ := Option.isSome_iff_exists.1 htype
  rw [userType?, userSchemas, List.filter_filter, hschemas, List.filter_append,
    List.filter_cons_of_pos (by simpa [Bool.and_comm] using hentry), List.findSome?_append]
  simp only [Bool.and_comm] at hnone ⊢
  rw [hnone, Option.none_or, List.findSome?_cons, ht]

/-- Either some entry of a schema is the earliest that has a name, or none has it. -/
theorem isEarliest_or_undefined (c : Catalog) (schema name : String) :
    (∃ entry, c.IsEarliest schema name entry) ∨
      ∀ s ∈ c.schemas, s.name = schema → ¬s.Defines name := by
  rcases hfind : c.schemas.find? (fun s => decide (s.name = schema ∧ s.Defines name))
    with _ | entry
  · right
    intro s hs hname hdefines
    have := List.find?_eq_none.1 hfind s hs
    exact this (decide_eq_true ⟨hname, hdefines⟩)
  · left
    obtain ⟨hentry, before, after, hschemas, hbefore⟩ := List.find?_eq_some_iff_append.1 hfind
    obtain ⟨hname, hdefines⟩ := of_decide_eq_true hentry
    refine ⟨entry, before, after, hschemas, hname, hdefines, fun s hs hsname hsdef => ?_⟩
    have := hbefore s hs
    simp [hsname, hsdef] at this

end Catalog

end ColumnTypes
