import ColumnTypes.GoType

/-!
# Built-in names and their Go types

* `Family.IsNamed family declared` — `declared` is an SQL name of the family, or such a name with
  the system schema in front, once.  A declared type names at most one family, the one that the
  look-up finds (`ofDeclared?_eq_some_iff`).
* `Family.Represents family driver notNull t` — the rules by which a driver gives a family a Go
  type: its own representations first, then the documents, then what every driver shares.  They
  give each family exactly one type (`goType_eq_iff`).
-/

namespace ColumnTypes.Family

/-! ## Names -/

/-- A declared type that is a name of a family, bare or qualified by the system schema. -/
def IsNamed (family : Family) (declared : String) : Prop :=
  ∃ name ∈ family.sqlNames, declared = name ∨ declared = "pg_catalog." ++ name

/-- Every family is listed. -/
theorem mem_all (family : Family) : family ∈ all := by
  cases family <;> decide

/-- The families share no name. -/
theorem ofSqlName?_of_mem {family : Family} {name : String} (h : name ∈ family.sqlNames) :
    ofSqlName? name = some family := by
  have key : ∀ f ∈ all, ∀ n ∈ f.sqlNames, ofSqlName? n = some f := by
    decide
  exact key family (mem_all family) name h

/-- The family of a name is the one that has the name. -/
theorem ofSqlName?_eq_some_iff {family : Family} {name : String} :
    ofSqlName? name = some family ↔ name ∈ family.sqlNames := by
  constructor
  · intro h
    obtain ⟨hcontains, -⟩ := List.find?_eq_some_iff_append.1 h
    exact List.contains_iff_mem.1 hcontains
  · exact ofSqlName?_of_mem

/-- A qualified name begins with the system schema. -/
theorem toList_qualified (name : String) :
    ("pg_catalog." ++ name).toList = systemQualifier ++ name.toList :=
  String.toList_append

/-- No bare name begins with the system schema. -/
theorem not_mem_sqlNames_of_qualified (family : Family) (name : String) :
    "pg_catalog." ++ name ∉ family.sqlNames := by
  have key : ∀ f ∈ all, ∀ n ∈ f.sqlNames, systemQualifier.isPrefixOf n.toList = false := by
    decide
  intro h
  have hprefix := key family (mem_all family) _ h
  rw [toList_qualified, List.isPrefixOf_iff_prefix.2 (List.prefix_append _ _)] at hprefix
  exact absurd hprefix (by simp)

/-- No bare name has a dot in it. -/
theorem dot_not_mem_of_mem_sqlNames {family : Family} {name : String}
    (h : name ∈ family.sqlNames) : '.' ∉ name.toList := by
  have key : ∀ f ∈ all, ∀ n ∈ f.sqlNames, '.' ∉ n.toList := by
    decide
  exact key family (mem_all family) name h

/-- Taking the system schema off a name that has it in front. -/
theorem unqualified?_eq_some_iff {declared name : String} :
    unqualified? declared = some name ↔ declared = "pg_catalog." ++ name := by
  unfold unqualified?
  constructor
  · intro h
    by_cases hprefix : systemQualifier.isPrefixOf declared.toList = true
    · obtain ⟨rest, hrest⟩ := List.isPrefixOf_iff_prefix.1 hprefix
      rw [if_pos hprefix, ← hrest, List.drop_left, Option.some.injEq] at h
      rw [← String.toList_inj, toList_qualified, ← hrest, ← h, String.toList_ofList]
    · rw [if_neg hprefix] at h
      exact absurd h (by simp)
  · rintro rfl
    rw [toList_qualified, if_pos (List.isPrefixOf_iff_prefix.2 (List.prefix_append _ _)),
      List.drop_left, String.ofList_toList]

/-- The family of a declared type is the one that it names. -/
theorem ofDeclared?_eq_some_iff {family : Family} {declared : String} :
    ofDeclared? declared = some family ↔ family.IsNamed declared := by
  unfold ofDeclared?
  constructor
  · intro h
    rcases hbare : ofSqlName? declared with _ | f
    · rw [hbare, Option.none_or, Option.bind_eq_some_iff] at h
      obtain ⟨name, hname, hfamily⟩ := h
      exact ⟨name, ofSqlName?_eq_some_iff.1 hfamily, .inr (unqualified?_eq_some_iff.1 hname)⟩
    · rw [hbare, Option.some_or, Option.some.injEq] at h
      exact ⟨declared, ofSqlName?_eq_some_iff.1 (h ▸ hbare), .inl rfl⟩
  · rintro ⟨name, hname, rfl | rfl⟩
    · rw [ofSqlName?_of_mem hname, Option.some_or]
    · rcases hbare : ofSqlName? ("pg_catalog." ++ name) with _ | f
      · rw [Option.none_or, unqualified?_eq_some_iff.2 rfl, Option.bind_some,
          ofSqlName?_of_mem hname]
      · exact absurd (ofSqlName?_eq_some_iff.1 hbare) (not_mem_sqlNames_of_qualified f name)

/-- A declared type without a family names none. -/
theorem ofDeclared?_eq_none_iff {declared : String} :
    ofDeclared? declared = none ↔ ∀ family, ¬IsNamed family declared := by
  constructor
  · intro h family hnamed
    rw [ofDeclared?_eq_some_iff.2 hnamed] at h
    exact absurd h (by simp)
  · intro h
    rcases hfamily : ofDeclared? declared with _ | family
    · rfl
    · exact absurd (ofDeclared?_eq_some_iff.1 hfamily) (h family)

/-! ## Representations -/

/-- The rules by which a family has a Go type under a driver. -/
inductive Represents (family : Family) : Option Driver → Bool → GoType → Prop
  /-- A representation of the driver's own comes first. -/
  | own {notNull : Bool} {t : GoType} :
      family.pgxType? = some t → Represents family (some .pgxV4) notNull t
  /-- Without a driver, documents have no representation. -/
  | noDriver {notNull : Bool} :
      family = json ∨ family = jsonb → Represents family none notNull .dynamic
  | notNullDocument {driver : Driver} :
      family = json ∨ family = jsonb → driver ≠ .pgxV4 →
        Represents family (some driver) true .rawMessage
  | nullDocument {driver : Driver} :
      family = json ∨ family = jsonb → driver ≠ .pgxV4 →
        Represents family (some driver) false .nullRawMessage
  /-- Every other family has what all drivers share, which may be the empty interface. -/
  | shared {driver : Option Driver} {notNull : Bool} :
      family ≠ json → family ≠ jsonb → (driver = some .pgxV4 → family.pgxType? = none) →
        Represents family driver notNull family.sharedType

/-- The documents are the families `json` and `jsonb`. -/
theorem isDocument_iff {family : Family} :
    family.isDocument = true ↔ family = json ∨ family = jsonb := by
  cases family <;> decide

/-- Only `pgx/v4` has representations of its own. -/
theorem ownType?_eq_none {family : Family} {driver : Option Driver}
    (h : driver = some .pgxV4 → family.pgxType? = none) : family.ownType? driver = none := by
  unfold ownType?
  split
  · exact h rfl
  · rfl

/-- Documents have a representation of their own under `pgx/v4`. -/
theorem isDocument_eq_false_of_pgxType? {family : Family} (h : family.pgxType? = none) :
    family.isDocument = false := by
  revert h
  cases family <;> decide

/-- The type of a family is one that the rules give. -/
theorem represents_goType (family : Family) (driver : Option Driver) (notNull : Bool) :
    family.Represents driver notNull (family.goType driver notNull) := by
  unfold goType
  split
  · next t h =>
    unfold ownType? at h
    split at h
    · exact .own h
    · exact absurd h (by simp)
  · next h =>
    have hpgx : driver = some .pgxV4 → family.pgxType? = none := by
      rintro rfl
      exact h
    split
    · next hd =>
      have hdocument := isDocument_iff.1 hd
      rcases driver with _ | d
      · exact .noDriver hdocument
      · have hne : d ≠ .pgxV4 := by
          rintro rfl
          exact absurd hd (by simp [isDocument_eq_false_of_pgxType? (hpgx rfl)])
        cases notNull
        · exact .nullDocument hdocument hne
        · exact .notNullDocument hdocument hne
    · next hd =>
      rw [isDocument_iff, not_or] at hd
      exact .shared hd.1 hd.2 hpgx

/-- A type that the rules give is the type of the family. -/
theorem goType_of_represents {family : Family} {driver : Option Driver} {notNull : Bool}
    {t : GoType} (h : family.Represents driver notNull t) : family.goType driver notNull = t := by
  have hother {d : Driver} (hd : d ≠ .pgxV4) : family.ownType? (some d) = none :=
    ownType?_eq_none fun he => absurd (Option.some.inj he) hd
  cases h with
  | own h => simp [goType, ownType?, h]
  | noDriver hd => simp [goType, ownType?, isDocument_iff.2 hd, documentType]
  | notNullDocument hd hne => simp [goType, hother hne, isDocument_iff.2 hd, documentType]
  | nullDocument hd hne => simp [goType, hother hne, isDocument_iff.2 hd, documentType]
  | shared hjson hjsonb hpgx =>
      have hdocument : ¬family.isDocument = true := by
        rw [isDocument_iff]
        simp [hjson, hjsonb]
      simp [goType, ownType?_eq_none hpgx, hdocument]

/-- The rules give a family exactly one type. -/
theorem goType_eq_iff {family : Family} {driver : Option Driver} {notNull : Bool} {t : GoType} :
    family.goType driver notNull = t ↔ family.Represents driver notNull t :=
  ⟨fun h => h ▸ represents_goType family driver notNull, goType_of_represents⟩

end ColumnTypes.Family
