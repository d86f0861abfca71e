import ColumnTypes.Proofs.Resolution.Findings

/-!
# What nullability and the driver have influence on

The Go type of a column depends on its flags through one value, whether the column is effectively
not null.  Main statement (`goType_influence`): this value matters for two kinds of declared type
only, the documents `json` and `jsonb` under a driver without representations of its own for them,
and composite types; and the driver matters for built-in names only, where no driver and an
unrecognised one are as the standard driver, but for documents without a driver.

## Strategy

Whether two runs on one declared type agree is a question about its finding alone
(`Finding.text_goType_ne_iff`), and the rules tell which declared types have which finding.
-/

namespace ColumnTypes

namespace Family

variable {family : Family}

/-- Documents have two representations under a driver without one of its own. -/
theorem goType_document (hdocument : family = json ∨ family = jsonb) {driver : Option Driver}
    (hsome : driver ≠ none) (hpgx : driver ≠ some .pgxV4) :
    family.goType driver true = .rawMessage ∧ family.goType driver false = .nullRawMessage := by
  obtain ⟨d, rfl⟩ := Option.ne_none_iff_exists'.1 hsome
  have hne : d ≠ .pgxV4 := fun h => hpgx (h ▸ rfl)
  exact ⟨goType_of_represents (.notNullDocument hdocument hne),
    goType_of_represents (.nullDocument hdocument hne)⟩

/-- Nothing else that is built in depends on nullability. -/
theorem goType_notNull {driver : Option Driver}
    (h : ¬((family = json ∨ family = jsonb) ∧ driver ≠ none ∧ driver ≠ some .pgxV4)) :
    family.goType driver true = family.goType driver false := by
  obtain ⟨t, ht⟩ : ∃ t, family.goType driver false = t := ⟨_, rfl⟩
  rw [ht, goType_eq_iff]
  cases goType_eq_iff.1 ht with
  | own hown => exact .own hown
  | noDriver hdocument => exact .noDriver hdocument
  | nullDocument hdocument hne =>
      exact absurd ⟨hdocument, by simp, fun hpgx => hne (Option.some.inj hpgx)⟩ h
  | shared hjson hjsonb hown => exact .shared hjson hjsonb hown

/-- A driver that is not recognised is as the standard one. -/
theorem goType_other (family : Family) (package : String) (notNull : Bool) :
    family.goType (some (.other package)) notNull = family.goType (some .standard) notNull :=
  rfl

/-- No driver is as the standard one, but for documents. -/
theorem goType_none (hjson : family ≠ json) (hjsonb : family ≠ jsonb) (notNull : Bool) :
    family.goType none notNull = family.goType (some .standard) notNull := by
  rw [goType_eq_iff, goType_of_represents (.shared hjson hjsonb (by simp))]
  exact .shared hjson hjsonb (by simp)

end Family

/-- Nullability changes the Go type of a document, unless there is no driver or one with its own
representation, and of a composite type. -/
theorem Finding.text_goType_ne_iff {f : Finding} {driver : Option Driver} {rename : Rename} :
    (f.goType driver true rename).text ≠ (f.goType driver false rename).text ↔
      (∃ family, f = .builtin family ∧ (family = .json ∨ family = .jsonb) ∧ driver ≠ none ∧
        driver ≠ some .pgxV4) ∨ f = .user .composite := by
  cases f with
  | builtin family =>
      by_cases h : (family = .json ∨ family = .jsonb) ∧ driver ≠ none ∧ driver ≠ some .pgxV4
      · obtain ⟨htrue, hfalse⟩ := Family.goType_document h.1 h.2.1 h.2.2
        simp only [goType, htrue, hfalse]
        exact iff_of_true (by decide) (.inl ⟨family, rfl, h⟩)
      · simp only [goType, Family.goType_notNull h]
        refine iff_of_false (by simp) ?_
        rintro (⟨_, heq, h'⟩ | heq)
        · cases heq
          exact h h'
        · cases heq
  | user t =>
      cases t with
      | enum key => simp [goType, UserType.goType]
      | composite => exact iff_of_true (show "string" ≠ "sql.NullString" by decide) (.inr rfl)
  | malformed => simp [goType]
  | unknown => simp [goType]

/-- The driver has no influence on what is not built in. -/
theorem Finding.goType_driver {f : Finding} (h : ∀ family, f ≠ .builtin family)
    (driver driver' : Option Driver) (notNull : Bool) (rename : Rename) :
    f.goType driver notNull rename = f.goType driver' notNull rename := by
  cases f with
  | builtin family => exact absurd rfl (h family)
  | user t => rfl
  | malformed => rfl
  | unknown => rfl

namespace Catalog

/-- Documents are the declared types that are understood as one of the two families. -/
theorem isNamed_document_iff {c : Catalog} {declared : String} :
    Family.IsNamed .json declared ∨ Family.IsNamed .jsonb declared ↔
      ∃ family, c.classify declared = .builtin family ∧ (family = .json ∨ family = .jsonb) := by
  simp only [classify_eq_builtin_iff]
  constructor
  · rintro (hnamed | hnamed)
    · exact ⟨_, hnamed, .inl rfl⟩
    · exact ⟨_, hnamed, .inr rfl⟩
  · rintro ⟨_, hnamed, rfl | rfl⟩
    · exact .inl hnamed
    · exact .inr hnamed

/-- **Nullability and the driver have influence on the documented types only.**  An array column is
resolved as one that is not null.  Nullability changes the Go type exactly of documents under a
driver without its own representation and of composite types, and then in this way.  The driver
changes nothing for what is not built in; for a built-in name an unrecognised driver is as the
standard one, and so is no driver, except that documents are then the empty interface. -/
theorem goType_influence (c : Catalog) (rename : Rename) (debug : Bool) (label declared : String) :
    let typeOf (driver : Option Driver) (notNull isArray : Bool) : String :=
      (c.goType ⟨driver, rename, debug⟩ ⟨label, declared, notNull, isArray⟩).text
    let isDocument := Family.IsNamed .json declared ∨ Family.IsNamed .jsonb declared
    (∀ driver notNull, typeOf driver notNull true = typeOf driver true false) ∧
      (∀ driver, typeOf driver true false ≠ typeOf driver false false ↔
        isDocument ∧ driver ≠ none ∧ driver ≠ some .pgxV4 ∨
          ∃ schema name, c.ResolvesToComposite declared schema name) ∧
      (∀ driver, isDocument → driver ≠ none → driver ≠ some .pgxV4 →
        typeOf driver true false = "json.RawMessage" ∧
          typeOf driver false false = "pqtype.NullRawMessage") ∧
      (∀ driver schema name, c.ResolvesToComposite declared schema name →
        typeOf driver true false = "string" ∧ typeOf driver false false = "sql.NullString") ∧
      ((∀ family, ¬Family.IsNamed family declared) → ∀ driver driver' notNull isArray,
        typeOf driver notNull isArray = typeOf driver' notNull isArray) ∧
      ∀ family, Family.IsNamed family declared → ∀ notNull isArray,
        (∀ package, typeOf (some (.other package)) notNull isArray =
          typeOf (some .standard) notNull isArray) ∧
        (isDocument → typeOf none notNull isArray = "interface\x7b\x7d") ∧
        (¬isDocument → typeOf none notNull isArray = typeOf (some .standard) notNull isArray) := by
  intro typeOf isDocument
  have htype (driver notNull isArray) : typeOf driver notNull isArray =
      ((c.classify declared).goType driver (notNull || isArray) rename).text := rfl
  have hdocument : isDocument ↔ ∃ family, c.classify declared = .builtin family ∧
      (family = .json ∨ family = .jsonb) := isNamed_document_iff
  refine ⟨?_, ?_, ?_, ?_, ?_, ?_⟩
  · intro driver notNull
    rw [htype, htype, Bool.or_true, Bool.or_false]
  · intro driver
    rw [htype, htype, hdocument, ← classify_eq_composite_iff]
    refine Finding.text_goType_ne_iff.trans (or_congr_left ?_)
    simp only [← and_assoc, exists_and_right]
  · intro driver h hsome hpgx
    obtain ⟨family, hfamily, hkind⟩ := hdocument.1 h
    obtain ⟨htrue, hfalse⟩ := Family.goType_document hkind hsome hpgx
    simp only [htype, hfamily, Finding.goType, Bool.or_false, htrue, hfalse]
    decide
  · intro driver schema name h
    simp only [htype, h.classify_eq]
    exact ⟨rfl, rfl⟩
  · intro hbuiltin driver driver' notNull isArray
    rw [htype, htype]
    apply congrArg
    apply Finding.goType_driver
    intro family hfamily
    exact hbuiltin family (classify_eq_builtin_iff.1 hfamily)
  · intro family hnamed notNull isArray
    have hfamily := classify_of_isNamed (c := c) hnamed
    refine ⟨?_, ?_, ?_⟩
    · intro package
      rw [htype, htype, hfamily]
      exact congrArg GoType.text (Family.goType_other family package _)
    · intro h
      obtain ⟨family, hfamily, hkind⟩ := hdocument.1 h
      simp only [htype, hfamily, Finding.goType, Family.goType_of_represents (.noDriver hkind)]
      rfl
    · intro h
      have hkind : ¬(family = .json ∨ family = .jsonb) := fun hkind =>
        h (hdocument.2 ⟨family, hfamily, hkind⟩)
      rw [not_or] at hkind
      simp only [htype, hfamily, Finding.goType, Family.goType_none hkind.1 hkind.2]

/-- A composite type, and after it an enum of the same name in the same schema. -/
def addressCatalog : Catalog :=
  ⟨"app", [⟨"billing", [], [⟨"address"⟩], []⟩, ⟨"billing", [⟨"address", []⟩], [], []⟩]⟩

/-- Nullability changes the Go type of the composite type, and of a document under a driver that is
not recognised. -/
theorem goType_influence_address :
    (∃ schema name, addressCatalog.ResolvesToComposite "billing.address" schema name) ∧
      (addressCatalog.goType ⟨some .pgxV4, [], false⟩
        ⟨"a", "billing.address", true, false⟩).text = "string" ∧
      (addressCatalog.goType ⟨none, [], false⟩
        ⟨"a", "billing.address", false, false⟩).text = "sql.NullString" ∧
      Family.IsNamed .jsonb "pg_catalog.jsonb" ∧
      (addressCatalog.goType ⟨some (.other "mysql"), [], false⟩
        ⟨"b", "pg_catalog.jsonb", false, false⟩).text = "pqtype.NullRawMessage" := by
  have hcomposite : ∃ schema name,
      addressCatalog.ResolvesToComposite "billing.address" schema name :=
    classify_eq_composite_iff.1 (by decide)
  have hjsonb : Family.IsNamed .jsonb "pg_catalog.jsonb" := ⟨"jsonb", by decide, .inr rfl⟩
  obtain ⟨schema, name, h⟩ := hcomposite
  obtain ⟨-, -, -, htypes, -⟩ := goType_influence addressCatalog [] false "a" "billing.address"
  obtain ⟨-, -, hdocument, -⟩ := goType_influence addressCatalog [] false "b" "pg_catalog.jsonb"
  exact ⟨⟨schema, name, h⟩, (htypes (some .pgxV4) schema name h).1, (htypes none schema name h).2,
    hjsonb, (hdocument (some (.other "mysql")) (.inr hjsonb) (by decide) (by decide)).2⟩

end Catalog

end ColumnTypes
