import ColumnTypes.Proofs.Resolution.EnumNames
import ColumnTypes.Proofs.Resolution.Walk

/-!
# How a declared type is understood, by rules

A declared type is understood in one of five ways, its finding.  `Catalog.Understood c declared f`
gives the rules, in terms of the text of the declared type and of the entries of the catalog, and
`understood_iff` says that they give every declared type exactly the finding that is found for it.

What holds of all columns is proved from here by cases on the rules: nothing about driver,
nullability and overrides has been decided yet, and nothing about the search is left to know.
-/

namespace ColumnTypes.Catalog

/-- A declared type that resolves to a composite type of a schema: the earliest entry that has the
name has no enum of this name. -/
structure ResolvesToComposite (c : Catalog) (declared schema name : String) : Prop where
  ne_empty : declared ≠ ""
  looksUp : c.LooksUp declared schema name
  not_system : schema ≠ "pg_catalog"
  found : ∃ entry, c.IsEarliest schema name entry ∧ name ∉ entry.enums.map EnumType.name

/-- The rules by which a declared type is understood. -/
inductive Understood (c : Catalog) (declared : String) : Finding → Prop
  | builtin {family : Family} : family.IsNamed declared → Understood c declared (.builtin family)
  | malformed :
      (∀ family, ¬Family.IsNamed family declared) →
      declared = "" ∨ 3 ≤ Identifier.dots declared → Understood c declared .malformed
  | enum {schema name : String} :
      c.ResolvesToEnum declared schema name →
      Understood c declared (.user (.enum (c.enumKey schema name)))
  | composite {schema name : String} :
      c.ResolvesToComposite declared schema name → Understood c declared (.user .composite)
  | unknown : c.IsUnmatched declared → Understood c declared .unknown

variable {c : Catalog} {declared schema name : String}

/-- A composite type that is resolved to is what the declared type is understood as. -/
theorem ResolvesToComposite.classify_eq (h : c.ResolvesToComposite declared schema name) :
    c.classify declared = .user .composite := by
  obtain ⟨entry, hentry, hname⟩ := h.found
  exact classify_of_composite h.ne_empty h.looksUp h.not_system hentry hname

/-- A finding that the rules give is the one that is found. -/
theorem classify_of_understood {f : Finding} (h : c.Understood declared f) :
    c.classify declared = f := by
  cases h with
  | builtin hnamed => exact classify_of_isNamed hnamed
  | malformed hbuiltin hmalformed =>
      rcases hmalformed with rfl | hdots
      · exact c.classify_empty
      · exact classify_of_dots hbuiltin hdots
  | enum h => exact h.classify_eq
  | composite h => exact h.classify_eq
  | unknown h => exact classify_eq_unknown_iff.2 h

/-- The rules give what is found. -/
theorem understood_classify (c : Catalog) (declared : String) :
    c.Understood declared (c.classify declared) := by
  by_cases hd : declared = ""
  · subst hd
    exact .malformed (Family.ofDeclared?_eq_none_iff.1 (by decide)) (.inl rfl)
  -- The rules for the type of a column have the premises of these rules.
  obtain ⟨t, ht⟩ := @exists_typed ⟨"", declared, false, false⟩ c ⟨none, [], false⟩ hd
  suffices ∃ f, c.Understood declared f by
    obtain ⟨f, hf⟩ := this
    rwa [classify_of_understood hf]
  cases ht with
  | builtin hnamed => exact ⟨_, .builtin hnamed⟩
  | malformed hbuiltin hdots => exact ⟨_, .malformed hbuiltin (.inr hdots)⟩
  | enum hlook hsystem hentry hname => exact ⟨_, .enum ⟨hd, hlook, hsystem, _, hentry, hname⟩⟩
  | composite hlook hsystem hentry hname =>
      exact ⟨_, .composite ⟨hd, hlook, hsystem, _, hentry, hname⟩⟩
  | unknown hlook h =>
      exact ⟨_, .unknown ⟨hd, hlook.not_builtin, hlook.dots_le, _, _, hlook.refers, h⟩⟩

/-- The rules give every declared type one finding, the one that is found. -/
theorem understood_iff {f : Finding} : c.Understood declared f ↔ c.classify declared = f :=
  ⟨classify_of_understood, fun h => h ▸ understood_classify c declared⟩

/-- Only the built-in names of a family are found as such. -/
theorem classify_eq_builtin_iff {family : Family} :
    c.classify declared = .builtin family ↔ family.IsNamed declared := by
  rw [← understood_iff]
  constructor
  · intro h
    cases h with
    | builtin h => exact h
  · exact .builtin

/-- Only composite types that are resolved to are found as such. -/
theorem classify_eq_composite_iff :
    c.classify declared = .user .composite ↔ ∃ schema name,
      c.ResolvesToComposite declared schema name := by
  rw [← understood_iff]
  constructor
  · intro h
    cases h with
    | composite h => exact ⟨_, _, h⟩
  · rintro ⟨schema, name, h⟩
    exact .composite h

end ColumnTypes.Catalog
