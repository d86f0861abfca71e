import ColumnTypes.Proofs.Resolution.Findings
import Mathlib.Data.List.Forall2

/-!
# What overrides of struct names have influence on

An override is read in one place only, where a column resolves to an enum, and under one key only,
the key of this enum.  Main statement (`resolution_overrides`): the rows of a catalog under two
lists of overrides agree, except where a row's column resolves to an enum for whose key the two
have different overrides.  An override that is empty counts as none, and a key that is the name of
a built-in or of a composite type touches nothing.
-/

namespace ColumnTypes

namespace Rename

variable {rename : Rename} {key : String}

/-- An override that is not empty takes effect as it is. -/
theorem override?_of_lookup {s : String} (h : rename.lookup key = some s) (hs : s ≠ "") :
    rename.override? key = some s := by
  simp [override?, h, hs]

/-- Where there is no override but an empty one, none takes effect. -/
theorem override?_eq_none (h : ∀ s, rename.lookup key = some s → s = "") :
    rename.override? key = none := by
  unfold override?
  cases hs : rename.lookup key with
  | none => rfl
  | some s => simp [h s hs]

end Rename

namespace Catalog

variable {c : Catalog} {driver : Option Driver} {debug : Bool} {column : Column}

/-- A column has the same Go type under overrides that agree on the key of the enum that it resolves
to, if it resolves to one. -/
theorem goType_overrides {rename rename' : Rename}
    (h : ∀ schema name, c.ResolvesToEnum column.declaredType schema name →
      rename.override? (c.enumKey schema name) = rename'.override? (c.enumKey schema name)) :
    c.goType ⟨driver, rename, debug⟩ column = c.goType ⟨driver, rename', debug⟩ column := by
  obtain ⟨f, hf⟩ : ∃ f, c.classify column.declaredType = f := ⟨_, rfl⟩
  rw [goType_of_classify hf, goType_of_classify hf]
  cases understood_iff.2 hf with
  | builtin => rfl
  | malformed => rfl
  | enum henum => simp only [Finding.goType, UserType.goType, structName, h _ _ henum]
  | composite => rfl
  | unknown => rfl

/-- What is built in, has three dots or more, or is a composite type or nothing at all, is no
enum. -/
theorem not_resolvesToEnum {declared schema name : String}
    (h : (∃ family, Family.IsNamed family declared) ∨ 3 ≤ Identifier.dots declared ∨
      (∃ schema name, c.ResolvesToComposite declared schema name) ∨ c.IsUnmatched declared) :
    ¬c.ResolvesToEnum declared schema name := by
  intro henum
  rcases h with ⟨family, hnamed⟩ | hdots | ⟨_, _, hcomposite⟩ | hunmatched
  · exact henum.looksUp.not_builtin family hnamed
  · exact absurd henum.looksUp.dots_le (by omega)
  · exact nomatch henum.classify_eq.symm.trans hcomposite.classify_eq
  · exact nomatch henum.classify_eq.symm.trans (classify_eq_unknown_iff.2 hunmatched)

/-- **An override touches only the columns of enums with its key.**  The rows of a catalog under two
lists of overrides agree, except for the Go types of those that resolve to an enum for whose key the
two have different overrides in effect.  In a row that resolves to an enum, an override of its key
that is not empty is the Go type, and otherwise the derived name is.  Columns of other kinds have
the same Go type under any two lists of overrides; and the records are the same. -/
theorem resolution_overrides (c : Catalog) (driver : Option Driver) (debug : Bool)
    (rename rename' : Rename) :
    let types := c.resolveAll ⟨driver, rename, debug⟩
    let types' := c.resolveAll ⟨driver, rename', debug⟩
    List.Forall₂ (fun row row' => row' = { row with goType := row'.goType } ∧
        (row'.goType = row.goType ∨
          ∃ schema name, c.ResolvesToEnum row.declaredType schema name ∧
            rename.override? (c.enumKey schema name) ≠
              rename'.override? (c.enumKey schema name)))
        types.columns types'.columns ∧
      (∀ row ∈ types.columns, ∀ schema name, c.ResolvesToEnum row.declaredType schema name →
        (∀ s, rename.lookup (c.enumKey schema name) = some s → s ≠ "" → row.goType.text = s) ∧
        ((∀ s, rename.lookup (c.enumKey schema name) = some s → s = "") →
          row.goType.text = StructName.derived (c.enumKey schema name))) ∧
      (∀ column : Column, ((∃ family, Family.IsNamed family column.declaredType) ∨
          3 ≤ Identifier.dots column.declaredType ∨
          (∃ schema name, c.ResolvesToComposite column.declaredType schema name) ∨
          c.IsUnmatched column.declaredType) →
        c.goType ⟨driver, rename', debug⟩ column = c.goType ⟨driver, rename, debug⟩ column) ∧
      types'.logs = types.logs := by
  intro types types'
  refine ⟨?_, ?_, ?_, rfl⟩
  · simp only [types, types', resolveAll, List.forall₂_map_left_iff, List.forall₂_map_right_iff,
      List.forall₂_same]
    rintro ⟨s, t, column⟩ -
    refine ⟨rfl, ?_⟩
    by_cases h : ∃ schema name, c.ResolvesToEnum column.declaredType schema name ∧
        rename.override? (c.enumKey schema name) ≠ rename'.override? (c.enumKey schema name)
    · exact .inr h
    · left
      apply goType_overrides
      intro schema name henum
      by_contra hne
      exact h ⟨schema, name, henum, Ne.symm hne⟩
  · intro row hrow schema name henum
    obtain ⟨⟨s, t, column⟩, -, rfl⟩ := List.mem_map.1 hrow
    have hrowType : (c.goType ⟨driver, rename, debug⟩ column).text =
        (rename.override? (c.enumKey schema name)).getD
          (StructName.derived (c.enumKey schema name)) := by
      rw [henum.goType_eq]
      rfl
    constructor
    · intro s hs hne
      rw [Rename.override?_of_lookup hs hne] at hrowType
      exact hrowType
    · intro hnone
      rw [Rename.override?_eq_none hnone] at hrowType
      exact hrowType
  · intro column h
    apply goType_overrides
    intro schema name henum
    exact absurd henum (not_resolvesToEnum h)

/-- A catalog with an enum outside the default schema and a composite type. -/
def renamedCatalog : Catalog :=
  ⟨"app", [⟨"billing", [⟨"status", []⟩], [⟨"address"⟩],
    [⟨"t", [⟨"a", "billing.status", true, false⟩, ⟨"b", "int4", true, false⟩]⟩]⟩]⟩

/-- Overrides for the key of the enum, and for names that are no keys of enums. -/
def inertOverrides : Rename :=
  [("billing_status", "State"), ("status", "Lost"), ("int4", "Lost"), ("address", "Lost"),
    ("billing_address", "Lost")]

/-- The enum has the override of its key, and the composite type and the built-in name are as they
are without overrides. -/
theorem resolution_inertOverrides :
    renamedCatalog.ResolvesToEnum "billing.status" "billing" "status" ∧
      (∀ row ∈ (renamedCatalog.resolveAll ⟨none, inertOverrides, true⟩).columns,
        row.declaredType = "billing.status" → row.goType.text = "State") ∧
      (∃ schema name, renamedCatalog.ResolvesToComposite "billing.address" schema name) ∧
      renamedCatalog.goType ⟨none, inertOverrides, true⟩ ⟨"c", "billing.address", true, false⟩ =
        renamedCatalog.goType ⟨none, [], true⟩ ⟨"c", "billing.address", true, false⟩ ∧
      Family.IsNamed .integer "int4" ∧
      renamedCatalog.goType ⟨none, inertOverrides, true⟩ ⟨"b", "int4", true, false⟩ =
        renamedCatalog.goType ⟨none, [], true⟩ ⟨"b", "int4", true, false⟩ := by
  have henum : renamedCatalog.ResolvesToEnum "billing.status" "billing" "status" :=
    ⟨by decide, ⟨Family.ofDeclared?_eq_none_iff.1 (by decide), by decide,
      ["billing"], ⟨by decide, by decide⟩, .inl ⟨rfl, by decide⟩⟩, by decide,
      _, ⟨[], [], rfl, rfl, by decide, by decide⟩, by decide⟩
  have hcomposite : ∃ schema name,
      renamedCatalog.ResolvesToComposite "billing.address" schema name :=
    classify_eq_composite_iff.1 (by decide)
  have hinteger : Family.IsNamed .integer "int4" := ⟨"int4", by decide, .inl rfl⟩
  obtain ⟨-, hrows, -⟩ := resolution_overrides renamedCatalog none true inertOverrides []
  obtain ⟨-, -, htypes, -⟩ := resolution_overrides renamedCatalog none true [] inertOverrides
  exact ⟨henum, fun row hrow hd => (hrows row hrow _ _ (hd ▸ henum)).1 "State" (by decide)
      (by decide), hcomposite, htypes _ (.inr (.inr (.inl hcomposite))), hinteger,
    htypes _ (.inl ⟨_, hinteger⟩)⟩

end Catalog

end ColumnTypes
