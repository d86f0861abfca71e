import ColumnTypes.Proofs.Resolution.Walk
import Mathlib.Data.List.Flatten
import Mathlib.Data.List.Forall2

/-!
# Catalogs that grow at the end

A catalog is extended by schema entries that come after its own.  The search takes the first match,
so it goes on to the new entries only where the old ones have nothing (`userType?_extendedBy`).
New entries may repeat the name of a schema, or a name of a type as the other kind of type: neither
changes what was found before.

Main statement (`resolution_extendedBy`): a column with a type keeps it, a column that was not
logged is not logged now, and the rows of the old entries come first, each as it was unless it had
no type.

## Strategy

The new entries matter only for a declared type that nothing had (`classify_extendedBy`).  A column
of such a type was dynamic, and with logging on it was logged.
-/

namespace ColumnTypes

/-- A row is as it was before, or it has got a type where it had none. -/
def ResolvedColumn.KeptOrFound (before after : ResolvedColumn) : Prop :=
  after = before ∨ before.isDynamic = true ∧ after = { before with goType := after.goType }

namespace Catalog

/-- A catalog with more schema entries after its own. -/
def extendedBy (c : Catalog) (extra : List Schema) : Catalog :=
  { c with schemas := c.schemas ++ extra }

/-- The catalog with other schema entries. -/
def withSchemas (c : Catalog) (schemas : List Schema) : Catalog :=
  { c with schemas }

variable (c : Catalog) (extra : List Schema) (settings : Settings)

/-! ## The search through the new entries -/

/-- The user schemas of the new entries come after those of the old ones. -/
theorem userSchemas_extendedBy :
    (c.extendedBy extra).userSchemas = c.userSchemas ++ (c.withSchemas extra).userSchemas :=
  List.filter_append ..

/-- The search goes on to the new entries where the old ones have nothing. -/
theorem userType?_extendedBy (i : Identifier) :
    (c.extendedBy extra).userType? i = (c.userType? i).or ((c.withSchemas extra).userType? i) := by
  rw [userType?, userSchemas_extendedBy, List.filter_append, List.findSome?_append]
  rfl

variable {c} in
/-- What is understood is understood as before. -/
theorem classify_extendedBy {declared : String} (h : c.classify declared ≠ .unknown) :
    (c.extendedBy extra).classify declared = c.classify declared := by
  unfold classify at h ⊢
  split
  · rfl
  · split
    · rfl
    · next i hparse =>
      simp only [hparse, userType?_extendedBy] at h ⊢
      cases htype : c.userType? i with
      | none => simp_all
      | some t => rfl

/-! ## Types and records of a column -/

variable {c} {column : Column}

/-- A declared type that nothing has, has no type. -/
theorem goType_of_isUnmatched (h : c.IsUnmatched column.declaredType) :
    c.goType settings column = .dynamic :=
  goType_of_classify (classify_eq_unknown_iff.2 h)

/-- A column keeps its type unless nothing had its declared type. -/
theorem goType_extendedBy (h : ¬c.IsUnmatched column.declaredType) :
    (c.extendedBy extra).goType settings column = c.goType settings column := by
  rw [goType, goType, classify_extendedBy extra fun hc => h (classify_eq_unknown_iff.1 hc)]

/-- A row is as it was, unless its column had no type. -/
theorem keptOrFound_resolveColumn (x : Schema × Table × Column) :
    (c.resolveColumn settings x).KeptOrFound ((c.extendedBy extra).resolveColumn settings x) := by
  obtain ⟨s, t, column⟩ := x
  by_cases h : c.IsUnmatched column.declaredType
  · refine .inr ⟨?_, rfl⟩
    rw [resolveColumn, ResolvedColumn.isDynamic, goType_of_isUnmatched settings h]
    rfl
  · exact .inl (by rw [resolveColumn, resolveColumn, goType_extendedBy extra settings h])

/-- No more is logged for a column. -/
theorem logs_extendedBy_sublist (column : Column) :
    ((c.extendedBy extra).logs settings column).Sublist (c.logs settings column) := by
  by_cases h : c.classify column.declaredType = .unknown
  · -- With logging on, the old record is there, and the new one is the same or is not there.
    simp only [logs, h]
    cases settings.debug with
    | false => simp
    | true =>
        split
        · simp
        · exact List.nil_sublist _
  · rw [logs, logs, classify_extendedBy extra h]

/-! ## Whole catalogs -/

/-- The columns of the new entries come after those of the old ones. -/
theorem tableColumns_extendedBy :
    (c.extendedBy extra).tableColumns = c.tableColumns ++ (c.withSchemas extra).tableColumns := by
  rw [tableColumns, userSchemas_extendedBy, List.flatMap_append]
  rfl

/-- **Extending a catalog at its end keeps what has been found.**  A column keeps its Go type if it
has one other than the empty interface, and also if it is built in or has three dots or more; and
what is not logged before is not logged after.  The rows of the old entries come first, each as it
was or with a type where it had none, and the rows of the new entries follow; of the old log records
some may go, and those of the new entries follow. -/
theorem resolution_extendedBy (c : Catalog) (extra : List Schema) (settings : Settings) :
    let grown := c.extendedBy extra
    let newColumns := (c.withSchemas extra).tableColumns
    (∀ column : Column,
        (c.goType settings column).text ≠ "interface\x7b\x7d" ∨
            (∃ family, Family.IsNamed family column.declaredType) ∨
            3 ≤ Identifier.dots column.declaredType →
          grown.goType settings column = c.goType settings column) ∧
      (∀ column, c.logs settings column = [] → grown.logs settings column = []) ∧
      (∃ rows, (grown.resolveAll settings).columns =
          rows ++ newColumns.map (grown.resolveColumn settings) ∧
        List.Forall₂ ResolvedColumn.KeptOrFound (c.resolveAll settings).columns rows) ∧
      ∃ records, (grown.resolveAll settings).logs =
          records ++ newColumns.flatMap (fun (_, _, column) => grown.logs settings column) ∧
        records.Sublist (c.resolveAll settings).logs := by
  intro grown newColumns
  have hcolumns : grown.tableColumns = c.tableColumns ++ newColumns := tableColumns_extendedBy extra
  refine ⟨?_, ?_, ?_, ?_⟩
  · intro column h
    apply goType_extendedBy
    intro hunmatched
    rcases h with htext | ⟨family, hnamed⟩ | hdots
    · apply htext
      rw [goType_of_isUnmatched settings hunmatched]
      rfl
    · exact hunmatched.not_builtin family hnamed
    · have := hunmatched.dots_le
      omega
  · intro column h
    have hsublist : (grown.logs settings column).Sublist (c.logs settings column) :=
      logs_extendedBy_sublist extra settings column
    rw [h] at hsublist
    exact List.eq_nil_of_sublist_nil hsublist
  · refine ⟨c.tableColumns.map (grown.resolveColumn settings), ?_, ?_⟩
    · rw [resolveAll, hcolumns, List.map_append]
    · rw [resolveAll, List.forall₂_map_left_iff, List.forall₂_map_right_iff, List.forall₂_same]
      intro x _
      exact keptOrFound_resolveColumn extra settings x
  · refine ⟨c.tableColumns.flatMap fun (_, _, column) => grown.logs settings column, ?_, ?_⟩
    · rw [resolveAll, hcolumns, List.flatMap_append]
    · apply List.Sublist.flatMap_right
      intro x _
      exact logs_extendedBy_sublist extra settings x.2.2

/-- A catalog with an enum, and with a column of a type that it does not have. -/
def smallCatalog : Catalog :=
  ⟨"app", [⟨"billing", [⟨"status", []⟩], [], [⟨"t", [⟨"a", "billing.status", false, false⟩,
    ⟨"b", "billing.plan", false, false⟩]⟩]⟩]⟩

/-- A second entry of the same schema, with the enum's name as that of a composite type. -/
def secondEntry : Schema :=
  ⟨"billing", [⟨"plan", []⟩], [⟨"status"⟩], [⟨"u", [⟨"c", "billing.state", true, false⟩]⟩]⟩

/-- The enum stays an enum, the column without a type gets one, and its record goes. -/
theorem resolution_secondEntry :
    (smallCatalog.goType ⟨none, [], true⟩ ⟨"a", "billing.status", false, false⟩).text ≠
        "interface\x7b\x7d" ∧
      (smallCatalog.extendedBy [secondEntry]).goType ⟨none, [], true⟩
          ⟨"a", "billing.status", false, false⟩ = .named "BillingStatus" ∧
      smallCatalog.logs ⟨none, [], true⟩ ⟨"b", "billing.plan", false, false⟩ ≠ [] ∧
      (smallCatalog.extendedBy [secondEntry]).logs ⟨none, [], true⟩
        ⟨"b", "billing.plan", false, false⟩ = [] ∧
      (smallCatalog.extendedBy [secondEntry]).logs ⟨none, [], true⟩
        ⟨"a", "billing.status", false, false⟩ = [] := by
  obtain ⟨htype, hlogs, -⟩ := resolution_extendedBy smallCatalog [secondEntry] ⟨none, [], true⟩
  exact ⟨by decide, (htype _ (.inl (by decide))).trans (by decide), by decide, by decide,
    hlogs _ (by decide)⟩

end Catalog

end ColumnTypes
