import ColumnTypes.Proofs.Resolution.Findings
import ColumnTypes.Proofs.Text.Case

/-!
# Which columns are dynamic

Whether a column is dynamic is asked of the spelling of its Go type alone.  Main statement
(`isDynamic_iff_findsNothing`): it is dynamic exactly if nothing was found for its declared type,
by the rules of `Catalog.FindsNothing`, as long as no override is spelled like the empty interface.

What has to be shown is that no struct name has this spelling by accident, whatever the characters
of the SQL name are.  A struct name begins with the upper case of a character, or with `ID`, and no
upper case holds a letter from `a` to `z` (`StructName.derived_ne_dynamic`).
-/

namespace ColumnTypes

namespace StructName

/-- The exported form of a part does not begin with a letter from `a` to `z`. -/
theorem head_ofPart {part : List Char} {c : Char} (h : (ofPart part).head? = some c) :
    c.toNat < 97 ∨ 122 < c.toNat := by
  unfold ofPart at h
  split at h
  · obtain rfl : 'I' = c := Option.some.inj h
    decide
  · cases part with
    | nil => exact nomatch h
    | cons d ds =>
        rw [capitalized, List.head?_append_of_ne_nil _ (Text.upper_ne_nil d)] at h
        exact Text.toNat_of_mem_upper (List.mem_of_mem_head? h)

/-- The exported form of a name does not begin with a letter from `a` to `z`. -/
theorem head_ofChars {name : List Char} {c : Char} (h : (ofChars name).head? = some c) :
    c.toNat < 97 ∨ 122 < c.toNat := by
  rw [ofChars, List.head?_flatMap] at h
  obtain ⟨part, -, hpart⟩ := List.exists_of_findSome?_eq_some h
  exact head_ofPart hpart

/-- No derived name is spelled like the empty interface. -/
theorem derived_ne_dynamic (name : String) : derived name ≠ "interface\x7b\x7d" := by
  intro h
  have hchars : ofChars name.toList = "interface\x7b\x7d".toList := by
    rw [← h, derived, String.toList_ofList]
  have hfirst : (ofChars name.toList).head? = some 'i' := by
    rw [hchars]
    rfl
  exact absurd (head_ofChars hfirst) (by decide)

end StructName

/-- No struct name is spelled like the empty interface, unless an override is. -/
theorem structName_ne_dynamic {rename : Rename}
    (hrename : ∀ entry ∈ rename, entry.2 ≠ "interface\x7b\x7d") (name : String) :
    structName rename name ≠ "interface\x7b\x7d" := by
  unfold structName Rename.override?
  cases hlookup : rename.lookup name with
  | none => exact StructName.derived_ne_dynamic name
  | some s =>
      by_cases hempty : s.isEmpty = true
      · simp only [hempty, if_true]
        exact StructName.derived_ne_dynamic name
      · simp only [hempty]
        obtain ⟨before, after, hentries, -⟩ := List.lookup_eq_some_iff.1 hlookup
        apply hrename (name, s)
        rw [hentries]
        simp

/-- A composite type is never dynamic. -/
theorem UserType.isDynamic_composite (notNull : Bool) (rename : Rename) :
    (UserType.composite.goType notNull rename).isDynamic = false := by
  cases notNull with
  | false => exact (by decide : GoType.nullString.isDynamic = false)
  | true => exact (by decide : GoType.string.isDynamic = false)

namespace Family

/-- A family that a driver cannot represent: the driver has no type of its own for it, there is none
that all drivers share, and it is no document, which every driver can represent. -/
structure IsUnrepresented (family : Family) (driver : Option Driver) : Prop where
  no_own : driver = some .pgxV4 → family.pgxType? = none
  no_shared : family.sharedType = .dynamic
  no_document : driver ≠ none → family ≠ json ∧ family ≠ jsonb

/-- A representation of a driver's own is specific. -/
theorem isDynamic_of_pgxType? {family : Family} {t : GoType} (h : family.pgxType? = some t) :
    t.isDynamic = false := by
  cases family <;> cases h <;> decide

/-- What all drivers share is spelled like the empty interface only where there is nothing. -/
theorem isDynamic_sharedType_iff {family : Family} :
    family.sharedType.isDynamic = true ↔ family.sharedType = .dynamic := by
  cases family <;> decide

/-- A family is dynamic exactly if the driver cannot represent it, null or not. -/
theorem isDynamic_goType_iff {family : Family} {driver : Option Driver} {notNull : Bool} :
    (family.goType driver notNull).isDynamic = true ↔ family.IsUnrepresented driver := by
  obtain ⟨t, ht⟩ : ∃ t, family.goType driver notNull = t := ⟨_, rfl⟩
  rw [ht]
  cases goType_eq_iff.1 ht with
  | own hown =>
      apply iff_of_false
      · simp [isDynamic_of_pgxType? hown]
      · intro h
        simp [h.no_own rfl] at hown
  | noDriver hdocument =>
      apply iff_of_true
      · decide
      · rcases hdocument with rfl | rfl
        · exact ⟨nofun, rfl, absurd rfl⟩
        · exact ⟨nofun, rfl, absurd rfl⟩
  | notNullDocument hdocument =>
      apply iff_of_false
      · decide
      · intro h
        obtain ⟨hjson, hjsonb⟩ := h.no_document (by simp)
        exact hdocument.elim hjson hjsonb
  | nullDocument hdocument =>
      apply iff_of_false
      · decide
      · intro h
        obtain ⟨hjson, hjsonb⟩ := h.no_document (by simp)
        exact hdocument.elim hjson hjsonb
  | shared hjson hjsonb hown =>
      rw [isDynamic_sharedType_iff]
      constructor
      · intro h
        exact ⟨hown, h, fun _ => ⟨hjson, hjsonb⟩⟩
      · intro h
        exact h.no_shared

/-- A built-in name has at most one dot. -/
theorem dots_of_isNamed {family : Family} {declared : String} (h : family.IsNamed declared) :
    Identifier.dots declared ≤ 1 := by
  obtain ⟨name, hname, hdeclared⟩ := h
  have hcount : name.toList.count '.' = 0 :=
    List.count_eq_zero.2 (dot_not_mem_of_mem_sqlNames hname)
  rcases hdeclared with rfl | rfl
  · rw [Identifier.dots, hcount]
    omega
  · rw [Identifier.dots, toList_qualified, List.count_append, hcount]
    decide

end Family

namespace Catalog

/-- The rules by which nothing is found for a declared type under a driver. -/
inductive FindsNothing (c : Catalog) (driver : Option Driver) (declared : String) : Prop
  | unrepresented {family : Family} :
      family.IsNamed declared → family.IsUnrepresented driver → FindsNothing c driver declared
  | malformed : 3 ≤ Identifier.dots declared → FindsNothing c driver declared
  | unmatched :
      (∀ family, ¬Family.IsNamed family declared) →
      (∀ schema name, ¬c.ResolvesToEnum declared schema name) →
      (∀ schema name, ¬c.ResolvesToComposite declared schema name) →
      FindsNothing c driver declared

variable {c : Catalog} {driver : Option Driver} {declared : String}

/-- Nothing is found for a built-in name exactly if its family cannot be represented. -/
theorem findsNothing_iff_of_isNamed {family : Family} (hnamed : family.IsNamed declared) :
    c.FindsNothing driver declared ↔ family.IsUnrepresented driver := by
  constructor
  · intro h
    cases h with
    | unrepresented hnamed' hnone =>
        have hsame := (classify_of_isNamed (c := c) hnamed').symm.trans (classify_of_isNamed hnamed)
        cases hsame
        exact hnone
    | malformed hdots =>
        have := Family.dots_of_isNamed hnamed
        omega
    | unmatched hbuiltin => exact absurd hnamed (hbuiltin family)
  · exact .unrepresented hnamed

/-- Something is found for an enum or a composite type. -/
theorem not_findsNothing (h : (∃ schema name, c.ResolvesToEnum declared schema name) ∨
    ∃ schema name, c.ResolvesToComposite declared schema name) :
    ¬c.FindsNothing driver declared := by
  have hlook : ∃ schema name, c.LooksUp declared schema name := by
    rcases h with ⟨schema, name, henum⟩ | ⟨schema, name, hcomposite⟩
    · exact ⟨schema, name, henum.looksUp⟩
    · exact ⟨schema, name, hcomposite.looksUp⟩
  obtain ⟨_, _, hlook⟩ := hlook
  intro hnothing
  cases hnothing with
  | unrepresented hnamed => exact hlook.not_builtin _ hnamed
  | malformed hdots =>
      have := hlook.dots_le
      omega
  | unmatched _ henums hcomposites =>
      rcases h with ⟨schema, name, henum⟩ | ⟨schema, name, hcomposite⟩
      · exact henums schema name henum
      · exact hcomposites schema name hcomposite

/-- Nothing is found for what is neither built in nor of a user type. -/
theorem findsNothing_of_classify (hbuiltin : ∀ family, ¬Family.IsNamed family declared)
    (h : ∀ t, c.classify declared ≠ .user t) : c.FindsNothing driver declared := by
  apply FindsNothing.unmatched hbuiltin
  · intro schema name henum
    exact h _ henum.classify_eq
  · intro schema name hcomposite
    exact h _ hcomposite.classify_eq

/-- A column is dynamic exactly if nothing is found for its declared type. -/
theorem isDynamic_goType_iff {rename : Rename} {debug : Bool} {column : Column}
    (hrename : ∀ entry ∈ rename, entry.2 ≠ "interface\x7b\x7d") :
    (c.goType ⟨driver, rename, debug⟩ column).isDynamic = true ↔
      c.FindsNothing driver column.declaredType := by
  obtain ⟨f, hf⟩ : ∃ f, c.classify column.declaredType = f := ⟨_, rfl⟩
  rw [goType_of_classify hf]
  cases understood_iff.2 hf with
  | builtin hnamed =>
      rw [findsNothing_iff_of_isNamed hnamed]
      exact Family.isDynamic_goType_iff
  | malformed hbuiltin =>
      apply iff_of_true
      · rfl
      · exact findsNothing_of_classify hbuiltin (by simp [hf])
  | enum henum =>
      apply iff_of_false
      · simpa [Finding.goType, UserType.goType, GoType.isDynamic, GoType.text] using
          structName_ne_dynamic hrename _
      · exact not_findsNothing (.inl ⟨_, _, henum⟩)
  | composite hcomposite =>
      apply iff_of_false
      · rw [Finding.goType, UserType.isDynamic_composite]
        exact Bool.false_ne_true
      · exact not_findsNothing (.inr ⟨_, _, hcomposite⟩)
  | unknown hunmatched =>
      apply iff_of_true
      · rfl
      · exact findsNothing_of_classify hunmatched.not_builtin (by simp [hf])

instance (c : Catalog) (driver : Option Driver) (declared : String) :
    Decidable (c.FindsNothing driver declared) :=
  have h : (c.goType ⟨driver, [], false⟩ ⟨"", declared, false, false⟩).isDynamic = true ↔
      c.FindsNothing driver declared :=
    isDynamic_goType_iff nofun
  decidable_of_iff _ h

/-- A row is a column of a table with the column's own Go type. -/
theorem exists_of_mem_columns {settings : Settings} {row : ResolvedColumn}
    (h : row ∈ (c.resolveAll settings).columns) :
    ∃ column : Column, row.declaredType = column.declaredType ∧
      row.goType = c.goType settings column := by
  obtain ⟨⟨s, t, column⟩, -, rfl⟩ := List.mem_map.1 h
  exact ⟨column, rfl, rfl⟩

/-- **A column is dynamic exactly if nothing was found for it.**  As long as no override is spelled
like the empty interface, a row of a catalog is dynamic exactly if its declared type is a built-in
name of a family that the driver cannot represent, or has three dots or more, or is neither built in
nor resolves to an enum or a composite type; and these are the rows that are listed as unresolved
and counted as dynamic.  A row that resolves to an enum, whatever its name and its schema's are, or
to a composite type is never among them. -/
theorem isDynamic_iff_findsNothing (c : Catalog) (driver : Option Driver) (rename : Rename)
    (debug : Bool) (hrename : ∀ entry ∈ rename, entry.2 ≠ "interface\x7b\x7d") :
    let types := c.resolveAll ⟨driver, rename, debug⟩
    (∀ row ∈ types.columns, row.isDynamic = true ↔ c.FindsNothing driver row.declaredType) ∧
      types.unresolved = types.columns.filter (fun row => c.FindsNothing driver row.declaredType) ∧
      types.statistics.dynamic =
        types.columns.countP (fun row => c.FindsNothing driver row.declaredType) ∧
      ∀ row ∈ types.columns,
        ((∃ schema name, c.ResolvesToEnum row.declaredType schema name) ∨
          ∃ schema name, c.ResolvesToComposite row.declaredType schema name) →
        row.isDynamic = false ∧ row ∉ types.unresolved := by
  intro types
  have hrow : ∀ row ∈ types.columns,
      row.isDynamic = true ↔ c.FindsNothing driver row.declaredType := by
    intro row hmem
    obtain ⟨column, hdeclared, htype⟩ := exists_of_mem_columns hmem
    rw [ResolvedColumn.isDynamic, htype, hdeclared]
    exact isDynamic_goType_iff hrename
  have hlisted : types.unresolved =
      types.columns.filter (fun row => c.FindsNothing driver row.declaredType) := by
    apply List.filter_congr
    intro row hmem
    rw [Bool.eq_iff_iff, decide_eq_true_iff]
    exact hrow row hmem
  have hcounted : types.statistics.dynamic = types.unresolved.length := rfl
  refine ⟨hrow, hlisted, ?_, ?_⟩
  · rw [hcounted, hlisted, List.countP_eq_length_filter]
  · intro row hmem hfound
    have hdynamic : row.isDynamic = false := by
      rw [Bool.eq_false_iff, Ne, hrow row hmem]
      exact not_findsNothing hfound
    refine ⟨hdynamic, ?_⟩
    intro hunresolved
    have := (List.mem_filter.1 hunresolved).2
    simp [hdynamic] at this

/-- An enum that is named like the empty interface, but with a dotless `i`, and a composite type,
and columns of these types and of others. -/
def interfaceCatalog : Catalog :=
  ⟨"app", [⟨"app", [⟨"\u0131nterface\x7b\x7d", []⟩], [⟨"address"⟩],
    [⟨"t", [⟨"a", "\u0131nterface\x7b\x7d", true, false⟩, ⟨"b", "address", false, false⟩,
      ⟨"c", "pg_catalog.inet", true, false⟩, ⟨"d", "a.b.c.d", true, false⟩,
      ⟨"e", "pg_catalog.address", true, false⟩, ⟨"f", "json", true, false⟩]⟩]⟩]⟩

/-- Of its columns, the enum, the composite type and the document are found under the standard
driver, and the others are listed. -/
theorem unresolved_interfaceCatalog :
    let types := interfaceCatalog.resolveAll ⟨some .standard, [("mood", "Feeling")], true⟩
    (∀ entry ∈ [("mood", "Feeling")], entry.2 ≠ "interface\x7b\x7d") ∧
      types.unresolved.map (·.column) = ["c", "d", "e"] ∧ types.statistics.dynamic = 3 ∧
      interfaceCatalog.FindsNothing (some .standard) "pg_catalog.inet" ∧
      ¬interfaceCatalog.FindsNothing (some .standard) "\u0131nterface\x7b\x7d" := by
  have hrename : ∀ entry ∈ [("mood", "Feeling")], entry.2 ≠ "interface\x7b\x7d" := by
    decide
  obtain ⟨hrow, hlisted, hcounted, -⟩ := isDynamic_iff_findsNothing interfaceCatalog
    (some .standard) [("mood", "Feeling")] true hrename
  refine ⟨hrename, ?_, ?_, ?_, ?_⟩
  · rw [hlisted]
    decide
  · rw [hcounted]
    decide
  · exact (hrow ⟨"app", "t", "c", "pg_catalog.inet", .dynamic⟩ (by decide)).1 (by decide)
  · exact mt (hrow ⟨"app", "t", "a", "\u0131nterface\x7b\x7d", .named "Interface\x7b\x7d"⟩
      (by decide)).2 (by decide)

end Catalog

end ColumnTypes
