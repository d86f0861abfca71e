import ColumnTypes.Proofs.Resolution.Rendering
import ColumnTypes.Proofs.Resolution.Walk

/-!
# Names of the default schema, qualified or not

A name without dots that is not built in can be spelled in three ways as a name of the default
schema: bare, after the schema, and after the schema and a catalog part.  Main statement
(`resolution_defaultSpelling`): a column has the same Go type under each spelling, and it is logged
under each or under none.  This holds also where the default schema is the system schema, whose
name in front of a built-in name makes a built-in name.

## Strategy

Each spelling refers to the name in the default schema (`looksUp_of_spelledBy`), and a declared
type is understood by what it refers to alone (`classify_eq_of_looksUp`).
-/

namespace ColumnTypes

namespace Identifier

variable {s name : String} {front segments : List String}

/-- A text without dots spells itself. -/
theorem spelledBy_singleton (h : '.' ∉ s.toList) : SpelledBy [s] s :=
  ⟨by simpa using h, String.intercalate_singleton⟩

/-- One more segment in front. -/
theorem SpelledBy.cons (h : SpelledBy segments s) (hne : segments ≠ []) {segment : String}
    (hdot : '.' ∉ segment.toList) : SpelledBy (segment :: segments) (segment ++ "." ++ s) := by
  obtain ⟨hdots, rfl⟩ := h
  refine ⟨List.forall_mem_cons.2 ⟨hdot, hdots⟩, ?_⟩
  obtain ⟨next, rest, rfl⟩ := List.exists_cons_of_ne_nil hne
  rw [String.intercalate_cons_cons]

/-- The last segment of a built-in name is a bare one. -/
theorem mem_sqlNames_of_isNamed {family : Family} (hs : s ≠ "")
    (h : SpelledBy (front ++ [name]) s) (hnamed : family.IsNamed s) : name ∈ family.sqlNames := by
  obtain ⟨front', bare, hbare, hspelled, -⟩ := exists_spelledBy_of_isNamed hnamed
  have hparts : front ++ [name] = front' ++ [bare] := by
    rw [← parts_of_spelledBy hs (by simp) h, ← parts_of_spelledBy hs (by simp) hspelled]
  obtain rfl : name = bare := by simpa using (List.append_inj' hparts rfl).2
  exact hbare

end Identifier

namespace Catalog

open Identifier

variable {c : Catalog} {declared other schema name : String} {front : List String}

/-- A declared type that is looked up is understood by what it refers to alone. -/
theorem classify_eq_of_looksUp (hd : declared ≠ "") (ho : other ≠ "")
    (h : c.LooksUp declared schema name) (h' : c.LooksUp other schema name) :
    c.classify declared = c.classify other := by
  obtain ⟨i, hschema, hname, hi⟩ := classify_of_looksUp hd h
  obtain ⟨j, hschema', hname', hj⟩ := classify_of_looksUp ho h'
  rw [hi, hj, userType?_congr (hschema.trans hschema'.symm) (hname.trans hname'.symm)]

/-- A spelling with the default schema, or with no schema, looks a name up in the default schema. -/
theorem looksUp_of_spelledBy (hd : declared ≠ "") (h : SpelledBy (front ++ [name]) declared)
    (hbuiltin : ∀ family, ¬Family.IsNamed family name) (hlength : front.length ≤ 2)
    (hfront : front = [] ∨ front.getLast? = some c.defaultSchema ∧ c.defaultSchema ≠ "") :
    c.LooksUp declared c.defaultSchema name where
  not_builtin family hnamed :=
    hbuiltin family ⟨name, mem_sqlNames_of_isNamed hd h hnamed, .inl rfl⟩
  dots_le := by
    have hdots := length_parts hd
    rw [parts_of_spelledBy hd (by simp) h, List.length_append, List.length_singleton] at hdots
    omega
  refers := ⟨front, h, hfront.elim (fun hnone => .inr ⟨.inl hnone, rfl⟩) .inl⟩

/-- So it is understood as the bare name is. -/
theorem classify_of_spelledBy (hd : declared ≠ "") (h : SpelledBy (front ++ [name]) declared)
    (hname : name ≠ "") (hbuiltin : ∀ family, ¬Family.IsNamed family name)
    (hlength : front.length ≤ 2)
    (hfront : front = [] ∨ front.getLast? = some c.defaultSchema ∧ c.defaultSchema ≠ "") :
    c.classify declared = c.classify name := by
  have hbare : SpelledBy ([] ++ [name]) name := spelledBy_singleton (h.1 name (by simp))
  exact classify_eq_of_looksUp hd hname (looksUp_of_spelledBy hd h hbuiltin hlength hfront)
    (looksUp_of_spelledBy hname hbare hbuiltin (by simp) (.inl rfl))

/-- **A name of the default schema may be qualified or not.**  Bare, after the default schema, and
after a catalog part and the default schema, it has the same Go type; and with logging on a record
is logged either for each of the spellings or for none. -/
theorem resolution_defaultSpelling (c : Catalog) (settings : Settings) (label : String)
    (notNull isArray : Bool) {name db : String}
    (hschema : c.defaultSchema ≠ "") (hschemaDot : '.' ∉ c.defaultSchema.toList)
    (hname : name ≠ "") (hnameDot : '.' ∉ name.toList)
    (hbuiltin : ∀ family, ¬Family.IsNamed family name) (hdbDot : '.' ∉ db.toList) :
    ∀ declared ∈
        [name, c.defaultSchema ++ "." ++ name, db ++ "." ++ c.defaultSchema ++ "." ++ name],
      c.goType settings ⟨label, declared, notNull, isArray⟩ =
          c.goType settings ⟨label, name, notNull, isArray⟩ ∧
        c.logs settings ⟨label, declared, notNull, isArray⟩ =
          if settings.debug ∧ c.IsUnmatched name then
            [⟨.warning, "unknown PostgreSQL type: " ++ declared⟩]
          else [] := by
  obtain ⟨driver, rename, debug⟩ := settings
  have hbare : SpelledBy [name] name := spelledBy_singleton hnameDot
  have hqualified : SpelledBy ([c.defaultSchema] ++ [name]) (c.defaultSchema ++ "." ++ name) :=
    hbare.cons (by simp) hschemaDot
  have hfull : SpelledBy ([db, c.defaultSchema] ++ [name])
      (db ++ "." ++ c.defaultSchema ++ "." ++ name) := by
    simpa only [String.append_assoc, List.cons_append] using hqualified.cons (by simp) hdbDot
  intro declared hdeclared
  have hclassify : c.classify declared = c.classify name := by
    simp only [List.mem_cons, List.not_mem_nil, or_false] at hdeclared
    rcases hdeclared with rfl | rfl | rfl
    · rfl
    · exact classify_of_spelledBy (by simp [hname]) hqualified hname hbuiltin (by simp)
        (.inr ⟨rfl, hschema⟩)
    · exact classify_of_spelledBy (by simp [hname]) hfull hname hbuiltin (by simp)
        (.inr ⟨rfl, hschema⟩)
  have hunmatched : c.IsUnmatched declared ↔ c.IsUnmatched name := by
    rw [← classify_eq_unknown_iff, ← classify_eq_unknown_iff, hclassify]
  constructor
  · simp only [goType, hclassify, Column.effectiveNotNull]
  · rw [logs_eq_ite]
    simp only [hunmatched]

/-- An enum in the system schema and in another one, under a default schema. -/
def moodsUnder (defaultSchema : String) : Catalog :=
  ⟨defaultSchema, [⟨"pg_catalog", [⟨"mood", []⟩], [], []⟩, ⟨"app", [⟨"mood", []⟩], [], []⟩]⟩

/-- The enum of the other schema has its type also with the system schema as the catalog part of its
name.  The one of the system schema is found under no spelling, and each is logged. -/
theorem resolution_moods :
    (moodsUnder "app").goType ⟨none, [], true⟩ ⟨"a", "pg_catalog.app.mood", false, true⟩ =
        .named "Mood" ∧
      (moodsUnder "app").logs ⟨none, [], true⟩ ⟨"a", "pg_catalog.app.mood", false, true⟩ = [] ∧
      (moodsUnder "pg_catalog").goType ⟨none, [], true⟩ ⟨"a", ".pg_catalog.mood", false, true⟩ =
        .dynamic ∧
      (moodsUnder "pg_catalog").logs ⟨none, [], true⟩ ⟨"a", ".pg_catalog.mood", false, true⟩ =
        [⟨.warning, "unknown PostgreSQL type: .pg_catalog.mood"⟩] := by
  have hbuiltin : ∀ family, ¬Family.IsNamed family "mood" :=
    Family.ofDeclared?_eq_none_iff.1 (by decide)
  obtain ⟨htype, hlogs⟩ := @resolution_defaultSpelling (moodsUnder "app") ⟨none, [], true⟩ "a"
    false true "mood" "pg_catalog" (by decide) (by decide) (by decide) (by decide) hbuiltin
    (by decide) "pg_catalog.app.mood" (by decide)
  obtain ⟨htype', hlogs'⟩ := @resolution_defaultSpelling (moodsUnder "pg_catalog")
    ⟨none, [], true⟩ "a" false true "mood" "" (by decide) (by decide) (by decide) (by decide)
    hbuiltin (by decide) ".pg_catalog.mood" (by decide)
  exact ⟨htype.trans (by decide), hlogs.trans (by decide), htype'.trans (by decide),
    hlogs'.trans (by decide)⟩

end Catalog

end ColumnTypes
