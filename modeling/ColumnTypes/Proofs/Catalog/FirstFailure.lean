import ColumnTypes.Proofs.Catalog.Directory
import ColumnTypes.Proofs.Validation.Faults

/-!
# The first failure in a catalog directory

Of all that fails in a catalog directory the first in the order of the names decides the error.
Faults of the catalog are reported only if nothing fails; they tell the schemas by their positions
among those of all files (`Report.IsOnSchemas`).

Main statement: `Surroundings.loadCatalog_firstFailure`.
-/

namespace ColumnTypes

open Document Checked

/-! ## The faults of merged files -/

/-- A check of a single text has its faults at the place itself. -/
theorem location_of_mem_faults_asText {d : Document} {f : Fault} (h : f ∈ (asText d).faults) :
    f.location = [] := by
  have hfail : ∀ problem, f ∈ (fail problem d : Checked String).faults → f.location = [] := by
    intro problem hf
    obtain rfl := List.mem_singleton.1 hf
    rfl
  cases d with
  | str s => exact nomatch h
  | bytes b =>
      unfold asText at h
      dsimp only at h
      split at h
      · exact nomatch h
      · exact hfail _ h
  | _ => exact hfail _ h

/-- The faults of a default schema are at its field. -/
theorem location_of_mem_faults_default {entries : List (Document × Document)} {f : Fault}
    (h : f ∈ (optionalField ["default_schema"] asText Catalog.publicSchema entries).faults) :
    f.location = [.field "default_schema"] := by
  unfold optionalField at h
  rw [findField?_singleton] at h
  cases hd : valueOf? "default_schema" entries with
  | none =>
      rw [hd] at h
      exact nomatch h
  | some d =>
      rw [hd, Option.map_some] at h
      dsimp only at h
      rw [faults_under] at h
      obtain ⟨g, hg, rfl⟩ := List.mem_map.1 h
      rw [Fault.within, location_of_mem_faults_asText hg]
      rfl

/-- The faults of a list of schemas are those of each schema at its position. -/
theorem faults_schemas {entries : List (Document × Document)} {schemas : List Document}
    (h : valueOf? "schemas" entries = some (.list schemas)) :
    (optionalField ["schemas"] (asList Schema.ofDocument) [] entries).faults =
      schemas.zipIdx.flatMap fun (d, i) =>
        (Schema.ofDocument d).faults.map (Fault.within [.field "schemas", .item i]) := by
  have hlist : asList Schema.ofDocument (.list schemas) =
      each Schema.ofDocument 0 schemas := rfl
  unfold optionalField
  rw [findField?_singleton, h, Option.map_some]
  dsimp only
  rw [faults_under, hlist, faults_each, List.map_flatMap]
  simp only [List.map_map, Fault.within_comp_within]
  rfl

/-- A report on a catalog of some schemas: the faults of its default schema, and then those of each
schema at its position among all. -/
def Report.IsOnSchemas (report : Report) (schemas : List Document) : Prop :=
  report.model = "Catalog" ∧
    ∃ defaults : List Fault, (∀ f ∈ defaults, f.location = [.field "default_schema"]) ∧
      report.faults = defaults ++ schemas.zipIdx.flatMap fun (d, i) =>
        (Schema.ofDocument d).faults.map (Fault.within [.field "schemas", .item i])

/-- A catalog of merged files that cannot be read is reported with the faults of all schemas. -/
theorem CatalogParts.isOnSchemas_of_catalog {parts : CatalogParts} {report : Report}
    (h : parts.catalog = .error (.invalid report)) : report.IsOnSchemas parts.schemas := by
  have hreport : report = ⟨"Catalog", (Catalog.ofEntries parts.entries).faults⟩ := by
    unfold CatalogParts.catalog at h
    cases hread : Catalog.ofEntries parts.entries with
    | ok c =>
        rw [hread] at h
        exact nomatch h
    | error faults =>
        rw [hread] at h
        exact (LoadError.invalid.inj (Except.error.inj h)).symm
  have hschemas : valueOf? "schemas" parts.entries = some (.list parts.schemas) := by
    simp [entries, valueOf?]
  have hothers : noOtherEntries ["default_schema", "schemas"] parts.entries = .ok () := by
    unfold entries
    cases parts.defaultSchema <;> rfl
  subst hreport
  refine ⟨rfl, (optionalField ["default_schema"] asText Catalog.publicSchema
    parts.entries).faults, fun _ => location_of_mem_faults_default, ?_⟩
  unfold Catalog.ofEntries
  rw [faults_map, faults_both, faults_both, hothers, faults_schemas hschemas]
  exact congrArg _ (List.append_nil _)

/-! ## Loading a directory -/

namespace Surroundings

variable {s : Surroundings} {p : Path}

/-- Faults of the catalog are reported only if nothing fails, at the positions of the schemas. -/
theorem faults_of_loadCatalog {place : Place} {report : Report} (hfiles : s.files.IsWellFormed)
    (hreach : s.IsWithinReach p) (hplace : s.files.directoryAt s.directory p = .ok place)
    (h : s.loadCatalog p = .error (.invalid report)) :
    (∀ names e, ¬ s.FailsAt p names e) ∧
      ∃ files, s.IsListing p files ∧ (∀ names, s.Lists p names ↔ names ∈ files.map Prod.fst) ∧
        report.IsOnSchemas (files.flatMap fun f => f.2.listedSchemas) := by
  have hnone : ∀ names e, ¬ s.FailsAt p names e := by
    intro names e hfails
    obtain ⟨first, e', hfirst⟩ := exists_isFirstFailure hfiles hreach hplace hfails
    rw [loadCatalog_of_isFirstFailure hfiles hreach hfirst] at h
    obtain ⟨-, entry, -, hinvalid⟩ := hfirst.failsAt
    rw [Except.error.inj h] at hinvalid
    exact hinvalid.ne_invalid
  obtain ⟨files, hlisting, hnames, hdocuments⟩ :=
    exists_listing_of_not_failsAt hfiles hreach hplace hnone
  refine ⟨hnone, files, hlisting, fun names => ?_, ?_⟩
  · rw [hnames]
    exact lists_iff_mem_yamlNames hplace
  · unfold loadCatalog at h
    rw [catalogFiles_of_directoryAt hplace, listedFiles_of_isWithinReach hreach hplace, ← hnames,
      List.map_map] at h
    have hparts := catalogParts_of_documents hdocuments
    rw [show (fun f : List String × Document => below p f.1) = below p ∘ Prod.fst from rfl]
      at hparts
    simp only [bind, Except.bind, hparts] at h
    exact CatalogParts.isOnSchemas_of_catalog h

/-- **The first failure decides the error.**  Whatever of a catalog directory fails, one failure is
the first, and loading the directory ends with its error.  It ends with the same error wherever
the same entry is the first that fails, whatever comes after it and whatever schemas come before it.
Only if nothing fails are faults of the catalog reported, those of every schema at its position
among the schemas of all files. -/
theorem loadCatalog_firstFailure (hfiles : s.files.IsWellFormed) (hreach : s.IsWithinReach p)
    (hdirectory : ∃ place, s.files.directoryAt s.directory p = .ok place) :
    ((∃ names e, s.FailsAt p names e) →
      ∃ names e, s.IsFirstFailure p names e ∧ s.loadCatalog p = .error e) ∧
    (∀ names e, s.IsFirstFailure p names e → s.loadCatalog p = .error e ∧
      ∀ entry, s.HasEntry p names entry →
        ∀ t : Surroundings, t.files.IsWellFormed → t.IsWithinReach p → t.HasEntry p names entry →
          (∀ earlier < names, ∀ e', ¬ t.FailsAt p earlier e') → t.loadCatalog p = .error e) ∧
    ∀ report, s.loadCatalog p = .error (.invalid report) →
      (∀ names e, ¬ s.FailsAt p names e) ∧
      ∃ files, s.IsListing p files ∧ (∀ names, s.Lists p names ↔ names ∈ files.map Prod.fst) ∧
        report.IsOnSchemas (files.flatMap fun f => f.2.listedSchemas) := by
  obtain ⟨place, hplace⟩ := hdirectory
  refine ⟨?_, ?_, fun report => faults_of_loadCatalog hfiles hreach hplace⟩
  · rintro ⟨names, e, hfails⟩
    obtain ⟨first, e', hfirst⟩ := exists_isFirstFailure hfiles hreach hplace hfails
    exact ⟨first, e', hfirst, loadCatalog_of_isFirstFailure hfiles hreach hfirst⟩
  · intro names e hfirst
    refine ⟨loadCatalog_of_isFirstFailure hfiles hreach hfirst, ?_⟩
    intro entry hentry t ht hreach' hentry' hearlier
    obtain ⟨hends, entry', hhas, hfails⟩ := hfirst.failsAt
    obtain rfl := hentry.unique hhas
    exact loadCatalog_of_isFirstFailure ht hreach' ⟨⟨hends, entry, hentry', hfails⟩, hearlier⟩

/-- A directory with a file without faults that a catalog would have, one with schemas that cannot
be gone through, one that is no YAML, and a directory with a YAML name. -/
def mixedCatalog : Surroundings where
  files := ⟨[(["cat"], .directory), (["cat", "d.yml"], .directory),
    (["cat", "c.yml"], .file "[".toUTF8.toList),
    (["cat", "b.yml"], .file "schemas: 5".toUTF8.toList),
    (["cat", "a.yml"], .file "schemas: [5]".toUTF8.toList)]⟩
  directory := .ofLocation []
  debugVariable := none

/-- What is below the directory. -/
theorem hasEntry_mixedCatalog {names : List String} {entry : Entry}
    (h : mixedCatalog.HasEntry ⟨.relative, ["cat"]⟩ names entry) :
    (names, entry) ∈ [([], .directory), (["d.yml"], .directory),
      (["c.yml"], .file "[".toUTF8.toList), (["b.yml"], .file "schemas: 5".toUTF8.toList),
      (["a.yml"], .file "schemas: [5]".toUTF8.toList)] := by
  obtain ⟨place, hplace, -, hget⟩ := h
  have hat : mixedCatalog.files.directoryAt mixedCatalog.directory ⟨.relative, ["cat"]⟩ =
      .ok ⟨["cat"], 0⟩ := rfl
  obtain rfl := Except.ok.inj (hplace.symm.trans hat)
  have hmem := FileTree.mem_entries_of_get? (by simp) hget
  simpa [mixedCatalog] using hmem

/-- The file whose schemas cannot be gone through is the first that fails. -/
theorem isFirstFailure_mixedCatalog :
    mixedCatalog.IsFirstFailure ⟨.relative, ["cat"]⟩ ["b.yml"] (.notIterable "int") where
  failsAt := by
    have hread : Yaml.readBytes "schemas: 5".toUTF8.toList =
        .ok (.map [(.str "schemas", .int 5)]) := by decide +kernel
    exact ⟨by decide, _, ⟨⟨["cat"], 0⟩, rfl, rfl, rfl⟩,
      .notIterable (v := .int 5) (by decide) hread rfl rfl rfl rfl⟩
  first earlier hlt e' := by
    rintro ⟨hends, entry, hentry, hfails⟩
    have hmem := hasEntry_mixedCatalog hentry
    have hnot : ¬ EndsAsYaml [] ∧ ¬ ["d.yml"] < ["b.yml"] ∧ ¬ ["c.yml"] < ["b.yml"] := by decide
    simp only [List.mem_cons, Prod.mk.injEq, List.not_mem_nil, or_false] at hmem
    rcases hmem with ⟨rfl, -⟩ | ⟨rfl, -⟩ | ⟨rfl, -⟩ | ⟨rfl, -⟩ | ⟨rfl, rfl⟩
    · exact hnot.1 hends
    · exact hnot.2.1 hlt
    · exact hnot.2.2 hlt
    · exact List.lt_irrefl _ hlt
    · -- the schemas are listed, whatever they are
      have hread : Yaml.readBytes "schemas: [5]".toUTF8.toList =
          .ok (.map [(.str "schemas", .list [.int 5])]) := by decide +kernel
      have herror := (failsWith_file_iff (by decide)).2 hfails
      rw [hread] at herror
      exact nomatch herror

/-- Of a directory in which much is wrong the first failure is reported. -/
theorem loadCatalog_mixedCatalog :
    mixedCatalog.files.IsWellFormed ∧ mixedCatalog.IsWithinReach ⟨.relative, ["cat"]⟩ ∧
      mixedCatalog.loadCatalog ⟨.relative, ["cat"]⟩ = .error (.notIterable "int") := by
  have hfiles : mixedCatalog.files.IsWellFormed := by decide
  have hreach : mixedCatalog.IsWithinReach ⟨.relative, ["cat"]⟩ := by
    intro names h
    have hmem := hasEntry_mixedCatalog h
    simp only [List.mem_cons, Prod.mk.injEq, reduceCtorEq, and_false, and_true, or_false,
      List.not_mem_nil] at hmem
    rcases hmem with rfl | rfl <;> decide
  exact ⟨hfiles, hreach, ((loadCatalog_firstFailure hfiles hreach ⟨_, rfl⟩).2.1 _ _
    isFirstFailure_mixedCatalog).1⟩

/-! ## Files with long paths -/

/-- The names of a file in a deep directory. -/
def deepFile : Location := deepDirectory ++ ["aaaaaaaaaaaaaaaaaaaa.yml"]

/-- A good file far below and one whose schemas cannot be gone through. -/
def nearAndFar : List (Location × Entry) :=
  [(deepFile, .file "\x7b\x7d".toUTF8.toList), (["z.yml"], .file "schemas: 5".toUTF8.toList)]

/-- A directory with the two files. -/
def deepCatalog : Surroundings where
  files := ⟨deepTree.entries ++ nearAndFar⟩
  directory := .ofLocation []
  debugVariable := none

/-- The tree is well-formed. -/
theorem isWellFormed_deepCatalog : deepCatalog.files.IsWellFormed := by
  intro e he
  rcases List.mem_append.1 he with hmem | hmem
  · obtain ⟨hparent, hname⟩ := isWellFormed_deepTree e hmem
    exact ⟨FileTree.get?_append_of_eq_some hparent, hname⟩
  · simp only [nearAndFar, List.mem_cons, List.not_mem_nil, or_false] at hmem
    rcases hmem with rfl | rfl
    · refine ⟨?_, fun name hname => ?_⟩
      · rw [deepFile, List.dropLast_concat]
        exact FileTree.get?_append_of_eq_some (get?_deepTree (Nat.le_refl 19))
      · rw [deepFile, List.getLast?_concat] at hname
        obtain rfl := Option.some.inj hname
        decide
    · refine ⟨rfl, fun name hname => ?_⟩
      obtain rfl := Option.some.inj hname
      decide

/-- What is below the directory. -/
theorem hasEntry_deepCatalog {names : List String} {entry : Entry}
    (h : deepCatalog.HasEntry ⟨.relative, []⟩ names entry) :
    (∃ n ≤ 19, names = List.replicate n (nameOfLength 214)) ∨ names = ["pgcodegen.yml"] ∨
      (names, entry) ∈ nearAndFar := by
  obtain ⟨place, hplace, -, hget⟩ := h
  have hat : deepCatalog.files.directoryAt deepCatalog.directory ⟨.relative, []⟩ = .ok ⟨[], 0⟩ :=
    rfl
  obtain rfl := Except.ok.inj (hplace.symm.trans hat)
  rw [List.nil_append] at hget
  by_cases hne : names = []
  · exact .inl ⟨0, by decide, hne⟩
  · rcases List.mem_append.1 (FileTree.mem_entries_of_get? hne hget) with hmem | hmem
    · rcases of_mem_chainTree hmem with ⟨rfl, -⟩ | ⟨n, hn, rfl, -⟩
      · exact .inr (.inl rfl)
      · exact .inl ⟨n + 1, hn, rfl⟩
    · exact .inr (.inr hmem)

/-- What ends as a YAML file is no directory. -/
theorem names_of_endsAsYaml {names : List String} {entry : Entry}
    (h : deepCatalog.HasEntry ⟨.relative, []⟩ names entry) (hends : EndsAsYaml names) :
    names = ["pgcodegen.yml"] ∨ (names, entry) ∈ nearAndFar := by
  rcases hasEntry_deepCatalog h with ⟨n, -, rfl⟩ | hother
  · exact absurd hends (not_endsAsYaml_replicate n)
  · exact hother

/-- The two files are there. -/
theorem hasEntry_nearAndFar {names : List String} {entry : Entry}
    (h : (names, entry) ∈ nearAndFar) :
    deepCatalog.HasEntry ⟨.relative, []⟩ names entry := by
  have hfile : EndsAsYaml names ∧ names ≠ ["pgcodegen.yml"] := by
    simp only [nearAndFar, List.mem_cons, Prod.mk.injEq, List.not_mem_nil, or_false] at h
    rcases h with ⟨rfl, -⟩ | ⟨rfl, -⟩
    · refine ⟨⟨deepDirectory, _, rfl, by decide⟩, fun heq => ?_⟩
      exact absurd (List.cons.inj heq).1 (nameOfLength_ne (by decide))
    · decide
  obtain ⟨hends, hne⟩ := hfile
  have hsome : (deepCatalog.files.get? names).isSome = true :=
    (FileTree.isSome_get?_iff (ne_nil_of_endsAsYaml hends)).2
      ⟨entry, List.mem_append_right _ h⟩
  obtain ⟨entry', hget⟩ := Option.isSome_iff_exists.1 hsome
  have hentry : deepCatalog.HasEntry ⟨.relative, []⟩ names entry' := ⟨⟨[], 0⟩, rfl, rfl, hget⟩
  have hmem := (names_of_endsAsYaml hentry hends).resolve_left hne
  -- the two have different names
  have hdeep : deepFile ≠ ["z.yml"] := fun heq =>
    absurd (List.cons.inj heq).1 (nameOfLength_ne (by decide))
  have hsame : entry' = entry := by
    simp only [nearAndFar, List.mem_cons, Prod.mk.injEq, List.not_mem_nil, or_false] at h hmem
    rcases h with ⟨rfl, rfl⟩ | ⟨rfl, rfl⟩
    · exact (hmem.resolve_right fun hz => hdeep hz.1).2
    · exact (hmem.resolve_left fun hz => hdeep hz.1.symm).2
  exact hsame ▸ hentry

/-- The path to the file far below is too long. -/
theorem pathLimit_lt_deepFile :
    FileTree.pathLimit < Text.byteSize (below ⟨.relative, []⟩ deepFile).text := by
  have hlast : "aaaaaaaaaaaaaaaaaaaa.yml".toList.all (fun c => c.toNat < 0x80) = true := by decide
  have hsize : Text.byteSize (Path.mk .relative deepFile).text + 1 =
      (deepFile.flatMap fun name => '/' :: name.toList).length := by
    refine Path.byteSize_text_relative (by simp [deepFile]) fun name hname => ?_
    rcases List.mem_append.1 hname with hname | hname
    · obtain rfl := List.eq_of_mem_replicate hname
      exact lt_of_mem_nameOfLength
    · obtain rfl := List.mem_singleton.1 hname
      exact fun c hc => of_decide_eq_true (List.all_eq_true.1 hlast c hc)
  have hlength : (deepFile.flatMap fun name => '/' :: name.toList).length = 19 * 215 + 25 := by
    rw [deepFile, deepDirectory, List.flatMap_append, List.length_append, List.length_flatMap,
      List.map_replicate, List.sum_replicate_nat, List.length_cons, toList_nameOfLength,
      List.length_replicate]
    rfl
  have hlimit : FileTree.pathLimit = 4095 := rfl
  have hbelow : (below ⟨.relative, []⟩ deepFile).text = (Path.mk .relative deepFile).text := rfl
  rw [hbelow]
  omega

/-- A path can lead to every directory. -/
theorem isWithinReach_deepCatalog : deepCatalog.IsWithinReach ⟨.relative, []⟩ := by
  intro names h
  rcases hasEntry_deepCatalog h with ⟨n, hn, rfl⟩ | rfl | hfile
  · cases n with
    | zero => decide
    | succ n =>
        have hsize := byteSize_text_replicate n
        have hlimit : FileTree.pathLimit = 4095 := rfl
        have hbelow : (below ⟨.relative, []⟩ (List.replicate (n + 1) (nameOfLength 214))).text =
            (Path.mk .relative (List.replicate (n + 1) (nameOfLength 214))).text := rfl
        rw [hbelow]
        omega
  · decide
  · simp [nearAndFar] at hfile

/-- A name with a later letter does not come before those of the file far below. -/
theorem not_lt_deepFile {name : String} {c : Char} {cs : List Char} (h : name.toList = c :: cs)
    (hc : 'a' < c) : ¬ [name] < deepFile := by
  have hname : (nameOfLength 214).toList = 'a' :: List.replicate 213 'a' := toList_nameOfLength 214
  intro hlt
  rcases List.cons_lt_cons_iff.1 hlt with hlt | ⟨heq, -⟩
  · have hlt : name.toList < (nameOfLength 214).toList := hlt
    rw [h, hname] at hlt
    rcases List.cons_lt_cons_iff.1 hlt with hlt | ⟨heq, -⟩
    · exact Char.lt_asymm hlt hc
    · exact absurd hc (heq ▸ Char.lt_irrefl _)
  · rw [heq, hname] at h
    exact absurd hc ((List.cons.inj h).1 ▸ Char.lt_irrefl _)

/-- The file far below is the first that fails. -/
theorem isFirstFailure_deepCatalog :
    deepCatalog.IsFirstFailure ⟨.relative, []⟩ deepFile
      (.unreadable .nameTooLong (below ⟨.relative, []⟩ deepFile)) where
  failsAt :=
    ⟨⟨deepDirectory, _, rfl, by decide⟩, _, hasEntry_nearAndFar (.head _),
      .longPath pathLimit_lt_deepFile⟩
  first earlier hlt e' := by
    rintro ⟨hends, entry, hentry, -⟩
    rcases names_of_endsAsYaml hentry hends with rfl | hmem
    · exact not_lt_deepFile rfl (by decide) hlt
    · simp only [nearAndFar, List.mem_cons, Prod.mk.injEq, List.not_mem_nil, or_false] at hmem
      rcases hmem with ⟨rfl, -⟩ | ⟨rfl, -⟩
      · exact List.lt_irrefl _ hlt
      · exact not_lt_deepFile rfl (by decide) hlt

/-- **A long path can decide the error.**  A directory holds a file far below, good but for the
length of its path, and one whose schemas cannot be gone through.  Nothing before the latter fails
for a reason other than its path, but its error is not the one that loading the directory ends
with. -/
theorem loadCatalog_deepCatalog :
    deepCatalog.files.IsWellFormed ∧ deepCatalog.IsWithinReach ⟨.relative, []⟩ ∧
      deepCatalog.FailsAt ⟨.relative, []⟩ ["z.yml"] (.notIterable "int") ∧
      (∀ earlier < ["z.yml"], ∀ e, deepCatalog.FailsAt ⟨.relative, []⟩ earlier e →
        e = .unreadable .nameTooLong (below ⟨.relative, []⟩ deepFile)) ∧
      deepCatalog.HasEntry ⟨.relative, []⟩ deepFile (.file "\x7b\x7d".toUTF8.toList) ∧
      Yaml.readBytes "\x7b\x7d".toUTF8.toList = .ok (.map []) ∧
      deepCatalog.loadCatalog ⟨.relative, []⟩ =
        .error (.unreadable .nameTooLong (below ⟨.relative, []⟩ deepFile)) := by
  refine ⟨isWellFormed_deepCatalog, isWithinReach_deepCatalog, ?_, ?_,
    hasEntry_nearAndFar (.head _), by decide +kernel,
    loadCatalog_of_isFirstFailure isWellFormed_deepCatalog isWithinReach_deepCatalog
      isFirstFailure_deepCatalog⟩
  · have hread : Yaml.readBytes "schemas: 5".toUTF8.toList =
        .ok (.map [(.str "schemas", .int 5)]) := by decide +kernel
    exact ⟨by decide, _, hasEntry_nearAndFar (.tail _ (.head _)),
      .notIterable (v := .int 5) (by decide) hread rfl rfl rfl rfl⟩
  · rintro earlier hlt e ⟨hends, entry, hentry, hfails⟩
    rcases names_of_endsAsYaml hentry hends with rfl | hmem
    · have hfile : deepCatalog.HasEntry ⟨.relative, []⟩ ["pgcodegen.yml"]
          (.file "catalog: c.yml".toUTF8.toList) := ⟨⟨[], 0⟩, rfl, rfl, rfl⟩
      obtain rfl := hentry.unique hfile
      have hread : Yaml.readBytes "catalog: c.yml".toUTF8.toList =
          .ok (.map [(.str "catalog", .str "c.yml")]) := by decide +kernel
      have herror := (failsWith_file_iff (by decide)).2 hfails
      rw [hread] at herror
      exact nomatch herror
    · simp only [nearAndFar, List.mem_cons, Prod.mk.injEq, List.not_mem_nil, or_false] at hmem
      rcases hmem with ⟨rfl, rfl⟩ | ⟨rfl, -⟩
      · cases hfails with
        | longPath _ => rfl
        | notUtf8 hfits | notYaml hfits | notMapping hfits | notIterable hfits =>
            exact absurd pathLimit_lt_deepFile (Nat.not_lt.2 hfits)
      · exact absurd hlt (List.lt_irrefl _)

end Surroundings

end ColumnTypes
