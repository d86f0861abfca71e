import ColumnTypes.Proofs.Catalog.Failing
import ColumnTypes.Proofs.Config.Anywhere

/-!
# Loading a catalog directory

What is loaded from a catalog directory is read from the documents of its files, merged in the order
of their names, if the directory fits.  Then neither the order in which the system lists entries nor
files with other names nor the place of the directory play a part.

A catalog directory that does not fit is not loaded
(`Surroundings.IsCatalogDirectory.exists_error`): a directory whose path is too long cannot be
listed, also if no YAML file is in it, and a file with such a path cannot be read.

Main statement: `Surroundings.loadCatalog_directory`.
-/

namespace ColumnTypes.Surroundings

open Document

variable {s : Surroundings} {p : Path} {names : List String} {e : LoadError}

/-! ## Directories that do not fit -/

/-- In a catalog directory files fail by their paths only. -/
theorem IsCatalogDirectory.of_failsAt (h : s.IsCatalogDirectory p) (hfails : s.FailsAt p names e) :
    FileTree.pathLimit < Text.byteSize (below p names).text ∧
      e = .unreadable .nameTooLong (below p names) := by
  obtain ⟨hends, entry, hentry, hfails⟩ := hfails
  cases entry with
  | directory => exact absurd hentry (h.isFile names hends)
  | file bytes =>
      by_cases hlong : FileTree.pathLimit < Text.byteSize (below p names).text
      · cases hfails with
        | longPath _ => exact ⟨hlong, rfl⟩
        | notUtf8 hfits | notYaml hfits | notMapping hfits | notIterable hfits =>
            exact absurd hlong (Nat.not_lt.2 hfits)
      · obtain ⟨d, hread, hmergeable⟩ := h.isMergeable names bytes hends hentry
        have herror := (failsWith_file_iff (Nat.not_lt.1 hlong)).2 hfails
        rw [hread] at herror
        exact nomatch herror.symm.trans (CatalogParts.ofDocument_of_isMergeable _ hmergeable)

/-- One that does not fit is not loaded: a path below it is too long. -/
theorem IsCatalogDirectory.exists_error (hfiles : s.files.IsWellFormed)
    (h : s.IsCatalogDirectory p) (hnot : ¬s.Fits p) :
    ∃ names, FileTree.pathLimit < Text.byteSize (below p names).text ∧
      s.loadCatalog p = .error (.unreadable .nameTooLong (below p names)) := by
  obtain ⟨place, hplace⟩ := h.isDirectory
  by_cases hreach : s.IsWithinReach p
  · -- Everything can be listed, so the first file with a long path decides the error.
    have hfails : ∃ names e, s.FailsAt p names e := by
      by_contra hnone
      refine hnot ⟨hreach, fun names bytes hends hentry => Nat.not_lt.1 fun hlong => ?_⟩
      exact hnone ⟨names, _, hends, _, hentry, .longPath hlong⟩
    obtain ⟨names, e, hfails⟩ := hfails
    obtain ⟨first, e', hfirst⟩ := exists_isFirstFailure hfiles hreach hplace hfails
    obtain ⟨hlong, rfl⟩ := h.of_failsAt hfirst.failsAt
    exact ⟨first, hlong, loadCatalog_of_isFirstFailure hfiles hreach hfirst⟩
  · obtain ⟨names, hlong, hlisted⟩ := exists_listedFiles_eq_error hreach hplace
    refine ⟨names, hlong, ?_⟩
    unfold loadCatalog
    rw [catalogFiles_of_directoryAt hplace, hlisted]
    rfl

/-! ## Loading -/

/-- **Loading a directory is a canonical, lossless merge.**  A catalog directory that fits has one
listing, of everything in it that has a YAML name, and what is loaded from it is read from the
documents of the listing, merged in their order.  The outcome does not depend on the order in which
the system lists entries, on files with other names, or on where the directory is, as long as it
fits there.  A valid catalog that is cut into the files of the listing comes back.  A catalog
directory that does not fit ends with the error of a path in it that is too long. -/
theorem loadCatalog_directory {s : Surroundings} {p : Path} (hfiles : s.files.IsWellFormed)
    (h : s.IsCatalogDirectory p) :
    (s.Fits p →
      ∃ files, s.IsListing p files ∧ (∀ names, s.Lists p names ↔ names ∈ files.map Prod.fst) ∧
        s.loadCatalog p = Catalog.validated (merged (files.map Prod.snd)) ∧
        ((s.files.entries.map Prod.fst).Nodup → ∀ entries, entries.Perm s.files.entries →
          { s with files := ⟨entries⟩ }.loadCatalog p = s.loadCatalog p) ∧
        (∀ u, s.files.SameYaml u → { s with files := u }.loadCatalog p = s.loadCatalog p) ∧
        (∀ t q, t.files.IsWellFormed → t.Fits q → s.SameYamlBelow p t q →
          t.loadCatalog q = s.loadCatalog p) ∧
        ∀ c d, Catalog.ofDocument d = .ok c → c.IsCutInto (files.map Prod.snd) →
          s.loadCatalog p = .ok c) ∧
    (¬s.Fits p → ∃ names, FileTree.pathLimit < Text.byteSize (below p names).text ∧
      s.loadCatalog p = .error (.unreadable .nameTooLong (below p names))) := by
  refine ⟨fun hfits => ?_, h.exists_error hfiles⟩
  have hreadable := h.isReadable hfiles hfits
  obtain ⟨place, hplace⟩ := h.isDirectory
  obtain ⟨files, hlisting, hnames, -⟩ := exists_isListing hreadable hplace
  have hload := loadCatalog_of_isListing hreadable hlisting
  -- A listing depends only on the documents that YAML files hold, so the outcome does, too.
  have hother : ∀ u, s.files.SameYaml u →
      { s with files := u }.loadCatalog p = s.loadCatalog p :=
    fun u hu => loadCatalog_eq_of_holds_iff (hreadable.of_sameYaml hfiles hu) hreadable
      fun _ _ => holds_iff_of_sameYaml hfiles hu
  refine ⟨files, hlisting, ?_, hload, ?_, hother, ?_, ?_⟩
  · intro names
    rw [hnames]
    exact lists_iff_mem_yamlNames hplace
  · intro hnodup entries hperm
    exact hother _ (.of_perm hnodup hperm)
  · intro t q ht hfits' hbelow
    have hreadable' := (h.of_sameYamlBelow hbelow).isReadable ht hfits'
    exact loadCatalog_eq_of_holds_iff hreadable' hreadable fun _ _ =>
      (holds_iff_of_sameYamlBelow hfiles ht hfits hfits' hbelow).symm
  · intro c d hc hcut
    rw [hload]
    exact Catalog.validated_merged (Catalog.isValid_of_ofDocument hc) hcut

/-- A directory `cat` with two YAML files and one other; `a/z.yml` comes before `a.yml`. -/
def splitCatalog : Surroundings where
  files := ⟨[(["cat"], .directory), (["cat", "a.yml"], .file "{default_schema: d}".toUTF8.toList),
    (["cat", "notes.txt"], .file []), (["cat", "a"], .directory),
    (["cat", "a", "z.yml"], .file
      "{schemas: [{name: s, enums: [], composite_types: [], tables: []}]}".toUTF8.toList)]⟩
  directory := .ofLocation []
  debugVariable := none

/-- The path to the directory. -/
def splitPath : Path := ⟨.relative, ["cat"]⟩

/-- The YAML files of the directory with their documents. -/
def splitFiles : List (List String × Document) :=
  [(["a", "z.yml"], .record [("schemas", .list [Schema.toDocument .short ⟨"s", [], [], []⟩])]),
    (["a.yml"], .record [("default_schema", .str "d")])]

/-- The place of the directory. -/
theorem directoryAt_splitPath :
    splitCatalog.files.directoryAt splitCatalog.directory splitPath = .ok ⟨["cat"], 0⟩ := by
  rfl

/-- What is below the directory. -/
theorem mem_of_hasEntry_splitCatalog {names : List String} {entry : Entry}
    (h : splitCatalog.HasEntry splitPath names entry) :
    (names, entry) ∈ [([], .directory), (["a.yml"], .file "{default_schema: d}".toUTF8.toList),
      (["notes.txt"], .file []), (["a"], .directory), (["a", "z.yml"], .file
        "{schemas: [{name: s, enums: [], composite_types: [], tables: []}]}".toUTF8.toList)] := by
  obtain ⟨place, hplace, -, hget⟩ := h
  obtain rfl := Except.ok.inj (hplace.symm.trans directoryAt_splitPath)
  have hmem := FileTree.mem_entries_of_get? (by simp) hget
  simpa [splitCatalog] using hmem

/-- The files with YAML names there. -/
theorem yaml_of_hasEntry_splitCatalog {names : List String} {entry : Entry}
    (hends : EndsAsYaml names) (h : splitCatalog.HasEntry splitPath names entry) :
    (names, entry) ∈ [(["a.yml"], .file "{default_schema: d}".toUTF8.toList),
      (["a", "z.yml"], .file
        "{schemas: [{name: s, enums: [], composite_types: [], tables: []}]}".toUTF8.toList)] := by
  have hnot : ¬EndsAsYaml [] ∧ ¬EndsAsYaml ["notes.txt"] ∧ ¬EndsAsYaml ["a"] := by decide
  have hmem := mem_of_hasEntry_splitCatalog h
  simp only [List.mem_cons, Prod.mk.injEq, List.not_mem_nil, or_false] at hmem ⊢
  rcases hmem with ⟨rfl, -⟩ | hfile | ⟨rfl, -⟩ | ⟨rfl, -⟩ | hfile
  · exact absurd hends hnot.1
  · exact .inl hfile
  · exact absurd hends hnot.2.1
  · exact absurd hends hnot.2.2
  · exact .inr hfile

/-- The names that the directory lists. -/
theorem lists_splitCatalog {names : List String} :
    splitCatalog.Lists splitPath names ↔ names ∈ splitFiles.map Prod.fst := by
  constructor
  · intro h
    obtain ⟨hends, entry, hentry⟩ := lists_iff.1 h
    have hmem := yaml_of_hasEntry_splitCatalog hends hentry
    simp only [List.mem_cons, Prod.mk.injEq, List.not_mem_nil, or_false] at hmem
    rcases hmem with ⟨rfl, -⟩ | ⟨rfl, -⟩ <;> simp [splitFiles]
  · intro h
    have hends : ∀ names ∈ splitFiles.map Prod.fst, EndsAsYaml names ∧
        (splitCatalog.files.get? (["cat"] ++ names)).isSome = true := by decide
    exact ⟨_, directoryAt_splitPath, rfl, hends names h⟩

/-- The documents of the files. -/
theorem readYaml_splitFiles :
    ∀ f ∈ splitFiles, splitCatalog.readYaml (below splitPath f.1) = .ok f.2 := by
  decide +kernel

/-- The files make up a listing. -/
theorem isListing_splitFiles : splitCatalog.IsListing splitPath splitFiles where
  pairwise := by decide
  mem_iff names d := by
    rw [Holds, lists_splitCatalog]
    constructor
    · intro h
      exact ⟨List.mem_map_of_mem h, readYaml_splitFiles _ h⟩
    · rintro ⟨hmem, hread⟩
      obtain ⟨f, hf, rfl⟩ := List.mem_map.1 hmem
      obtain rfl := Except.ok.inj (hread.symm.trans (readYaml_splitFiles f hf))
      exact hf

/-- The directory is a catalog directory. -/
theorem isCatalogDirectory_splitCatalog : splitCatalog.IsCatalogDirectory splitPath where
  isDirectory := ⟨_, directoryAt_splitPath⟩
  isFile names hends h := by simpa using yaml_of_hasEntry_splitCatalog hends h
  isMergeable names bytes hends h := by
    have hdefault : Yaml.readBytes "{default_schema: d}".toUTF8.toList =
        .ok (.record [("default_schema", .str "d")]) := by decide +kernel
    have hschemas : Yaml.readBytes
        "{schemas: [{name: s, enums: [], composite_types: [], tables: []}]}".toUTF8.toList =
          .ok (.record [("schemas", .list [Schema.toDocument .short ⟨"s", [], [], []⟩])]) := by
      decide +kernel
    have hmem := yaml_of_hasEntry_splitCatalog hends h
    simp only [List.mem_cons, Prod.mk.injEq, Entry.file.injEq, List.not_mem_nil, or_false] at hmem
    rcases hmem with ⟨-, rfl⟩ | ⟨-, rfl⟩
    · refine ⟨_, hdefault, .inr ⟨_, rfl, fun v hv => ?_⟩⟩
      simp [valueOf?] at hv
    · refine ⟨_, hschemas, .inr ⟨_, rfl, fun v hv => ?_⟩⟩
      obtain rfl := Option.some.inj hv
      exact .inr ⟨_, rfl⟩

/-- Its paths are short. -/
theorem fits_splitCatalog : splitCatalog.Fits splitPath where
  isWithinReach names h := by
    have hmem := mem_of_hasEntry_splitCatalog h
    simp only [List.mem_cons, Prod.mk.injEq, reduceCtorEq, and_false, and_true, or_false, false_or,
      List.not_mem_nil] at hmem
    rcases hmem with rfl | rfl <;> decide
  files names bytes hends h := by
    have hmem := yaml_of_hasEntry_splitCatalog hends h
    simp only [List.mem_cons, Prod.mk.injEq, List.not_mem_nil, or_false] at hmem
    rcases hmem with ⟨rfl, -⟩ | ⟨rfl, -⟩ <;> decide

/-- The catalog that is cut into the two files comes back from the directory, also where the system
lists the entries the other way round. -/
theorem loadCatalog_splitCatalog :
    splitCatalog.files.IsWellFormed ∧ splitCatalog.IsCatalogDirectory splitPath ∧
      splitCatalog.Fits splitPath ∧
      splitCatalog.loadCatalog splitPath = .ok ⟨"d", [⟨"s", [], [], []⟩]⟩ ∧
      { splitCatalog with files := ⟨splitCatalog.files.entries.reverse⟩ }.loadCatalog splitPath =
        splitCatalog.loadCatalog splitPath := by
  have hwell : splitCatalog.files.IsWellFormed := by decide
  obtain ⟨files, hfiles, -, -, hperm, -, -, hcut⟩ :=
    (loadCatalog_directory hwell isCatalogDirectory_splitCatalog).1 fits_splitCatalog
  obtain rfl := hfiles.eq_of_holds_iff isListing_splitFiles fun _ _ => Iff.rfl
  refine ⟨hwell, isCatalogDirectory_splitCatalog, fits_splitCatalog, ?_, ?_⟩
  · refine hcut _ (Catalog.toDocument .short ⟨"d", [⟨"s", [], [], []⟩]⟩) (by decide) ?_
    refine ⟨⟨[[⟨"s", [], [], []⟩], []], rfl, ?_⟩, by decide⟩
    exact .cons ⟨.short, rfl⟩ (.cons ⟨.short, rfl⟩ .nil)
  · exact hperm (by decide) _ (List.reverse_perm _)

/-! ## Empty directories with long paths -/

/-- The bytes of a path through equal names. -/
theorem byteSize_text_replicate (n : Nat) :
    Text.byteSize (Path.mk .relative (List.replicate (n + 1) (nameOfLength 214))).text + 1 =
      (n + 1) * 215 := by
  have hne : List.replicate (n + 1) (nameOfLength 214) ≠ [] := List.cons_ne_nil _ _
  rw [Path.byteSize_text_relative hne, List.length_flatMap, List.map_replicate,
    List.sum_replicate_nat, List.length_cons, toList_nameOfLength, List.length_replicate]
  intro name hname
  obtain rfl := List.eq_of_mem_replicate hname
  exact lt_of_mem_nameOfLength

/-- Names of letters do not end as those of a YAML file. -/
theorem not_endsAsYaml_replicate (n : Nat) :
    ¬EndsAsYaml (List.replicate n (nameOfLength 214)) := by
  rintro ⟨folder, name, heq, hname⟩
  have hmem : name ∈ List.replicate n (nameOfLength 214) := by
    rw [heq]
    exact List.mem_append_right _ List.mem_cons_self
  obtain rfl := List.eq_of_mem_replicate hmem
  have hnot : yamlEndings.any (·.toList.isSuffixOf (List.replicate 214 'a')) = false := by
    decide
  unfold isYamlName hasEnding at hname
  rw [toList_nameOfLength, hnot] at hname
  exact nomatch hname

/-- A file with a default schema beside a chain of empty directories. -/
def emptyChain : Surroundings where
  files := chainTree "a.yml" "default_schema: d".toUTF8.toList (nameOfLength 214) 20
  directory := .ofLocation []
  debugVariable := none

/-- The YAML file of the directory with its document. -/
def emptyChainFiles : List (List String × Document) :=
  [(["a.yml"], .record [("default_schema", .str "d")])]

/-- What is below the directory. -/
theorem hasEntry_emptyChain {entry : Entry} (h : emptyChain.HasEntry ⟨.relative, []⟩ names entry) :
    (∃ n, names = List.replicate n (nameOfLength 214)) ∨
      names = ["a.yml"] ∧ entry = .file "default_schema: d".toUTF8.toList := by
  obtain ⟨place, hplace, -, hget⟩ := h
  have hat : emptyChain.files.directoryAt emptyChain.directory ⟨.relative, []⟩ = .ok ⟨[], 0⟩ := rfl
  obtain rfl := Except.ok.inj (hplace.symm.trans hat)
  rw [List.nil_append] at hget
  by_cases hne : names = []
  · exact .inl ⟨0, hne⟩
  · rcases of_mem_chainTree (FileTree.mem_entries_of_get? hne hget) with hfile | ⟨n, -, rfl, -⟩
    · exact .inr hfile
    · exact .inl ⟨n + 1, rfl⟩

/-- The file is all that ends as YAML. -/
theorem yaml_of_hasEntry_emptyChain {entry : Entry} (hends : EndsAsYaml names)
    (h : emptyChain.HasEntry ⟨.relative, []⟩ names entry) :
    names = ["a.yml"] ∧ entry = .file "default_schema: d".toUTF8.toList := by
  rcases hasEntry_emptyChain h with ⟨n, rfl⟩ | hfile
  · exact absurd hends (not_endsAsYaml_replicate n)
  · exact hfile

theorem isWellFormed_emptyChain : emptyChain.files.IsWellFormed :=
  isWellFormed_chainTree (nameOfLength_ne (by decide)) (by decide)
    (isFileName_nameOfLength (by decide) (by decide))

theorem readBytes_emptyChain : Yaml.readBytes "default_schema: d".toUTF8.toList =
    .ok (.record [("default_schema", .str "d")]) := by
  decide +kernel

theorem isCatalogDirectory_emptyChain : emptyChain.IsCatalogDirectory ⟨.relative, []⟩ where
  isDirectory := ⟨⟨[], 0⟩, rfl⟩
  isFile names hends h := nomatch (yaml_of_hasEntry_emptyChain hends h).2
  isMergeable names bytes hends h := by
    obtain ⟨-, hbytes⟩ := yaml_of_hasEntry_emptyChain hends h
    obtain rfl := Entry.file.inj hbytes
    refine ⟨_, readBytes_emptyChain, .inr ⟨_, rfl, fun v hv => ?_⟩⟩
    simp [valueOf?] at hv

/-- The file is all that is listed. -/
theorem isListing_emptyChainFiles :
    emptyChain.IsListing ⟨.relative, []⟩ emptyChainFiles ∧
      ∀ names, emptyChain.Lists ⟨.relative, []⟩ names ↔ names ∈ emptyChainFiles.map Prod.fst := by
  have hentry : emptyChain.HasEntry ⟨.relative, []⟩ ["a.yml"]
      (.file "default_schema: d".toUTF8.toList) := ⟨⟨[], 0⟩, rfl, rfl, rfl⟩
  have hholds : emptyChain.Holds ⟨.relative, []⟩ ["a.yml"]
      (.record [("default_schema", .str "d")]) :=
    holds_of_hasEntry isWellFormed_emptyChain (by decide) hentry (by decide) readBytes_emptyChain
  have hlists : ∀ names, emptyChain.Lists ⟨.relative, []⟩ names ↔ names = ["a.yml"] := by
    intro names
    constructor
    · intro h
      obtain ⟨hends, entry, hentry⟩ := lists_iff.1 h
      exact (yaml_of_hasEntry_emptyChain hends hentry).1
    · rintro rfl
      exact hholds.1
  refine ⟨⟨List.pairwise_singleton _ _, fun names d => ?_⟩, fun names => ?_⟩
  · simp only [emptyChainFiles, List.mem_singleton, Prod.mk.injEq]
    constructor
    · rintro ⟨rfl, rfl⟩
      exact hholds
    · intro h
      obtain rfl := (hlists names).1 h.1
      exact ⟨rfl, h.unique hholds⟩
  · rw [hlists]
    simp [emptyChainFiles]

/-- **A directory cannot be merged if an empty directory in it has too long a path.**  Everything in
the directory is as it should be, and its one file gives a catalog; but one of the directories
beside the file cannot be listed. -/
theorem not_loadCatalog_emptyChain :
    emptyChain.files.IsWellFormed ∧ emptyChain.IsCatalogDirectory ⟨.relative, []⟩ ∧
      emptyChain.IsListing ⟨.relative, []⟩ emptyChainFiles ∧
      (∀ names, emptyChain.Lists ⟨.relative, []⟩ names ↔ names ∈ emptyChainFiles.map Prod.fst) ∧
      Catalog.validated (merged (emptyChainFiles.map Prod.snd)) = .ok ⟨"d", []⟩ ∧
      ∃ names, emptyChain.loadCatalog ⟨.relative, []⟩ =
        .error (.unreadable .nameTooLong (below ⟨.relative, []⟩ names)) := by
  have hnot : ¬emptyChain.Fits ⟨.relative, []⟩ := by
    intro hfits
    have hdeepest : emptyChain.files.get? (List.replicate 20 (nameOfLength 214)) =
        some .directory :=
      get?_chainTree (nameOfLength_ne (by decide)) (Nat.le_refl 20)
    have hlast : emptyChain.HasEntry ⟨.relative, []⟩ (List.replicate 20 (nameOfLength 214))
        .directory := ⟨⟨[], 0⟩, rfl, rfl, hdeepest⟩
    have hshort := hfits.isWithinReach _ hlast
    have hsize := byteSize_text_replicate 19
    have hlimit : FileTree.pathLimit = 4095 := rfl
    have hbelow : (below ⟨.relative, []⟩ (List.replicate 20 (nameOfLength 214))).text =
        (Path.mk .relative (List.replicate (19 + 1) (nameOfLength 214))).text := rfl
    rw [hbelow] at hshort
    omega
  obtain ⟨names, -, herror⟩ :=
    isCatalogDirectory_emptyChain.exists_error isWellFormed_emptyChain hnot
  exact ⟨isWellFormed_emptyChain, isCatalogDirectory_emptyChain, isListing_emptyChainFiles.1,
    isListing_emptyChainFiles.2, by decide, names, herror⟩

end ColumnTypes.Surroundings
