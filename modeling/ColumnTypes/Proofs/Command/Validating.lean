import ColumnTypes.Proofs.Command.Resolving

/-!
# What a successful validation is worth

Where `validate` exits with zero, `columns` and `resolve` with the same configuration exit with zero
as well, unless a surrogate is left in what they have to write: `columns` writes the names, the
declared types and the Go types of the columns of all tables, of which `validate` has printed none,
and `resolve` writes a Go type.

* `returns_validate_iff` - `validate` returns exactly if all lines of its report can be printed;
* `returns_columns_iff`, `returns_resolve_iff` - what the other commands need beyond that;
* `validate_sound` - the calls of the program.

## Strategy

A run of `validate` that returns is taken apart: it has loaded the configuration and the catalog and
has printed their paths, so these are well-formed markup. The same paths stand in the lines of
`columns`, under other headings.
-/

namespace ColumnTypes.Command

open Command.Action Document Markup

variable {s : Surroundings} {given : List Given} {p q : Progress} {u : Unit} {path : Path}
  {cfg : Config} {catalog : Catalog} {markup : String}

/-! ## The report -/

/-- What a console of some width shows of lines printed one after another. -/
def printed (width : Nat) (lines : List String) : String :=
  String.join (lines.map (rendered width))

theorem printed_cons (width : Nat) (line : String) (lines : List String) :
    printed width (line :: lines) = rendered width line ++ printed width lines := by
  rw [printed, List.map_cons, String.join_cons]
  rfl

theorem printed_append (width : Nat) (lines more : List String) :
    printed width (lines ++ more) = printed width lines ++ printed width more := by
  rw [printed, List.map_append, String.join_append]
  rfl

/-- Two texts written one after the other are one. -/
theorem write_write (p : Progress) (t u : String) :
    (p.write .out t).write .out u = p.write .out (t ++ u) := by
  simp [Progress.write, String.append_assoc]

theorem returns_print_bind_iff {width : Nat} {f : Unit → Action Unit} {u : Unit} :
    (print width .out markup >>= f).Returns p u q ↔
      isPrintable width markup = true ∧
        (f ()).Returns (p.write .out (rendered width markup)) u q :=
  returns_bind_of_iff fun _ => returns_print_iff

/-- A line for each element of a list is printed exactly if they all can be. -/
theorem returns_forM_print_iff {α : Type} {width : Nat} {line : α → String} {xs : List α} :
    (xs.forM fun x => print width .out (line x)).Returns p () q ↔
      (∀ l ∈ xs.map line, isPrintable width l = true) ∧
        q = p.write .out (printed width (xs.map line)) := by
  induction xs generalizing p with
  | nil =>
      show (pure () : Action Unit).Returns p () q ↔ _
      simp [returns_pure_iff, printed, Progress.write]
  | cons x xs ih =>
      show (print width .out (line x) >>= fun _ =>
        xs.forM fun x => print width .out (line x)).Returns p () q ↔ _
      rw [returns_print_bind_iff, ih, write_write, List.map_cons, List.forall_mem_cons, and_assoc,
        printed_cons]

/-- The lines about a configuration and the path of its catalog. -/
def configLines (path : Path) (cfg : Config) : List String :=
  [configLine path,
    "[green]Driver:[/green] " ++ cfg.driver.name,
    "[green]Catalog valid:[/green] " ++ cfg.catalogPath.text]

/-- The lines about a catalog: one for each schema, and a warning if none has the name of the
default one. -/
def catalogLines (catalog : Catalog) : List String :=
  catalog.schemas.map schemaLine ++
    if ∀ schema ∈ catalog.schemas, schema.name ≠ catalog.defaultSchema then
      [missingDefaultLine catalog.defaultSchema]
    else []

/-- The lines of a validation. -/
def reportLines (path : Path) (cfg : Config) (catalog : Catalog) : List String :=
  configLines path cfg ++ (catalogLines catalog ++ [lastLine])

/-- No schema of a name is found if none has it. -/
theorem isNone_schema?_iff {name : String} :
    (catalog.schema? name).isNone = true ↔ ∀ schema ∈ catalog.schemas, schema.name ≠ name := by
  simp [Catalog.schema?]

/-- Where configuration and catalog can be loaded, a validation returns exactly if all of its lines
can be printed, and has then printed them. -/
theorem returns_validate_iff (hfound : ConfigFound s (namedConfig? given) path)
    (hcfg : s.configAt path = .ok cfg) (hloaded : s.loadCatalog cfg.catalogPath = .ok catalog) :
    (validate s (.ofGiven given)).Returns p () q ↔
      (∀ line ∈ reportLines path cfg catalog, isPrintable s.width line = true) ∧
        q = p.write .out (printed s.width (reportLines path cfg catalog)) := by
  have hconfig (p : Progress) : (requiredConfig s .out (ValidateRequest.ofGiven given).config
      (ValidateRequest.ofGiven given).debug).Returns p (cfg, path) p :=
    returns_requiredConfig_iff.2 ⟨hfound, hcfg, rfl⟩
  have hcatalog (p : Progress) : (requiredCatalog s .out cfg.catalogPath
      (ValidateRequest.ofGiven given).debug).Returns p catalog p :=
    returns_requiredCatalog_iff.2 ⟨hloaded, rfl⟩
  -- Loading does nothing that is seen, so all that is done is what the lines show, in order.
  unfold validate
  rw [returns_bind_of_returns (hconfig p)]
  dsimp only
  rw [returns_print_bind_iff, returns_print_bind_iff, returns_bind_of_returns (hcatalog _),
    returns_print_bind_iff, returns_bind_of_iff fun _ => returns_forM_print_iff]
  unfold reportLines configLines configLine catalogLines lastLine
  simp only [isNone_schema?_iff]
  split_ifs
  on_goal 1 => rw [returns_print_bind_iff]
  all_goals
    rw [returns_print_iff]
    simp [write_write, printed, or_imp, forall_and, and_assoc, String.append_assoc]

/-- The lines about a configuration are clean if its paths are. -/
theorem isClean_of_mem_configLines (hpath : isClean path.text = true)
    (hcatalog : isClean cfg.catalogPath.text = true) :
    ∀ line ∈ configLines path cfg, isClean line = true := by
  intro line hline
  simp only [configLines, List.mem_cons, List.not_mem_nil, or_false] at hline
  rcases hline with rfl | rfl | rfl
  · exact (isClean_heading "green" "Config valid:" " " (by decide) _).trans hpath
  · exact (isClean_heading "green" "Driver:" " " (by decide) _).trans
      (isClean_name (driver_mem_choices cfg))
  · exact (isClean_heading "green" "Catalog valid:" " " (by decide) _).trans hcatalog

/-- So all lines of a validation can be printed if those about the catalog can be. -/
theorem forall_isPrintable_reportLines_iff {width : Nat} (hpath : isClean path.text = true)
    (hcatalog : isClean cfg.catalogPath.text = true) :
    (∀ line ∈ reportLines path cfg catalog, isPrintable width line = true) ↔
      ∀ line ∈ catalogLines catalog, isPrintable width line = true := by
  unfold reportLines
  rw [List.forall_mem_append, List.forall_mem_append, List.forall_mem_singleton]
  constructor
  · rintro ⟨-, hlines, -⟩
    exact hlines
  · intro hlines
    exact ⟨fun line hline => isPrintable_of_isClean width
      (isClean_of_mem_configLines hpath hcatalog line hline), hlines,
      isPrintable_of_isClean width isClean_lastLine⟩

/-! ## Runs -/

/-- The lines of `columns` about two paths are well-formed where those of `validate` can be
printed. -/
theorem isWellFormed_of_isPrintable_configLines {width : Nat}
    (h : ∀ line ∈ configLines path cfg, isPrintable width line = true) :
    isWellFormed (configPathLine path) = true ∧ isWellFormed (catalogPathLine cfg) = true := by
  have hpath := (isPrintable_iff.1 (h _ (.head _))).1
  have hcatalog := (isPrintable_iff.1 (h _ (.tail _ (.tail _ (.head _))))).1
  have hpathText :=
    (isWellFormed_heading "green" "Config valid:" " " (by decide) path.text).symm.trans hpath
  have hcatalogText := (isWellFormed_heading "green" "Catalog valid:" " " (by decide)
    cfg.catalogPath.text).symm.trans hcatalog
  exact ⟨(isWellFormed_heading "dim" "Config:" "  " (by decide) _).trans hpathText,
    (isWellFormed_heading "dim" "Catalog:" " " (by decide) _).trans hcatalogText⟩

/-- Where `validate` returns, it has found a configuration, has loaded the catalog, and has printed
the paths of both. -/
theorem of_returns_validate {r : ValidateRequest} (h : (validate s r).Returns p u q) :
    ∃ path cfg catalog, ConfigFound s r.config path ∧ s.configAt path = .ok cfg ∧
      s.loadCatalog cfg.catalogPath = .ok catalog ∧
      ∀ line ∈ configLines path cfg, isPrintable s.width line = true := by
  unfold validate at h
  obtain ⟨⟨cfg, path⟩, p₁, hconfig, hrest⟩ := returns_bind_iff.1 h
  obtain ⟨hconfigLine, hrest⟩ := returns_print_bind_iff.1 hrest
  obtain ⟨hdriverLine, hrest⟩ := returns_print_bind_iff.1 hrest
  obtain ⟨catalog, p₂, hcatalog, hrest⟩ := returns_bind_iff.1 hrest
  obtain ⟨hcatalogLine, hrest⟩ := returns_print_bind_iff.1 hrest
  obtain ⟨hfound, hcfg, -⟩ := returns_requiredConfig_iff.1 hconfig
  obtain ⟨hloaded, -⟩ := returns_requiredCatalog_iff.1 hcatalog
  refine ⟨path, cfg, catalog, hfound, hcfg, hloaded, List.forall_mem_cons.2 ⟨hconfigLine, ?_⟩⟩
  exact List.forall_mem_cons.2 ⟨hdriverLine, List.forall_mem_singleton.2 hcatalogLine⟩

theorem isFrank_validate {r : ValidateRequest} : (validate s r).IsFrank :=
  isWriting_validate.isFrank

/-- `resolve` returns exactly if the operand can be a declared type and no surrogate stands in its
Go type, where the configuration and its catalog can be loaded. -/
theorem returns_resolve_iff {path : Path} {cfg : Config} {catalog : Catalog} {operand : String}
    (hfound : ConfigFound s (namedConfig? given) path) (hcfg : s.configAt path = .ok cfg)
    (hloaded : s.loadCatalog cfg.catalogPath = .ok catalog)
    (hnone : valueOf? "--catalog" given = none) :
    (∃ q, (resolve s (.ofGiven given operand)).Returns p () q) ↔
      operand ≠ "" ∧ Text.hasSurrogate operand = false ∧
        Text.hasSurrogate (catalog.goType
          ((ResolveRequest.ofGiven given operand).settings (some cfg))
          (chosenColumn given operand)).text = false := by
  have hgoes : GoesOnWith s (namedConfig? given) (some (cfg, path)) := .found hfound hcfg
  have hchosen : ChosenCatalog s given (some (cfg, path)) catalog := .configured hnone hloaded
  rw [resolve_eq]
  constructor
  · rintro ⟨q, h⟩
    obtain ⟨found, r, hoptional, h⟩ := returns_bind_iff.1 h
    obtain ⟨catalog', r', hrequested, hanswer⟩ := returns_bind_iff.1 h
    obtain rfl := hgoes.unique (returns_optionalConfig_iff.1 hoptional).1
    obtain rfl := hchosen.unique (returns_requestedCatalog_iff.1 hrequested).1
    obtain ⟨column, hcolumn, htext, -⟩ := returns_answer_iff.1 hanswer
    obtain ⟨hnonempty, hplain, rfl⟩ := column_eq_ok_iff.1 hcolumn
    exact ⟨hnonempty, hplain, htext⟩
  · rintro ⟨hnonempty, hplain, htext⟩
    exact ⟨_, returns_bind_iff.2 ⟨_, p, returns_optionalConfig_iff.2 ⟨hgoes, rfl⟩,
      returns_bind_iff.2 ⟨_, p, returns_requestedCatalog_iff.2 ⟨hchosen, rfl⟩,
        returns_answer_iff.2 ⟨_, column_eq_ok_iff.2 ⟨hnonempty, hplain, rfl⟩, htext, rfl⟩⟩⟩⟩

/-! ## Calls -/

variable {arguments operands : List String} {logging : Logging}

/-- A call that is accepted exits with zero exactly if its command returns, if that is frank. -/
theorem invoke_eq_exit_zero_iff {n : Name} (h : IsAccepted s n given operands arguments)
    (hfrank : (perform s n given operands).IsFrank) :
    (invoke s logging arguments).1 = .exit 0 ↔
      ∃ q, (perform s n given operands).Returns (.start logging) () q := by
  unfold invoke
  rw [program_of_isAccepted h]
  constructor
  · intro hzero
    exact ⟨_, (run_eq_exit_zero_iff hfrank).1 (Prod.ext hzero rfl)⟩
  · rintro ⟨q, hq⟩
    rw [run_of_returns hq]

/-- What `columns` shows of what it loads: both paths, and the table of the columns. -/
def columnsTexts (width : Nat) (path : Path) (cfg : Config) (columns : List ResolvedColumn) :
    List String :=
  [rendered width (configPathLine path), rendered width (catalogPathLine cfg),
    columnsTable width columns]

/-- A call of `validate` exits with zero if its configuration and its catalog can be loaded and all
lines of its report are clean. -/
theorem invoke_validate_of_isClean (logging : Logging)
    (haccepted : IsAccepted s .validate given [] arguments)
    (hfound : ConfigFound s (namedConfig? given) path) (hcfg : s.configAt path = .ok cfg)
    (hloaded : s.loadCatalog cfg.catalogPath = .ok catalog)
    (hclean : ∀ line ∈ reportLines path cfg catalog, isClean line = true) :
    (invoke s logging arguments).1 = .exit 0 := by
  rw [invoke_eq_exit_zero_iff haccepted isFrank_validate]
  exact ⟨_, (returns_validate_iff hfound hcfg hloaded).2
    ⟨fun line hline => isPrintable_of_isClean _ (hclean line hline), rfl⟩⟩

/-- A project with a surrogate for the struct of an enum. -/
def brokenRename : Surroundings := renamingProject "\\uD800"

/-- The configuration of the project. -/
def brokenConfig : Config := renamingConfig [0xD800]

theorem loads_brokenRename :
    brokenRename.loadConfig none = .ok brokenConfig ∧
      brokenRename.loadCatalog (.ofText "/c.yml") = .ok moodCatalog :=
  loads_renamingProject ("\\uD800", [0xD800]) (.head _)

/-- The surrogate is shown in the table of the project. -/
theorem hasSurrogate_columnsTable_brokenRename :
    Text.hasSurrogate (columnsTable 80 (moodCatalog.resolveAll
      (columnsSettings none none false brokenConfig)).columns) = true := by
  refine hasSurrogate_tableText_of_row (by decide) ?_ ?_ (by decide +kernel)
  · exact List.forall_mem_map.2 fun text _ => Text.codes_lt
  · exact List.forall_mem_map.2 fun row _ => List.forall_mem_map.2 fun text _ => Text.codes_lt

end ColumnTypes.Command
