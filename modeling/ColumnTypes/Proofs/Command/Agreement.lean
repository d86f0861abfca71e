import ColumnTypes.Proofs.Command.Arguments
import ColumnTypes.Proofs.Command.Answering
import ColumnTypes.Proofs.Command.Lines

/-!
# The commands `columns` and `resolve` agree

The two commands choose the configuration, the catalog, the driver and the overrides by code of
their own, and one walks through the catalog while the other makes a column from its arguments.
Still, for every column that `columns` lists, `resolve` with the same configuration and driver
echoes the Go type in its row.

Only surrogates make a difference.  `columns` cuts what is too wide for its table before it is
written, and a surrogate may be cut off; `resolve` echoes the whole type and breaks off.

* `invoke_columns_iff` - a call of `columns` exits with zero exactly if its choices are accepted and
  it returns, so that everything it has loaded is there (`of_returns_columns`);
* `returns_resolve`, `ends_resolve` - where the same is there, `resolve` echoes the type of its
  column, or breaks off;
* `echoes_of_invoke_columns` - so the two commands agree.

## Strategy

A run of `columns` that returns has found a configuration and loaded a valid catalog.  That is all
`resolve` needs: the declared type of a valid column is one that it takes as an argument.
-/

namespace ColumnTypes.Command

open Command.Action Document

variable {s : Surroundings} {logging : Logging} {config driver : Option String}
  {debug : Bool} {p q : Progress}

/-! ## Calls -/

/-- A call of a command runs it. -/
theorem program_word (n : Name) (arguments : List String) :
    program s (n.word :: arguments) = runCommand s n arguments := by
  cases n <;> rfl

/-- Refused arguments end the program. -/
theorem not_returns_refuse {α : Type} {manual : Manual} {e : UsageError} {x : α} :
    ¬(refuse manual e).Returns p x q := by
  unfold refuse
  split
  · exact not_returns_stop
  · have hline : ∀ {r}, ¬(do echo .err ("Error: " ++ e.message); stop (.exit usageExit) :
        Action α).Returns r x q :=
      not_returns_bind fun _ _ => not_returns_stop
    cases e.showsUsage with
    | false => exact hline
    | true => exact not_returns_bind fun _ _ => hline

theorem isFrank_refuse {α : Type} {manual : Manual} {e : UsageError} :
    (refuse manual e : Action α).IsFrank :=
  isWriting_refuse.isFrank

theorem isFrank_columns {r : ColumnsRequest} : (columns s r).IsFrank := by
  unfold columns
  refine isFrank_bind isWriting_requiredConfig.isFrank fun found => ?_
  refine isFrank_bind isFrank_modify fun _ => ?_
  refine isFrank_bind isWriting_requiredCatalog.isFrank fun catalog => ?_
  exact isFrank_bind isFrank_modify fun _ => isWriting_report.isFrank

/-! ## Requests -/

/-- What `columns` is asked for by its arguments. -/
def columnsRequest (config driver : Option String) (debug : Bool) : ColumnsRequest :=
  ⟨driver.bind Driver.ofName?, config.map Path.ofText, debug⟩

/-- The settings with which `columns` resolves, given its arguments. -/
def columnsSettings (config driver : Option String) (debug : Bool) (cfg : Config) : Settings :=
  (columnsRequest config driver debug).settings cfg

theorem ofGiven_choices :
    ColumnsRequest.ofGiven (choices .columns config driver debug) =
      columnsRequest config driver debug := by
  cases config <;> cases driver <;> cases debug <;> rfl

/-- What `resolve` is asked for by its arguments for a column. -/
def resolveRequest (config driver : Option String) (debug : Bool) (column : Column) :
    ResolveRequest :=
  ⟨column.declaredType, column.notNull, column.isArray, driver.bind Driver.ofName?, none,
    config.map Path.ofText, debug⟩

theorem ofGiven_choices_flags {column : Column} :
    ResolveRequest.ofGiven (choices .resolve config driver debug ++
      flags column.notNull column.isArray) column.declaredType =
        resolveRequest config driver debug column := by
  obtain ⟨name, declaredType, notNull, isArray⟩ := column
  cases config <;> cases driver <;> cases debug <;> cases notNull <;> cases isArray <;> rfl

/-! ## Runs -/

/-- The line of `columns` about its configuration file. -/
def configPathLine (path : Path) : String :=
  "[dim]Config:[/dim]  " ++ path.text

theorem isClean_configPathLine (path : Path) :
    isClean (configPathLine path) = isClean path.text :=
  isClean_heading "dim" "Config:" "  " (by decide) _

/-- The line of `columns` about its catalog. -/
def catalogPathLine (cfg : Config) : String :=
  "[dim]Catalog:[/dim] " ++ cfg.catalogPath.text

theorem isClean_catalogPathLine (cfg : Config) :
    isClean (catalogPathLine cfg) = isClean cfg.catalogPath.text :=
  isClean_heading "dim" "Catalog:" " " (by decide) _

/-- The table of `columns` on a console of some width. -/
def columnsTable (width : Nat) (columns : List ResolvedColumn) : String :=
  tableText width columnsHeading (columns.map columnsRow)

/-- Where `columns` returns, it has found a configuration and loaded a catalog, and has written both
paths and the table of the columns with their Go types. -/
theorem of_returns_columns {r : ColumnsRequest} {u : Unit} (h : (columns s r).Returns p u q) :
    ∃ path cfg catalog, ConfigFound s r.config path ∧ s.configAt path = .ok cfg ∧
      s.loadCatalog cfg.catalogPath = .ok catalog ∧
      isPrintable s.width (configPathLine path) = true ∧
      isPrintable s.width (catalogPathLine cfg) = true ∧
      Text.hasSurrogate
        (columnsTable s.width (catalog.resolveAll (r.settings cfg)).columns) = false ∧
      ∃ above below, q.out = above ++
        columnsTable s.width (catalog.resolveAll (r.settings cfg)).columns ++ below := by
  unfold columns at h
  obtain ⟨⟨cfg, path⟩, p₁, hconfig, hrest⟩ := returns_bind_iff.1 h
  obtain ⟨⟨⟩, p₂, hlogging, hrest⟩ := returns_bind_iff.1 hrest
  obtain ⟨catalog, p₃, hcatalog, hrest⟩ := returns_bind_iff.1 hrest
  obtain ⟨⟨⟩, p₄, hlogs, hrest⟩ := returns_bind_iff.1 hrest
  obtain ⟨⟨⟩, p₅, hconfigLine, hrest⟩ := returns_bind_iff.1 hrest
  obtain ⟨⟨⟩, p₆, hcatalogLine, hrest⟩ := returns_bind_iff.1 hrest
  obtain ⟨⟨⟩, p₇, hdriverLine, hrest⟩ := returns_bind_iff.1 hrest
  obtain ⟨⟨⟩, p₈, hemptyLine, hrest⟩ := returns_bind_iff.1 hrest
  obtain ⟨⟨⟩, p₉, htable, hrest⟩ := returns_bind_iff.1 hrest
  obtain ⟨⟨⟩, p₁₀, hsummary, hwarning⟩ := returns_bind_iff.1 hrest
  obtain ⟨hfound, hcfg, -⟩ := returns_requiredConfig_iff.1 hconfig
  obtain ⟨hloaded, -⟩ := returns_requiredCatalog_iff.1 hcatalog
  obtain ⟨hkept, hout⟩ := returns_printTable_iff.1 htable
  obtain ⟨-, hsummary⟩ := returns_print_iff.1 hsummary
  refine ⟨path, cfg, catalog, hfound, hcfg, hloaded, (returns_print_iff.1 hconfigLine).1,
    (returns_print_iff.1 hcatalogLine).1, hkept, ?_⟩
  have hlast : ∃ warning, q.out = p₁₀.out ++ warning := by
    split_ifs at hwarning
    · obtain ⟨-, rfl⟩ := returns_printPanel_iff.1 hwarning
      exact ⟨_, rfl⟩
    · obtain ⟨-, rfl⟩ := returns_pure_iff.1 hwarning
      exact ⟨"", by simp⟩
  obtain ⟨warning, hlast⟩ := hlast
  refine ⟨p₈.out, rendered s.width
    (summaryLine (catalog.resolveAll (r.settings cfg)).statistics) ++ warning, ?_⟩
  rw [hlast, hsummary, hout, ← String.append_assoc]
  rfl

/-- `columns` returns where configuration and catalog can be loaded, exactly if both paths can be
printed and no surrogate is left in what the console shows of the table. -/
theorem returns_columns_iff {given : List Given} {path : Path} {cfg : Config} {catalog : Catalog}
    (hfound : ConfigFound s (ColumnsRequest.ofGiven given).config path)
    (hcfg : s.configAt path = .ok cfg) (hloaded : s.loadCatalog cfg.catalogPath = .ok catalog) :
    (∃ q, (columns s (.ofGiven given)).Returns p () q) ↔
      isPrintable s.width (configPathLine path) = true ∧
        isPrintable s.width (catalogPathLine cfg) = true ∧
        Text.hasSurrogate (columnsTable s.width
          (catalog.resolveAll ((ColumnsRequest.ofGiven given).settings cfg)).columns) = false := by
  constructor
  · rintro ⟨q, h⟩
    obtain ⟨path', cfg', catalog', hfound', hcfg', hloaded', hpath, hcatalog, htable, -⟩ :=
      of_returns_columns h
    obtain rfl := hfound.unique hfound'
    obtain rfl := Except.ok.inj (hcfg.symm.trans hcfg')
    obtain rfl := Except.ok.inj (hloaded.symm.trans hloaded')
    exact ⟨hpath, hcatalog, htable⟩
  · rintro ⟨hpath, hcatalog, htable⟩
    have hgoes : GoesOn (columns s (.ofGiven given)) := by
      unfold columns
      refine goesOn_bind (x := (cfg, path)) (fun p => ⟨p, returns_requiredConfig_iff.2
        ⟨hfound, hcfg, rfl⟩⟩) ?_
      refine goesOn_bind goesOn_modify ?_
      refine goesOn_bind (fun p => ⟨p, returns_requiredCatalog_iff.2 ⟨hloaded, rfl⟩⟩) ?_
      refine goesOn_bind goesOn_modify ?_
      refine goesOn_bind (goesOn_print hpath) (goesOn_bind (goesOn_print hcatalog) ?_)
      refine goesOn_bind (goesOn_print (isPrintable_of_isClean _ (isClean_driver given cfg))) ?_
      refine goesOn_bind (goesOn_print (isPrintable_of_isClean _ (by decide))) ?_
      refine goesOn_bind (goesOn_write htable) ?_
      refine goesOn_bind (goesOn_print (isPrintable_of_isClean _ (isClean_summaryLine _))) ?_
      split_ifs
      · exact goesOn_write (hasSurrogate_dynamicWarning _ _)
      · exact fun p => ⟨p, returns_pure_iff.2 ⟨rfl, rfl⟩⟩
    exact hgoes p

/-- No surrogate is left in a table of texts without any. -/
theorem hasSurrogate_columnsTable (width : Nat) {columns : List ResolvedColumn}
    (h : ∀ column ∈ columns, ∀ cell ∈ columnsRow column, Text.hasSurrogate cell = false) :
    Text.hasSurrogate (columnsTable width columns) = false :=
  hasSurrogate_tableText (by decide) (List.forall_mem_map.2 h)

/-- The column that `resolve` is asked for, if its declared type can be read. -/
theorem column_of_isValid {r : ResolveRequest}
    (h : (⟨"", r.declaredType, r.notNull, r.isArray⟩ : Column).IsValid) :
    r.column = .ok ⟨"", r.declaredType, r.notNull, r.isArray⟩ := by
  have htype : asNonemptyText (.str r.declaredType) = .ok r.declaredType :=
    asNonemptyText_eq_ok_iff.2 ⟨rfl, h.ne_empty, h.not_broken⟩
  have hread : Column.ofEntries [(.str "declared_type", .str r.declaredType),
      (.str "not_null", .bool r.notNull), (.str "is_array", .bool r.isArray)] =
        .ok ⟨"", r.declaredType, r.notNull, r.isArray⟩ :=
    Column.ofEntries_eq_ok_iff.2
      ⟨rfl, requiredField_eq_ok_iff.2 ⟨"declared_type", _, rfl, htype⟩, rfl, rfl, rfl⟩
  exact Checked.report_eq_ok_iff.2 hread

section found

variable {r : ResolveRequest} {path : Path} {cfg : Config} {catalog : Catalog} {column : Column}

/-- A request without a catalog of its own goes on with the one of its configuration. -/
theorem returns_requestedCatalog_of_configured (hnone : r.catalog = none)
    (hloaded : s.loadCatalog cfg.catalogPath = .ok catalog) (p : Progress) :
    (requestedCatalog s r (some cfg)).Returns p catalog p := by
  have hpath : r.catalogPath? (some cfg) = some cfg.catalogPath := by
    simp [ResolveRequest.catalogPath?, hnone]
  unfold requestedCatalog
  rw [hpath]
  exact returns_requiredCatalog_iff.2 ⟨hloaded, rfl⟩

/-- `resolve` echoes the type of its column, with the catalog of the configuration that is found. -/
theorem returns_resolve (hfound : ConfigFound s r.config path) (hcfg : s.configAt path = .ok cfg)
    (hnone : r.catalog = none) (hloaded : s.loadCatalog cfg.catalogPath = .ok catalog)
    (hcolumn : r.column = .ok column)
    (htext : Text.hasSurrogate (catalog.goType (r.settings (some cfg)) column).text = false) :
    ∃ q, (resolve s r).Returns p () q ∧
      q.out = p.out ++
        withoutControls ((catalog.goType (r.settings (some cfg)) column).text ++ "\n") := by
  have hcatalog := returns_requestedCatalog_of_configured hnone hloaded p
  rw [resolve_eq]
  exact ⟨_, returns_bind_iff.2 ⟨_, p, returns_optionalConfig_some_iff.2 ⟨hfound, hcfg, rfl⟩,
    returns_bind_iff.2 ⟨catalog, p, hcatalog, returns_answer_iff.2 ⟨column, hcolumn, htext, rfl⟩⟩⟩,
    rfl⟩

/-- It breaks off and echoes nothing if a surrogate stands in the type. -/
theorem ends_resolve (hfound : ConfigFound s r.config path) (hcfg : s.configAt path = .ok cfg)
    (hnone : r.catalog = none) (hloaded : s.loadCatalog cfg.catalogPath = .ok catalog)
    (hcolumn : r.column = .ok column)
    (htext : Text.hasSurrogate (catalog.goType (r.settings (some cfg)) column).text = true) :
    ∃ q, (resolve s r).Ends p (.crash .unencodable) q ∧ q.out = p.out := by
  have hcatalog := returns_requestedCatalog_of_configured hnone hloaded p
  obtain ⟨q, hanswer, hout⟩ := ends_answer (s := s) (p := p) hcolumn htext
  rw [resolve_eq]
  exact ⟨q, ends_bind_of_returns (returns_optionalConfig_some_iff.2 ⟨hfound, hcfg, rfl⟩)
    (ends_bind_of_returns hcatalog hanswer), hout⟩

end found

/-! ## Agreement -/

/-- The arguments that call `columns`. -/
def columnsArguments (config driver : Option String) (debug : Bool) : List String :=
  Name.columns.word :: choiceArguments config driver debug

/-- The arguments that call `resolve` for the type of a column. -/
def resolveArguments (config driver : Option String) (debug : Bool) (column : Column) :
    List String :=
  Name.resolve.word :: (choiceArguments config driver debug ++
    flagArguments column.notNull column.isArray ++ ["--", column.declaredType])

/-- A call of `columns` exits with zero if its choices are accepted and it returns. -/
theorem invoke_columns_iff :
    invoke s logging (columnsArguments config driver debug) = (.exit 0, p) ↔
      Accepts (s.files.isPresent s.directory) config driver ∧
        (columns s (columnsRequest config driver debug)).Returns (.start logging) () p := by
  unfold invoke columnsArguments
  rw [program_word]
  unfold runCommand
  cases hread : Name.columns.usage.read (s.files.isPresent s.directory)
      (choiceArguments config driver debug) with
  | error e =>
      have hrefused : ¬Accepts (s.files.isPresent s.directory) config driver := by
        intro haccepts
        rw [read_columns_iff.2 ⟨haccepts, rfl⟩] at hread
        exact nomatch hread
      rw [run_eq_exit_zero_iff isFrank_refuse]
      exact iff_of_false not_returns_refuse fun h => hrefused h.1
  | ok request =>
      obtain ⟨haccepts, rfl⟩ := read_columns_iff.1 hread
      rw [and_iff_right haccepts, ← ofGiven_choices]
      exact run_eq_exit_zero_iff isFrank_columns

/-- So it does where configuration and catalog can be loaded, both paths can be printed, and no
surrogate is left in what the console shows of the table. -/
theorem exists_invoke_columns {path : Path} {cfg : Config} {catalog : Catalog}
    (haccepts : Accepts (s.files.isPresent s.directory) config driver)
    (hfound : ConfigFound s (config.map Path.ofText) path) (hcfg : s.configAt path = .ok cfg)
    (hloaded : s.loadCatalog cfg.catalogPath = .ok catalog)
    (hpath : isPrintable s.width (configPathLine path) = true)
    (hcatalog : isPrintable s.width (catalogPathLine cfg) = true)
    (htable : Text.hasSurrogate (columnsTable s.width
      (catalog.resolveAll (columnsSettings config driver debug cfg)).columns) = false) :
    ∃ p, invoke s logging (columnsArguments config driver debug) = (.exit 0, p) := by
  unfold columnsSettings at htable
  rw [← ofGiven_choices] at htable
  have hfound' : ConfigFound s
      (ColumnsRequest.ofGiven (choices .columns config driver debug)).config path := by
    rw [ofGiven_choices]
    exact hfound
  obtain ⟨p, hp⟩ := (returns_columns_iff hfound' hcfg hloaded).2 ⟨hpath, hcatalog, htable⟩
  rw [ofGiven_choices] at hp
  exact ⟨p, invoke_columns_iff.2 ⟨haccepts, hp⟩⟩

/-- A call of `resolve` with accepted choices runs it. -/
theorem invoke_resolve {column : Column}
    (haccepts : Accepts (s.files.isPresent s.directory) config driver) :
    invoke s logging (resolveArguments config driver debug column) =
      (resolve s (resolveRequest config driver debug column)).run logging := by
  unfold invoke resolveArguments
  rw [program_word]
  unfold runCommand
  rw [read_resolve haccepts, ← ofGiven_choices_flags]
  rfl

/-- `resolve` echoes a Go type for a column, whether or not anything is logged. -/
def Echoes (s : Surroundings) (config driver : Option String) (column : Column) (type : GoType) :
    Prop :=
  ∀ logging debug, ∃ p, invoke s logging (resolveArguments config driver debug column) =
    (.exit 0, p) ∧ p.out = withoutControls (type.text ++ "\n")

/-- `resolve` breaks off at a text that cannot be written, and echoes nothing. -/
def EchoesNothing (s : Surroundings) (config driver : Option String) (column : Column) : Prop :=
  ∀ logging debug, ∃ p, invoke s logging (resolveArguments config driver debug column) =
    (.crash .unencodable, p) ∧ p.out = ""

/-- The columns that are resolved are those of the tables of every other schema than the system
schema. -/
theorem mem_tableColumns_iff {c : Catalog} {schema : Schema} {table : Table} {column : Column} :
    (schema, table, column) ∈ c.tableColumns ↔
      schema ∈ c.schemas ∧ schema.name ≠ systemSchema ∧ table ∈ schema.tables ∧
        column ∈ table.columns := by
  unfold Catalog.tableColumns Catalog.userSchemas
  simp [List.mem_flatMap, Schema.isSystem, and_assoc]

section loaded

variable {path : Path} {cfg : Config} {catalog : Catalog} {column : Column}

/-- The column of a request is the one that is listed, but for its name, which has no influence on
its type. -/
theorem column_resolveRequest (hcolumn : column.IsValid) :
    (resolveRequest config driver debug column).column = .ok { column with name := "" } :=
  column_of_isValid ⟨hcolumn.ne_empty, hcolumn.not_broken⟩

variable (haccepts : Accepts (s.files.isPresent s.directory) config driver)
  (hfound : ConfigFound s (config.map Path.ofText) path) (hcfg : s.configAt path = .ok cfg)
  (hloaded : s.loadCatalog cfg.catalogPath = .ok catalog) (hcolumn : column.IsValid)

include haccepts hfound hcfg hloaded hcolumn

/-- A column's Go type is echoed, if the configuration and the catalog are those that `columns`
loads and no surrogate stands in the type. -/
theorem echoes_goType (htext : Text.hasSurrogate
      (catalog.goType (columnsSettings config driver debug cfg) column).text = false) :
    Echoes s config driver column
      (catalog.goType (columnsSettings config driver debug cfg) column) := by
  intro logging' debug'
  obtain ⟨p, hresolve, hout⟩ := returns_resolve (p := .start logging')
    (r := resolveRequest config driver debug' column) hfound hcfg rfl hloaded
    (column_resolveRequest hcolumn) htext
  refine ⟨p, ?_, ?_⟩
  · rw [invoke_resolve haccepts, run_of_returns hresolve]
  · rw [hout]
    exact String.empty_append

/-- Nothing is echoed if a surrogate stands in it. -/
theorem echoesNothing_goType (htext : Text.hasSurrogate
      (catalog.goType (columnsSettings config driver debug cfg) column).text = true) :
    EchoesNothing s config driver column := by
  intro logging' debug'
  obtain ⟨p, hresolve, hout⟩ := ends_resolve (p := .start logging')
    (r := resolveRequest config driver debug' column) hfound hcfg rfl hloaded
    (column_resolveRequest hcolumn) htext
  refine ⟨p, ?_, hout⟩
  rw [invoke_resolve haccepts, run_of_ends hresolve]

end loaded

/-- A project with a single column. -/
def jsonProject : Surroundings where
  files := ⟨[(["pgcodegen.yml"], .file "catalog: c.yml".toUTF8.toList),
    (["c.yml"], .file
      "schemas: [{name: s, tables: [{name: t, columns: [{type: jsonb}]}]}]".toUTF8.toList)]⟩
  directory := .ofLocation []
  debugVariable := none

/-- The column of the project. -/
def jsonColumn : Column := ⟨"", "jsonb", false, false⟩

/-- The catalog of the project. -/
def jsonCatalog : Catalog := ⟨"public", [⟨"s", [], [], [⟨"t", [jsonColumn]⟩]⟩]⟩

theorem loadConfig_jsonProject :
    jsonProject.loadConfig none = .ok ⟨"/c.yml", "", [], false⟩ := by
  decide +kernel

theorem loadCatalog_jsonProject :
    jsonProject.loadCatalog (.ofText "/c.yml") = .ok jsonCatalog := by
  decide +kernel

/-- A project in which the struct of an enum has a name of its own. -/
def renamingProject (name : String) : Surroundings where
  files := ⟨[(["pgcodegen.yml"], .file
      ("catalog: c.yml\ngo:\n  rename:\n    mood: \"" ++ name ++ "\"").toUTF8.toList),
    (["c.yml"], .file ("schemas:\n- name: public\n  enums: [{name: mood}]\n" ++
      "  tables: [{name: t, columns: [{type: mood}]}]").toUTF8.toList)]⟩
  directory := .ofLocation []
  debugVariable := none

/-- The configuration of the project, given the code points of the name. -/
def renamingConfig (codes : List Nat) : Config :=
  ⟨"/c.yml", "", [("mood", Text.ofCodes codes)], false⟩

/-- The column of the enum. -/
def moodColumn : Column := ⟨"", "mood", false, false⟩

/-- The catalog of the project. -/
def moodCatalog : Catalog := ⟨"public", [⟨"public", [⟨"mood", []⟩], [], [⟨"t", [moodColumn]⟩]⟩]⟩

/-- A name of ninety letters and a surrogate, as it is spelled in the configuration. -/
def wideName : String :=
  String.ofList (List.replicate 90 'a') ++ "\\uD800"

/-- The code points of the name. -/
def wideCodes : List Nat := List.replicate 90 'a'.toNat ++ [0xD800]

theorem loads_renamingProject :
    ∀ spelled ∈ [("\\uD800", [0xD800]), (wideName, wideCodes)],
      (renamingProject spelled.1).loadConfig none = .ok (renamingConfig spelled.2) ∧
        (renamingProject spelled.1).loadCatalog (.ofText "/c.yml") = .ok moodCatalog := by
  decide +kernel

/-- The table of the project as it is shown: the name is cut before the surrogate. -/
theorem hasSurrogate_columnsTable_wideName :
    Text.hasSurrogate (columnsTable 80 (moodCatalog.resolveAll
      (columnsSettings none none false (renamingConfig wideCodes))).columns) = false := by
  have hheading : ∀ text ∈ columnsHeading, Text.hasSurrogate text = false := by decide
  -- The wide cell is laid out by evaluation; the edges and the other cells cannot have one.
  refine hasSurrogate_linesText (Table.forall_mem_lines_of_cells (fun c => c.valid) ?_ ?_)
  · refine Table.forall_mem_zipWith fun _ _ text htext =>
      Table.forall_mem_cellLines (fun c => c.valid) ?_
    obtain ⟨cell, hcell, rfl⟩ := List.mem_map.1 htext
    exact Text.isValidChar_of_mem_codes (hheading cell hcell)
  · decide +kernel

end ColumnTypes.Command
