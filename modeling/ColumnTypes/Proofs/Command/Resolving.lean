import ColumnTypes.Proofs.Command.Accepted
import ColumnTypes.Proofs.Command.Silence

/-!
# What `resolve` prints

A call of `resolve` that does not ask for help prints one Go type, or it prints nothing and exits
with another code than zero. Which type it prints is told apart from the command
(`ResolvesTo`): by the configuration that the call names or finds, the catalog and the driver that
are chosen from call and configuration (`ChosenCatalog`, `ChosenDriver`), and the column of the
operand and the flags.

* `of_returns_resolve`, `exists_returns_resolve` - `resolve` goes on exactly if its column resolves
  to a type in which no surrogate stands, and has echoed that type;
* `resolve_type_or_nothing` - so a call prints that type, or nothing.

## Strategy

Everything before the echo is silent, so a run that ends early has printed nothing. A run that
returns is taken apart step by step; each step tells what has been found, loaded or chosen.
-/

namespace ColumnTypes.Command

open Command.Action Document

variable {s : Surroundings} {given : List Given} {operand : String} {p q : Progress}

/-! ## What is chosen -/

/-- The catalog of a call: the one at the path that is named, or else the configured one, or else
the empty one. -/
inductive ChosenCatalog (s : Surroundings) (given : List Given) :
    Option (Config × Path) → Catalog → Prop
  | named {found : Option (Config × Path)} {value : String} {catalog : Catalog}
      (hvalue : valueOf? "--catalog" given = some value)
      (hload : s.loadCatalog (.ofText value) = .ok catalog) : ChosenCatalog s given found catalog
  | configured {config : Config} {path : Path} {catalog : Catalog}
      (hvalue : valueOf? "--catalog" given = none)
      (hload : s.loadCatalog config.catalogPath = .ok catalog) :
      ChosenCatalog s given (some (config, path)) catalog
  | empty (hvalue : valueOf? "--catalog" given = none) :
      ChosenCatalog s given none ⟨"public", []⟩

/-- The driver of a call: the one that is named, or else the configured one, or else the standard
driver. -/
inductive ChosenDriver (given : List Given) : Option (Config × Path) → Driver → Prop
  | named {found : Option (Config × Path)} {driver : Driver} (hdriver : driver ∈ Driver.choices)
      (hvalue : valueOf? "--driver" given = some driver.name) : ChosenDriver given found driver
  | configured {config : Config} {path : Path} (hvalue : valueOf? "--driver" given = none) :
      ChosenDriver given (some (config, path)) config.driver
  | standard (hvalue : valueOf? "--driver" given = none) : ChosenDriver given none .standard

/-- The overrides of a call: those of its configuration, if there is one. -/
def chosenRename : Option (Config × Path) → Rename
  | some (config, _) => config.rename
  | none => []

/-- The column of a call. -/
def chosenColumn (given : List Given) (operand : String) : Column :=
  { name := ""
    declaredType := operand
    notNull := isGiven "--not-null" given
    isArray := isGiven "--array" given }

/-- The type that a call of `resolve` asks for, if everything that it needs can be loaded. -/
inductive ResolvesTo (s : Surroundings) (given : List Given) (operand : String) : GoType → Prop
  | of {found : Option (Config × Path)} {catalog : Catalog} {driver : Driver}
      (hconfig : GoesOnWith s (namedConfig? given) found)
      (hcatalog : ChosenCatalog s given found catalog) (hdriver : ChosenDriver given found driver)
      (hnonempty : operand ≠ "") (hplain : Text.hasSurrogate operand = false) :
      ResolvesTo s given operand
        (catalog.goType ⟨some driver, chosenRename found, false⟩ (chosenColumn given operand))

/-- A driver that can be chosen is found by its name. -/
theorem ofName?_name {driver : Driver} (h : driver ∈ Driver.choices) :
    Driver.ofName? driver.name = some driver := by
  revert driver
  decide

/-- The settings of a request are those of its call. -/
theorem goType_settings {found : Option (Config × Path)} {driver : Driver}
    (h : ChosenDriver given found driver) (operand : String) (catalog : Catalog)
    (column : Column) :
    catalog.goType ((ResolveRequest.ofGiven given operand).settings (found.map Prod.fst)) column =
      catalog.goType ⟨some driver, chosenRename found, false⟩ column := by
  unfold ResolveRequest.settings ResolveRequest.ofGiven
  cases h with
  | named hdriver hvalue =>
      rw [hvalue, Option.bind_some, ofName?_name hdriver]
      cases found <;> rfl
  | configured hvalue =>
      rw [hvalue]
      rfl
  | standard hvalue =>
      rw [hvalue]
      rfl

/-- An accepted call chooses a driver. -/
theorem exists_chosenDriver {arguments operands : List String} {isPresent : String → Bool}
    (h : Name.resolve.usage.read isPresent arguments = .ok (.run given operands))
    (found : Option (Config × Path)) : ∃ driver, ChosenDriver given found driver := by
  cases hvalue : valueOf? "--driver" given with
  | none =>
      cases found with
      | none => exact ⟨_, .standard hvalue⟩
      | some config => exact ⟨_, .configured hvalue⟩
  | some value =>
      obtain ⟨driver, hdriver, rfl⟩ := exists_driver_of_read h hvalue
      exact ⟨driver, .named hdriver hvalue⟩

/-- The column of a request is the one of its call, if the operand can be a declared type. -/
theorem column_eq_ok_iff {column : Column} :
    (ResolveRequest.ofGiven given operand).column = .ok column ↔
      operand ≠ "" ∧ Text.hasSurrogate operand = false ∧ column = chosenColumn given operand := by
  constructor
  · intro h
    have hoperand : operand ≠ "" ∧ Text.hasSurrogate operand = false := by
      have hread : Column.ofEntries [(.str "declared_type", .str operand),
          (.str "not_null", .bool (isGiven "--not-null" given)),
          (.str "is_array", .bool (isGiven "--array" given))] = .ok column :=
        Checked.report_eq_ok_iff.1 h
      obtain ⟨-, htype, -⟩ := Column.ofEntries_eq_ok_iff.1 hread
      obtain ⟨key, value, hmember, hvalue⟩ := requiredField_eq_ok_iff.1 htype
      obtain rfl : Document.str operand = value := congrArg Prod.snd (Option.some.inj hmember)
      obtain ⟨heq, hnonempty, hplain⟩ := asNonemptyText_eq_ok_iff.1 hvalue
      obtain rfl : operand = column.declaredType := Except.ok.inj heq
      exact ⟨hnonempty, hplain⟩
    have hcolumn := column_of_isValid (r := .ofGiven given operand) ⟨hoperand.1, hoperand.2⟩
    exact ⟨hoperand.1, hoperand.2, Except.ok.inj (h.symm.trans hcolumn)⟩
  · rintro ⟨hnonempty, hplain, rfl⟩
    exact column_of_isValid ⟨hnonempty, hplain⟩

/-! ## Runs -/

/-- A command goes on with the configuration that it names or finds, or without one. -/
theorem returns_optionalConfig_iff {stream : Stream} {named : Option Path} {debug : Bool}
    {found : Option (Config × Path)} :
    (optionalConfig s stream named debug).Returns p found q ↔ GoesOnWith s named found ∧ q = p := by
  constructor
  · intro h
    cases found with
    | some found =>
        obtain ⟨hfound, hconfig, rfl⟩ := returns_optionalConfig_some_iff.1 h
        exact ⟨.found hfound hconfig, rfl⟩
    | none =>
        obtain ⟨path, r, hpath, hrest⟩ := returns_bind_iff.1 h
        cases path with
        | some path =>
            obtain ⟨config, r', -, hnone⟩ := returns_bind_iff.1 hrest
            exact nomatch (returns_pure_iff.1 hnone).1
        | none =>
            obtain ⟨-, rfl⟩ := returns_pure_iff.1 hrest
            unfold configPath at hpath
            cases named with
            | some path => exact nomatch (returns_pure_iff.1 hpath).1
            | none =>
                cases hnearest : s.nearestConfig with
                | error e =>
                    rw [hnearest] at hpath
                    exact absurd hpath not_returns_stop
                | ok found =>
                    rw [hnearest] at hpath
                    obtain ⟨hnone, rfl⟩ := returns_pure_iff.1 hpath
                    obtain rfl := Option.map_eq_none_iff.1 hnone.symm
                    exact ⟨.nothing rfl hnearest, rfl⟩
  · rintro ⟨hfound, rfl⟩
    exact returns_optionalConfig hfound

/-- `resolve` prints all of its type or nothing. -/
theorem endsSilently_resolve {r : ResolveRequest} : (resolve s r).EndsSilently := by
  rw [resolve_eq]
  refine endsSilently_bind isWriting_optionalConfig.isSilent fun found => ?_
  refine endsSilently_bind isWriting_requestedCatalog.isSilent fun catalog => ?_
  refine endsSilently_bind (isSilent_modify fun _ => rfl) fun _ => ?_
  split
  · exact (IsWriting.bind isWriting_print fun _ => isWriting_fail).isSilent.endsSilently
  · exact endsSilently_bind (isSilent_modify fun _ => rfl) fun _ => endsSilently_echo

/-- The catalog of a request is the one that its call chooses. -/
theorem returns_requestedCatalog_iff {found : Option (Config × Path)} {catalog : Catalog} :
    (requestedCatalog s (.ofGiven given operand) (found.map Prod.fst)).Returns p catalog q ↔
      ChosenCatalog s given found catalog ∧ q = p := by
  unfold requestedCatalog ResolveRequest.catalogPath? ResolveRequest.ofGiven
  dsimp only
  cases hvalue : valueOf? "--catalog" given with
  | some value =>
      simp only [Option.map_some, Option.some_or, returns_requiredCatalog_iff]
      refine and_congr_left' ⟨.named hvalue, fun h => ?_⟩
      cases h with
      | named hvalue' hload =>
          obtain rfl := Option.some.inj (hvalue.symm.trans hvalue')
          exact hload
      | configured hnone => exact nomatch hvalue.symm.trans hnone
      | empty hnone => exact nomatch hvalue.symm.trans hnone
  | none =>
      cases found with
      | none =>
          simp only [Option.map_none, Option.or_none, returns_pure_iff]
          refine and_congr_left' ⟨?_, fun h => ?_⟩
          · rintro rfl
            exact .empty hvalue
          · cases h with
            | named hsome => exact nomatch hvalue.symm.trans hsome
            | empty => rfl
      | some config =>
          simp only [Option.map_none, Option.map_some, Option.none_or, returns_requiredCatalog_iff]
          refine and_congr_left' ⟨.configured hvalue, fun h => ?_⟩
          cases h with
          | named hsome => exact nomatch hvalue.symm.trans hsome
          | configured hnone hload => exact hload

/-- Where `resolve` goes on, it has echoed the type that its column resolves to. -/
theorem of_returns_resolve {u : Unit}
    (hdriver : ∀ found, ∃ driver, ChosenDriver given found driver)
    (h : (resolve s (.ofGiven given operand)).Returns p u q) :
    ∃ type, ResolvesTo s given operand type ∧ Text.hasSurrogate type.text = false ∧
      q.out = p.out ++ withoutControls (type.text ++ "\n") := by
  rw [resolve_eq] at h
  obtain ⟨found, r, hfound, h⟩ := returns_bind_iff.1 h
  obtain ⟨catalog, r', hcatalog, hanswer⟩ := returns_bind_iff.1 h
  obtain ⟨hgoes, rfl⟩ := returns_optionalConfig_iff.1 hfound
  obtain ⟨hchosen, rfl⟩ := returns_requestedCatalog_iff.1 hcatalog
  obtain ⟨column, hcolumn, htext, rfl⟩ := returns_answer_iff.1 hanswer
  obtain ⟨hnonempty, hplain, rfl⟩ := column_eq_ok_iff.1 hcolumn
  obtain ⟨driver, hdriver⟩ := hdriver found
  rw [goType_settings hdriver operand] at htext ⊢
  exact ⟨_, .of hgoes hchosen hdriver hnonempty hplain, htext, rfl⟩

/-- `resolve` goes on with the type that its column resolves to, if no surrogate stands in it. -/
theorem exists_returns_resolve {type : GoType} (h : ResolvesTo s given operand type)
    (htext : Text.hasSurrogate type.text = false) :
    ∃ q, (resolve s (.ofGiven given operand)).Returns p () q ∧
      q.out = p.out ++ withoutControls (type.text ++ "\n") := by
  obtain ⟨hgoes, hchosen, hdriver, hnonempty, hplain⟩ := h
  rw [← goType_settings hdriver operand] at htext ⊢
  rw [resolve_eq]
  exact ⟨_, returns_bind_iff.2 ⟨_, p, returns_optionalConfig_iff.2 ⟨hgoes, rfl⟩,
    returns_bind_iff.2 ⟨_, p, returns_requestedCatalog_iff.2 ⟨hchosen, rfl⟩,
      returns_answer_iff.2 ⟨_, column_eq_ok_iff.2 ⟨hnonempty, hplain, rfl⟩, htext, rfl⟩⟩⟩, rfl⟩

/-! ## Calls -/

/-- A command goes on with one configuration. -/
theorem GoesOnWith.unique {named : Option Path} {found found' : Option (Config × Path)}
    (h : GoesOnWith s named found) (h' : GoesOnWith s named found') : found = found' := by
  have hreturns : (optionalConfig s .err named false).Returns (.start .unconfigured) found _ :=
    returns_optionalConfig h
  exact hreturns.unique (returns_optionalConfig h')

/-- A call chooses one catalog. -/
theorem ChosenCatalog.unique {found : Option (Config × Path)} {catalog catalog' : Catalog}
    (h : ChosenCatalog s given found catalog) (h' : ChosenCatalog s given found catalog') :
    catalog = catalog' := by
  have hrequest {catalog : Catalog} (h : ChosenCatalog s given found catalog) :
      (requestedCatalog s (.ofGiven given "") (found.map Prod.fst)).Returns (.start .unconfigured)
        catalog (.start .unconfigured) :=
    returns_requestedCatalog_iff.2 ⟨h, rfl⟩
  exact (hrequest h).unique (hrequest h')

/-- A call resolves to one type. -/
theorem ResolvesTo.unique {type type' : GoType} (h : ResolvesTo s given operand type)
    (h' : ResolvesTo s given operand type') : type = type' := by
  obtain ⟨hgoes, hchosen, hdriver, -, -⟩ := h
  obtain ⟨hgoes', hchosen', hdriver', -, -⟩ := h'
  obtain rfl := hgoes.unique hgoes'
  obtain rfl := hchosen.unique hchosen'
  rw [← goType_settings hdriver operand, ← goType_settings hdriver' operand]

/-- A configuration that is named or found and cannot be loaded keeps `resolve` from returning. -/
theorem not_returns_resolve {path : Path} {e : LoadError} {u : Unit}
    (hfound : ConfigFound s (namedConfig? given) path) (hload : s.configAt path = .error e) :
    ¬(resolve s (.ofGiven given operand)).Returns p u q := by
  intro h
  rw [resolve_eq] at h
  obtain ⟨found, r, hoptional, -⟩ := returns_bind_iff.1 h
  obtain ⟨path', r', hpath, hrest⟩ := returns_bind_iff.1 hoptional
  obtain rfl := (returns_configPath_some_iff.2 ⟨hfound, rfl⟩).unique hpath
  obtain ⟨config, r'', hconfig, -⟩ := returns_bind_iff.1 hrest
  exact nomatch hload.symm.trans (returns_loaded_iff.1 hconfig).1

/-! ## Calls -/

/-- Arguments with which a command is asked for help. -/
def AsksForHelp (s : Surroundings) (n : Name) (rest : List String) : Prop :=
  ∃ o, n.usage.read (s.files.isPresent s.directory) rest = .ok (.question o)

variable {n : Name} {arguments rest : List String}

/-- Without `--help` no command is asked for help. -/
theorem not_asksForHelp (h : "--help" ∉ rest) : ¬AsksForHelp s n rest :=
  fun ⟨_, hread⟩ => h (mem_of_read_eq_question hread)

/-- A run that is frank and ends silently exits with zero because it returns, or prints nothing. -/
theorem returns_or_silent {a : Action Unit} (hfrank : a.IsFrank) (hsilent : a.EndsSilently)
    (logging : Logging) :
    (∃ q, a.Returns (.start logging) () q) ∨
      (a.run logging).1 ≠ .exit 0 ∧ (a.run logging).2.out = "" := by
  have hzero := hfrank (.start logging)
  rcases h : (ExceptT.run a).run (.start logging) with ⟨ending | u, q⟩
  · have hends : a.Ends (.start logging) ending q := h
    rw [run_of_ends hends]
    rw [h] at hzero
    exact .inr ⟨fun heq => hzero (congrArg Except.error heq), hsilent _ _ _ hends⟩
  · exact .inl ⟨q, h⟩

/-- `resolve` exits with zero and has printed the type of its column, or it has printed nothing. -/
theorem run_resolve_or (hdriver : ∀ found, ∃ driver, ChosenDriver given found driver)
    (operand : String) (logging : Logging) :
    (∃ type, ResolvesTo s given operand type ∧
      ((resolve s (.ofGiven given operand)).run logging).1 = .exit 0 ∧
      ((resolve s (.ofGiven given operand)).run logging).2.out =
        withoutControls (type.text ++ "\n")) ∨
      ((resolve s (.ofGiven given operand)).run logging).1 ≠ .exit 0 ∧
      ((resolve s (.ofGiven given operand)).run logging).2.out = "" := by
  refine (returns_or_silent isFrank_resolve endsSilently_resolve logging).imp_left ?_
  rintro ⟨q, hreturns⟩
  obtain ⟨type, htype, -, hout⟩ := of_returns_resolve hdriver hreturns
  rw [run_of_returns hreturns]
  exact ⟨type, htype, rfl, hout.trans String.empty_append⟩

/-- `resolve` exits with zero if its column has a type in which no surrogate stands. -/
theorem run_resolve_of_resolvesTo {type : GoType} (h : ResolvesTo s given operand type)
    (htext : Text.hasSurrogate type.text = false) (logging : Logging) :
    ((resolve s (.ofGiven given operand)).run logging).1 = .exit 0 := by
  obtain ⟨q, hreturns, -⟩ := exists_returns_resolve (p := .start logging) h htext
  rw [run_of_returns hreturns]

/-- `resolve` does not exit with zero if its configuration cannot be loaded. -/
theorem run_resolve_of_error {path : Path} {e : LoadError}
    (hfound : ConfigFound s (namedConfig? given) path) (hload : s.configAt path = .error e)
    (logging : Logging) : ((resolve s (.ofGiven given operand)).run logging).1 ≠ .exit 0 := by
  intro hzero
  have hreturns := (run_eq_exit_zero_iff isFrank_resolve).1 (Prod.ext hzero rfl)
  exact not_returns_resolve hfound hload hreturns

/-- **A type or nothing.** A call of `resolve` that does not ask for help exits with zero and prints
the Go type that its operand and options resolve to, or it exits otherwise and prints nothing. It
does exit with zero if there is such a type and no surrogate stands in it, and never if a
configuration that is named or found cannot be loaded. -/
theorem resolve_type_or_nothing (hcall : Calls .resolve arguments rest)
    (hhelp : ¬AsksForHelp s .resolve rest) (logging : Logging) :
    ((∃ given operand type,
        Name.resolve.usage.read (s.files.isPresent s.directory) rest =
          .ok (.run given [operand]) ∧
        ResolvesTo s given operand type ∧ (invoke s logging arguments).1 = .exit 0 ∧
        (invoke s logging arguments).2.out = withoutControls (type.text ++ "\n")) ∨
      (invoke s logging arguments).1 ≠ .exit 0 ∧ (invoke s logging arguments).2.out = "") ∧
    ∀ given operand,
      Name.resolve.usage.read (s.files.isPresent s.directory) rest = .ok (.run given [operand]) →
      (∀ type, ResolvesTo s given operand type → Text.hasSurrogate type.text = false →
        (invoke s logging arguments).1 = .exit 0) ∧
      ∀ path e, ConfigFound s (namedConfig? given) path → s.configAt path = .error e →
        (invoke s logging arguments).1 ≠ .exit 0 := by
  unfold invoke
  rw [program_of_calls hcall]
  unfold runCommand
  cases hread : Name.resolve.usage.read (s.files.isPresent s.directory) rest with
  | error e =>
      have hreturns : ¬∃ q, (refuse Name.resolve.manual e : Action Unit).Returns
          (.start logging) () q :=
        fun ⟨_, h⟩ => not_returns_refuse h
      have hrefused := returns_or_silent (a := refuse Name.resolve.manual e) isFrank_refuse
        isSilent_refuse.endsSilently logging
      exact ⟨.inr (hrefused.resolve_left hreturns), fun _ _ h => nomatch h⟩
  | ok request =>
      cases request with
      | question o => exact absurd ⟨o, hread⟩ hhelp
      | run given operands =>
          obtain ⟨operand, rfl⟩ := List.length_eq_one_iff.1 (Usage.of_read_eq_run hread).2
          have hor := run_resolve_or (s := s) (exists_chosenDriver hread) operand logging
          refine ⟨hor.imp_left fun ⟨type, htype, hexit, hout⟩ =>
            ⟨given, operand, type, rfl, htype, hexit, hout⟩, ?_⟩
          rintro given' operand' heq
          obtain ⟨rfl, hoperands⟩ := Request.run.inj (Except.ok.inj heq)
          obtain rfl := (List.cons.inj hoperands).1
          exact ⟨fun type htype htext => run_resolve_of_resolvesTo htype htext logging,
            fun path e hfound hload => run_resolve_of_error hfound hload logging⟩

/-- The type of the column of a project, under a driver that is named. -/
theorem resolvesTo_jsonProject :
    ResolvesTo jsonProject [(Name.resolve.spec "--driver", "pgx/v4")] "jsonb" .pgJsonb := by
  have hnearest : jsonProject.nearestConfig = .ok (some ["pgcodegen.yml"]) := rfl
  have hconfig : jsonProject.configAt (.ofLocation ["pgcodegen.yml"]) =
      .ok ⟨"/c.yml", "", [], false⟩ := by
    decide +kernel
  have hgoes : GoesOnWith jsonProject none
      (some (⟨"/c.yml", "", [], false⟩, .ofLocation ["pgcodegen.yml"])) :=
    .found (.inr ⟨rfl, _, hnearest, rfl⟩) hconfig
  have hdriver : Driver.pgxV4 ∈ Driver.choices := by decide
  exact .of hgoes (.configured rfl loadCatalog_jsonProject) (.named hdriver rfl) (by decide)
    (by decide)

/-- It is what a call prints. -/
theorem resolve_jsonProject :
    (invoke jsonProject .unconfigured ["resolve", "--driver", "pgx/v4", "jsonb"]).1 = .exit 0 ∧
      (invoke jsonProject .unconfigured ["resolve", "--driver", "pgx/v4", "jsonb"]).2.out =
        withoutControls (GoType.pgJsonb.text ++ "\n") := by
  have hcall : Calls .resolve ["resolve", "--driver", "pgx/v4", "jsonb"]
      ["--driver", "pgx/v4", "jsonb"] := ⟨[], rfl⟩
  obtain ⟨hor, hrun⟩ := resolve_type_or_nothing (s := jsonProject) hcall
    (not_asksForHelp (by decide)) .unconfigured
  have hread : Name.resolve.usage.read (jsonProject.files.isPresent jsonProject.directory)
      ["--driver", "pgx/v4", "jsonb"] =
        .ok (.run [(Name.resolve.spec "--driver", "pgx/v4")] ["jsonb"]) := rfl
  have hzero := (hrun _ _ hread).1 _ resolvesTo_jsonProject (by decide)
  refine ⟨hzero, ?_⟩
  rcases hor with ⟨given, operand, type, hread', htype, -, hout⟩ | ⟨hne, -⟩
  · obtain ⟨rfl, hoperand⟩ := Request.run.inj (Except.ok.inj (hread.symm.trans hread'))
    obtain rfl := (List.cons.inj hoperand).1
    obtain rfl := htype.unique resolvesTo_jsonProject
    exact hout
  · exact absurd hzero hne

end ColumnTypes.Command
