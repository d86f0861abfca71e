import ColumnTypes.Command.Session
import ColumnTypes.Proofs.Command.Effects
import ColumnTypes.Proofs.Command.Resolving

/-!
# What a command leaves for the logger

`columns` configures the logger once it has its configuration, `resolve` once it has its catalog,
too, and `validate` never (`Name.flag?`).  Everything else that a command does before is writing, so
a command that fails there leaves the logger alone.

Main statement (`exists_leaves_perform`): a command configures the logger so, logs warnings only,
and on a stuck console does the same for the logger before it breaks off.
-/

namespace ColumnTypes.Command

open Command.Action

variable {α : Type} {s : Surroundings} {named : Option Path} {given : List Given}

/-! ## When the logger is configured -/

/-- The configuration that is named or found, with its path, or nothing if none is found. -/
def foundConfig (s : Surroundings) (named : Option Path) :
    Except LoadError (Option (Config × Path)) :=
  match named with
  | some path => (s.configAt path).map fun config => some (config, path)
  | none =>
    match s.nearestConfig with
    | .error e => .error e
    | .ok none => .ok none
    | .ok (some l) => (s.configAt (.ofLocation l)).map fun config => some (config, .ofLocation l)

/-- The flag with which a command configures the logger, if it comes to that. -/
def Name.flag? (n : Name) (s : Surroundings) (given : List Given) : Option Bool :=
  match n, foundConfig s (namedConfig? given) with
  | .columns, .ok (some (config, _)) => some (isGiven "--debug" given || config.debug)
  | .resolve, .ok found =>
    if (n.catalogPath? given (found.map Prod.fst)).all fun path => (s.loadCatalog path).isOk then
      some (isGiven "--debug" given || found.any (·.1.debug))
    else none
  | _, _ => none

/-- A command goes on with what is found. -/
theorem goesOnWith_iff {found : Option (Config × Path)} :
    GoesOnWith s named found ↔ foundConfig s named = .ok found := by
  have hmap {path : Path} {found : Option (Config × Path)} :
      ((s.configAt path).map fun config => some (config, path)) = .ok found ↔
        ∃ config, s.configAt path = .ok config ∧ some (config, path) = found := by
    cases s.configAt path <;> simp [Except.map]
  unfold foundConfig
  constructor
  · rintro (⟨rfl | ⟨rfl, l, hnearest, rfl⟩, hconfig⟩ | ⟨rfl, hnone⟩)
    · exact hmap.2 ⟨_, hconfig, rfl⟩
    · rw [hnearest]
      exact hmap.2 ⟨_, hconfig, rfl⟩
    · rw [hnone]
  · cases named with
    | some path =>
        intro h
        obtain ⟨config, hconfig, rfl⟩ := hmap.1 h
        exact .found (.inl rfl) hconfig
    | none =>
        cases hnearest : s.nearestConfig with
        | error e => exact fun h => nomatch h
        | ok place =>
            cases place with
            | none =>
                rintro ⟨⟩
                exact .nothing rfl hnearest
            | some l =>
                intro h
                obtain ⟨config, hconfig, rfl⟩ := hmap.1 h
                exact .found (.inr ⟨rfl, l, hnearest, rfl⟩) hconfig

/-! ## Stuck consoles -/

/-- On a stuck console a command goes on with the configuration that is found. -/
theorem requiredConfigStuck_of_found {config : Config} {path : Path}
    (h : foundConfig s named = .ok (some (config, path))) :
    requiredConfigStuck s named = pure config := by
  cases goesOnWith_iff.2 h with
  | found hfound hconfig =>
      unfold requiredConfigStuck configPath
      rcases hfound with rfl | ⟨rfl, l, hnearest, rfl⟩
      · show loadedStuck (s.configAt path) = _
        rw [hconfig]
        rfl
      · dsimp only
        rw [hnearest]
        show loadedStuck (s.configAt (.ofLocation l)) = _
        rw [hconfig]
        rfl

/-- What cannot be loaded breaks a command off. -/
theorem exists_loadedStuck_error (e : LoadError) :
    ∃ cause, (loadedStuck (.error e) : Action α) = crash cause := by
  unfold loadedStuck
  dsimp only
  split
  · exact ⟨_, rfl⟩
  · exact ⟨_, rfl⟩

/-- So does a configuration that is not found. -/
theorem exists_requiredConfigStuck (h : ∀ found, foundConfig s named ≠ .ok (some found)) :
    ∃ cause, requiredConfigStuck s named = crash cause := by
  have hat : ∀ path, ConfigFound s named path →
      ∃ cause, loadedStuck (s.configAt path) = crash cause := by
    intro path hfound
    cases hconfig : s.configAt path with
    | ok config => exact absurd (goesOnWith_iff.1 (.found hfound hconfig)) (h _)
    | error e => exact exists_loadedStuck_error e
  unfold requiredConfigStuck configPath
  cases named with
  | some path => exact hat path (.inl rfl)
  | none =>
      dsimp only
      cases hnearest : s.nearestConfig with
      | error e => exact ⟨_, rfl⟩
      | ok place =>
          cases place with
          | none => exact ⟨_, rfl⟩
          | some l => exact hat _ (.inr ⟨rfl, l, hnearest, rfl⟩)

/-! ## Commands -/

/-- Records of which every one is a warning. -/
def AllWarnings (logs : List LogRecord) : Prop :=
  ∀ r ∈ logs, r.level = .warning

theorem allWarnings_nil : AllWarnings [] :=
  fun _ h => nomatch h

/-- A resolution logs warnings. -/
theorem allWarnings_logs (c : Catalog) (settings : Settings) (column : Column) :
    AllWarnings (c.logs settings column) := by
  intro r hr
  unfold Catalog.logs at hr
  split at hr
  · obtain rfl := List.mem_singleton.1 hr
    rfl
  · exact nomatch hr

/-- `columns` configures the logger if its configuration is found. -/
theorem Name.flag?_columns_of_found {config : Config} {path : Path}
    (h : foundConfig s (namedConfig? given) = .ok (some (config, path))) :
    Name.columns.flag? s given = some (isGiven "--debug" given || config.debug) := by
  unfold Name.flag?
  rw [h]

theorem Name.flag?_columns_of_not_found
    (h : ∀ found, foundConfig s (namedConfig? given) ≠ .ok (some found)) :
    Name.columns.flag? s given = none := by
  unfold Name.flag?
  split
  · exact absurd ‹_› (h _)
  · exact nomatch ‹Name.columns = Name.resolve›
  · rfl

/-- What `columns` leaves once its configuration is found. -/
theorem exists_leaves_columns_of_found {config : Config} {path : Path}
    (hfound : foundConfig s (namedConfig? given) = .ok (some (config, path))) :
    ∃ logs, AllWarnings logs ∧
      (columns s (.ofGiven given)).Leaves (Name.columns.flag? s given) logs ∧
      (columnsStuck s (.ofGiven given)).BreaksOff (Name.columns.flag? s given) logs := by
  have hconfig : ∃ p q, (requiredConfig s .out (namedConfig? given)
      (isGiven "--debug" given)).Returns p (config, path) q :=
    ⟨.start .unconfigured, _, returns_requiredConfig (goesOnWith_iff.2 hfound)⟩
  have hstuck : columnsStuck s (.ofGiven given) =
      (requiredConfigStuck s (namedConfig? given) >>= _) := rfl
  rw [requiredConfigStuck_of_found hfound, pure_bind] at hstuck
  rw [Name.flag?_columns_of_found hfound, hstuck]
  cases hload : s.loadCatalog config.catalogPath with
  | ok catalog =>
      have hcatalog : ∃ p q, (requiredCatalog s .out config.catalogPath
          ((ColumnsRequest.ofGiven given).settings config).debug).Returns p catalog q :=
        ⟨.start .unconfigured, _, returns_requiredCatalog_iff.2 ⟨hload, rfl⟩⟩
      refine ⟨(catalog.resolveAll ((ColumnsRequest.ofGiven given).settings config)).logs,
        ?_, ?_, ?_⟩
      · intro r hr
        obtain ⟨column, -, hr⟩ := List.mem_flatMap.1 hr
        exact allWarnings_logs _ _ _ r hr
      · refine isWriting_requiredConfig.onlyWrites.leaves_bind hconfig ?_
        refine leaves_configureLogging_bind ?_
        refine isWriting_requiredCatalog.onlyWrites.leaves_bind hcatalog ?_
        exact leaves_log_bind isWriting_report.onlyWrites
      · refine BreaksOff.configureLogging_bind ?_
        show (pure catalog >>= _ : Action Unit).BreaksOff none _
        rw [pure_bind]
        exact BreaksOff.log_bind breaksOff_crash
  | error e =>
      refine ⟨[], allWarnings_nil, ?_, ?_⟩
      · refine isWriting_requiredConfig.onlyWrites.leaves_bind hconfig ?_
        refine leaves_configureLogging_bind ?_
        refine isWriting_requiredCatalog.onlyWrites.bind_of_not_returns fun p catalog q h => ?_
        exact nomatch hload.symm.trans (returns_requiredCatalog_iff.1 h).1
      · obtain ⟨cause, hcause⟩ := exists_loadedStuck_error (α := Catalog) e
        refine BreaksOff.configureLogging_bind ?_
        rw [hcause, crash_bind]
        exact breaksOff_crash

/-- What `columns` leaves. -/
theorem exists_leaves_columns (s : Surroundings) (given : List Given) :
    ∃ logs, AllWarnings logs ∧
      (columns s (.ofGiven given)).Leaves (Name.columns.flag? s given) logs ∧
      (columnsStuck s (.ofGiven given)).BreaksOff (Name.columns.flag? s given) logs := by
  by_cases hfound : ∃ found, foundConfig s (namedConfig? given) = .ok (some found)
  · obtain ⟨⟨config, path⟩, hfound⟩ := hfound
    exact exists_leaves_columns_of_found hfound
  · have hnot := not_exists.1 hfound
    rw [Name.flag?_columns_of_not_found hnot]
    refine ⟨[], allWarnings_nil, ?_, ?_⟩
    · refine isWriting_requiredConfig.onlyWrites.bind_of_not_returns fun p found q h => ?_
      obtain ⟨hpath, hconfig, -⟩ := returns_requiredConfig_iff.1 h
      exact hnot _ (goesOnWith_iff.1 (.found hpath hconfig))
    · obtain ⟨cause, hcause⟩ := exists_requiredConfigStuck hnot
      have hstuck : columnsStuck s (.ofGiven given) =
          (requiredConfigStuck s (namedConfig? given) >>= _) := rfl
      rw [hstuck, hcause, crash_bind]
      exact breaksOff_crash

/-- On a stuck console `validate` leaves the logger alone, too. -/
theorem breaksOff_validateStuck (r : ValidateRequest) : (validateStuck s r).BreaksOff none [] := by
  unfold validateStuck
  by_cases hfound : ∃ found, foundConfig s r.config = .ok (some found)
  · obtain ⟨⟨config, path⟩, hfound⟩ := hfound
    rw [requiredConfigStuck_of_found hfound]
    exact breaksOff_crash
  · obtain ⟨cause, hcause⟩ := exists_requiredConfigStuck (not_exists.1 hfound)
    rw [hcause]
    exact breaksOff_crash

/-- Once it has its catalog, `resolve` configures the logger. -/
theorem exists_leaves_answer (s : Surroundings) (r : ResolveRequest) (config : Option Config)
    (catalog : Catalog) :
    ∃ logs, AllWarnings logs ∧
      (answer s r config catalog).Leaves (some (r.settings config).debug) logs := by
  unfold answer
  cases r.column with
  | error report =>
      refine ⟨[], allWarnings_nil, leaves_configureLogging_bind ?_⟩
      exact (IsWriting.bind isWriting_print fun _ => isWriting_fail).onlyWrites
  | ok column =>
      refine ⟨catalog.logs (r.settings config) column, allWarnings_logs _ _ _, ?_⟩
      exact leaves_configureLogging_bind (leaves_log_bind isWriting_echo.onlyWrites)

/-- The catalog of a request can be loaded, or the request stops. -/
theorem requestedCatalog_returns_or (s : Surroundings) (given : List Given) (operand : String)
    (config : Option Config) :
    ((Name.resolve.catalogPath? given config).all fun path => (s.loadCatalog path).isOk) = true ∧
      (∃ catalog, ∀ p, (requestedCatalog s (.ofGiven given operand) config).Returns p catalog p) ∨
    ((Name.resolve.catalogPath? given config).all fun path => (s.loadCatalog path).isOk) = false ∧
      ∀ p catalog q, ¬(requestedCatalog s (.ofGiven given operand) config).Returns p catalog q := by
  unfold requestedCatalog
  rw [show (ResolveRequest.ofGiven given operand).catalogPath? config =
    Name.resolve.catalogPath? given config from rfl]
  cases Name.resolve.catalogPath? given config with
  | none => exact .inl ⟨rfl, Catalog.empty, fun p => returns_pure_iff.2 ⟨rfl, rfl⟩⟩
  | some path =>
      rw [Option.all_some]
      cases hload : s.loadCatalog path with
      | ok catalog =>
          exact .inl ⟨rfl, catalog, fun p => returns_requiredCatalog_iff.2 ⟨hload, rfl⟩⟩
      | error e =>
          refine .inr ⟨rfl, fun p catalog q h => ?_⟩
          exact nomatch hload.symm.trans (returns_requiredCatalog_iff.1 h).1

/-- What `resolve` leaves. -/
theorem exists_leaves_resolve (s : Surroundings) (given : List Given) (operand : String) :
    ∃ logs, AllWarnings logs ∧
      (resolve s (.ofGiven given operand)).Leaves (Name.resolve.flag? s given) logs := by
  rw [resolve_eq]
  unfold Name.flag?
  cases hfound : foundConfig s (namedConfig? given) with
  | error e =>
      refine ⟨[], allWarnings_nil, ?_⟩
      refine isWriting_optionalConfig.onlyWrites.bind_of_not_returns fun p found q h => ?_
      obtain ⟨hgoes, -⟩ := returns_optionalConfig_iff.1 h
      exact nomatch hfound.symm.trans (goesOnWith_iff.1 hgoes)
  | ok found =>
      have hconfig : ∃ p q, (optionalConfig s .err (namedConfig? given)
          (isGiven "--debug" given)).Returns p found q :=
        ⟨.start .unconfigured, _, returns_optionalConfig (goesOnWith_iff.2 hfound)⟩
      dsimp only
      rcases requestedCatalog_returns_or s given operand (found.map Prod.fst) with
        ⟨hall, catalog, hcatalog⟩ | ⟨hall, hnot⟩
      · obtain ⟨logs, hlogs, hleaves⟩ := exists_leaves_answer s (.ofGiven given operand)
          (found.map Prod.fst) catalog
        have hflag : ((ResolveRequest.ofGiven given operand).settings (found.map Prod.fst)).debug =
            (isGiven "--debug" given || found.any (·.1.debug)) := by
          cases found <;> rfl
        rw [hflag] at hleaves
        rw [if_pos hall]
        refine ⟨logs, hlogs, isWriting_optionalConfig.onlyWrites.leaves_bind hconfig ?_⟩
        exact isWriting_requestedCatalog.onlyWrites.leaves_bind
          ⟨.start .unconfigured, _, hcatalog _⟩ hleaves
      · rw [hall, if_neg (by decide)]
        refine ⟨[], allWarnings_nil, isWriting_optionalConfig.onlyWrites.leaves_bind hconfig ?_⟩
        exact isWriting_requestedCatalog.onlyWrites.bind_of_not_returns hnot

/-- **What a command leaves for the logger.** It configures the logger with its flag, if it has one,
and logs warnings only.  On a stuck console it does the same and breaks off. -/
theorem exists_leaves_perform (s : Surroundings) (n : Name) (given : List Given)
    (operands : List String) :
    ∃ logs, AllWarnings logs ∧ (perform s n given operands).Leaves (n.flag? s given) logs ∧
      (n ≠ .resolve → (performOn true s n given operands).BreaksOff (n.flag? s given) logs) := by
  cases n with
  | columns =>
      obtain ⟨logs, hlogs, hleaves, hstuck⟩ := exists_leaves_columns s given
      exact ⟨logs, hlogs, hleaves, fun _ => hstuck⟩
  | resolve =>
      obtain ⟨logs, hlogs, hleaves⟩ := exists_leaves_resolve s given (operands.headD "")
      exact ⟨logs, hlogs, hleaves, fun h => absurd rfl h⟩
  | validate =>
      have hflag : Name.validate.flag? s given = none := by
        unfold Name.flag?
        cases foundConfig s (namedConfig? given) <;> rfl
      rw [hflag]
      exact ⟨[], allWarnings_nil, isWriting_validate.onlyWrites, fun _ => breaksOff_validateStuck _⟩

end ColumnTypes.Command
