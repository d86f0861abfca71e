import ColumnTypes.Command.Invocation
import ColumnTypes.Proofs.Catalog.SingleFile
import ColumnTypes.Proofs.Command.Ending
import ColumnTypes.Proofs.Command.Loading

/-!
# Load failures in commands

A command whose configuration or catalog cannot be loaded is meant to explain why and to exit with
one.  Whether it does depends on the failure:

* a failure **escapes** (`Failure.Escapes`) if it is met in the search for a configuration, if its
  error has no explanation, or if the explanation cannot be printed;
* every other failure ends the command with exit code one and a line on the error stream that begins
  with `Error:`.

Main statement (`invoke_of_fails`), for every call that is accepted (`IsAccepted`) and every failure
that its command meets (`Fails`).  No failure is left out (`fails_or_loads`): a command meets one,
or it loads all that it needs (`Loads`), or `validate` cannot print the path of its configuration.

## Strategy

What a failure comes to is said of an action (`FailsAs`), and it is passed on from the action that
loads to the whole command: whatever is done before goes on and writes whole lines at most.
-/

namespace ColumnTypes.Command

open Command.Action

/-! ## Failures -/

/-- Why a command cannot go on. -/
inductive Failure where
  /-- The search for a configuration is refused. -/
  | search (error : LoadError)
  /-- There is no configuration. -/
  | absent
  /-- A configuration or a catalog cannot be loaded. -/
  | load (subject : Subject) (error : LoadError)

/-- The line that explains an error. -/
def explanation (subject : Subject) (category : LoadError.Category) (e : LoadError) : String :=
  "[red]" ++ explanationHead subject category ++ "[/red] " ++ e.message

/-- A failure that is not explained, and what the command breaks off with. -/
inductive Failure.Escapes (width : Nat) (stream : Stream) : Failure → Crash → Prop
  | search {e : LoadError} : Escapes width stream (.search e) (.load e)
  /-- The error is of no kind that is explained. -/
  | unexplained {subject : Subject} {e : LoadError} (hcategory : e.category? = none) :
      Escapes width stream (.load subject e) (.load e)
  /-- The explanation cannot be printed. -/
  | explanation {subject : Subject} {e : LoadError} {category : LoadError.Category}
      {cause : Crash} (hcategory : e.category? = some category)
      (hbreaks : Breaks width stream (explanation subject category e) cause) :
      Escapes width stream (.load subject e) cause

/-- The stream on which a command explains failures. -/
def Name.stream : Name → Stream
  | .resolve => .err
  | .columns | .validate => .out

/-- The path of the configuration that is named. -/
def namedConfig? (given : List Given) : Option Path :=
  (valueOf? "--config" given).map Path.ofText

/-- The path of the catalog that a command loads: the named one, where it takes one, or else the
configured one. -/
def Name.catalogPath? (n : Name) (given : List Given) (config : Option Config) : Option Path :=
  match n with
  | .resolve => ((valueOf? "--catalog" given).map Path.ofText).or (config.map Config.catalogPath)
  | .columns | .validate => config.map Config.catalogPath

/-- The configuration with which a command goes on, if there is any. -/
inductive GoesOnWith (s : Surroundings) (named : Option Path) : Option (Config × Path) → Prop
  | found {path : Path} {config : Config} (hfound : ConfigFound s named path)
      (hconfig : s.configAt path = .ok config) : GoesOnWith s named (some (config, path))
  | nothing (hnamed : named = none) (hnone : s.nearestConfig = .ok none) : GoesOnWith s named none

/-- The line of `validate` about a configuration that has been loaded. -/
def configLine (path : Path) : String :=
  "[green]Config valid:[/green] " ++ path.text

/-- The failures that a command meets when it loads its configuration and its catalog. -/
inductive Fails (s : Surroundings) (n : Name) (given : List Given) : Failure → Prop
  | search {e : LoadError} (hnamed : namedConfig? given = none)
      (hsearch : s.nearestConfig = .error e) : Fails s n given (.search e)
  | absent (hrequired : n ≠ .resolve) (hnothing : GoesOnWith s (namedConfig? given) none) :
      Fails s n given .absent
  | config {e : LoadError} {path : Path} (hfound : ConfigFound s (namedConfig? given) path)
      (hload : s.configAt path = .error e) : Fails s n given (.load .config e)
  /-- Before it comes to its catalog `validate` prints the path of its configuration. -/
  | catalog {e : LoadError} {found : Option (Config × Path)} {path : Path}
      (hfound : GoesOnWith s (namedConfig? given) found)
      (hprinted : n = .validate → ∀ config ∈ found, ∀ cause,
        ¬Breaks s.width .out (configLine config.2) cause)
      (hpath : n.catalogPath? given (found.map Prod.fst) = some path)
      (hload : s.loadCatalog path = .error e) : Fails s n given (.load .catalog e)

/-- Arguments that call a command with options and operands that it takes. -/
def IsAccepted (s : Surroundings) (n : Name) (given : List Given) (operands : List String)
    (arguments : List String) : Prop :=
  ∃ before rest, programUsage.readOptions (fun _ => true) arguments =
      .ok (.run before (n.word :: rest)) ∧
    n.usage.read (s.files.isPresent s.directory) rest = .ok (.run given operands)

variable {α β : Type} {s : Surroundings} {n : Name} {given : List Given} {width : Nat}
  {stream : Stream} {subject : Subject} {debug : Bool} {p r : Progress} {e : LoadError}
  {failure : Failure} {named : Option Path}

/-! ## Failing actions -/

/-- An action that fails: it breaks off if the failure escapes, and otherwise ends with exit code
one and an error line. -/
structure FailsAs (width : Nat) (stream : Stream) (failure : Failure) (a : Action α)
    (p : Progress) : Prop where
  crashes : ∀ cause, failure.Escapes width stream cause → ∃ q, a.Ends p (.crash cause) q
  explains : (∀ cause, ¬failure.Escapes width stream cause) → ∃ q r rest, a.Ends p (.exit 1) q ∧
    p.AddsLines r ∧ q.err = r.err ++ ("Error: " ++ rest)

/-- A sequence fails with its first action. -/
theorem FailsAs.bind {a : Action α} {f : α → Action β} (h : FailsAs width stream failure a p) :
    FailsAs width stream failure (a >>= f) p where
  crashes cause hescapes := by
    obtain ⟨q, hends⟩ := h.crashes cause hescapes
    exact ⟨q, ends_bind_of_ends hends⟩
  explains hstays := by
    obtain ⟨q, r, rest, hends, hlines, herr⟩ := h.explains hstays
    exact ⟨q, r, rest, ends_bind_of_ends hends, hlines, herr⟩

/-- A sequence fails with its second action if the first goes on and writes lines at most. -/
theorem FailsAs.of_returns {a : Action α} {f : α → Action β} {x : α} (ha : a.Returns p x r)
    (hlines : p.AddsLines r) (h : FailsAs width stream failure (f x) r) :
    FailsAs width stream failure (a >>= f) p where
  crashes cause hescapes := by
    obtain ⟨q, hends⟩ := h.crashes cause hescapes
    exact ⟨q, ends_bind_of_returns ha hends⟩
  explains hstays := by
    obtain ⟨q, r', rest, hends, hlines', herr⟩ := h.explains hstays
    exact ⟨q, r', rest, ends_bind_of_returns ha hends, hlines.trans hlines', herr⟩

/-- A failure that does not escape is told by its message. -/
theorem failsAs_fail {message : String} (h : ∀ cause, ¬failure.Escapes width stream cause) :
    FailsAs width stream failure (fail message : Action α) p where
  crashes cause hescapes := absurd hescapes (h cause)
  explains _ := by
    obtain ⟨rest, hends⟩ := ends_fail (α := α) (p := p) message
    exact ⟨_, p, rest, hends, .refl p, rfl⟩

/-- A failure that escapes breaks the command off. -/
theorem failsAs_crash {cause : Crash}
    (h : ∀ cause', failure.Escapes width stream cause' ↔ cause' = cause) :
    FailsAs width stream failure (crash cause : Action α) p where
  crashes cause' hescapes := by
    obtain rfl := (h cause').1 hescapes
    exact ⟨p, ends_stop⟩
  explains hstays := absurd ((h cause).2 rfl) (hstays cause)

/-! ## Explanations -/

/-- A clean text is printed in lines. -/
theorem exists_returns_clean (width : Nat) (stream : Stream) (p : Progress) {markup : String}
    (h : isClean markup = true) :
    ∃ q, (print width stream markup).Returns p () q ∧ p.AddsLines q :=
  exists_returns_print fun _ => not_breaks_of_isClean h

/-- Clean texts are printed in lines, one after another. -/
theorem exists_returns_forM_clean (width : Nat) (stream : Stream) (p : Progress)
    {markups : List String} (h : ∀ markup ∈ markups, isClean markup = true) :
    ∃ q, (markups.forM (print width stream)).Returns p () q ∧ p.AddsLines q := by
  induction markups generalizing p with
  | nil => exact ⟨p, returns_pure_iff.2 ⟨rfl, rfl⟩, .refl p⟩
  | cons markup markups ih =>
      obtain ⟨hfirst, hrest⟩ := List.forall_mem_cons.1 h
      obtain ⟨r, hprint, hlines⟩ := exists_returns_clean width stream p hfirst
      obtain ⟨q, hprints, hlines'⟩ := ih r hrest
      exact ⟨q, returns_bind_iff.2 ⟨(), r, hprint, hprints⟩, hlines.trans hlines'⟩

/-- What has a category is explained, or escapes with its explanation. -/
theorem failsAs_explanation {category : LoadError.Category} (h : e.category? = some category) :
    FailsAs width stream (.load subject e) (do
      print width stream (explanation subject category e)
      fail e.message : Action α) p where
  crashes cause hescapes := by
    cases hescapes with
    | unexplained hnone => exact nomatch h.symm.trans hnone
    | explanation hsome hbreaks =>
        obtain rfl := Option.some.inj (h.symm.trans hsome)
        exact ⟨p, ends_bind_of_ends (ends_print hbreaks)⟩
  explains hstays := by
    obtain ⟨q, hprint, hlines⟩ := exists_returns_print (p := p) fun cause hbreaks =>
      hstays cause (.explanation h hbreaks)
    exact (FailsAs.of_returns hprint hlines (failsAs_fail hstays)).explains hstays

/-- An error is explained, or escapes. -/
theorem failsAs_explain :
    FailsAs width stream (.load subject e) (explain width stream subject debug e : Action α) p := by
  unfold explain
  split
  · next hnone =>
    refine failsAs_crash fun cause => ⟨fun hescapes => ?_, ?_⟩
    · cases hescapes with
      | unexplained _ => rfl
      | explanation hsome _ => exact nomatch hnone.symm.trans hsome
    · rintro rfl
      exact .unexplained hnone
  · next category hsome =>
    cases debug with
    | false => exact failsAs_explanation hsome
    | true =>
        have htrace : isClean traceText = true := rfl
        obtain ⟨q, hreturns, hlines⟩ := exists_returns_clean width stream p htrace
        exact .of_returns hreturns hlines (failsAs_explanation hsome)

/-- What cannot be loaded fails. -/
theorem failsAs_loaded {result : Except LoadError α} (h : result = .error e) :
    FailsAs width stream (.load subject e) (loaded width stream subject debug result) p := by
  rw [h]
  exact failsAs_explain

/-! ## Configurations -/

/-- A search that is refused fails. -/
theorem failsAs_search (hnamed : named = none) (hsearch : s.nearestConfig = .error e) :
    FailsAs s.width stream (.search e) (optionalConfig s stream named debug) p := by
  refine FailsAs.bind ?_
  unfold configPath
  rw [hnamed, hsearch]
  refine failsAs_crash fun cause => ⟨fun hescapes => ?_, ?_⟩
  · cases hescapes
    rfl
  · rintro rfl
    exact .search

/-- A configuration that cannot be loaded fails. -/
theorem failsAs_config {path : Path} (hfound : ConfigFound s named path)
    (hload : s.configAt path = .error e) :
    FailsAs s.width stream (.load .config e) (optionalConfig s stream named debug) p :=
  .of_returns (returns_configPath_some_iff.2 ⟨hfound, rfl⟩) (.refl p) (failsAs_loaded hload).bind

/-- A command goes on with its configuration, or without one. -/
theorem returns_optionalConfig {found : Option (Config × Path)} (h : GoesOnWith s named found) :
    (optionalConfig s stream named debug).Returns p found p := by
  cases h with
  | found hfound hconfig => exact returns_optionalConfig_some_iff.2 ⟨hfound, hconfig, rfl⟩
  | nothing hnamed hnone =>
      refine returns_bind_iff.2 ⟨none, p, ?_, returns_pure_iff.2 ⟨rfl, rfl⟩⟩
      unfold configPath
      rw [hnamed, hnone]
      exact returns_pure_iff.2 ⟨rfl, rfl⟩

/-- A command that needs a configuration fails without one. -/
theorem failsAs_absent (h : GoesOnWith s named none) :
    FailsAs s.width stream .absent (requiredConfig s stream named debug) p := by
  have hclean : ∀ line ∈ missingConfigLines, isClean line = true := by decide +kernel
  obtain ⟨q, hlines, hadds⟩ := exists_returns_forM_clean s.width stream p hclean
  refine .of_returns (returns_optionalConfig h) (.refl p) (.of_returns hlines hadds ?_)
  exact failsAs_fail fun cause hescapes => nomatch hescapes

/-! ## Commands -/

/-- A failure of `resolve`. -/
theorem failsAs_resolve (h : Fails s .resolve given failure) (operand : String) :
    FailsAs s.width .err failure (resolve s (.ofGiven given operand)) p := by
  cases h with
  | search hnamed hsearch => exact (failsAs_search hnamed hsearch).bind
  | absent hrequired => exact absurd rfl hrequired
  | config hfound hload => exact (failsAs_config hfound hload).bind
  | @catalog e found path hfound hprinted hpath hload =>
      have hcatalog : (ResolveRequest.ofGiven given operand).catalogPath? (found.map Prod.fst) =
          some path := hpath
      refine .of_returns (returns_optionalConfig hfound) (.refl p) ?_
      dsimp only
      rw [hcatalog]
      exact (failsAs_loaded hload).bind

/-- A command that needs a configuration goes on with the one that is there. -/
theorem returns_requiredConfig {found : Config × Path} (h : GoesOnWith s named (some found)) :
    (requiredConfig s stream named debug).Returns p found p := by
  cases h with
  | found hfound hconfig => exact returns_requiredConfig_iff.2 ⟨hfound, hconfig, rfl⟩

/-- A command that names no catalog has the path of a configuration. -/
theorem exists_of_catalogPath? {found : Option (Config × Path)} {path : Path}
    (hn : n ≠ .resolve) (h : n.catalogPath? given (found.map Prod.fst) = some path) :
    ∃ config, found = some config ∧ config.1.catalogPath = path := by
  cases found with
  | none => cases n <;> first | exact absurd rfl hn | exact nomatch h
  | some config => cases n <;> first | exact absurd rfl hn | exact ⟨config, rfl, Option.some.inj h⟩

/-- A command that needs a configuration fails with it, or goes on and fails with its catalog. -/
theorem failsAs_requiredConfig (hn : n ≠ .resolve) (h : Fails s n given failure) :
    (∀ stream debug p,
      FailsAs s.width stream failure (requiredConfig s stream (namedConfig? given) debug) p) ∨
    ∃ config file e, GoesOnWith s (namedConfig? given) (some (config, file)) ∧
      (n = .validate → ∀ cause, ¬Breaks s.width .out (configLine file) cause) ∧
      s.loadCatalog config.catalogPath = .error e ∧ failure = .load .catalog e := by
  cases h with
  | search hnamed hsearch => exact .inl fun _ _ _ => (failsAs_search hnamed hsearch).bind
  | absent hrequired hnothing => exact .inl fun _ _ _ => failsAs_absent hnothing
  | config hfound hload => exact .inl fun _ _ _ => (failsAs_config hfound hload).bind
  | catalog hfound hprinted hpath hload =>
      obtain ⟨⟨config, file⟩, rfl, rfl⟩ := exists_of_catalogPath? hn hpath
      exact .inr ⟨config, file, _, hfound, fun hvalidate => hprinted hvalidate _ rfl, hload, rfl⟩

/-- A failure of `columns`. -/
theorem failsAs_columns (h : Fails s .columns given failure) :
    FailsAs s.width .out failure (columns s (.ofGiven given)) p := by
  obtain hconfig | ⟨config, file, e, hfound, -, hload, rfl⟩ :=
    failsAs_requiredConfig (by decide) h
  · exact (hconfig _ _ _).bind
  · refine .of_returns (returns_requiredConfig hfound) (.refl p) ?_
    refine .of_returns (x := ()) (returns_modify_iff.2 rfl) (.of_err_eq rfl) ?_
    exact (failsAs_loaded hload).bind

/-- A failure of `validate`. -/
theorem failsAs_validate (h : Fails s .validate given failure) :
    FailsAs s.width .out failure (validate s (.ofGiven given)) p := by
  obtain hconfig | ⟨config, file, e, hfound, hprinted, hload, rfl⟩ :=
    failsAs_requiredConfig (by decide) h
  · exact (hconfig _ _ _).bind
  · obtain ⟨q, hline, hlines⟩ := exists_returns_print (p := p) (hprinted rfl)
    have hdriver : isClean ("[green]Driver:[/green] " ++ config.driver.name) = true := by
      unfold Config.driver Driver.ofPackage
      split <;> decide +kernel
    obtain ⟨q', hline', hlines'⟩ := exists_returns_clean s.width .out q hdriver
    refine .of_returns (returns_requiredConfig hfound) (.refl p) ?_
    refine .of_returns hline hlines (.of_returns hline' hlines' ?_)
    exact (failsAs_loaded hload).bind

/-- A failure of a command. -/
theorem failsAs_perform (h : Fails s n given failure) (operands : List String) :
    FailsAs s.width n.stream failure (perform s n given operands) p := by
  cases n with
  | columns => exact failsAs_columns h
  | resolve => exact failsAs_resolve h _
  | validate => exact failsAs_validate h

/-! ## Completeness -/

/-- A command that does not fail with its configuration goes on. -/
theorem fails_or_goesOnWith (s : Surroundings) (n : Name) (given : List Given) :
    (∃ failure, Fails s n given failure) ∨
      ∃ found, GoesOnWith s (namedConfig? given) found ∧ (found = none → n = .resolve) := by
  have hat : ∀ path, ConfigFound s (namedConfig? given) path →
      (∃ failure, Fails s n given failure) ∨
        ∃ found, GoesOnWith s (namedConfig? given) found ∧ (found = none → n = .resolve) := by
    intro path hfound
    cases hconfig : s.configAt path with
    | error e => exact .inl ⟨_, .config hfound hconfig⟩
    | ok config => exact .inr ⟨_, .found hfound hconfig, fun h => nomatch h⟩
  cases hnamed : namedConfig? given with
  | some path => exact hnamed ▸ hat path (.inl hnamed)
  | none =>
      rw [hnamed] at hat
      cases hnearest : s.nearestConfig with
      | error e => exact .inl ⟨_, .search hnamed hnearest⟩
      | ok found =>
          cases found with
          | some l => exact hat _ (.inr ⟨rfl, l, hnearest, rfl⟩)
          | none =>
              by_cases hn : n = .resolve
              · exact .inr ⟨none, .nothing rfl hnearest, fun _ => hn⟩
              · exact .inl ⟨_, .absent hn (hnamed ▸ .nothing rfl hnearest)⟩

/-- A command loads its configuration, without which only `resolve` goes on, and its catalog if it
has the path of one. -/
def Loads (s : Surroundings) (n : Name) (given : List Given) : Prop :=
  ∃ found, GoesOnWith s (namedConfig? given) found ∧ (found = none → n = .resolve) ∧
    ∀ path, n.catalogPath? given (found.map Prod.fst) = some path →
      ∃ c, s.loadCatalog path = .ok c

/-- A command meets a failure, or it loads all that it needs, or `validate` cannot print the path of
its configuration. -/
theorem fails_or_loads (s : Surroundings) (n : Name) (given : List Given) :
    (∃ failure, Fails s n given failure) ∨ Loads s n given ∨
      n = .validate ∧ ∃ config path cause,
        GoesOnWith s (namedConfig? given) (some (config, path)) ∧
          Breaks s.width .out (configLine path) cause := by
  rcases fails_or_goesOnWith s n given with hfails | ⟨found, hfound, hnone⟩
  · exact .inl hfails
  · cases hpath : n.catalogPath? given (found.map Prod.fst) with
    | none => exact .inr (.inl ⟨found, hfound, hnone, fun path h => nomatch hpath.symm.trans h⟩)
    | some path =>
        cases hload : s.loadCatalog path with
        | ok c =>
            refine .inr (.inl ⟨found, hfound, hnone, fun path' h => ⟨c, ?_⟩⟩)
            obtain rfl := Option.some.inj (hpath.symm.trans h)
            exact hload
        | error e =>
            -- `validate` may break off before it comes to the catalog that cannot be loaded.
            by_cases hbreaks : n = .validate ∧ ∃ config ∈ found, ∃ cause,
                Breaks s.width .out (configLine config.2) cause
            · obtain ⟨hn, ⟨config, file⟩, rfl, cause, hcause⟩ := hbreaks
              exact .inr (.inr ⟨hn, config, file, cause, hfound, hcause⟩)
            · refine .inl ⟨_, .catalog hfound (fun hn config hconfig cause hcause => ?_) hpath
                hload⟩
              exact hbreaks ⟨hn, config, hconfig, cause, hcause⟩

/-! ## Calls -/

/-- Arguments that call a command, with those that are left to the command. -/
def Calls (n : Name) (arguments rest : List String) : Prop :=
  ∃ before, programUsage.readOptions (fun _ => true) arguments = .ok (.run before (n.word :: rest))

/-- A call runs its command. -/
theorem program_of_calls {arguments rest : List String} (h : Calls n arguments rest) :
    program s arguments = runCommand s n rest := by
  obtain ⟨before, hwords⟩ := h
  have hsome : arguments.isEmpty = false := by
    cases arguments with
    | nil => exact nomatch hwords
    | cons word words => rfl
  have hname : Name.ofWord? n.word = some n := by cases n <;> rfl
  unfold program
  rw [hsome, hwords]
  show runWords s (n.word :: rest) = _
  unfold runWords
  dsimp only
  rw [hname]

/-- An accepted call runs its command. -/
theorem program_of_isAccepted {operands arguments : List String}
    (h : IsAccepted s n given operands arguments) :
    program s arguments = perform s n given operands := by
  obtain ⟨before, rest, hwords, hread⟩ := h
  rw [program_of_calls ⟨before, hwords⟩]
  unfold runCommand
  rw [hread]

/-- A failure that escapes breaks the command off. -/
theorem invoke_of_escapes {operands arguments : List String} {cause : Crash}
    (haccepted : IsAccepted s n given operands arguments) (hfails : Fails s n given failure)
    (hescapes : failure.Escapes s.width n.stream cause) (logging : Logging) :
    (invoke s logging arguments).1 = .crash cause := by
  obtain ⟨q, hends⟩ :=
    (failsAs_perform (p := .start logging) hfails operands).crashes cause hescapes
  unfold invoke
  rw [program_of_isAccepted haccepted, run_of_ends hends]

/-- With every other failure the command exits with one, and the error stream ends with a line that
begins with `Error:`. -/
theorem invoke_of_not_escapes {operands arguments : List String}
    (haccepted : IsAccepted s n given operands arguments) (hfails : Fails s n given failure)
    (hstays : ∀ cause, ¬failure.Escapes s.width n.stream cause) (logging : Logging) :
    (invoke s logging arguments).1 = .exit 1 ∧ ∃ above rest, IsLines above ∧
      (invoke s logging arguments).2.err = above ++ ("Error: " ++ rest) := by
  obtain ⟨q, r, rest, hends, ⟨above, habove, hr⟩, hq⟩ :=
    (failsAs_perform (p := .start logging) hfails operands).explains hstays
  unfold invoke
  rw [program_of_isAccepted haccepted, run_of_ends hends]
  refine ⟨rfl, above, rest, habove, ?_⟩
  rw [hq, hr]
  exact congrArg (· ++ _) String.empty_append

/-- `validate` breaks off at the path of its configuration if that cannot be printed. -/
theorem invoke_validate_of_breaks {operands arguments : List String} {config : Config}
    {path : Path} {cause : Crash} (haccepted : IsAccepted s .validate given operands arguments)
    (hfound : GoesOnWith s (namedConfig? given) (some (config, path)))
    (hbreaks : Breaks s.width .out (configLine path) cause) (logging : Logging) :
    (invoke s logging arguments).1 = .crash cause := by
  have hends : (perform s .validate given operands).Ends (.start logging) (.crash cause)
      (.start logging) :=
    ends_bind_of_returns (returns_requiredConfig hfound) (ends_bind_of_ends (ends_print hbreaks))
  unfold invoke
  rw [program_of_isAccepted haccepted, run_of_ends hends]

/-- **Load failures.** For every failure that the command of an accepted call meets: if it escapes,
it breaks the command off, and otherwise the command exits with one, and the error stream ends with
a line that begins with `Error:`.

No failure is left out: the command meets one, or it loads all that it needs, or it is `validate`
and breaks off at the line about its configuration, before it comes to its catalog. -/
theorem invoke_of_fails {operands arguments : List String}
    (haccepted : IsAccepted s n given operands arguments) (logging : Logging) :
    (∀ failure, Fails s n given failure →
      (∀ cause, failure.Escapes s.width n.stream cause →
        (invoke s logging arguments).1 = .crash cause) ∧
      ((∀ cause, ¬failure.Escapes s.width n.stream cause) →
        (invoke s logging arguments).1 = .exit 1 ∧ ∃ above rest, IsLines above ∧
          (invoke s logging arguments).2.err = above ++ ("Error: " ++ rest))) ∧
    ((∃ failure, Fails s n given failure) ∨ Loads s n given ∨
      n = .validate ∧ ∃ config path cause,
        GoesOnWith s (namedConfig? given) (some (config, path)) ∧
          Breaks s.width .out (configLine path) cause ∧
          (invoke s logging arguments).1 = .crash cause) := by
  refine ⟨fun failure hfails => ⟨fun cause hescapes => ?_, fun hstays => ?_⟩, ?_⟩
  · exact invoke_of_escapes haccepted hfails hescapes logging
  · exact invoke_of_not_escapes haccepted hfails hstays logging
  · rcases fails_or_loads s n given with hfails | hloads | hbreaks
    · exact .inl hfails
    · exact .inr (.inl hloads)
    · obtain ⟨rfl, config, path, cause, hfound, hcause⟩ := hbreaks
      exact .inr (.inr ⟨rfl, config, path, cause, hfound, hcause,
        invoke_validate_of_breaks haccepted hfound hcause logging⟩)

/-- A project with a number in the place of its schemas. -/
def numberedSchemas : Surroundings where
  files := ⟨[(["pgcodegen.yml"], .file "catalog: c.yml".toUTF8.toList),
    (["c.yml"], .file "schemas: 5".toUTF8.toList)]⟩
  directory := .ofLocation []
  debugVariable := none

/-- A directory without any files. -/
def bareDirectory : Surroundings where
  files := ⟨[]⟩
  directory := .ofLocation []
  debugVariable := none

/-- The schemas of the project cannot be gone through. -/
theorem loadCatalog_numberedSchemas :
    numberedSchemas.loadCatalog (.ofText "/c.yml") = .error (.notIterable "int") := by
  have hread : numberedSchemas.readYaml (.ofText "/c.yml") =
      .ok (.record [("schemas", .int 5)]) := by
    decide +kernel
  rw [Surroundings.loadCatalog_eq hread rfl]
  rfl

/-- So `resolve` cannot go on. -/
theorem fails_numberedSchemas :
    Fails numberedSchemas .resolve [] (.load .catalog (.notIterable "int")) := by
  have hnearest : numberedSchemas.nearestConfig = .ok (some ["pgcodegen.yml"]) := rfl
  have hconfig : numberedSchemas.configAt (.ofLocation ["pgcodegen.yml"]) =
      .ok ⟨"/c.yml", "", [], false⟩ := by
    decide +kernel
  exact .catalog (.found (.inr ⟨rfl, _, hnearest, rfl⟩) hconfig) (fun h => nomatch h) rfl
    loadCatalog_numberedSchemas

/-- The call for a type is accepted in every project. -/
theorem isAccepted_resolve (s : Surroundings) :
    IsAccepted s .resolve [] ["int4"] ["resolve", "int4"] :=
  ⟨[], ["int4"], rfl, rfl⟩

/-- The number breaks `resolve` off, and `columns` exits with one where there are no files. -/
theorem invoke_numberedSchemas_bareDirectory :
    (invoke numberedSchemas .unconfigured ["resolve", "int4"]).1 =
        .crash (.load (.notIterable "int")) ∧
      (invoke bareDirectory .unconfigured ["columns"]).1 = .exit 1 ∧
        ∃ above rest, IsLines above ∧
          (invoke bareDirectory .unconfigured ["columns"]).2.err =
            above ++ ("Error: " ++ rest) := by
  have hnothing : GoesOnWith bareDirectory none none := .nothing rfl rfl
  have hcolumns : IsAccepted bareDirectory .columns [] [] ["columns"] := ⟨[], [], rfl, rfl⟩
  obtain ⟨hfirst, -⟩ := invoke_of_fails (isAccepted_resolve numberedSchemas) .unconfigured
  obtain ⟨hsecond, -⟩ := invoke_of_fails hcolumns .unconfigured
  exact ⟨(hfirst _ fails_numberedSchemas).1 _ (.unexplained rfl),
    (hsecond _ (.absent (by decide) hnothing)).2 fun cause hescapes => nomatch hescapes⟩

/-- The number is not turned into an exit with one. -/
theorem not_exit_numberedSchemas :
    (∀ c, numberedSchemas.loadCatalog (.ofText "/c.yml") ≠ .ok c) ∧
      (invoke numberedSchemas .unconfigured ["resolve", "int4"]).1 ≠ .exit 1 := by
  have hcrash := invoke_of_escapes (isAccepted_resolve _) fails_numberedSchemas (.unexplained rfl)
    .unconfigured
  refine ⟨fun c => ?_, ?_⟩
  · rw [loadCatalog_numberedSchemas]
    exact fun h => nomatch h
  · rw [hcrash]
    exact fun h => nomatch h

end ColumnTypes.Command
