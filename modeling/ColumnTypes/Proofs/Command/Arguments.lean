import ColumnTypes.Command.Invocation
import ColumnTypes.Proofs.Outcomes
import Mathlib.Data.List.Basic

/-!
# Arguments that spell options

Options are **spelled** one after the other (`Usage.Spells`), so what a command makes of them is
told by what it makes of each. The options that `columns` and `resolve` share - the configuration,
the driver, and logging - are taken by both in the same way: a configuration must be the path of
something that exists, and a driver one of the choices (`Accepts`).

Main statements: `read_columns_iff` and `read_resolve`, which give the request that each of the two
commands reads.
-/

namespace ColumnTypes.Command

/-! ## Spelling -/

namespace Usage

variable {u : Usage} {arguments more : List String} {given others : List Given}

/-- Arguments that stand for given options, whatever comes after them. -/
def Spells (u : Usage) (arguments : List String) (given : List Given) : Prop :=
  ∀ rest, u.scan (arguments ++ rest) =
    (u.scan rest).map fun s => { s with given := given ++ s.given }

theorem spells_nil : u.Spells [] [] := by
  intro rest
  cases h : u.scan rest with
  | error e => simp [h, Except.map]
  | ok s => simp [h, Except.map]

/-- Options are spelled one after the other. -/
theorem Spells.append (h : u.Spells arguments given) (h' : u.Spells more others) :
    u.Spells (arguments ++ more) (given ++ others) := by
  intro rest
  rw [List.append_assoc, h, h']
  cases u.scan rest with
  | error e => rfl
  | ok s => simp [Except.map]

/-- A name and a value spell an option that takes one. -/
theorem spells_value {name value : String} {o : OptionSpec} (hdashes : name ≠ "--")
    (hname : isOption name = true) (hread : u.readOption name = .ok (.needsValue [] o name)) :
    u.Spells [name, value] [(o, value)] := by
  intro rest
  rw [List.cons_append, scan, if_neg hdashes, if_pos hname, hread]
  rfl

/-- A name alone spells a flag. -/
theorem spells_flag {name : String} {o : OptionSpec} (hdashes : name ≠ "--")
    (hname : isOption name = true) (hread : u.readOption name = .ok (.complete [(o, "")])) :
    u.Spells [name] [(o, "")] := by
  intro rest
  rw [List.cons_append, scan, if_neg hdashes, if_pos hname, hread]
  rfl

end Usage

/-! ## Options that are given once -/

/-- An option that is not there yet is put at the end. -/
theorem put_of_not_mem {o : OptionSpec} {value : String} {given : List Given}
    (h : o ∉ given.map Prod.fst) : put o value given = given ++ [(o, value)] := by
  induction given with
  | nil => rfl
  | cons g given ih =>
      obtain ⟨o', value'⟩ := g
      rw [List.map_cons, List.mem_cons, not_or] at h
      rw [put, if_neg (Ne.symm h.1), ih h.2, List.cons_append]

/-- Options that are each given once stay as they are. -/
theorem distinct_of_nodup {given : List Given} (h : (given.map Prod.fst).Nodup) :
    distinct given = given := by
  have hfold : ∀ done : List Given, ((done ++ given).map Prod.fst).Nodup →
      given.foldl (fun done g => put g.1 g.2 done) done = done ++ given := by
    clear h
    induction given with
    | nil => simp
    | cons g given ih =>
        intro done hdone
        obtain ⟨o, value⟩ := g
        have hnot : o ∉ done.map Prod.fst := by
          rw [List.map_append, List.map_cons] at hdone
          exact fun hmem => (List.nodup_append.1 hdone).2.2 o hmem o List.mem_cons_self rfl
        have hrest := ih (done ++ [(o, value)]) (by rwa [List.append_assoc])
        rw [List.append_assoc, ← put_of_not_mem hnot] at hrest
        exact hrest
  exact hfold [] h

/-- Options that are no questions, are each given once and have values that are taken are read. -/
theorem Usage.readOptions_of_scan {u : Usage} {isPresent : String → Bool} {arguments : List String}
    {given : List Given} {operands : List String}
    (hscan : u.scan arguments = .ok ⟨given, operands⟩)
    (hquestion : ∀ g ∈ given, g.1.isQuestion = false) (hnodup : (given.map Prod.fst).Nodup) :
    u.readOptions isPresent arguments =
      (given.forM (checkValue isPresent)).map fun _ => .run given operands := by
  have hfind : given.find? (·.1.isQuestion) = none := by
    rw [List.find?_eq_none]
    intro g hg
    simp [hquestion g hg]
  unfold readOptions
  rw [hscan]
  simp only [bind, Except.bind, hfind, distinct_of_nodup hnodup]
  cases given.forM (checkValue isPresent) <;> rfl

section values

variable {o : OptionSpec} {value : String} {isPresent : String → Bool}

/-- A path passes if it can be one and something is there. -/
theorem checkValue_path_iff (ho : o.kind = .path) :
    checkValue isPresent (o, value) = .ok () ↔
      Path.isUnusableText value = false ∧ isPresent value = true := by
  simp only [checkValue, ho]
  split_ifs with hunusable hpresent
  · simp [hunusable]
  · simp [hunusable, hpresent]
  · simp [hpresent]

/-- A choice passes if it is one. -/
theorem checkValue_choice_iff {values : List String} (ho : o.kind = .choice values) :
    checkValue isPresent (o, value) = .ok () ↔ values.contains value = true := by
  simp only [checkValue, ho]
  split_ifs with hvalue
  · exact iff_of_true rfl hvalue
  · exact iff_of_false (fun h => nomatch h) hvalue

/-- A flag passes. -/
theorem checkValue_flag (ho : o.kind = .flag) : checkValue isPresent (o, value) = .ok () := by
  simp only [checkValue, ho]

end values

/-! ## Shared options -/

/-- The option of a command under a name. -/
def Name.spec (n : Name) (name : String) : OptionSpec :=
  (n.usage.option? name).getD helpOption

/-- The arguments for a configuration, a driver and logging. -/
def choiceArguments (config driver : Option String) (debug : Bool) : List String :=
  (config.elim [] fun c => ["--config", c]) ++ (driver.elim [] fun d => ["--driver", d]) ++
    if debug then ["--debug"] else []

/-- The same choices as given options of a command. -/
def choices (n : Name) (config driver : Option String) (debug : Bool) : List Given :=
  (config.elim [] fun c => [(n.spec "--config", c)]) ++
    (driver.elim [] fun d => [(n.spec "--driver", d)]) ++
    if debug then [(n.spec "--debug", "")] else []

/-- The arguments for the flags of a column. -/
def flagArguments (notNull isArray : Bool) : List String :=
  (if notNull then ["--not-null"] else []) ++ if isArray then ["--array"] else []

/-- The same flags as given options. -/
def flags (notNull isArray : Bool) : List Given :=
  (if notNull then [(Name.resolve.spec "--not-null", "")] else []) ++
    if isArray then [(Name.resolve.spec "--array", "")] else []

/-- A command that has the shared options. -/
def Name.HasChoices (n : Name) : Prop :=
  n = .columns ∨ n = .resolve

variable {n : Name} {config driver : Option String} {debug notNull isArray : Bool}
  {isPresent : String → Bool}

theorem spells_choices (hn : n.HasChoices) :
    n.usage.Spells (choiceArguments config driver debug) (choices n config driver debug) := by
  refine (Usage.Spells.append ?_ ?_).append ?_
  · cases config with
    | none => exact Usage.spells_nil
    | some c => exact Usage.spells_value (by decide) rfl (by rcases hn with rfl | rfl <;> rfl)
  · cases driver with
    | none => exact Usage.spells_nil
    | some d => exact Usage.spells_value (by decide) rfl (by rcases hn with rfl | rfl <;> rfl)
  · cases debug with
    | false => exact Usage.spells_nil
    | true => exact Usage.spells_flag (by decide) rfl (by rcases hn with rfl | rfl <;> rfl)

theorem spells_flags :
    Name.resolve.usage.Spells (flagArguments notNull isArray) (flags notNull isArray) := by
  refine Usage.Spells.append ?_ ?_
  · cases notNull with
    | false => exact Usage.spells_nil
    | true => exact Usage.spells_flag (by decide) rfl rfl
  · cases isArray with
    | false => exact Usage.spells_nil
    | true => exact Usage.spells_flag (by decide) rfl rfl

/-- Values that a command takes: the path of something that exists, and a driver that can be
chosen. -/
def Accepts (isPresent : String → Bool) (config driver : Option String) : Prop :=
  (∀ c ∈ config, Path.isUnusableText c = false ∧ isPresent c = true) ∧
    ∀ d ∈ driver, (Driver.choices.map Driver.name).contains d = true

/-- The values of shared options pass exactly if they are accepted. -/
theorem checkValue_choices_iff (hn : n.HasChoices) :
    (∀ g ∈ choices n config driver debug, checkValue isPresent g = .ok ()) ↔
      Accepts isPresent config driver := by
  have hconfig : (n.spec "--config").kind = .path := by rcases hn with rfl | rfl <;> rfl
  have hdriver : (n.spec "--driver").kind = .choice (Driver.choices.map Driver.name) := by
    rcases hn with rfl | rfl <;> rfl
  have hdebug : (n.spec "--debug").kind = .flag := by rcases hn with rfl | rfl <;> rfl
  unfold choices Accepts
  rw [List.forall_mem_append, List.forall_mem_append, and_assoc]
  refine and_congr ?_ ?_
  · cases config with
    | none => simp
    | some c => simp [checkValue_path_iff hconfig]
  · have hflag : ∀ g ∈ if debug then [(n.spec "--debug", "")] else [],
        checkValue isPresent g = .ok () := by
      cases debug with
      | false => simp
      | true => simp [checkValue_flag hdebug]
    rw [and_iff_left hflag]
    cases driver with
    | none => simp
    | some d => simp [checkValue_choice_iff hdriver]

/-- The values of flags pass. -/
theorem checkValue_flags : ∀ g ∈ flags notNull isArray, checkValue isPresent g = .ok () := by
  unfold flags
  rw [List.forall_mem_append]
  refine ⟨?_, ?_⟩
  · cases notNull with
    | false => simp
    | true => simpa using checkValue_flag rfl
  · cases isArray with
    | false => simp
    | true => simpa using checkValue_flag rfl

/-- The options that are given are some of those that can be. -/
theorem sublist_choices_flags :
    ((choices n config driver debug ++ flags notNull isArray).map Prod.fst).Sublist
      [n.spec "--config", n.spec "--driver", n.spec "--debug", Name.resolve.spec "--not-null",
        Name.resolve.spec "--array"] := by
  have hconfig : ((config.elim [] fun c => [(n.spec "--config", c)] : List Given).map
      Prod.fst).Sublist [n.spec "--config"] := by cases config <;> simp
  have hdriver : ((driver.elim [] fun d => [(n.spec "--driver", d)] : List Given).map
      Prod.fst).Sublist [n.spec "--driver"] := by cases driver <;> simp
  have hdebug : ((if debug then [(n.spec "--debug", "")] else [] : List Given).map
      Prod.fst).Sublist [n.spec "--debug"] := by cases debug <;> simp
  have hnotNull : ((if notNull then [(Name.resolve.spec "--not-null", "")] else [] :
      List Given).map Prod.fst).Sublist [Name.resolve.spec "--not-null"] := by
    cases notNull <;> simp
  have hisArray : ((if isArray then [(Name.resolve.spec "--array", "")] else [] :
      List Given).map Prod.fst).Sublist [Name.resolve.spec "--array"] := by
    cases isArray <;> simp
  unfold choices flags
  simp only [List.map_append]
  exact ((hconfig.append hdriver).append hdebug).append (hnotNull.append hisArray)

/-- Every option is given once. -/
theorem nodup_choices_flags (hn : n.HasChoices) :
    ((choices n config driver debug ++ flags notNull isArray).map Prod.fst).Nodup := by
  refine sublist_choices_flags.nodup ?_
  rcases hn with rfl | rfl <;> decide

/-- No option is a question. -/
theorem isQuestion_choices_flags (hn : n.HasChoices) :
    ∀ g ∈ choices n config driver debug ++ flags notNull isArray, g.1.isQuestion = false := by
  have hall : ∀ o ∈ [n.spec "--config", n.spec "--driver", n.spec "--debug",
      Name.resolve.spec "--not-null", Name.resolve.spec "--array"], o.isQuestion = false := by
    rcases hn with rfl | rfl <;> decide
  intro g hg
  exact hall _ (sublist_choices_flags.subset (List.mem_map_of_mem hg))

/-! ## Requests -/

/-- The options that are read, where their values are accepted. -/
theorem readOptions_choices_flags (hn : n.HasChoices) {arguments operands : List String}
    (hscan : n.usage.scan arguments =
      .ok ⟨choices n config driver debug ++ flags notNull isArray, operands⟩) {request : Request} :
    n.usage.readOptions isPresent arguments = .ok request ↔
      Accepts isPresent config driver ∧
        request = .run (choices n config driver debug ++ flags notNull isArray) operands := by
  rw [Usage.readOptions_of_scan hscan (isQuestion_choices_flags hn) (nodup_choices_flags hn)]
  have hvalues : (choices n config driver debug ++ flags notNull isArray).forM
      (checkValue isPresent) = .ok () ↔ Accepts isPresent config driver := by
    rw [forM_eq_ok_iff, List.forall_mem_append, checkValue_choices_iff hn,
      and_iff_left checkValue_flags]
  rw [← hvalues]
  cases (choices n config driver debug ++ flags notNull isArray).forM (checkValue isPresent) with
  | error e => simp [Except.map]
  | ok u => simp [Except.map, eq_comm]

/-- The request that `columns` reads. -/
theorem read_columns_iff {request : Request} :
    Name.columns.usage.read isPresent (choiceArguments config driver debug) = .ok request ↔
      Accepts isPresent config driver ∧
        request = .run (choices .columns config driver debug) [] := by
  have hspells : Name.columns.usage.scan (choiceArguments config driver debug ++ []) = _ :=
    spells_choices (.inl rfl) []
  have hscan : Name.columns.usage.scan (choiceArguments config driver debug) =
      .ok ⟨choices .columns config driver debug ++ flags false false, []⟩ := by
    rw [List.append_nil] at hspells
    exact hspells
  have hoptions : ∀ {r : Request},
      Name.columns.usage.readOptions isPresent (choiceArguments config driver debug) = .ok r ↔
        Accepts isPresent config driver ∧ r = .run (choices .columns config driver debug) [] := by
    intro r
    rw [readOptions_choices_flags (.inl rfl) hscan]
    simp [flags]
  have hread : Name.columns.usage.read isPresent (choiceArguments config driver debug) =
      Name.columns.usage.readOptions isPresent (choiceArguments config driver debug) := by
    unfold Usage.read
    cases h : Name.columns.usage.readOptions isPresent (choiceArguments config driver debug) with
    | error e => rfl
    | ok r =>
        obtain ⟨-, rfl⟩ := hoptions.1 h
        rfl
  rw [hread, hoptions]

/-- The request that `resolve` reads. -/
theorem read_resolve {declared : String} (h : Accepts isPresent config driver) :
    Name.resolve.usage.read isPresent
        (choiceArguments config driver debug ++ flagArguments notNull isArray ++ ["--", declared]) =
      .ok (.run (choices .resolve config driver debug ++ flags notNull isArray) [declared]) := by
  have hspells : Name.resolve.usage.Spells
      (choiceArguments config driver debug ++ flagArguments notNull isArray)
      (choices .resolve config driver debug ++ flags notNull isArray) :=
    (spells_choices (.inr rfl)).append spells_flags
  have hscan := hspells ["--", declared]
  rw [show Name.resolve.usage.scan ["--", declared] = .ok ⟨[], [declared]⟩ from rfl] at hscan
  have hscan : Name.resolve.usage.scan
      (choiceArguments config driver debug ++ flagArguments notNull isArray ++ ["--", declared]) =
        .ok ⟨choices .resolve config driver debug ++ flags notNull isArray, [declared]⟩ := by
    rw [hscan, Except.map, List.append_nil]
  have hoptions := (readOptions_choices_flags (.inr rfl) hscan).2 ⟨h, rfl⟩
  unfold Usage.read
  rw [hoptions]
  rfl

end ColumnTypes.Command
