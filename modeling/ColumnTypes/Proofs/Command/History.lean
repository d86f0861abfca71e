import ColumnTypes.Proofs.Command.Configuring

/-!
# Histories of sessions

What a run does depends on its surroundings and, for `columns` and `validate`, on whether an earlier
run of the same command has left the console stuck.  The rest of the history does not matter: not
the order of the runs, nor how they ended, nor how the logger was configured.

Main statement: `outcome_independent_of_history`, for any two histories with the same surroundings
at the end.  It says, too, how a history leaves the logger.

## Strategy

One step configures the logger with at most one flag (`logging_step`) and changes the surroundings
only from outside (`surroundings_step`); from this the state after a history follows by induction.
The outcome of a run is read off the effect of its action, in which the logger does not occur, and
what is logged are warnings, which the logger lets through however it is configured.
-/

namespace ColumnTypes.Command

open Command.Action

variable {s : Surroundings} {arguments : List String} {n : Name} {given : List Given}
  {operands : List String}

/-! ## Calls -/

theorem Name.ofWord?_word (n : Name) : Name.ofWord? n.word = some n := by
  cases n <;> rfl

theorem Name.word_of_ofWord? {word : String} (h : Name.ofWord? word = some n) : word = n.word := by
  unfold Name.ofWord? at h
  have hword := List.find?_some h
  exact (beq_iff_eq.1 hword).symm

/-- The call that arguments make is the one that is accepted. -/
theorem call?_eq_some_iff :
    call? s arguments = some ⟨n, given, operands⟩ ↔ IsAccepted s n given operands arguments := by
  unfold call? IsAccepted
  constructor
  · intro h
    split at h
    · rename_i before word rest hwords
      obtain ⟨m, hm, hread⟩ := Option.bind_eq_some_iff.1 h
      obtain rfl := Name.word_of_ofWord? hm
      split at hread
      · rename_i given' operands' hrun
        obtain ⟨rfl, rfl, rfl⟩ := Call.mk.inj (Option.some.inj hread)
        exact ⟨before, rest, hwords, hrun⟩
      · exact nomatch hread
    · exact nomatch h
  · rintro ⟨before, rest, hwords, hread⟩
    rw [hwords]
    dsimp only
    rw [Name.ofWord?_word, Option.bind_some, hread]

/-- Without a call the program only writes. -/
theorem isWriting_program (h : call? s arguments = none) :
    IsWriting .out (program s arguments) := by
  have hnot : ∀ n given operands, ¬IsAccepted s n given operands arguments := by
    intro n given operands haccepted
    exact nomatch h.symm.trans (call?_eq_some_iff.2 haccepted)
  unfold program
  split
  · exact .bind isWriting_echo.of_err fun _ => .stop (by simp [usageExit])
  · split
    · exact isWriting_refuse.of_err
    · exact isWriting_inform
    · rename_i before words hwords
      unfold runWords
      split
      · exact isWriting_refuse.of_err
      · rename_i word rest
        split
        · rename_i n hn
          obtain rfl := Name.word_of_ofWord? hn
          unfold runCommand
          split
          · exact isWriting_refuse.of_err
          · exact isWriting_inform
          · rename_i given operands hread
            exact absurd ⟨before, rest, hwords, hread⟩ (hnot n given operands)
        · split
          · exact isWriting_refuse.of_err
          · exact isWriting_inform
          · exact isWriting_refuse.of_err

/-! ## Runs -/

theorem performOn_false : performOn false s n given operands = perform s n given operands := by
  cases n <;> rfl

/-- The console of `resolve` is never stuck. -/
theorem performOn_resolve (stuck : Bool) :
    performOn stuck s .resolve given operands = perform s .resolve given operands := by
  cases stuck <;> rfl

/-- The flag with which a run configures the logger, if it comes to that. -/
def runFlag? (s : Surroundings) (arguments : List String) : Option Bool :=
  (call? s arguments).bind fun c => c.name.flag? s c.given

namespace Session

variable {t t' : Session}

/-- Whatever has happened before, a run leaves the same for the logger. -/
theorem exists_leaves_action (s : Surroundings) (arguments : List String) :
    ∃ logs, AllWarnings logs ∧ ∀ t : Session, t.surroundings = s →
      (t.action arguments).Leaves (runFlag? s arguments) logs := by
  unfold runFlag?
  cases hcall : call? s arguments with
  | none =>
      refine ⟨[], allWarnings_nil, ?_⟩
      rintro t rfl
      unfold action
      rw [hcall]
      exact (isWriting_program hcall).onlyWrites
  | some c =>
      obtain ⟨n, given, operands⟩ := c
      obtain ⟨logs, hlogs, hleaves, hstuck⟩ := exists_leaves_perform s n given operands
      refine ⟨logs, hlogs, ?_⟩
      rintro t rfl
      unfold action
      rw [hcall]
      show (performOn (t.stuck.contains n) t.surroundings n given operands).Leaves
        (n.flag? t.surroundings given) logs
      by_cases hn : n = .resolve
      · subst hn
        rw [performOn_resolve]
        exact hleaves
      · -- Stuck or not, the console does not matter to the logger.
        cases t.stuck.contains n with
        | false =>
            rw [performOn_false]
            exact hleaves
        | true =>
            obtain ⟨cause, heffect⟩ := hstuck hn
            exact ⟨_, heffect, rfl, rfl⟩

/-- What is seen of a run is its effect, in which the logger does not occur. -/
theorem outcome_of_hasEffect {e : Effect Unit} (he : (t.action arguments).HasEffect e)
    (hlogs : AllWarnings e.logs) : t.outcome arguments = ⟨e.ending, e.out, e.err, e.logs⟩ := by
  have hrun : t.run arguments = (e.ending, e.progress (.start t.logging)) := he.run_eq t.logging
  have hthrough (l : Logging) : e.logs.filter l.letsThrough = e.logs :=
    List.filter_eq_self.2 fun r hr => l.letsThrough_of_warning (hlogs r hr)
  unfold outcome
  rw [hrun]
  simp [Effect.progress, Progress.start, hthrough]

/-- A run configures the logger with its flag, if it has one. -/
theorem logging_invoke (t : Session) (arguments : List String) :
    (t.invoke arguments).logging =
      t.logging.configuredWith (runFlag? t.surroundings arguments) := by
  obtain ⟨logs, -, hleaves⟩ := exists_leaves_action t.surroundings arguments
  obtain ⟨e, he, hflag, -⟩ := hleaves t rfl
  have hrun : t.run arguments = (e.ending, e.progress (.start t.logging)) := he.run_eq t.logging
  unfold invoke
  rw [hrun, ← hflag]
  rfl

/-- The same surroundings give the same records. -/
theorem records_eq_of_surroundings_eq (h : t'.surroundings = t.surroundings) :
    (t'.outcome arguments).records = (t.outcome arguments).records := by
  obtain ⟨logs, hlogs, hleaves⟩ := exists_leaves_action t.surroundings arguments
  obtain ⟨e, he, -, rfl⟩ := hleaves t rfl
  obtain ⟨e', he', -, hlogs'⟩ := hleaves t' h
  rw [outcome_of_hasEffect he hlogs, outcome_of_hasEffect he' (hlogs' ▸ hlogs), hlogs']

/-- The same action is seen in the same way, however the logger is configured. -/
theorem outcome_eq_of_action_eq (h : t'.action arguments = t.action arguments) :
    t'.outcome arguments = t.outcome arguments := by
  obtain ⟨logs, hlogs, hleaves⟩ := exists_leaves_action t.surroundings arguments
  obtain ⟨e, he, -, rfl⟩ := hleaves t rfl
  rw [outcome_of_hasEffect he hlogs, outcome_of_hasEffect (h ▸ he) hlogs]

/-- A run does the same where the surroundings are the same and its console is stuck in both or in
neither. -/
theorem action_eq (h : t'.surroundings = t.surroundings)
    (hstuck : ∀ n given operands, IsAccepted t.surroundings n given operands arguments →
      n ≠ .resolve → (n ∈ t'.stuck ↔ n ∈ t.stuck)) :
    t'.action arguments = t.action arguments := by
  unfold action
  rw [h]
  cases hcall : call? t.surroundings arguments with
  | none => rfl
  | some c =>
      obtain ⟨n, given, operands⟩ := c
      dsimp only
      by_cases hn : n = .resolve
      · subst hn
        rw [performOn_resolve, performOn_resolve]
      · have hiff := hstuck n given operands (call?_eq_some_iff.1 hcall) hn
        have hcontains : t'.stuck.contains n = t.stuck.contains n := by
          rw [Bool.eq_iff_iff, List.contains_iff_mem, List.contains_iff_mem]
          exact hiff
        rw [hcontains]

/-- A run on a console that is not stuck is a run of the program by itself. -/
theorem run_eq_invoke (h : ∀ n given operands,
    IsAccepted t.surroundings n given operands arguments → n ≠ .resolve → n ∉ t.stuck) :
    t.run arguments = Command.invoke t.surroundings t.logging arguments := by
  have haction : t.action arguments = program t.surroundings arguments := by
    unfold action
    cases hcall : call? t.surroundings arguments with
    | none => rfl
    | some c =>
        obtain ⟨n, given, operands⟩ := c
        have haccepted := call?_eq_some_iff.1 hcall
        rw [program_of_isAccepted haccepted]
        dsimp only
        by_cases hn : n = .resolve
        · subst hn
          rw [performOn_resolve]
        · have hcontains : t.stuck.contains n = false := by
            rw [Bool.eq_false_iff, ne_eq, List.contains_iff_mem]
            exact h n given operands haccepted hn
          rw [hcontains, performOn_false]
  unfold run Command.invoke
  rw [haction]

/-- A run on a stuck console prints nothing. -/
theorem outcome_of_mem_stuck (haccepted : IsAccepted t.surroundings n given operands arguments)
    (hn : n ≠ .resolve) (hstuck : n ∈ t.stuck) :
    (t.outcome arguments).out = "" ∧ (t.outcome arguments).err = "" ∧
      ∃ cause, (t.outcome arguments).ending = .crash cause := by
  obtain ⟨logs, hlogs, -, hbreaks⟩ := exists_leaves_perform t.surroundings n given operands
  obtain ⟨cause, he⟩ := hbreaks hn
  have haction : t.action arguments = performOn true t.surroundings n given operands := by
    unfold action
    rw [call?_eq_some_iff.2 haccepted]
    dsimp only
    rw [List.contains_iff_mem.2 hstuck]
  rw [← haction] at he
  rw [outcome_of_hasEffect he hlogs]
  exact ⟨rfl, rfl, cause, rfl⟩

end Session

/-! ## Histories -/

/-- The flag with which something that happens configures the logger, if it does. -/
def Event.flag? (s : Surroundings) : Event → Option Bool
  | .configure debug => some debug
  | .invoke arguments => runFlag? s arguments
  | .change _ => none

/-- The surroundings after something has happened: only changes from outside change them. -/
def Event.surroundings (s : Surroundings) : Event → Surroundings
  | .change surroundings => surroundings
  | .configure _ | .invoke _ => s

/-- The surroundings after a history. -/
def reached (s : Surroundings) (history : List Event) : Surroundings :=
  history.foldl Event.surroundings s

/-- The flags with which the logger is configured in a history, one after the other. -/
def configuredFlags (s : Surroundings) : List Event → List Bool
  | [] => []
  | event :: history => (event.flag? s).toList ++ configuredFlags (event.surroundings s) history

namespace Session

variable {t : Session}

theorem surroundings_step (t : Session) (event : Event) :
    (t.step event).surroundings = event.surroundings t.surroundings := by
  cases event <;> rfl

theorem logging_step (t : Session) (event : Event) :
    (t.step event).logging = t.logging.configuredWith (event.flag? t.surroundings) := by
  cases event with
  | configure debug => rfl
  | invoke arguments => exact t.logging_invoke arguments
  | change surroundings => rfl

/-- No run changes the surroundings. -/
theorem surroundings_after (t : Session) (history : List Event) :
    (t.after history).surroundings = reached t.surroundings history := by
  induction history generalizing t with
  | nil => rfl
  | cons event history ih =>
      show ((t.step event).after history).surroundings = _
      rw [ih, surroundings_step]
      rfl

/-- The last configuration of a history is the one that counts. -/
theorem logging_after (t : Session) (history : List Event) :
    (t.after history).logging =
      t.logging.configuredWith (configuredFlags t.surroundings history).getLast? := by
  induction history generalizing t with
  | nil => rfl
  | cons event history ih =>
      show ((t.step event).after history).logging = _
      have hlast : (event.flag? t.surroundings).toList.getLast? = event.flag? t.surroundings := by
        cases event.flag? t.surroundings <;> rfl
      rw [ih, logging_step, surroundings_step, ← Logging.configuredWith_or, configuredFlags,
        List.getLast?_append, hlast]

/-- An earlier run of a command has broken off at a text that could not be written to the output
stream. -/
def BrokeOff (t : Session) (n : Name) (history : List Event) : Prop :=
  ∃ before arguments rest given operands, history = before ++ .invoke arguments :: rest ∧
    IsAccepted (t.after before).surroundings n given operands arguments ∧
    ((t.after before).outcome arguments).ending = .crash .unencodable

/-- The first event of a history breaks a command off, or a later one does. -/
theorem brokeOff_cons_iff {event : Event} {history : List Event} :
    t.BrokeOff n (event :: history) ↔
      (∃ arguments given operands, event = .invoke arguments ∧
        IsAccepted t.surroundings n given operands arguments ∧
        (t.outcome arguments).ending = .crash .unencodable) ∨
      (t.step event).BrokeOff n history := by
  constructor
  · rintro ⟨before, arguments, rest, given, operands, heq, haccepted, hending⟩
    cases before with
    | nil =>
        obtain ⟨rfl, -⟩ := List.cons.inj heq
        exact .inl ⟨arguments, given, operands, rfl, haccepted, hending⟩
    | cons first before =>
        obtain ⟨rfl, rfl⟩ := List.cons.inj heq
        exact .inr ⟨before, arguments, rest, given, operands, rfl, haccepted, hending⟩
  · rintro (⟨arguments, given, operands, rfl, haccepted, hending⟩ |
      ⟨before, arguments, rest, given, operands, rfl, haccepted, hending⟩)
    · exact ⟨[], arguments, history, given, operands, rfl, haccepted, hending⟩
    · exact ⟨event :: before, arguments, rest, given, operands, rfl, haccepted, hending⟩

theorem leavesStuck_iff {ending : Ending} :
    leavesStuck n ending = true ↔ n ≠ .resolve ∧ ending = .crash .unencodable := by
  constructor
  · intro h
    unfold leavesStuck at h
    split at h
    · exact ⟨by decide, rfl⟩
    · exact ⟨by decide, rfl⟩
    · exact nomatch h
  · rintro ⟨hn, rfl⟩
    cases n with
    | resolve => exact absurd rfl hn
    | columns => rfl
    | validate => rfl

/-- A run leaves a console stuck if it breaks its command off. -/
theorem mem_stuck_step_iff {event : Event} (hn : n ≠ .resolve) :
    n ∈ (t.step event).stuck ↔ n ∈ t.stuck ∨
      ∃ arguments given operands, event = .invoke arguments ∧
        IsAccepted t.surroundings n given operands arguments ∧
        (t.outcome arguments).ending = .crash .unencodable := by
  cases event with
  | configure debug => simp [step]
  | change surroundings => simp [step]
  | invoke arguments =>
      show n ∈ t.stuckAfter arguments (t.outcome arguments).ending ↔ _
      unfold stuckAfter
      constructor
      · intro h
        split at h
        · rename_i c hcall
          split_ifs at h with hleaves
          · rcases List.mem_cons.1 h with rfl | h
            · obtain ⟨-, hending⟩ := leavesStuck_iff.1 hleaves
              exact .inr ⟨arguments, _, _, rfl, call?_eq_some_iff.1 hcall, hending⟩
            · exact .inl h
          · exact .inl h
        · exact .inl h
      · rintro (h | ⟨arguments, given, operands, ⟨⟩, haccepted, hending⟩)
        · split
          · split_ifs
            · exact List.mem_cons_of_mem _ h
            · exact h
          · exact h
        · rw [call?_eq_some_iff.2 haccepted]
          dsimp only
          rw [if_pos (leavesStuck_iff.2 ⟨hn, hending⟩)]
          exact List.mem_cons_self

/-- A console is stuck after a history if an earlier run of its command has broken off. -/
theorem mem_stuck_after_iff (t : Session) (history : List Event) (hn : n ≠ .resolve) :
    n ∈ (t.after history).stuck ↔ n ∈ t.stuck ∨ t.BrokeOff n history := by
  induction history generalizing t with
  | nil =>
      refine ⟨.inl, fun h => h.elim id ?_⟩
      rintro ⟨before, arguments, rest, given, operands, heq, -⟩
      exact absurd heq (by simp)
  | cons event history ih =>
      show n ∈ ((t.step event).after history).stuck ↔ _
      rw [ih, mem_stuck_step_iff hn, brokeOff_cons_iff, or_assoc]

/-- Where nothing has happened, no console is stuck. -/
theorem mem_stuck_start_iff {others : List String} {history : List Event} (hn : n ≠ .resolve) :
    n ∈ ((start s others).after history).stuck ↔ (start s others).BrokeOff n history := by
  rw [mem_stuck_after_iff _ _ hn]
  simp [start]

/-- How a history leaves the logger: no console handler before the first configuration and one after
it, the level of the last one, and the handlers of other kinds in their places. -/
theorem logging_start_after (s : Surroundings) (others : List String) (history : List Event) :
    let logging := ((start s others).after history).logging
    (logging.consoleHandlers = if (configuredFlags s history).isEmpty then 0 else 1) ∧
      logging.level = (configuredFlags s history).getLast?.map Logging.levelFor ∧
      logging.handlers.filter (· != .console) = others.map .other := by
  have hothers : (others.map Handler.other).filter (· != .console) = others.map .other := by
    simp
  have hcount : (others.map Handler.other).count .console = 0 := by
    simp [List.count_eq_zero]
  have hafter : ((start s others).after history).logging =
      (⟨none, others.map .other⟩ : Logging).configuredWith (configuredFlags s history).getLast? :=
    logging_after _ history
  dsimp only
  rw [hafter]
  cases hlast : (configuredFlags s history).getLast? with
  | none =>
      obtain hnil : configuredFlags s history = [] := List.getLast?_eq_none_iff.1 hlast
      rw [hnil]
      exact ⟨hcount, rfl, hothers⟩
  | some debug =>
      have hne : (configuredFlags s history).isEmpty = false := by
        cases hflags : configuredFlags s history with
        | nil => exact nomatch (hflags ▸ hlast : ([] : List Bool).getLast? = some debug)
        | cons flag rest => rfl
      rw [hne]
      refine ⟨Logging.consoleHandlers_configure debug _, rfl, ?_⟩
      exact (Logging.other_handlers_configure debug _).trans hothers

end Session

open Session

/-- **Runs are independent of history**, as far as no console is stuck.  After any history of
configurations, runs and changes from outside the logger has a console handler if it has been
configured, by a command or directly, with the level of the last time, and all its handlers of other
kinds; and the surroundings are as they were changed from outside.

After two histories that reach the same surroundings a run logs the same.  It also ends in the same
way and prints the same if it does not call `columns` or `validate`, or if an earlier run of the
same command has broken off at a text that cannot be written to the output stream in both histories
or in neither.  After such a run it prints nothing; where there was none, it is a run of the program
by itself. -/
theorem outcome_independent_of_history {s s' : Surroundings} {history history' : List Event}
    (hreached : reached s' history' = reached s history) (others others' : List String) :
    let t := (start s others).after history
    let t' := (start s' others').after history'
    ((t.logging.consoleHandlers = if (configuredFlags s history).isEmpty then 0 else 1) ∧
      t.logging.level = (configuredFlags s history).getLast?.map Logging.levelFor ∧
      t.logging.handlers.filter (· != .console) = others.map .other ∧
      t.surroundings = reached s history) ∧
    ∀ arguments, (t'.outcome arguments).records = (t.outcome arguments).records ∧
      ((∀ n given operands, IsAccepted t.surroundings n given operands arguments →
        n ≠ .resolve →
          ((start s' others').BrokeOff n history' ↔ (start s others).BrokeOff n history)) →
        t'.outcome arguments = t.outcome arguments) ∧
      (∀ n given operands, IsAccepted t.surroundings n given operands arguments → n ≠ .resolve →
        (start s others).BrokeOff n history →
          (t.outcome arguments).out = "" ∧ (t.outcome arguments).err = "" ∧
            ∃ cause, (t.outcome arguments).ending = .crash cause) ∧
      ((∀ n given operands, IsAccepted t.surroundings n given operands arguments →
        n ≠ .resolve → ¬(start s others).BrokeOff n history) →
          t.run arguments = Command.invoke t.surroundings t.logging arguments) := by
  intro t t'
  obtain ⟨hhandlers, hlevel, hothers⟩ := logging_start_after s others history
  have hsurroundings : t.surroundings = reached s history := surroundings_after _ history
  have hsame : t'.surroundings = t.surroundings :=
    (surroundings_after _ history').trans (hreached.trans hsurroundings.symm)
  refine ⟨⟨hhandlers, hlevel, hothers, hsurroundings⟩, fun arguments => ⟨?_, ?_, ?_, ?_⟩⟩
  · exact records_eq_of_surroundings_eq hsame
  · intro hagree
    refine outcome_eq_of_action_eq (action_eq hsame fun n given operands haccepted hn => ?_)
    rw [mem_stuck_start_iff hn, mem_stuck_start_iff hn]
    exact hagree n given operands haccepted hn
  · intro n given operands haccepted hn hbroke
    exact outcome_of_mem_stuck haccepted hn ((mem_stuck_start_iff hn).2 hbroke)
  · intro hnone
    refine run_eq_invoke fun n given operands haccepted hn hmem => ?_
    exact hnone n given operands haccepted hn ((mem_stuck_start_iff hn).1 hmem)

/-- A history in which runs succeed and fail and the logger is configured twice. -/
def busyHistory : List Event :=
  [.configure true, .invoke ["resolve", "int4"], .change bareDirectory, .invoke ["columns"],
    .change jsonProject]

/-- After it `columns` does what it does where nothing has happened, and the logger has the level of
the run before. -/
theorem outcome_after_busyHistory :
    reached jsonProject [] = reached jsonProject busyHistory ∧
      ((start jsonProject ["file"]).after busyHistory).logging.consoleHandlers = 1 ∧
      ((start jsonProject ["file"]).after busyHistory).logging.level = some .warning ∧
      ((start jsonProject []).after []).outcome ["columns"] =
        ((start jsonProject ["file"]).after busyHistory).outcome ["columns"] := by
  have hstuck : ((start jsonProject ["file"]).after busyHistory).stuck = [] := by decide +kernel
  have hflags : configuredFlags jsonProject busyHistory = [true, false] := by decide +kernel
  have hreached : reached jsonProject [] = reached jsonProject busyHistory := rfl
  have hbusy : ∀ n, n ≠ .resolve → ¬(start jsonProject ["file"]).BrokeOff n busyHistory := by
    intro n hn hbroke
    rw [← mem_stuck_start_iff hn, hstuck] at hbroke
    exact nomatch hbroke
  have hfresh : ∀ n, n ≠ .resolve → ¬(start jsonProject []).BrokeOff n [] := by
    intro n hn hbroke
    exact nomatch (mem_stuck_start_iff hn).2 hbroke
  obtain ⟨⟨hhandlers, hlevel, -, -⟩, hruns⟩ :=
    outcome_independent_of_history hreached ["file"] []
  obtain ⟨-, hequal, -⟩ := hruns ["columns"]
  rw [hflags] at hhandlers hlevel
  refine ⟨hreached, hhandlers, hlevel, hequal fun n given operands _ hn => ?_⟩
  exact iff_of_false (hfresh n hn) (hbusy n hn)

/-- A project with a surrogate for the name of a schema. -/
def brokenSchema : Surroundings where
  files := ⟨[(["pgcodegen.yml"], .file "catalog: c.yml".toUTF8.toList),
    (["c.yml"], .file "schemas:\n- name: \"\\uD800\"".toUTF8.toList)]⟩
  directory := .ofLocation []
  debugVariable := none

/-- Its name cannot be printed, and the project that comes after it is not validated. -/
theorem outcome_after_brokenSchema :
    reached brokenSchema [.invoke ["validate"], .change jsonProject] = reached jsonProject [] ∧
      (((start brokenSchema []).after [.invoke ["validate"], .change jsonProject]).outcome
        ["validate"]).ending ≠ .exit 0 ∧
      (((start jsonProject []).after []).outcome ["validate"]).ending = .exit 0 := by
  have hstuck : ((start brokenSchema []).after [.invoke ["validate"], .change jsonProject]).stuck =
      [.validate] := by
    decide +kernel
  have haccepted : IsAccepted
      ((start brokenSchema []).after [.invoke ["validate"], .change jsonProject]).surroundings
      .validate [] [] ["validate"] := by
    rw [surroundings_after]
    exact ⟨[], [], rfl, rfl⟩
  have hmem : .validate ∈
      ((start brokenSchema []).after [.invoke ["validate"], .change jsonProject]).stuck := by
    rw [hstuck]
    exact List.mem_singleton_self _
  obtain ⟨-, -, cause, hcrash⟩ := outcome_of_mem_stuck haccepted (by decide) hmem
  refine ⟨rfl, ?_, ?_⟩
  · rw [hcrash]
    exact fun h => nomatch h
  · decide +kernel

end ColumnTypes.Command
