import ColumnTypes.Proofs.Command.Writing

/-!
# Effects of actions

What an action does never depends on what has been done before it: it has a result, it adds to the
two streams and to the log, and it configures the logger or leaves it alone.  An `Effect` says all
of this, and `Action.HasEffect` that it is what an action does.

* `Action.Leaves a flag logs` - the action has an effect, with these records, and with this flag in
  the last configuration of the logger, if there is one;
* `Action.OnlyWrites a` - it neither configures the logger nor logs anything;
* `Action.BreaksOff a flag logs` - it writes nothing and breaks the command off.

What comes before the first configuration of the logger only writes.  It goes on with one value or
not at all (`OnlyWrites.returns_or`), and what a command leaves is told by cases on this.
-/

namespace ColumnTypes

/-- The logger after it has been configured with a flag, if there is one. -/
def Logging.configuredWith (flag : Option Bool) (l : Logging) : Logging :=
  match flag with
  | some debug => l.configure debug
  | none => l

/-- Of two configurations the later one counts, if there is one. -/
theorem Logging.configuredWith_or (flag earlier : Option Bool) (l : Logging) :
    l.configuredWith (flag.or earlier) = (l.configuredWith earlier).configuredWith flag := by
  cases flag with
  | none => rfl
  | some debug =>
      cases earlier with
      | none => rfl
      | some before => exact (configure_configure debug before l).symm

namespace Command

/-! ## Effects -/

/-- What an action does, whatever has been done before. -/
structure Effect (α : Type) where
  result : Except Ending α
  out : String
  err : String
  logs : List LogRecord
  /-- The flag with which the logger is last configured, if it is. -/
  flag : Option Bool

namespace Effect

variable {α β : Type}

/-- A result by itself. -/
def ofResult (result : Except Ending α) : Effect α :=
  ⟨result, "", "", [], none⟩

/-- What has been done after an effect. -/
def progress (e : Effect α) (p : Progress) : Progress :=
  ⟨p.out ++ e.out, p.err ++ e.err, p.logs ++ e.logs, p.logging.configuredWith e.flag⟩

/-- One effect after another, with the result of the second. -/
def append (e : Effect α) (e' : Effect β) : Effect β :=
  ⟨e'.result, e.out ++ e'.out, e.err ++ e'.err, e.logs ++ e'.logs, e'.flag.or e.flag⟩

/-- How a command with the effect ends; one that does not end early exits with zero. -/
def ending (e : Effect Unit) : Ending :=
  match e.result with
  | .ok _ => .exit 0
  | .error ending => ending

theorem progress_ofResult (result : Except Ending α) (p : Progress) :
    (ofResult result).progress p = p := by
  simp [progress, ofResult, Logging.configuredWith]

theorem progress_append (e : Effect α) (e' : Effect β) (p : Progress) :
    (e.append e').progress p = e'.progress (e.progress p) := by
  simp [progress, append, String.append_assoc, Logging.configuredWith_or]

end Effect

namespace Action

variable {α β : Type} {a : Action α} {f : α → Action β} {x : α} {ending : Ending}
  {stream : Stream} {flag : Option Bool} {logs : List LogRecord}

/-- An action has an effect. -/
def HasEffect (a : Action α) (e : Effect α) : Prop :=
  ∀ p, (ExceptT.run a).run p = (e.result, e.progress p)

theorem hasEffect_pure : HasEffect (pure x : Action α) (.ofResult (.ok x)) := by
  intro p
  rw [Effect.progress_ofResult]
  rfl

theorem hasEffect_stop : HasEffect (stop ending : Action α) (.ofResult (.error ending)) := by
  intro p
  rw [Effect.progress_ofResult]
  rfl

/-- An action with a value as its result goes on with it. -/
theorem HasEffect.returns {e : Effect α} (ha : a.HasEffect e) (h : e.result = .ok x)
    (p : Progress) : a.Returns p x (e.progress p) := by
  unfold Returns
  rw [ha p, h]

/-- A command does what its effect says. -/
theorem HasEffect.run_eq {a : Action Unit} {e : Effect Unit} (ha : a.HasEffect e)
    (logging : Logging) : a.run logging = (e.ending, e.progress (.start logging)) := by
  unfold run
  rw [ha]
  unfold Effect.ending
  cases e.result <;> rfl

/-- A sequence that stops in its first action. -/
theorem HasEffect.bind_of_error {e : Effect α} (ha : a.HasEffect e) (h : e.result = .error ending) :
    (a >>= f).HasEffect ⟨.error ending, e.out, e.err, e.logs, e.flag⟩ := by
  intro p
  rw [run_bind, ha p, h]
  rfl

/-- A sequence that goes on. -/
theorem HasEffect.bind_of_ok {e : Effect α} {e' : Effect β} (ha : a.HasEffect e)
    (h : e.result = .ok x) (hf : (f x).HasEffect e') : (a >>= f).HasEffect (e.append e') := by
  intro p
  rw [run_bind, ha p, h]
  show (ExceptT.run (f x)).run (e.progress p) = _
  rw [hf, Effect.progress_append]
  rfl

/-! ## What is left for the logger -/

/-- An action configures the logger and logs. -/
def Leaves (a : Action α) (flag : Option Bool) (logs : List LogRecord) : Prop :=
  ∃ e, a.HasEffect e ∧ e.flag = flag ∧ e.logs = logs

/-- An action leaves the logger alone. -/
def OnlyWrites (a : Action α) : Prop :=
  a.Leaves none []

theorem onlyWrites_pure : OnlyWrites (pure x : Action α) :=
  ⟨_, hasEffect_pure, rfl, rfl⟩

theorem onlyWrites_stop : OnlyWrites (stop ending : Action α) :=
  ⟨_, hasEffect_stop, rfl, rfl⟩

/-- An action that only writes goes on with one value from every state, or from none. -/
theorem OnlyWrites.returns_or (ha : a.OnlyWrites) :
    (∃ x, ∀ p, ∃ q, a.Returns p x q) ∨ ∀ p x q, ¬a.Returns p x q := by
  obtain ⟨e, he, -, -⟩ := ha
  cases hresult : e.result with
  | ok x => exact .inl ⟨x, fun p => ⟨_, he.returns hresult p⟩⟩
  | error ending =>
      refine .inr fun p x q h => ?_
      unfold Returns at h
      rw [he p, hresult] at h
      exact nomatch h

/-- After an action that only writes and goes on, the second action is all that counts. -/
theorem OnlyWrites.leaves_bind (ha : a.OnlyWrites) (hx : ∃ p q, a.Returns p x q)
    (hf : (f x).Leaves flag logs) : (a >>= f).Leaves flag logs := by
  obtain ⟨e, he, hflag, hlogs⟩ := ha
  obtain ⟨e', he', rfl, rfl⟩ := hf
  obtain ⟨p, q, hx⟩ := hx
  have hresult : e.result = .ok x := congrArg Prod.fst ((he p).symm.trans hx)
  refine ⟨_, he.bind_of_ok hresult he', ?_, ?_⟩
  · show e'.flag.or e.flag = e'.flag
    rw [hflag, Option.or_none]
  · show e.logs ++ e'.logs = e'.logs
    rw [hlogs, List.nil_append]

/-- After an action that only writes and does not go on, there is nothing more. -/
theorem OnlyWrites.bind_of_not_returns (ha : a.OnlyWrites) (hnot : ∀ p x q, ¬a.Returns p x q) :
    (a >>= f).OnlyWrites := by
  obtain ⟨e, he, hflag, hlogs⟩ := ha
  cases hresult : e.result with
  | ok x => exact absurd (he.returns hresult (.start .unconfigured)) (hnot _ _ _)
  | error ending => exact ⟨_, he.bind_of_error hresult, hflag, hlogs⟩

/-- A sequence only writes if its actions do. -/
theorem onlyWrites_bind (ha : a.OnlyWrites) (hf : ∀ x, (f x).OnlyWrites) :
    (a >>= f).OnlyWrites := by
  rcases ha.returns_or with ⟨x, hx⟩ | hnot
  · obtain ⟨q, hx⟩ := hx (.start .unconfigured)
    exact ha.leaves_bind ⟨_, q, hx⟩ (hf x)
  · exact ha.bind_of_not_returns hnot

theorem hasEffect_configureLogging (debug : Bool) :
    HasEffect (configureLogging debug) ⟨.ok (), "", "", [], some debug⟩ := by
  refine fun p => Prod.ext rfl ?_
  show { p with logging := p.logging.configure debug } =
    (⟨p.out ++ "", p.err ++ "", p.logs ++ [], p.logging.configure debug⟩ : Progress)
  rw [String.append_empty, String.append_empty, List.append_nil]

theorem hasEffect_log (records : List LogRecord) :
    HasEffect (log records) ⟨.ok (), "", "", records, none⟩ := by
  refine fun p => Prod.ext rfl ?_
  show { p with logs := p.logs ++ records } =
    (⟨p.out ++ "", p.err ++ "", p.logs ++ records, p.logging⟩ : Progress)
  rw [String.append_empty, String.append_empty]

/-- The logger is configured, and then left alone. -/
theorem leaves_configureLogging_bind {debug : Bool} {f : Unit → Action β}
    (hf : (f ()).Leaves none logs) : (configureLogging debug >>= f).Leaves (some debug) logs := by
  obtain ⟨e, he, hflag, rfl⟩ := hf
  refine ⟨_, (hasEffect_configureLogging debug).bind_of_ok rfl he, ?_, rfl⟩
  show e.flag.or (some debug) = _
  rw [hflag, Option.none_or]

/-- Records are logged, and then no others. -/
theorem leaves_log_bind {f : Unit → Action β} (hf : (f ()).OnlyWrites) :
    (log logs >>= f).Leaves none logs := by
  obtain ⟨e, he, hflag, hlogs⟩ := hf
  refine ⟨_, (hasEffect_log logs).bind_of_ok rfl he, ?_, ?_⟩
  · show e.flag.or none = _
    rw [hflag, Option.or_none]
  · show logs ++ e.logs = _
    rw [hlogs, List.append_nil]

/-! ## Breaking off -/

/-- An action breaks off before it has written anything, though it may have configured the logger
and logged. -/
def BreaksOff (a : Action α) (flag : Option Bool) (logs : List LogRecord) : Prop :=
  ∃ cause, a.HasEffect ⟨.error (.crash cause), "", "", logs, flag⟩

theorem breaksOff_crash {cause : Crash} : BreaksOff (crash cause : Action α) none [] :=
  ⟨cause, hasEffect_stop⟩

/-- A crash is not followed by anything. -/
theorem crash_bind {cause : Crash} : (crash cause >>= f) = crash cause :=
  rfl

theorem BreaksOff.configureLogging_bind {debug : Bool} {f : Unit → Action β}
    (hf : (f ()).BreaksOff none logs) :
    (configureLogging debug >>= f).BreaksOff (some debug) logs := by
  obtain ⟨cause, he⟩ := hf
  exact ⟨cause, (hasEffect_configureLogging debug).bind_of_ok rfl he⟩

theorem BreaksOff.log_bind {f : Unit → Action β} (hf : (f ()).BreaksOff none []) :
    (log logs >>= f).BreaksOff none logs := by
  obtain ⟨cause, he⟩ := hf
  have hbind := (hasEffect_log logs).bind_of_ok rfl he
  unfold Effect.append at hbind
  rw [List.append_nil] at hbind
  exact ⟨cause, hbind⟩

/-! ## Writing -/

/-- What is written is added to its stream. -/
theorem onlyWrites_put {text : String} :
    OnlyWrites (modify fun p => p.write stream text : Action Unit) := by
  cases stream with
  | out =>
      refine ⟨⟨.ok (), text, "", [], none⟩, fun p => Prod.ext rfl ?_, rfl, rfl⟩
      show p.write .out text = ⟨p.out ++ _, p.err ++ "", p.logs ++ [], p.logging⟩
      rw [String.append_empty, List.append_nil]
      rfl
  | err =>
      refine ⟨⟨.ok (), "", text, [], none⟩, fun p => Prod.ext rfl ?_, rfl, rfl⟩
      show p.write .err text = ⟨p.out ++ "", p.err ++ _, p.logs ++ [], p.logging⟩
      rw [String.append_empty, List.append_nil]
      rfl

/-- What is put together from writing only writes. -/
theorem IsWriting.onlyWrites (h : IsWriting stream a) : a.OnlyWrites := by
  induction h with
  | pure x => exact onlyWrites_pure
  | stop h => exact onlyWrites_stop
  | put h text => exact onlyWrites_put
  | bind _ _ iha ihf => exact onlyWrites_bind iha ihf

end Action

end Command

end ColumnTypes
