import ColumnTypes.Proofs.Command.Controls
import ColumnTypes.Proofs.Console.Layout

/-!
# Runs of actions

What an action does is told by two statements about it:

* `Action.Returns a p x q` - started with `p` done, it goes on with the value `x` and `q` done;
* `Action.IsFrank a` - if it ends the command early, then not with exit code zero.

A command made of frank actions exits with zero exactly if it returns (`run_eq_exit_zero_iff`), and
a sequence of actions returns exactly if they do, one after the other (`returns_bind_iff`).
-/

namespace ColumnTypes.Command.Action

variable {α β : Type} {a : Action α} {f : α → Action β} {p q : Progress} {x : α} {y : β}

/-! ## Going on -/

/-- An action goes on with a value. -/
def Returns (a : Action α) (p : Progress) (x : α) (q : Progress) : Prop :=
  (ExceptT.run a).run p = (.ok x, q)

/-- An action goes on with one value. -/
theorem Returns.unique {x' : α} {q' : Progress} (h : a.Returns p x q) (h' : a.Returns p x' q') :
    x = x' :=
  Except.ok.inj (Prod.mk.inj (h.symm.trans h')).1

/-- The second of two actions runs where the first goes on. -/
theorem run_bind :
    (ExceptT.run (a >>= f)).run p =
      match (ExceptT.run a).run p with
      | (.ok x, r) => (ExceptT.run (f x)).run r
      | (.error e, r) => (.error e, r) := by
  rcases h : (ExceptT.run a).run p with ⟨e | x, r⟩
  · rw [ExceptT.run_bind, StateT.run_bind, h]
    rfl
  · rw [ExceptT.run_bind, StateT.run_bind, h]
    rfl

/-- A sequence goes on if its actions do, one after the other. -/
theorem returns_bind_iff :
    (a >>= f).Returns p y q ↔ ∃ x r, a.Returns p x r ∧ (f x).Returns r y q := by
  unfold Returns
  rw [run_bind]
  rcases (ExceptT.run a).run p with ⟨e | x, r⟩
  · constructor
    · intro h
      exact nomatch h
    · rintro ⟨x, r', h, -⟩
      exact nomatch h
  · constructor
    · intro h
      exact ⟨x, r, rfl, h⟩
    · rintro ⟨x', r', heq, h⟩
      cases heq
      exact h

/-- What follows an action that goes on begins with what that has done. -/
theorem returns_bind_of_returns {r : Progress} (h : a.Returns p x r) :
    (a >>= f).Returns p y q ↔ (f x).Returns r y q := by
  unfold Returns at h ⊢
  rw [run_bind, h]

/-- What follows an action that goes on exactly under a condition is done exactly under it. -/
theorem returns_bind_of_iff {a : Action Unit} {f : Unit → Action β} {P : Prop} {r : Progress}
    (h : ∀ q, a.Returns p () q ↔ P ∧ q = r) :
    (a >>= f).Returns p y q ↔ P ∧ (f ()).Returns r y q := by
  rw [returns_bind_iff]
  constructor
  · rintro ⟨⟨⟩, r', ha, hf⟩
    obtain ⟨hP, rfl⟩ := (h r').1 ha
    exact ⟨hP, hf⟩
  · rintro ⟨hP, hf⟩
    exact ⟨(), r, (h r).2 ⟨hP, rfl⟩, hf⟩

/-- A value by itself does nothing. -/
theorem returns_pure_iff {x' : α} : Returns (pure x) p x' q ↔ x' = x ∧ q = p := by
  show ((Except.ok x, p) : Except Ending α × Progress) = (.ok x', q) ↔ _
  simp [eq_comm]

/-- A change of what is done goes on. -/
theorem returns_modify_iff {g : Progress → Progress} {u : Unit} :
    Returns (modify g) p u q ↔ q = g p := by
  show ((Except.ok (), g p) : Except Ending Unit × Progress) = (.ok u, q) ↔ _
  simp [eq_comm]

/-- The end of a command does not go on. -/
theorem not_returns_stop {e : Ending} : ¬Returns (stop e : Action α) p x q := by
  show ¬((Except.error e, p) : Except Ending α × Progress) = (.ok x, q)
  simp

/-- A sequence does not go on if its second action never does. -/
theorem not_returns_bind (hf : ∀ x r, ¬(f x).Returns r y q) : ¬(a >>= f).Returns p y q := by
  rw [returns_bind_iff]
  rintro ⟨x, r, -, h⟩
  exact hf x r h

/-- A failure does not go on. -/
theorem not_returns_fail {message : String} : ¬Returns (fail message : Action α) p x q :=
  not_returns_bind fun _ _ => not_returns_stop

/-! ## Writing -/

/-- A text goes to the output stream if no surrogate stands in it. -/
theorem returns_encoded_out_iff {s text : String} :
    (encoded .out s).Returns p text q ↔ text = s ∧ Text.hasSurrogate s = false ∧ q = p := by
  unfold encoded
  cases Text.hasSurrogate s with
  | true => simp [crash, not_returns_stop]
  | false => simp [returns_pure_iff]

/-- It is then written as it is. -/
theorem returns_write_out_iff {s : String} {u : Unit} :
    (write .out s).Returns p u q ↔ Text.hasSurrogate s = false ∧ q = p.write .out s := by
  constructor
  · intro h
    obtain ⟨text, r, hencoded, hwrite⟩ := returns_bind_iff.1 h
    obtain ⟨rfl, hwhole, rfl⟩ := returns_encoded_out_iff.1 hencoded
    exact ⟨hwhole, returns_modify_iff.1 hwrite⟩
  · rintro ⟨hwhole, rfl⟩
    exact returns_bind_iff.2
      ⟨s, p, returns_encoded_out_iff.2 ⟨rfl, hwhole, rfl⟩, returns_modify_iff.2 rfl⟩

/-- Whether marked-up text can be printed on the output stream, on a console of some width: it is
well-formed, and no surrogate is left in what the console shows of it. -/
def isPrintable (width : Nat) (markup : String) : Bool :=
  match Markup.plain markup.toList with
  | .ok plain => !Text.hasSurrogate (paragraphText width (String.ofList plain))
  | .error _ => false

/-- What a console of some width shows of marked-up text that is well-formed. -/
def rendered (width : Nat) (markup : String) : String :=
  match Markup.plain markup.toList with
  | .ok plain => paragraphText width (String.ofList plain)
  | .error _ => ""

/-- Whether marked-up text is well-formed and free of surrogates, so that it can be printed however
wide the console is. -/
def isClean (markup : String) : Bool :=
  match Markup.plain markup.toList with
  | .ok plain => !Text.hasSurrogate (String.ofList plain)
  | .error _ => false

/-- A clean text can be printed on every console. -/
theorem isPrintable_of_isClean {markup : String} (width : Nat) (h : isClean markup = true) :
    isPrintable width markup = true := by
  unfold isClean at h
  unfold isPrintable
  cases hplain : Markup.plain markup.toList with
  | error fault =>
      rw [hplain] at h
      exact nomatch h
  | ok plain =>
      rw [hplain] at h
      dsimp only at h ⊢
      rw [Bool.not_eq_true'] at h ⊢
      exact hasSurrogate_paragraphText h

/-- A text is printed on the output stream exactly if it can be, and then it is shown. -/
theorem returns_print_iff {width : Nat} {markup : String} {u : Unit} :
    (print width .out markup).Returns p u q ↔
      isPrintable width markup = true ∧ q = p.write .out (rendered width markup) := by
  unfold print isPrintable rendered
  cases Markup.plain markup.toList with
  | error fault => simp [crash, not_returns_stop]
  | ok plain =>
      dsimp only
      rw [returns_write_out_iff, Bool.not_eq_true']

/-- A table is printed exactly if no surrogate is left in what the console shows of it. -/
theorem returns_printTable_iff {width : Nat} {heading : List String} {rows : List (List String)}
    {u : Unit} :
    (printTable width .out heading rows).Returns p u q ↔
      Text.hasSurrogate (tableText width heading rows) = false ∧
        q = p.write .out (tableText width heading rows) :=
  returns_write_out_iff

/-- So is a panel. -/
theorem returns_printPanel_iff {width : Nat} {panel : Panel} {u : Unit} :
    (printPanel width .out panel).Returns p u q ↔
      Text.hasSurrogate (panelText width panel) = false ∧
        q = p.write .out (panelText width panel) :=
  returns_write_out_iff

/-- A line break at the end brings no surrogate and hides none. -/
theorem hasSurrogate_append_newline (s : String) :
    Text.hasSurrogate (s ++ "\n") = Text.hasSurrogate s := by
  have hordinary : ∀ c ∈ ['\n'], Text.IsOrdinary c := List.forall_mem_singleton.2 (by decide)
  have hparts : Text.hasSurrogate (String.ofList (s.toList ++ (['\n'] ++ []))) =
      (Text.hasSurrogate (String.ofList s.toList) || Text.hasSurrogate (String.ofList [])) :=
    Text.hasSurrogate_append_append (List.cons_ne_nil _ _) hordinary
  rw [List.append_nil, String.ofList_append, String.ofList_toList] at hparts
  exact hparts.trans (Bool.or_false _)

/-- A text is echoed exactly if no surrogate stands in it, and then as it is, less its control
sequences. -/
theorem returns_echo_out_iff {s : String} {u : Unit} :
    (echo .out s).Returns p u q ↔
      Text.hasSurrogate s = false ∧ q = p.write .out (withoutControls (s ++ "\n")) := by
  unfold echo
  rw [returns_write_out_iff, hasSurrogate_withoutControls_iff, hasSurrogate_append_newline]

/-! ## Going on from everywhere -/

/-- An action that goes on wherever it starts. -/
def GoesOn (a : Action Unit) : Prop :=
  ∀ p, ∃ q, a.Returns p () q

/-- A sequence goes on if its actions do. -/
theorem goesOn_bind {f : α → Action Unit} (ha : ∀ p, ∃ r, a.Returns p x r) (hf : GoesOn (f x)) :
    GoesOn (a >>= f) := by
  intro p
  obtain ⟨r, hr⟩ := ha p
  obtain ⟨q, hq⟩ := hf r
  exact ⟨q, returns_bind_iff.2 ⟨x, r, hr, hq⟩⟩

theorem goesOn_modify {g : Progress → Progress} : GoesOn (modify g) :=
  fun _ => ⟨_, returns_modify_iff.2 rfl⟩

theorem goesOn_write {s : String} (h : Text.hasSurrogate s = false) : GoesOn (write .out s) :=
  fun _ => ⟨_, returns_write_out_iff.2 ⟨h, rfl⟩⟩

theorem goesOn_print {width : Nat} {markup : String} (h : isPrintable width markup = true) :
    GoesOn (print width .out markup) :=
  fun _ => ⟨_, returns_print_iff.2 ⟨h, rfl⟩⟩

/-! ## Ending -/

instance (ending : Ending) (code : Nat) : Decidable (ending = .exit code) :=
  match ending with
  | .exit other => decidable_of_iff (other = code) (by simp)
  | .crash _ => .isFalse (by simp)

/-- An action that does not end the command early with exit code zero. -/
def IsFrank (a : Action α) : Prop :=
  ∀ p, ((ExceptT.run a).run p).1 ≠ .error (.exit 0)

/-- A command that returns exits with zero. -/
theorem run_of_returns {a : Action Unit} {logging : Logging}
    (h : a.Returns (.start logging) () q) : a.run logging = (.exit 0, q) := by
  unfold run
  rw [h]

/-- A command that is frank exits with zero exactly if it returns. -/
theorem run_eq_exit_zero_iff {a : Action Unit} (ha : a.IsFrank) {logging : Logging} :
    a.run logging = (.exit 0, q) ↔ a.Returns (.start logging) () q := by
  refine ⟨?_, run_of_returns⟩
  have hfrank := ha (.start logging)
  unfold run Returns
  rcases h : (ExceptT.run a).run (.start logging) with ⟨e | u, r⟩
  · rw [h] at hfrank
    intro heq
    cases heq
    exact absurd rfl hfrank
  · intro heq
    cases heq
    rfl

theorem isFrank_pure : IsFrank (pure x) :=
  fun _ h => nomatch h

theorem isFrank_modify {g : Progress → Progress} : IsFrank (modify g) :=
  fun _ h => nomatch h

/-- A sequence is frank if its actions are. -/
theorem isFrank_bind (ha : a.IsFrank) (hf : ∀ x, (f x).IsFrank) : (a >>= f).IsFrank := by
  intro p
  have hp := ha p
  rw [run_bind]
  rcases h : (ExceptT.run a).run p with ⟨e | x, r⟩
  · rw [h] at hp
    intro heq
    have heq : (Except.error e : Except Ending β) = .error (.exit 0) := heq
    exact hp (congrArg Except.error (Except.error.inj heq))
  · exact hf x r

/-- Any other end than exit code zero is frank. -/
theorem isFrank_stop {e : Ending} (h : e ≠ .exit 0) : IsFrank (stop e : Action α) := by
  intro p heq
  have heq : (Except.error e : Except Ending α) = .error (.exit 0) := heq
  exact h (Except.error.inj heq)

end ColumnTypes.Command.Action
