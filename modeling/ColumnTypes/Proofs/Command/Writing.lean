import ColumnTypes.Command.Invocation
import ColumnTypes.Proofs.Command.Running

/-!
# Actions that are put together from writing

Almost all that a command does is put together from writing on its own stream and on the error
stream, and from ends with another exit code than zero. `Action.IsWriting stream a` says this about
the structure of an action, with one case for each way of putting it together. Loading, refusals,
answers and the whole of `validate` are such actions; what is left are the two steps of `columns`
and `resolve` that are about the logger.

What becomes of such actions is told by induction on their structure, once for each property: they
are frank (`IsWriting.isFrank`), they leave the logger alone, and those for the error stream leave
the output stream alone.
-/

namespace ColumnTypes.Command

namespace Action

/-- An action is put together from writing on a stream or the error stream, and from ends with
another exit code than zero. -/
inductive IsWriting (stream : Stream) : {α : Type} → Action α → Prop where
  | pure {α : Type} (x : α) : IsWriting stream (pure x : Action α)
  | stop {α : Type} {ending : Ending} (h : ending ≠ .exit 0) :
      IsWriting stream (stop ending : Action α)
  | put {target : Stream} (h : target = stream ∨ target = .err) (text : String) :
      IsWriting stream (modify fun p => p.write target text)
  | bind {α β : Type} {a : Action α} {f : α → Action β} (ha : IsWriting stream a)
      (hf : ∀ x, IsWriting stream (f x)) : IsWriting stream (a >>= f)

variable {α β : Type} {a : Action α} {f : α → Action β} {stream target : Stream}

/-- What is written on the error stream can be written beside any other. -/
theorem IsWriting.of_err (h : IsWriting .err a) : IsWriting stream a := by
  induction h with
  | pure x => exact .pure x
  | stop h => exact .stop h
  | put h text => exact .put (.inr (h.elim id id)) text
  | bind _ _ iha ihf => exact .bind iha ihf

/-- An action put together from writing does not end the command early with exit code zero. -/
theorem IsWriting.isFrank (h : IsWriting stream a) : a.IsFrank := by
  induction h with
  | pure x => exact isFrank_pure
  | stop h => exact isFrank_stop h
  | put h text => exact isFrank_modify
  | bind _ _ iha ihf => exact isFrank_bind iha ihf

theorem isWriting_crash {cause : Crash} : IsWriting stream (crash cause : Action α) :=
  .stop fun h => nomatch h

/-- A line for each element of a list. -/
theorem isWriting_forM {f : α → Action Unit} (hf : ∀ x, IsWriting stream (f x)) (xs : List α) :
    IsWriting stream (xs.forM f) := by
  induction xs with
  | nil => exact .pure ()
  | cons x xs ih => exact .bind (hf x) fun _ => ih

/-! ## Output -/

/-- A text is encoded for a stream without writing on it. -/
theorem isWriting_encoded {text : String} : IsWriting stream (encoded target text) := by
  unfold encoded
  split
  · split_ifs
    · exact isWriting_crash
    · exact .pure _
  · exact .pure _

theorem isWriting_write {text : String} : IsWriting stream (write stream text) :=
  .bind isWriting_encoded fun text => .put (.inl rfl) text

theorem isWriting_echo {text : String} : IsWriting stream (echo stream text) :=
  isWriting_write

theorem isWriting_print {width : Nat} {markup : String} :
    IsWriting stream (print width stream markup) := by
  unfold print
  split
  · exact isWriting_write
  · exact isWriting_crash

theorem isWriting_printTable {width : Nat} {heading : List String} {rows : List (List String)} :
    IsWriting stream (printTable width stream heading rows) :=
  isWriting_write

theorem isWriting_printPanel {width : Nat} {panel : Panel} :
    IsWriting stream (printPanel width stream panel) :=
  isWriting_write

/-- The message of a failure goes to the error stream. -/
theorem isWriting_fail {message : String} : IsWriting .err (fail message : Action α) :=
  .bind isWriting_echo fun _ => .stop fun h => nomatch h

end Action

open Command.Action

variable {α : Type} {s : Surroundings} {width : Nat} {stream : Stream} {subject : Subject}
  {named : Option Path} {debug : Bool}

/-! ## Loading -/

theorem isWriting_explain {e : LoadError} :
    IsWriting stream (explain width stream subject debug e : Action α) := by
  unfold explain
  split
  · exact isWriting_crash
  · have hline : ∀ {markup},
        IsWriting stream (do print width stream markup; fail e.message : Action α) :=
      .bind isWriting_print fun _ => isWriting_fail.of_err
    cases debug with
    | false => exact hline
    | true => exact .bind isWriting_print fun _ => hline

theorem isWriting_loaded {result : Except LoadError α} :
    IsWriting stream (loaded width stream subject debug result) := by
  cases result with
  | ok x => exact .pure x
  | error e => exact isWriting_explain

theorem isWriting_configPath : IsWriting stream (configPath s named) := by
  unfold configPath
  split
  · exact .pure _
  · split
    · exact .pure _
    · exact isWriting_crash

theorem isWriting_optionalConfig : IsWriting stream (optionalConfig s stream named debug) := by
  refine .bind isWriting_configPath fun found => ?_
  cases found with
  | none => exact .pure none
  | some path => exact .bind isWriting_loaded fun config => .pure (some (config, path))

theorem isWriting_requiredConfig : IsWriting stream (requiredConfig s stream named debug) := by
  refine .bind isWriting_optionalConfig fun found => ?_
  cases found with
  | none => exact .bind (isWriting_forM (fun _ => isWriting_print) _) fun _ => isWriting_fail.of_err
  | some found => exact .pure found

theorem isWriting_requiredCatalog {path : Path} :
    IsWriting stream (requiredCatalog s stream path debug) :=
  isWriting_loaded

/-! ## Commands -/

/-- The table of `columns` with all that is printed around it. -/
theorem isWriting_report {config path driver summary : String} {rows : List (List String)}
    {warns : Prop} [Decidable warns] {warning : Panel} :
    IsWriting .out (do
      print width .out config
      print width .out path
      print width .out driver
      print width .out ""
      printTable width .out columnsHeading rows
      print width .out summary
      if warns then printPanel width .out warning : Action Unit) := by
  refine .bind isWriting_print fun _ => .bind isWriting_print fun _ => ?_
  refine .bind isWriting_print fun _ => .bind isWriting_print fun _ => ?_
  refine .bind isWriting_printTable fun _ => .bind isWriting_print fun _ => ?_
  split
  · exact isWriting_printPanel
  · exact .pure ()

/-- `validate` does nothing but write. -/
theorem isWriting_validate {r : ValidateRequest} : IsWriting .out (validate s r) := by
  refine .bind isWriting_requiredConfig fun found => ?_
  refine .bind isWriting_print fun _ => .bind isWriting_print fun _ => ?_
  refine .bind isWriting_requiredCatalog fun catalog => .bind isWriting_print fun _ => ?_
  refine .bind (isWriting_forM (fun _ => isWriting_print) _) fun _ => ?_
  split
  · exact .bind isWriting_print fun _ => isWriting_print
  · exact isWriting_print

/-- A refusal is told on the error stream. -/
theorem isWriting_refuse {manual : Manual} {e : UsageError} :
    IsWriting .err (refuse manual e : Action α) := by
  unfold refuse
  split
  · exact isWriting_crash
  · have hstop : Ending.exit usageExit ≠ .exit 0 := by simp [usageExit]
    have hline : IsWriting .err
        (do echo .err ("Error: " ++ e.message); stop (.exit usageExit) : Action α) :=
      .bind isWriting_echo fun _ => .stop hstop
    cases e.showsUsage with
    | false => exact hline
    | true => exact .bind isWriting_echo fun _ => hline

/-- An answer to a question is an output. -/
theorem isWriting_inform {manual : Manual} {o : OptionSpec} :
    IsWriting .out (inform manual o) := by
  unfold inform
  split <;> exact isWriting_echo

end ColumnTypes.Command
