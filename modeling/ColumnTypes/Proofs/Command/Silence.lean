import ColumnTypes.Proofs.Command.Agreement
import ColumnTypes.Proofs.Command.Failing

/-!
# Actions that leave the output stream alone

Whether a command that does not succeed can have written to its output is told by two statements:

* `Action.IsSilent a` - whatever becomes of it, it writes nothing to the output stream;
* `Action.EndsSilently a` - if it ends the command early, it has written nothing to it.

Silent actions followed by one that ends silently end silently (`endsSilently_bind`).  Whatever is
put together from writing on the error stream is silent (`IsWriting.isSilent`), explanations and
refusals included, and an echo ends silently: it writes its whole text, or none of it.
-/

namespace ColumnTypes.Command

open Command.Action

namespace Action

variable {α β : Type} {a : Action α} {f : α → Action β} {x : α} {text : String}

/-- An action that writes nothing to the output stream. -/
def IsSilent (a : Action α) : Prop :=
  ∀ p, ((ExceptT.run a).run p).2.out = p.out

/-- An action that has written nothing to the output stream if it ends the command. -/
def EndsSilently (a : Action α) : Prop :=
  ∀ p ending q, a.Ends p ending q → q.out = p.out

/-! ## Sequences -/

theorem isSilent_pure : IsSilent (pure x : Action α) :=
  fun _ => rfl

theorem isSilent_stop {ending : Ending} : IsSilent (stop ending : Action α) :=
  fun _ => rfl

/-- A change of anything but the output stream is silent. -/
theorem isSilent_modify {g : Progress → Progress} (h : ∀ p, (g p).out = p.out) :
    IsSilent (modify g) :=
  h

/-- A sequence of silent actions is silent. -/
theorem isSilent_bind (ha : a.IsSilent) (hf : ∀ x, (f x).IsSilent) : (a >>= f).IsSilent := by
  intro p
  have hp := ha p
  rw [run_bind]
  rcases h : (ExceptT.run a).run p with ⟨e | x, r⟩
  · rw [h] at hp
    exact hp
  · rw [h] at hp
    exact (hf x r).trans hp

/-- A silent action ends silently. -/
theorem IsSilent.endsSilently (ha : a.IsSilent) : a.EndsSilently := by
  intro p ending q h
  have hp := ha p
  unfold Ends at h
  rw [h] at hp
  exact hp

/-- After a silent action, one that ends silently still does. -/
theorem endsSilently_bind (ha : a.IsSilent) (hf : ∀ x, (f x).EndsSilently) :
    (a >>= f).EndsSilently := by
  intro p ending q h
  have hp := ha p
  unfold Ends at h
  rw [run_bind] at h
  rcases hrun : (ExceptT.run a).run p with ⟨e | x, r⟩
  · rw [hrun] at h hp
    obtain rfl : r = q := congrArg Prod.snd h
    exact hp
  · rw [hrun] at h hp
    exact (hf x r ending q h).trans hp

/-! ## Writing -/

/-- What is put together from writing on the error stream is silent. -/
theorem IsWriting.isSilent (h : IsWriting .err a) : a.IsSilent := by
  induction h with
  | pure x => exact isSilent_pure
  | stop h => exact isSilent_stop
  | put h text =>
      obtain rfl := h.elim id id
      exact isSilent_modify fun _ => rfl
  | bind _ _ iha ihf => exact isSilent_bind iha ihf

/-- An echo writes all of its text or nothing. -/
theorem endsSilently_echo {stream : Stream} : EndsSilently (echo stream text) :=
  endsSilently_bind isWriting_encoded.isSilent fun _ _ _ _ h => nomatch h

end Action

/-- A refusal is silent. -/
theorem isSilent_refuse {α : Type} {manual : Manual} {e : UsageError} :
    (refuse manual e : Action α).IsSilent :=
  isWriting_refuse.isSilent

end ColumnTypes.Command
