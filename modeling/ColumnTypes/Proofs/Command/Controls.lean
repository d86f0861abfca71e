import ColumnTypes.Command.Output
import ColumnTypes.Proofs.Text.CodePoints
import Mathlib.Data.List.Basic
import Mathlib.Data.List.TakeWhile

/-!
# Texts without terminal control sequences

What is echoed is a text less its control sequences. All that a control sequence is made of stands
before the surrogates, so a surrogate stands in what is left exactly if it stands in the text
(`hasSurrogate_withoutControls_iff`). What comes before the first escape is left as it is
(`withoutControlsFrom_append`).
-/

namespace ColumnTypes.Command

variable {s : String} {codes rest : List Nat} {fuel n : Nat}

/-! ## What is brought -/

/-- A control sequence is taken from the beginning. -/
theorem suffix_of_afterControl? (h : afterControl? codes = some rest) : rest <:+ codes := by
  unfold afterControl? at h
  split at h
  · rename_i codes
    have hdrop := (List.dropWhile_suffix isIntermediate).trans
      (List.dropWhile_suffix (l := codes) isParameter)
    split at h
    · rename_i n after heq
      split_ifs at h
      obtain rfl := Option.some.inj h
      rw [heq] at hdrop
      exact ((List.suffix_cons n after).trans hdrop).trans
        ((List.suffix_cons _ _).trans (List.suffix_cons _ _))
    · exact nomatch h
  · exact nomatch h

/-- Taking control sequences away brings no new code points. -/
theorem mem_of_mem_withoutControlsFrom (h : n ∈ withoutControlsFrom fuel codes) : n ∈ codes := by
  fun_induction withoutControlsFrom fuel codes with
  | case1 => exact h
  | case2 => exact h
  | case3 fuel m codes rest hafter ih => exact (suffix_of_afterControl? hafter).mem (ih h)
  | case4 fuel m codes hafter ih =>
      rcases List.mem_cons.1 h with rfl | h
      · exact List.mem_cons_self
      · exact List.mem_cons_of_mem _ (ih h)

/-- The code points of a text without its control sequences. -/
theorem codes_withoutControls (s : String) :
    Text.codes (withoutControls s) = withoutControlsFrom (Text.codes s).length (Text.codes s) :=
  Text.codes_ofCodes fun n hn => Text.codes_lt n (mem_of_mem_withoutControlsFrom hn)

/-! ## What is taken away -/

/-- What does not pass a test is not among what is dropped by it. -/
theorem mem_dropWhile_of_mem {α : Type} {test : α → Bool} {xs : List α} {x : α}
    (hx : test x = false) (h : x ∈ xs) : x ∈ xs.dropWhile test := by
  rw [← List.takeWhile_append_dropWhile (p := test) (l := xs)] at h
  rcases List.mem_append.1 h with h | h
  · exact nomatch hx.symm.trans (List.mem_takeWhile_imp h)
  · exact h

/-- A surrogate is no part of a control sequence. -/
theorem mem_of_afterControl? (hn : Text.isSurrogate n = true) (h : afterControl? codes = some rest)
    (hmem : n ∈ codes) : n ∈ rest := by
  have hrange := Text.isSurrogate_iff.1 hn
  have hparameter : isParameter n = false := by
    simp only [isParameter, Char.reduceToNat, Bool.and_eq_false_iff, decide_eq_false_iff_not]
    omega
  have hintermediate : isIntermediate n = false := by
    simp only [isIntermediate, Char.reduceToNat, Bool.and_eq_false_iff, decide_eq_false_iff_not]
    omega
  unfold afterControl? at h
  split at h
  · next cs =>
    have hcs : n ∈ cs := by
      rcases List.mem_cons.1 hmem with rfl | hmem
      · omega
      · rcases List.mem_cons.1 hmem with rfl | hmem
        · omega
        · exact hmem
    have hdrop := mem_dropWhile_of_mem hintermediate (mem_dropWhile_of_mem hparameter hcs)
    split at h
    · next m after heq =>
      split_ifs at h with hend
      obtain rfl := Option.some.inj h
      rw [heq] at hdrop
      rcases List.mem_cons.1 hdrop with rfl | hafter
      · simp only [endsControl, Char.reduceToNat, Bool.and_eq_true, decide_eq_true_iff] at hend
        omega
      · exact hafter
    · exact nomatch h
  · exact nomatch h

/-- Taking control sequences away takes no surrogate away. -/
theorem mem_withoutControlsFrom (hn : Text.isSurrogate n = true) (h : n ∈ codes) :
    n ∈ withoutControlsFrom fuel codes := by
  fun_induction withoutControlsFrom fuel codes with
  | case1 => exact h
  | case2 => exact h
  | case3 fuel m codes rest hafter ih => exact ih (mem_of_afterControl? hn hafter h)
  | case4 fuel m codes hafter ih =>
      rcases List.mem_cons.1 h with rfl | h
      · exact List.mem_cons_self
      · exact List.mem_cons_of_mem _ (ih h)

/-- Control sequences begin with an escape, so what is before the first one stays. -/
theorem withoutControlsFrom_append {before : List Nat} (h : ∀ n ∈ before, n ≠ 0x1B) :
    withoutControlsFrom (before.length + fuel) (before ++ codes) =
      before ++ withoutControlsFrom fuel codes := by
  induction before with
  | nil => rw [List.length_nil, Nat.zero_add, List.nil_append, List.nil_append]
  | cons n before ih =>
      obtain ⟨hn, hbefore⟩ := List.forall_mem_cons.1 h
      have hnone : afterControl? (n :: (before ++ codes)) = none := by
        unfold afterControl?
        split
        · next heq => exact absurd (List.cons.inj heq).1 hn
        · rfl
      rw [List.length_cons, Nat.add_right_comm, List.cons_append, withoutControlsFrom, hnone,
        ih hbefore, List.cons_append]

/-! ## Surrogates -/

/-- Taking control sequences away neither brings a surrogate nor takes one away. -/
theorem hasSurrogate_withoutControls_iff :
    Text.hasSurrogate (withoutControls s) = false ↔ Text.hasSurrogate s = false := by
  rw [Text.hasSurrogate_eq_false_iff, Text.hasSurrogate_eq_false_iff, codes_withoutControls]
  constructor
  · intro h n hn
    by_contra hbroken
    have hsurrogate : Text.isSurrogate n = true := by simpa using hbroken
    exact hbroken (h n (mem_withoutControlsFrom hsurrogate hn))
  · intro h n hn
    exact h n (mem_of_mem_withoutControlsFrom hn)

end ColumnTypes.Command
