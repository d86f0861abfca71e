import Mathlib.Logic.Basic

/-!
# When steps succeed

Steps that may fail succeed one after the other exactly if each does with what the one before it has
given (`bind_eq_ok_iff`).  A step for every element of a list succeeds exactly if each does
(`forM_eq_ok_iff`).
-/

namespace ColumnTypes

variable {ε α β : Type}

/-- A step succeeds after another exactly if both do. -/
theorem bind_eq_ok_iff {r : Except ε α} {f : α → Except ε β} {b : β} :
    r >>= f = .ok b ↔ ∃ a, r = .ok a ∧ f a = .ok b := by
  cases r with
  | error e => simp [bind, Except.bind]
  | ok a => simp [bind, Except.bind]

/-- Going through a list goes on if it does for each element. -/
theorem forM_eq_ok_iff {check : α → Except ε Unit} {xs : List α} :
    xs.forM check = .ok () ↔ ∀ x ∈ xs, check x = .ok () := by
  induction xs with
  | nil => simp [pure, Except.pure]
  | cons x xs ih =>
      have hstep : (x :: xs).forM check = (check x >>= fun _ => xs.forM check) := rfl
      rw [hstep, bind_eq_ok_iff, List.forall_mem_cons, ih]
      exact ⟨fun ⟨_, hx, hxs⟩ => ⟨hx, hxs⟩, fun ⟨hx, hxs⟩ => ⟨(), hx, hxs⟩⟩

end ColumnTypes
