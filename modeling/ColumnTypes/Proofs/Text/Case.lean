import ColumnTypes.Text.Case
import ColumnTypes.Text.CodePoints

/-!
# What upper case is made of

The upper case of a character outside ASCII is read from tables: runs of characters that move by a
fixed distance, and characters that become several.  What the tables lead to is **raised**, a letter
from `A` to `Z` or again a character outside ASCII (`isRaised_of_mem_upper`), as the ends of each
run and each of the several characters show.  So no upper case holds a letter from `a` to `z`,
whatever character it is the upper case of (`toNat_of_mem_upper`).
-/

namespace ColumnTypes.Text

/-- A code point of a letter from `A` to `Z`, or of a character outside ASCII. -/
def IsRaised (n : Nat) : Prop :=
  65 ≤ n ∧ n ≤ 90 ∨ 128 ≤ n ∧ n.isValidChar

instance (n : Nat) : Decidable (IsRaised n) :=
  inferInstanceAs (Decidable (65 ≤ n ∧ n ≤ 90 ∨ 128 ≤ n ∧ n.isValidChar))

/-- A raised code point is that of its character. -/
theorem toNat_ofNat_of_isRaised {n : Nat} (h : IsRaised n) : (Char.ofNat n).toNat = n := by
  apply toNat_ofNat
  rcases h with ⟨-, hhigh⟩ | ⟨-, hvalid⟩
  · exact .inl (by omega)
  · exact hvalid

/-- A run moves all its characters into the letters `A` to `Z`, or all of them to one side of the
surrogates outside ASCII. -/
theorem upperRuns_ends : ∀ run ∈ upperRuns,
    65 ≤ run.1 + run.2.2.2 ∧ run.2.1 + run.2.2.2 ≤ 90 ∨
      128 ≤ run.1 + run.2.2.2 ∧ run.2.1 + run.2.2.2 < 0xD800 ∨
      0xDFFF < run.1 + run.2.2.2 ∧ run.2.1 + run.2.2.2 < 0x110000 := by
  decide +kernel

/-- Every one of several characters is raised, and there is at least one. -/
theorem upperExpansions_isRaised :
    ∀ expansion ∈ upperExpansions, expansion.2 ≠ [] ∧ ∀ n ∈ expansion.2, IsRaised n := by
  decide +kernel

/-- Outside ASCII, a character that becomes a single one becomes a raised one. -/
theorem isRaised_upperOutsideAscii {n : Nat} (h : 128 ≤ n) (hvalid : n.isValidChar) :
    IsRaised (upperOutsideAscii n) := by
  unfold upperOutsideAscii
  split
  · next first last step shift hfind =>
    have hrun := upperRuns_ends _ (List.mem_of_find?_eq_some hfind)
    have hwithin := List.find?_some hfind
    simp only [Bool.and_eq_true, decide_eq_true_eq] at hwithin
    obtain ⟨⟨hfirst, hlast⟩, -⟩ := hwithin
    dsimp only at hrun
    unfold IsRaised Nat.isValidChar
    omega
  · exact .inr ⟨h, hvalid⟩

/-- The upper case of a character outside ASCII is raised. -/
theorem isRaised_of_mem_upper {c d : Char} (hc : 128 ≤ c.toNat) (hd : d ∈ upper c) :
    IsRaised d.toNat := by
  unfold upper at hd
  rw [if_neg (by omega)] at hd
  split at hd
  · next code codes hfind =>
    obtain ⟨-, hraised⟩ := upperExpansions_isRaised _ (List.mem_of_find?_eq_some hfind)
    obtain ⟨n, hn, rfl⟩ := List.mem_map.1 hd
    rw [toNat_ofNat_of_isRaised (hraised n hn)]
    exact hraised n hn
  · obtain rfl := List.mem_singleton.1 hd
    have hraised := isRaised_upperOutsideAscii hc c.valid
    rw [toNat_ofNat_of_isRaised hraised]
    exact hraised

/-- The upper case of a character is not empty. -/
theorem upper_ne_nil (c : Char) : upper c ≠ [] := by
  unfold upper
  by_cases hc : c.toNat < 128
  · simp [hc]
  · rw [if_neg hc]
    split
    · next code codes hfind =>
      obtain ⟨hne, -⟩ := upperExpansions_isRaised _ (List.mem_of_find?_eq_some hfind)
      simpa using hne
    · simp

/-- **No upper case holds a letter from `a` to `z`.** -/
theorem toNat_of_mem_upper {c d : Char} (hd : d ∈ upper c) : d.toNat < 97 ∨ 122 < d.toNat := by
  by_cases hc : c.toNat < 128
  · rw [upper, if_pos hc, List.mem_singleton] at hd
    have hrange : 'a' ≤ c ∧ c ≤ 'z' ↔ 97 ≤ c.toNat ∧ c.toNat ≤ 122 := by
      simp only [Char.le_def, UInt32.le_iff_toNat_le]
      rfl
    by_cases hletter : 'a' ≤ c ∧ c ≤ 'z'
    · have hcapital : (Char.ofNat (c.toNat - 32)).toNat = c.toNat - 32 :=
        toNat_ofNat (.inl (by omega))
      rw [hd, if_pos hletter, hcapital]
      omega
    · have houtside := mt hrange.2 hletter
      rw [hd, if_neg hletter]
      omega
  · rcases isRaised_of_mem_upper (by omega) hd with ⟨-, hhigh⟩ | ⟨hlow, -⟩
    · omega
    · omega

end ColumnTypes.Text
