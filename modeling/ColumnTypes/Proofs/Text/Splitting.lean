import ColumnTypes.Text.Blank

/-!
# Splitting at a separator

`Text.splitAt` is the library's `List.splitOn` (`splitAt_eq_splitOn`), so the laws of the latter
carry over: parts hold no separator (`not_mem_of_mem_splitAt`), there is one more of them than
there are separators (`length_splitAt`), a separator in the middle splits both sides on their own
(`splitAt_append_cons`), and the parts are the only ones that spell the text
(`splitAt_intercalate`).
-/

namespace ColumnTypes.Text

variable {α : Type} [DecidableEq α]

/-- The two splittings are one. -/
theorem splitAt_eq_splitOn (sep : α) (cs : List α) : splitAt sep cs = cs.splitOn sep := by
  induction cs with
  | nil => rfl
  | cons c cs ih =>
      rw [splitAt, List.splitOn_cons_eq_if_modifyHead, ih]
      by_cases h : c = sep
      · simp [h]
      · simp only [h, if_false, beq_iff_eq]
        cases hs : cs.splitOn sep with
        | nil => exact absurd hs (List.splitOn_ne_nil sep cs)
        | cons part parts => rfl

/-- A separator between two texts splits each of them on its own. -/
theorem splitAt_append_cons (sep : α) (as bs : List α) :
    splitAt sep (as ++ sep :: bs) = splitAt sep as ++ splitAt sep bs := by
  simp only [splitAt_eq_splitOn, List.splitOn_append_cons_self]

/-- Parts without the separator are found again in the text that they spell. -/
theorem splitAt_intercalate {sep : α} {parts : List (List α)} (hne : parts ≠ [])
    (h : ∀ part ∈ parts, sep ∉ part) : splitAt sep ([sep].intercalate parts) = parts := by
  rw [splitAt_eq_splitOn, List.splitOn_intercalate sep h hne]

/-- The parts of a text spell it. -/
theorem intercalate_splitAt (sep : α) (cs : List α) :
    [sep].intercalate (splitAt sep cs) = cs := by
  rw [splitAt_eq_splitOn, List.intercalate_splitOn]

/-- No part holds the separator. -/
theorem not_mem_of_mem_splitAt {sep : α} {cs part : List α} (h : part ∈ splitAt sep cs) :
    sep ∉ part := by
  induction cs generalizing part with
  | nil => simp_all [splitAt]
  | cons c cs ih =>
      unfold splitAt at h
      split at h
      · rcases List.mem_cons.1 h with rfl | h'
        · exact List.not_mem_nil
        · exact ih h'
      · next hc =>
        split at h
        · simp_all [Ne.symm]
        · next p ps hs =>
          rcases List.mem_cons.1 h with rfl | h'
          · have hp : sep ∉ p := ih (hs ▸ List.mem_cons_self)
            simpa [Ne.symm hc] using hp
          · exact ih (hs ▸ List.mem_cons_of_mem _ h')

/-- The parts of a text, one after the other, are the text without the separator. -/
theorem flatten_splitAt (sep : α) (cs : List α) :
    (splitAt sep cs).flatten = cs.filter (· ≠ sep) := by
  induction cs with
  | nil => rfl
  | cons c cs ih =>
      unfold splitAt
      by_cases h : c = sep
      · simp [h, ih]
      · cases hs : splitAt sep cs with
        | nil => exact absurd hs (splitAt_ne_nil sep cs)
        | cons part parts =>
            rw [hs] at ih
            simpa [h] using ih

/-- A part holds only what is in the text. -/
theorem mem_of_mem_splitAt {sep c : α} {cs part : List α} (h : part ∈ splitAt sep cs)
    (hc : c ∈ part) : c ∈ cs := by
  induction cs generalizing part with
  | nil =>
      obtain rfl : part = [] := by simpa [splitAt] using h
      exact hc
  | cons x cs ih =>
      unfold splitAt at h
      split at h
      · rcases List.mem_cons.1 h with rfl | h'
        · exact absurd hc List.not_mem_nil
        · exact List.mem_cons_of_mem _ (ih h' hc)
      · split at h
        · next hs => exact absurd hs (splitAt_ne_nil sep cs)
        · next p ps hs =>
          rcases List.mem_cons.1 h with rfl | h'
          · rcases List.mem_cons.1 hc with rfl | hc'
            · exact List.mem_cons_self
            · exact List.mem_cons_of_mem _ (ih (hs ▸ List.mem_cons_self) hc')
          · exact List.mem_cons_of_mem _ (ih (hs ▸ List.mem_cons_of_mem _ h') hc)

/-- There is one more part than there are separators. -/
theorem length_splitAt (sep : α) (cs : List α) :
    (splitAt sep cs).length = cs.count sep + 1 := by
  induction cs with
  | nil => rfl
  | cons c cs ih =>
      unfold splitAt
      split
      · next h => simp [h, ih]
      · next h =>
        cases hs : splitAt sep cs with
        | nil => exact absurd hs (splitAt_ne_nil sep cs)
        | cons part parts =>
            rw [hs] at ih
            simpa [List.count_cons, h] using ih

end ColumnTypes.Text
