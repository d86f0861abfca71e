import ColumnTypes.Console.Paragraph
import ColumnTypes.Proofs.Text.Splitting
import Mathlib.Data.List.Chain

/-!
# Lines that stay as they are

A text that fits into the width is laid out as it is, unless the console drops or expands one of its
code points or it ends with a blank (`Paragraph.lines_of_width_le`).

The words of a text are placed one after another, each by its own width, and cutting may change
widths: behind a joiner a code point takes no cells.  But a word that another one follows ends with
a blank and not with a joiner, so the widths of the words add up to that of the text at most
(`Text.width_add_le`).
-/

namespace ColumnTypes

namespace Text

variable {last : Option Nat} {codes more : List Nat} {n : Nat}

/-! ## Widths of parts -/

/-- A selector widens what is before it. -/
theorem widthFrom_selector (last : Option Nat) (codes : List Nat) :
    widthFrom last (emojiSelector :: codes) = selectorWidth last + widthFrom none codes := by
  have hne : emojiSelector ≠ joiner := by decide
  cases codes <;> simp [widthFrom, hne]

/-- Any other code point but a joiner takes its own cells. -/
theorem widthFrom_cons (hjoiner : n ≠ joiner) (hselector : n ≠ emojiSelector) :
    widthFrom last (n :: codes) =
      codeWidth n + widthFrom (if codeWidth n = 0 then last else some n) codes := by
  cases codes <;> simp [widthFrom, hjoiner, hselector]

/-- What is before a text can only make it wider. -/
theorem widthFrom_none_le (last : Option Nat) (codes : List Nat) :
    widthFrom none codes ≤ widthFrom last codes := by
  fun_induction widthFrom last codes with
  | case1 => exact Nat.le_refl _
  | case2 last => exact Nat.le_refl _
  | case3 last => exact Nat.zero_le _
  | case4 last n hjoiner hselector =>
      rw [widthFrom_cons hjoiner hselector]
      exact Nat.le_refl _
  | case5 last m rest ih => rwa [widthFrom, if_pos rfl]
  | case6 last m rest =>
      rw [widthFrom_selector]
      exact Nat.add_le_add_right (Nat.zero_le _) _
  | case7 last n m rest hjoiner hselector ih =>
      rw [widthFrom_cons hjoiner hselector]
      refine Nat.add_le_add_left ?_ _
      split_ifs at ih ⊢
      · exact ih
      · exact Nat.le_refl _

/-- The beginning of a text takes no more cells than the text. -/
theorem widthFrom_le_append (last : Option Nat) (codes more : List Nat) :
    widthFrom last codes ≤ widthFrom last (codes ++ more) := by
  fun_induction widthFrom last codes with
  | case1 => exact Nat.zero_le _
  | case2 => exact Nat.zero_le _
  | case3 last =>
      rw [List.singleton_append, widthFrom_selector]
      exact Nat.le_add_right _ _
  | case4 last n hjoiner hselector =>
      rw [List.singleton_append, widthFrom_cons hjoiner hselector]
      exact Nat.le_add_right _ _
  | case5 last m rest ih => rwa [List.cons_append, List.cons_append, widthFrom, if_pos rfl]
  | case6 last m rest _ ih =>
      rw [List.cons_append, widthFrom_selector]
      exact Nat.add_le_add_left ih _
  | case7 last n m rest hjoiner hselector ih =>
      rw [List.cons_append, widthFrom_cons hjoiner hselector]
      exact Nat.add_le_add_left ih _

/-- The widths of two texts add up to that of both at most, unless a joiner melts the second one
into the first. -/
theorem widthFrom_add_le (h : codes.getLast? ≠ some joiner) :
    widthFrom last codes + widthFrom none more ≤ widthFrom last (codes ++ more) := by
  fun_induction widthFrom last codes with
  | case1 last =>
      rw [Nat.zero_add]
      exact widthFrom_none_le last more
  | case2 last => exact absurd rfl h
  | case3 last =>
      rw [List.singleton_append, widthFrom_selector]
  | case4 last n hjoiner hselector =>
      rw [List.singleton_append, widthFrom_cons hjoiner hselector]
      exact Nat.add_le_add_left (widthFrom_none_le _ _) _
  | case5 last m rest ih =>
      rw [List.cons_append, List.cons_append, widthFrom, if_pos rfl]
      cases rest with
      | nil => exact ih (by simp)
      | cons k rest => exact ih (by simpa using h)
  | case6 last m rest _ ih =>
      rw [List.cons_append, widthFrom_selector, Nat.add_assoc]
      exact Nat.add_le_add_left (ih (by simpa using h)) _
  | case7 last n m rest hjoiner hselector ih =>
      rw [List.cons_append, widthFrom_cons hjoiner hselector, Nat.add_assoc]
      exact Nat.add_le_add_left (ih (by simpa using h)) _

/-- The same holds of texts that stand by themselves. -/
theorem width_add_le (h : codes.getLast? ≠ some joiner) :
    width codes + width more ≤ width (codes ++ more) :=
  widthFrom_add_le h

/-- What is dropped at the end of a text makes it no wider. -/
theorem width_dropEnd_le (drops : Nat → Bool) (codes : List Nat) :
    width (dropEnd drops codes) ≤ width codes := by
  obtain ⟨dropped, hdropped⟩ := List.dropWhile_suffix (l := codes.reverse) drops
  have hcodes : dropEnd drops codes ++ dropped.reverse = codes := by
    rw [dropEnd, ← List.reverse_append, hdropped, List.reverse_reverse]
  conv => rhs; rw [← hcodes]
  exact widthFrom_le_append none _ _

end Text

namespace Paragraph

variable {line codes : List Nat} {limit : Nat} {overflow : Overflow}

/-! ## Words -/

/-- The runs of a line spell it. -/
theorem flatten_runs (line : List Nat) : (runs line).flatten = line := by
  fun_induction runs line with
  | case1 => rfl
  | case2 n line m run rest hruns hcut ih =>
      rw [hruns] at ih
      rw [← ih]
      simp
  | case3 n line m run rest hruns hcut ih =>
      rw [hruns] at ih
      rw [← ih]
      simp
  | case4 n line _ ih => simp [ih]

/-- The words of a line spell it. -/
theorem flatten_words (line : List Nat) : (words line).flatten = line := by
  unfold words joinLeading
  conv => rhs; rw [← flatten_runs line]
  split
  · next first second rest hruns =>
    rw [hruns]
    split_ifs <;> simp
  · rfl

/-- A piece that ends with a blank. -/
def EndsBlank (piece : List Nat) : Prop :=
  ∃ n, piece.getLast? = some n ∧ Text.isBlankCode n = true

instance (piece : List Nat) : Decidable (EndsBlank piece) :=
  inferInstanceAs (Decidable (∃ n, n ∈ piece.getLast? ∧ Text.isBlankCode n = true))

/-- Only the last of two pieces matters for that, where it is not empty. -/
theorem endsBlank_append_iff {piece more : List Nat} (h : more ≠ []) :
    EndsBlank (piece ++ more) ↔ EndsBlank more := by
  unfold EndsBlank
  rw [List.getLast?_append_of_ne_nil piece h]

/-- A blank is no joiner. -/
theorem EndsBlank.getLast?_ne {piece : List Nat} (h : EndsBlank piece) :
    piece.getLast? ≠ some Text.joiner := by
  obtain ⟨n, hlast, hblank⟩ := h
  rintro hjoiner
  obtain rfl := Option.some.inj (hlast.symm.trans hjoiner)
  exact absurd hblank (by decide)

/-- No run is empty. -/
theorem ne_nil_of_mem_runs {run : List Nat} (h : run ∈ runs line) : run ≠ [] := by
  fun_induction runs line with
  | case1 => exact nomatch h
  | case2 n line m run rest hruns hcut ih =>
      rcases List.mem_cons.1 h with rfl | h
      · exact List.cons_ne_nil _ _
      · exact ih (hruns ▸ h)
  | case3 n line m run rest hruns hcut ih =>
      rcases List.mem_cons.1 h with rfl | h
      · exact List.cons_ne_nil _ _
      · exact ih (hruns ▸ List.mem_cons_of_mem _ h)
  | case4 n line _ ih =>
      rcases List.mem_cons.1 h with rfl | h
      · exact List.cons_ne_nil _ _
      · exact ih h

/-- A run that another one follows ends with a blank. -/
theorem isChain_runs (line : List Nat) : (runs line).IsChain fun run _ => EndsBlank run := by
  fun_induction runs line with
  | case1 => exact .nil
  | case2 n line m run rest hruns hcut ih =>
      rw [hruns] at ih
      rw [Bool.and_eq_true] at hcut
      exact .cons_cons ⟨n, rfl, hcut.1⟩ ih
  | case3 n line m run rest hruns hcut ih =>
      rw [hruns] at ih
      cases rest with
      | nil => exact .singleton _
      | cons next rest =>
          obtain ⟨⟨k, hlast, hblank⟩, hrest⟩ := List.isChain_cons_cons.1 ih
          exact .cons_cons ⟨k, by simpa using hlast, hblank⟩ hrest
  | case4 n line hruns ih =>
      have hnone : runs line = [] := by
        cases hfirst : runs line with
        | nil => rfl
        | cons run rest =>
            obtain ⟨m, tail, rfl⟩ := List.exists_cons_of_ne_nil
              (ne_nil_of_mem_runs (hfirst ▸ List.mem_cons_self : run ∈ runs line))
            exact absurd hfirst (hruns m tail rest)
      rw [hnone]
      exact .singleton _

/-- So does a word. -/
theorem isChain_words (line : List Nat) : (words line).IsChain fun word _ => EndsBlank word := by
  have hruns := isChain_runs line
  unfold words joinLeading
  split
  · next first second rest heq =>
    rw [heq] at hruns
    split_ifs
    · cases rest with
      | nil => exact .singleton _
      | cons next rest =>
          obtain ⟨-, hrest⟩ := List.isChain_cons_cons.1 hruns
          obtain ⟨⟨n, hlast, hblank⟩, hrest⟩ := List.isChain_cons_cons.1 hrest
          exact .cons_cons ⟨n, by simp [List.getLast?_append, hlast], hblank⟩ hrest
    · exact hruns
  · exact hruns

/-! ## Layout -/

/-- Words that fit together are all placed on the line that they begin with. -/
theorem foldl_place_of_fits {l : Layout} {ws : List (List Nat)}
    (hwords : ws.IsChain fun word _ => EndsBlank word)
    (hfits : l.used + Text.width ws.flatten ≤ limit) :
    (ws.foldl (Layout.place limit overflow) l).lines = l.done ++ [l.current ++ ws.flatten] := by
  induction ws generalizing l with
  | nil => simp [Layout.lines]
  | cons w ws ih =>
      have hsum : Text.width w + Text.width ws.flatten ≤ Text.width (w :: ws).flatten := by
        cases ws with
        | nil => simp [Text.width, Text.widthFrom]
        | cons next rest =>
            obtain ⟨hblank, -⟩ := List.isChain_cons_cons.1 hwords
            exact Text.width_add_le hblank.getLast?_ne
      have hsize := Text.width_dropEnd_le Text.isBlankCode w
      have hplace : l.place limit overflow w = l.sameLine w := by
        unfold Layout.place
        dsimp only
        rw [if_pos (by omega)]
      have hused : (l.sameLine w).used + Text.width ws.flatten ≤ limit := by
        unfold Layout.sameLine
        dsimp only
        omega
      rw [List.foldl_cons, hplace, ih hwords.tail hused]
      simp [Layout.sameLine]

/-- A line that fits and does not end with a blank is not trimmed. -/
theorem trimmedTo_of_fits (hfits : Text.width line ≤ limit) (hend : ¬EndsBlank line) :
    trimmedTo limit overflow line = line := by
  have hkept : Text.dropEnd Text.isBlankCode line = line := by
    unfold Text.dropEnd
    cases hreverse : line.reverse with
    | nil => rw [← List.reverse_reverse line, hreverse]; rfl
    | cons n rest =>
        have hlast : line.getLast? = some n := by
          rw [← List.head?_reverse, hreverse, List.head?_cons]
        have hblank : Text.isBlankCode n = false :=
          Bool.eq_false_iff.2 fun hblank => hend ⟨n, hlast, hblank⟩
        rw [List.dropWhile_cons, if_neg (by simp [hblank]), ← hreverse, List.reverse_reverse]
  unfold trimmedTo
  dsimp only
  rw [hkept, Nat.sub_self, Nat.zero_min, Nat.sub_zero, List.take_length, if_pos hfits]

/-- A line without tabs has no blanks to expand. -/
theorem untabbedFrom_of_no_tab {column : Nat} {part : List Nat} (h : tab ∉ line) :
    untabbedFrom column part line = part.reverse ++ line := by
  induction line generalizing part with
  | nil => simp [untabbedFrom]
  | cons n line ih =>
      rw [List.mem_cons, not_or] at h
      rw [untabbedFrom, if_neg (Ne.symm h.1), ih h.2]
      simp

/-- A code point that the console leaves where it is: no control character that it drops, no tab and
no line break. -/
def isKept (n : Nat) : Bool :=
  !isDropped n && n != tab && n != lineFeed

/-- All that the console does not keep comes before the blank. -/
theorem isKept_of_le {n : Nat} (h : Text.space ≤ n) : isKept n = true := by
  have hspace : Text.space = 32 := rfl
  have htab : tab = 9 := rfl
  have hbreak : lineFeed = 10 := rfl
  have hdropped : isDropped n = false := by
    simp only [isDropped, List.contains_eq_mem, List.mem_cons, List.not_mem_nil, or_false,
      decide_eq_false_iff_not]
    omega
  simp only [isKept, hdropped, Bool.not_false, Bool.true_and, Bool.and_eq_true, bne_iff_ne]
  omega

/-- **A line that fits is laid out as it is.** -/
theorem lines_of_width_le (hlimit : 0 < limit) (hfits : Text.width codes ≤ limit)
    (hkept : ∀ n ∈ codes, isKept n = true) (hend : ¬EndsBlank codes) :
    lines limit overflow (clean codes) = [codes] := by
  simp only [isKept, Bool.and_eq_true, Bool.not_eq_true', bne_iff_ne] at hkept
  have hclean : clean codes = codes := by
    refine List.filter_eq_self.2 fun n hn => ?_
    rw [(hkept n hn).1.1]
    rfl
  have hsplit : Text.splitAt lineFeed codes = [codes] := by
    have hparts : ∀ part ∈ [codes], lineFeed ∉ part :=
      List.forall_mem_singleton.2 fun hmem => (hkept _ hmem).2 rfl
    have hjoined := Text.splitAt_intercalate (List.cons_ne_nil codes []) hparts
    rwa [List.intercalate_singleton] at hjoined
  have htabs : untabbed codes = codes := by
    unfold untabbed
    rw [untabbedFrom_of_no_tab fun hmem => (hkept _ hmem).1.2 rfl]
    rfl
  unfold lines wrap
  rw [if_neg (Nat.ne_of_gt hlimit), hclean, hsplit, List.flatMap_singleton, htabs,
    foldl_place_of_fits (isChain_words codes)]
  · rw [flatten_words]
    simp [Layout.start, trimmedTo_of_fits hfits hend]
  · rw [flatten_words]
    simpa [Layout.start] using hfits

end Paragraph

end ColumnTypes
