import ColumnTypes.Text.WidthTable

/-!
# Widths on a terminal

`Text.width` is the number of terminal cells that a sequence of code points takes.  Two code points
change what stands beside them: a joiner melts the next one into the one before it, and an emoji
selector makes a narrow pictograph wide.  A text is cut between its `signs`, so that what melts
together stays together.
-/

namespace ColumnTypes.Text

/-- Whether a number lies in one of some ranges. -/
def inRanges (ranges : List (Nat × Nat)) (n : Nat) : Bool :=
  ranges.any fun (first, last) => first ≤ n && n ≤ last

/-- The cells that a code point takes on its own; control characters take none. -/
def codeWidth (n : Nat) : Nat :=
  if n < 32 ∨ (127 ≤ n ∧ n < 160) then 0
  else if n < 127 then 1
  else if inRanges zeroWidthRanges n then 0
  else if inRanges doubleWidthRanges n then 2
  else 1

/-- The joiner of two pictographs. -/
def joiner : Nat := 0x200D

/-- The mark that asks for the wide form of a pictograph. -/
def emojiSelector : Nat := 0xFE0F

/-- The cells that an emoji selector adds to the last code point with a width. -/
def selectorWidth (last : Option Nat) : Nat :=
  match last with
  | some n => if inRanges emojiPresentationRanges n then 1 else 0
  | none => 0

/-- The cells of a text after a code point. -/
def widthFrom (last : Option Nat) : List Nat → Nat
  | [] => 0
  | [n] =>
    if n = joiner then 0 else if n = emojiSelector then selectorWidth last else codeWidth n
  | n :: m :: rest =>
    if n = joiner then widthFrom last rest
    else if n = emojiSelector then selectorWidth last + widthFrom none (m :: rest)
    else codeWidth n + widthFrom (if codeWidth n = 0 then last else some n) (m :: rest)

/-- The cells of a text. -/
def width (codes : List Nat) : Nat :=
  widthFrom none codes

/-- The blank that fills a line up. -/
def space : Nat := ' '.toNat

/-- Blanks. -/
def blanks (n : Nat) : List Nat :=
  List.replicate n space

/-- A text with blanks after it up to a width. -/
def padded (limit : Nat) (codes : List Nat) : List Nat :=
  codes ++ blanks (limit - width codes)

/-! ## Signs -/

/-- What a reader sees as one sign: a code point and those that melt into it, with the cells that
they take together. -/
structure Sign where
  codes : List Nat
  cells : Nat
  deriving DecidableEq, Repr

/-- Joins code points to the last of the signs, which stand in reverse; where there is none they are
a sign of their own. -/
def joined (signs : List Sign) (codes : List Nat) (cells : Nat) : List Sign :=
  match signs with
  | sign :: rest => ⟨sign.codes ++ codes, sign.cells + cells⟩ :: rest
  | [] => [⟨codes, cells⟩]

/-- The signs of a text, in reverse, after those before it; `last` is the last code point with a
width that no emoji selector has widened. -/
def signsFrom (last : Option Nat) (signs : List Sign) : List Nat → List Sign
  | [] => signs
  | [n] =>
    if n = joiner then joined signs [n] 0
    else if n = emojiSelector then joined signs [n] (selectorWidth last)
    else if codeWidth n = 0 then joined signs [n] 0
    else ⟨[n], codeWidth n⟩ :: signs
  | n :: m :: rest =>
    if n = joiner then
      if signs.isEmpty then signsFrom last (joined signs [n] 0) (m :: rest)
      else signsFrom last (joined signs [n, m] 0) rest
    else if n = emojiSelector then
      signsFrom (if selectorWidth last = 0 then last else none)
        (joined signs [n] (selectorWidth last)) (m :: rest)
    else if codeWidth n = 0 then signsFrom last (joined signs [n] 0) (m :: rest)
    else signsFrom (some n) (⟨[n], codeWidth n⟩ :: signs) (m :: rest)

/-- The signs of a text. -/
def signs (codes : List Nat) : List Sign :=
  (signsFrom none [] codes).reverse

/-- The code points of signs. -/
def signCodes (signs : List Sign) : List Nat :=
  signs.flatMap Sign.codes

/-- Joining adds the code points at the end. -/
theorem signCodes_reverse_joined (signs : List Sign) (codes : List Nat) (cells : Nat) :
    signCodes (joined signs codes cells).reverse = signCodes signs.reverse ++ codes := by
  cases signs with
  | nil => simp [joined, signCodes]
  | cons sign rest => simp [joined, signCodes]

/-- The signs after others have the code points of both. -/
theorem signCodes_reverse_signsFrom (last : Option Nat) (signs : List Sign) (codes : List Nat) :
    signCodes (signsFrom last signs codes).reverse = signCodes signs.reverse ++ codes := by
  fun_induction signsFrom last signs codes with
  | case1 => simp
  | case2 | case3 | case4 => rw [signCodes_reverse_joined]
  | case5 => simp [signCodes]
  | case6 last signs m rest _ ih => rw [ih, signCodes_reverse_joined, List.append_assoc]; rfl
  | case7 last signs m rest _ ih => rw [ih, signCodes_reverse_joined, List.append_assoc]; rfl
  | case8 last signs m rest _ ih => rw [ih, signCodes_reverse_joined, List.append_assoc]; rfl
  | case9 last signs n m rest _ _ _ ih =>
    rw [ih, signCodes_reverse_joined, List.append_assoc]
    rfl
  | case10 last signs n m rest _ _ _ ih => rw [ih]; simp [signCodes]

/-- Cutting a text into signs loses nothing. -/
theorem signCodes_signs (codes : List Nat) : signCodes (signs codes) = codes := by
  simpa [signs, signCodes] using signCodes_reverse_signsFrom none [] codes

/-- The beginning of some signs that takes exactly a number of cells, with a blank for the first
half of a sign that would go beyond. -/
def cutSigns : Nat → List Sign → List Nat
  | 0, _ => []
  | _, [] => []
  | room, sign :: rest =>
    if sign.cells ≤ room then sign.codes ++ cutSigns (room - sign.cells) rest else [space]

/-- A text brought to exactly a width: cut or padded. -/
def fitted (limit : Nat) (codes : List Nat) : List Nat :=
  if width codes ≤ limit then padded limit codes else cutSigns limit (signs codes)

/-- A text brought within a width: cut if it is too wide. -/
def cropped (limit : Nat) (codes : List Nat) : List Nat :=
  if width codes ≤ limit then codes else cutSigns limit (signs codes)

/-- Pieces of some signs within a width each, after the signs of the current piece, which stand in
reverse, and the cells that these take. -/
def pieces (limit : Nat) (current : List Sign) (used : Nat) : List Sign → List (List Nat)
  | [] => if used = 0 then [] else [signCodes current.reverse]
  | sign :: rest =>
    if used + sign.cells ≤ limit then
      pieces limit (sign :: current) (used + sign.cells) rest
    else signCodes current.reverse :: pieces limit [sign] sign.cells rest

/-- A text cut between signs into pieces within a width each, every one as long as it can be. -/
def chopped (limit : Nat) (codes : List Nat) : List (List Nat) :=
  pieces limit [] 0 (signs codes)

example : width [0x61, 0x09, 0x62] = 2 := by decide
example : (signs [0x61, joiner, 0x62, 0x63]).map Sign.cells = [1, 1] := by decide
example : fitted 2 [0x61, 0x62, 0x63] = [0x61, 0x62] := by decide
example : padded 3 [0x61] = [0x61, space, space] := by decide

end ColumnTypes.Text
