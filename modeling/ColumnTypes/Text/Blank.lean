/-!
# Blanks, lines and parts

Two classes of code points that layout depends on, the blanks that separate words and the breaks
that end a line, and the three ways of cutting a text: at a separator, into lines, into words.
Cutting at a separator loses nothing (`joinWith_splitAt`).
-/

namespace ColumnTypes.Text

/-- Code points that separate words. -/
def isBlankCode (n : Nat) : Bool :=
  (9 ≤ n && n ≤ 13) || (28 ≤ n && n ≤ 32) || n == 0x85 || n == 0xA0 || n == 0x1680 ||
  (0x2000 ≤ n && n ≤ 0x200A) || n == 0x2028 || n == 0x2029 || n == 0x202F || n == 0x205F ||
  n == 0x3000

/-- Characters that separate words. -/
def isBlank (c : Char) : Bool :=
  isBlankCode c.toNat

/-- Code points that end a line when a text's width is measured. -/
def endsLine (n : Nat) : Bool :=
  (10 ≤ n && n ≤ 13) || (28 ≤ n && n ≤ 30) || n == 0x85 || n == 0x2028 || n == 0x2029

section parts

variable {α : Type}

/-- The parts of a text between occurrences of a separator; there is always at least one. -/
def splitAt [DecidableEq α] (sep : α) : List α → List (List α)
  | [] => [[]]
  | c :: cs =>
    if c = sep then [] :: splitAt sep cs
    else match splitAt sep cs with
      | [] => [[c]]
      | part :: parts => (c :: part) :: parts

/-- Joins parts with a separator between neighbours. -/
def joinWith (sep : List α) : List (List α) → List α
  | [] => []
  | [part] => part
  | part :: parts => part ++ sep ++ joinWith sep parts

/-- There is at least one part. -/
theorem splitAt_ne_nil [DecidableEq α] (sep : α) (cs : List α) : splitAt sep cs ≠ [] := by
  induction cs with
  | nil => simp [splitAt]
  | cons c cs ih =>
    unfold splitAt
    split
    · simp
    · split <;> simp

/-- Joining the parts of a text with its separator gives the text back. -/
theorem joinWith_splitAt [DecidableEq α] (sep : α) (cs : List α) :
    joinWith [sep] (splitAt sep cs) = cs := by
  induction cs with
  | nil => rfl
  | cons c cs ih =>
    unfold splitAt
    split
    · next h =>
      cases hs : splitAt sep cs with
      | nil => exact absurd hs (splitAt_ne_nil sep cs)
      | cons part parts => rw [hs] at ih; simp [joinWith, ih, h]
    · cases hs : splitAt sep cs with
      | nil => exact absurd hs (splitAt_ne_nil sep cs)
      | cons part parts =>
        rw [hs] at ih
        cases parts with
        | nil => simpa [joinWith] using ih
        | cons q qs => simpa [joinWith] using ih

/-- Drops what is at the end of a text and passes a test. -/
def dropEnd (drops : α → Bool) (cs : List α) : List α :=
  (cs.reverse.dropWhile drops).reverse

end parts

/-- The lines of a text, each without its break; a carriage return and a line feed are one break,
and a break at the very end starts no further line. -/
def lines (codes : List Nat) : List (List Nat) :=
  go [] codes
where
  go (line : List Nat) : List Nat → List (List Nat)
    | [] => if line.isEmpty then [] else [line.reverse]
    | 0x0D :: 0x0A :: rest => line.reverse :: go [] rest
    | n :: rest => if endsLine n then line.reverse :: go [] rest else go (n :: line) rest

/-- The words of a text: its longest runs without a blank. -/
def words (cs : List Char) : List (List Char) :=
  go [] cs
where
  close (word : List Char) (rest : List (List Char)) : List (List Char) :=
    if word.isEmpty then rest else word.reverse :: rest
  go (word : List Char) : List Char → List (List Char)
    | [] => close word []
    | c :: rest => if isBlank c then close word (go [] rest) else go (c :: word) rest

end ColumnTypes.Text
