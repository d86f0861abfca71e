/-!
# Likeness of words

How much two words have in common, for the guesses that are offered after a misspelt one.  The
longest run that both share is set apart, then the same is done on its left and on its right; the
likeness is the share of characters in such runs.
-/

namespace ColumnTypes.Text

/-- The length of the run that two texts begin with. -/
def commonRun : List Char → List Char → Nat
  | a :: as, b :: bs => if a = b then commonRun as bs + 1 else 0
  | _, _ => 0

/-- A run that two texts share: its length and where it begins in each. -/
structure SharedRun where
  length : Nat
  left : Nat
  right : Nat

/-- The longer of two runs, the first if they are equally long. -/
def SharedRun.longer (a b : SharedRun) : SharedRun :=
  if a.length < b.length then b else a

/-- The first of the longest runs that two texts share. -/
def longestRun (as bs : List Char) : SharedRun :=
  ((List.range as.length).flatMap fun i =>
    (List.range bs.length).map fun j => ⟨commonRun (as.drop i) (bs.drop j), i, j⟩).foldl
      SharedRun.longer ⟨0, 0, 0⟩

/-- The number of characters in runs that two texts share; `fuel` bounds the number of levels. -/
def sharedLength : Nat → List Char → List Char → Nat
  | 0, _, _ => 0
  | fuel + 1, as, bs =>
    let run := longestRun as bs
    if run.length = 0 then 0
    else
      sharedLength fuel (as.take run.left) (bs.take run.right) + run.length +
        sharedLength fuel (as.drop (run.left + run.length)) (bs.drop (run.right + run.length))

/-- Twice the number of shared characters, and the number of all characters. -/
def likeness (a b : String) : Nat × Nat :=
  (2 * sharedLength a.length a.toList b.toList, a.length + b.length)

/-- Whether three fifths of the characters are shared. -/
def isAlike (a b : String) : Bool :=
  let (shared, all) := likeness a b
  3 * all ≤ 5 * shared

/-- The order of guesses: more alike first, then later in the alphabet. -/
def guessedBefore (word a b : String) : Bool :=
  let (m, s) := likeness a word
  let (n, t) := likeness b word
  if m * t = n * s then decide (b ≤ a) else decide (n * s < m * t)

/-- The most guesses that are offered. -/
def guessLimit : Nat := 3

/-- The words that a misspelt one may stand for, in alphabetical order. -/
def guesses (known : List String) (word : String) : List String :=
  let alike := (known.filter (isAlike · word)).mergeSort (guessedBefore word)
  (alike.take guessLimit).mergeSort fun a b => decide (a ≤ b)

end ColumnTypes.Text
