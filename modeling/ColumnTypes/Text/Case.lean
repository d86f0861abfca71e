import ColumnTypes.Text.CaseTable
import ColumnTypes.Text.LowerTable

/-!
# Letter case

`Text.upper` is the full upper-case mapping: a character may become several (`ß` becomes `SS`).
`Text.lowered` is the full lower-case mapping of a text, in which a sigma at the end of a word has a
form of its own.  Inside ASCII both are shifts of letters; the tables hold the rest.
-/

namespace ColumnTypes.Text

/-- The upper case of a character outside ASCII that maps to a single character. -/
def upperOutsideAscii (n : Nat) : Nat :=
  match upperRuns.find? fun (first, last, step, _) =>
      first ≤ n && n ≤ last && (n - first) % step == 0 with
  | some (_, _, _, shift) => (n + shift).toNat
  | none => n

/-- The upper case of a character, as the list of characters it becomes. -/
def upper (c : Char) : List Char :=
  if c.toNat < 128 then
    [if 'a' ≤ c ∧ c ≤ 'z' then Char.ofNat (c.toNat - 32) else c]
  else
    match upperExpansions.find? fun (n, _) => n == c.toNat with
    | some (_, cs) => cs.map Char.ofNat
    | none => [Char.ofNat (upperOutsideAscii c.toNat)]

/-- The lower case of the letters `A` to `Z`; every other character stays. -/
def lowerAscii (c : Char) : Char :=
  if 'A' ≤ c ∧ c ≤ 'Z' then Char.ofNat (c.toNat + 32) else c

/-! ## Lower case -/

/-- The lower case of a character, as the list of characters it becomes, but for sigma. -/
def lower (c : Char) : List Char :=
  let n := c.toNat
  if n < 128 then [lowerAscii c]
  else if n = 0x130 then ['i', '\u0307']
  else match lowerRuns.find? fun (first, last, step, _) =>
      first ≤ n && n ≤ last && (n - first) % step == 0 with
  | some (_, _, _, shift) => [Char.ofNat (n + shift).toNat]
  | none => [c]

/-- Whether a character lies in one of some ranges. -/
def isIn (ranges : List (Nat × Nat)) (c : Char) : Bool :=
  ranges.any fun (first, last) => first ≤ c.toNat && c.toNat ≤ last

/-- Whether the first character that is not passed over has case. -/
def startsCased (cs : List Char) : Bool :=
  match cs.dropWhile (isIn caseIgnorableRanges) with
  | c :: _ => isIn casedRanges c
  | [] => false

/-- The lower case of a sigma between the characters before it, in reverse, and those after it. -/
def lowerSigma (before after : List Char) : Char :=
  if startsCased before && !startsCased after then 'ς' else 'σ'

/-- The lower case of a text after the characters before it, in reverse. -/
def loweredAfter (before : List Char) : List Char → List Char
  | [] => []
  | c :: rest =>
    (if c = 'Σ' then [lowerSigma before rest] else lower c) ++ loweredAfter (c :: before) rest

/-- The lower case of a text. -/
def lowered (cs : List Char) : List Char :=
  loweredAfter [] cs

example : upper 'i' = ['I'] := by decide
example : upper '_' = ['_'] := by decide
example : upper 'ß' = ['S', 'S'] := by decide
example : upper 'é' = ['É'] := by decide
example : lower 'É' = ['é'] := by decide

end ColumnTypes.Text
