import ColumnTypes.Text.CodePoints

/-!
# Marks in a YAML text

A `Mark` says where in a text something is.  Its text in a message names line and column and shows
the line around the mark with a caret below it.
-/

namespace ColumnTypes.Yaml

/-- A place in a text: how many characters are before it, in how many ended lines, and how many
columns of its own line. -/
structure Mark where
  index : Nat
  line : Nat
  column : Nat
  deriving DecidableEq, Repr

namespace Mark

/-- Line breaks: carriage return, line feed, next line, line and paragraph separator. -/
def endsLine (c : Char) : Bool :=
  c == '\n' || c == '\r' || c == '\u0085' || c == '\u2028' || c == '\u2029'

/-- From this many characters on one side of a mark a line is shortened there. -/
def sideLimit : Nat := 37

/-- How many characters stay on a side that is shortened. -/
def sideLength : Nat := 32

/-- What stands for the characters left out. -/
def gap : List Char := " ... ".toList

/-- One side of a mark in its line, the nearest character first, and whether it was shortened. -/
def side (cs : List Char) : List Char × Bool :=
  let line := cs.takeWhile (!endsLine ·)
  if sideLimit ≤ line.length then (line.take sideLength, true) else (line, false)

/-- The margin of a line that is shown. -/
def margin : List Char := "    ".toList

/-- The line around a mark in a text, and below it a caret. -/
def snippet (text : List Char) (m : Mark) : List Char :=
  let (before, cut) := side (text.take m.index).reverse
  let (after, cutAfter) := side (text.drop m.index)
  let front := margin ++ (if cut then gap else []) ++ before.reverse
  front ++ after ++ (if cutAfter then gap else []) ++ '\n' :: List.replicate front.length ' ' ++
    ['^']

/-- The text of a mark in a message. -/
def shown (text : List Char) (m : Mark) : String :=
  "  in \"<unicode string>\", line " ++ toString (m.line + 1) ++ ", column " ++
    toString (m.column + 1) ++ ":\n" ++ Text.ofChars (m.snippet text)

/-- Whether two marks are in the same line and column. -/
def sameSpot (m n : Mark) : Bool :=
  m.line == n.line && m.column == n.column

end Mark

end ColumnTypes.Yaml
