import ColumnTypes.Text.Blank
import ColumnTypes.Text.Width

/-!
# Paragraphs

`Paragraph.lines` lays a text, given by its code points, out in lines of a limited width.  Lines
break between words.  A word that is wider than a line starts one of its own and is either folded
over several lines or cut with an ellipsis, as the `Overflow` says.
-/

namespace ColumnTypes

/-- What happens to a word that is wider than a line. -/
inductive Overflow where
  | fold
  | ellipsis
  deriving DecidableEq, Repr

namespace Paragraph

/-- Control characters that the console drops: bell, backspace, vertical tab, form feed and carriage
return. -/
def isDropped (n : Nat) : Bool :=
  [7, 8, 11, 12, 13].contains n

/-- A text as the console takes it in. -/
def clean (codes : List Nat) : List Nat :=
  codes.filter (!isDropped ·)

/-- What moves on to the next tab stop. -/
def tab : Nat := '\t'.toNat

/-- What ends a line. -/
def lineFeed : Nat := '\n'.toNat

/-- The distance between tab stops. -/
def tabSize : Nat := 8

/-- A line with blanks for its tabs; `part` holds, in reverse, what follows the last tab, and
`column` is where it starts. -/
def untabbedFrom (column : Nat) (part : List Nat) : List Nat → List Nat
  | [] => part.reverse
  | n :: rest =>
    if n = tab then
      let done := part.reverse ++ [Text.space]
      let reached := column + Text.width done
      let more := (tabSize - reached % tabSize) % tabSize
      done ++ Text.blanks more ++ untabbedFrom (reached + more) [] rest
    else untabbedFrom column (n :: part) rest

/-- A line with blanks for its tabs. -/
def untabbed (line : List Nat) : List Nat :=
  untabbedFrom 0 [] line

/-! ## Words -/

/-- Joins the blanks at the start of a line to its first word. -/
def joinLeading : List (List Nat) → List (List Nat)
  | first :: second :: rest =>
    if first.all Text.isBlankCode then (first ++ second) :: rest else first :: second :: rest
  | words => words

/-- The longest runs of code points that are not blanks, each with the blanks after it. -/
def runs : List Nat → List (List Nat)
  | [] => []
  | n :: line =>
    match runs line with
    | (m :: run) :: rest =>
      if Text.isBlankCode n && !Text.isBlankCode m then [n] :: (m :: run) :: rest
      else (n :: m :: run) :: rest
    | others => [n] :: others

/-- The words of a line with the blanks around them. -/
def words (line : List Nat) : List (List Nat) :=
  joinLeading (runs line)

/-! ## Lines -/

/-- The lines of a paragraph so far: finished ones, the last one, and the cells it takes. -/
structure Layout where
  done : List (List Nat)
  current : List Nat
  used : Nat

namespace Layout

/-- No line. -/
def start : Layout := ⟨[], [], 0⟩

/-- Whether nothing has been placed. -/
def isStart (l : Layout) : Bool :=
  l.done.isEmpty && l.current.isEmpty

/-- The lines. -/
def lines (l : Layout) : List (List Nat) :=
  l.done ++ [l.current]

/-- A piece on a line of its own, unless nothing has been placed. -/
def newLine (l : Layout) (piece : List Nat) : Layout :=
  if l.isStart then ⟨[], piece, Text.width piece⟩
  else ⟨l.done ++ [l.current], piece, Text.width piece⟩

/-- A piece on the current line. -/
def sameLine (l : Layout) (piece : List Nat) : Layout :=
  ⟨l.done, l.current ++ piece, l.used + Text.width piece⟩

/-- A word placed where it fits. -/
def place (limit : Nat) (overflow : Overflow) (l : Layout) (word : List Nat) : Layout :=
  let size := Text.width (Text.dropEnd Text.isBlankCode word)
  if l.used + size ≤ limit then l.sameLine word
  else if limit < size ∧ overflow = .fold then
    (Text.chopped limit word).foldl newLine l
  else l.newLine word

end Layout

/-- A line brought within a width: blanks at its end that are too many are dropped, and what is
still too wide is cut. -/
def trimmedTo (limit : Nat) (overflow : Overflow) (line : List Nat) : List Nat :=
  let excess := line.length - limit
  let trailing := line.length - (Text.dropEnd Text.isBlankCode line).length
  let line := line.take (line.length - min trailing excess)
  if Text.width line ≤ limit then line
  else match overflow with
    | .fold => Text.fitted limit line
    | .ellipsis => Text.fitted (limit - 1) line ++ ['…'.toNat]

/-- The lines of a text without line breaks. -/
def wrap (limit : Nat) (overflow : Overflow) (line : List Nat) : List (List Nat) :=
  (((words (untabbed line)).foldl (Layout.place limit overflow) .start).lines).map
    (trimmedTo limit overflow)

/-- The lines of a text; where there is no room there are none. -/
def lines (limit : Nat) (overflow : Overflow) (text : List Nat) : List (List Nat) :=
  if limit = 0 then []
  else (Text.splitAt lineFeed text).flatMap (wrap limit overflow)

end Paragraph

end ColumnTypes
