import ColumnTypes.Console.Paragraph

/-!
# Tables

A `Table` has a heading and rows of texts, which are shown as they are, markup included.  Every
column is as wide as its widest text, with a blank on both sides.  Where that is too much for the
console, the widest columns give way first, and texts that no longer fit end in an ellipsis.  The
texts of the heading stand at the bottom of its lines, all others at the top.
-/

namespace ColumnTypes

/-- A table: the names of its columns, and its rows. -/
structure Table.Grid where
  heading : List (List Nat)
  rows : List (List (List Nat))

namespace Table

/-- The characters of a rule or a row: its left end, what separates columns, and its right end. -/
structure Edges where
  left : Char
  between : Char
  right : Char

/-- The rule above the heading. -/
def topRule : Edges := ⟨'┏', '┳', '┓'⟩

/-- The edges of the heading. -/
def headingEdges : Edges := ⟨'┃', '┃', '┃'⟩

/-- The rule below the heading. -/
def headingRule : Edges := ⟨'┡', '╇', '┩'⟩

/-- The edges of a row. -/
def rowEdges : Edges := ⟨'│', '│', '│'⟩

/-- The rule below the last row. -/
def bottomRule : Edges := ⟨'└', '┴', '┘'⟩

/-- Parts between edges. -/
def Edges.enclose (e : Edges) (parts : List (List Nat)) : List Nat :=
  e.left.toNat :: Text.joinWith [e.between.toNat] parts ++ [e.right.toNat]

/-- A rule across columns of given widths. -/
def Edges.rule (e : Edges) (line : Char) (widths : List Nat) : List Nat :=
  e.enclose (widths.map fun w => List.replicate w line.toNat)

/-! ## Widths -/

/-- The blanks that a cell adds to its text. -/
def cellMargin : Nat := 2

/-- The width of the widest line of a text. -/
def textWidth (text : List Nat) : Nat :=
  (((Text.lines text).map Text.width).max?).getD 0

/-- The width of a column with given texts. -/
def columnWidth (texts : List (List Nat)) : Nat :=
  cellMargin + (((texts.map textWidth).max?).getD 0)

/-- A number over another, rounded to the nearest, a half going to the even neighbour. -/
def roundedQuotient (n d : Nat) : Nat :=
  let q := n / d
  let twice := 2 * (n % d)
  if twice < d then q else if d < twice then q + 1 else if q % 2 = 0 then q else q + 1

/-- The sum of widths. -/
def total (widths : List Nat) : Nat :=
  widths.foldr (· + ·) 0

/-- Takes an excess from chosen columns in equal shares, none of them above a limit. -/
def sharedReduction (chosen : Nat → Bool) (limit : Nat) :
    (excess sharers : Nat) → List Nat → List Nat
  | _, _, [] => []
  | excess, sharers, w :: ws =>
    if chosen w ∧ 0 < sharers then
      let share := min limit (roundedQuotient excess sharers)
      (w - share) :: sharedReduction chosen limit (excess - share) (sharers - 1) ws
    else w :: sharedReduction chosen limit excess sharers ws

/-- Reduces the widest columns until all fit into a width; `fuel` bounds the number of rounds. -/
def collapsed (limit : Nat) : Nat → List Nat → List Nat
  | 0, ws => ws
  | fuel + 1, ws =>
    let widest := ws.max?.getD 0
    let second := ((ws.filter (· != widest)).max?).getD 0
    if total ws ≤ limit ∨ widest = second then ws
    else
      let excess := total ws - limit
      collapsed limit fuel
        (sharedReduction (· == widest) (min excess (widest - second)) excess (ws.count widest) ws)

/-- The widths of the columns of a table within a width.  No column asks for more than there is. -/
def columnWidths (limit : Nat) (columns : List (List (List Nat))) : List Nat :=
  let room := limit - (columns.length + 1)
  let widths := columns.map fun texts => min room (columnWidth texts)
  if total widths ≤ room then widths else collapsed room limit widths

/-! ## Rows -/

/-- A line with blanks after it up to a width.  A joiner at its end swallows the first of them, so
what is still missing is added. -/
def filled (width : Nat) (line : List Nat) : List Nat :=
  Text.padded width (Text.padded width line)

/-- The lines of a cell, each as wide as its column. -/
def cellLines (width : Nat) (text : List Nat) : List (List Nat) :=
  (Paragraph.lines (width - cellMargin) .ellipsis text).map fun line =>
    Text.space :: filled (width - cellMargin) line ++ [Text.space]

/-- Where the shorter cells of a row stand. -/
inductive Alignment where
  | top
  | bottom
  deriving DecidableEq, Repr

/-- A cell with blank lines up to the height of its row. -/
def Alignment.align (a : Alignment) (height width : Nat) (cell : List (List Nat)) :
    List (List Nat) :=
  let missing := List.replicate (height - cell.length) (Text.blanks width)
  match a with
  | top => cell ++ missing
  | bottom => missing ++ cell

/-- The lines of a row: its cells side by side, on one line at least. -/
def rowLines (a : Alignment) (e : Edges) (widths : List Nat) (texts : List (List Nat)) :
    List (List Nat) :=
  let cells := List.zipWith cellLines widths texts
  let height := max 1 (((cells.map List.length).max?).getD 0)
  let cells := List.zipWith (a.align height) widths cells
  (List.range height).map fun i => e.enclose (cells.map (·.getD i []))

/-- The texts of a column. -/
def columnTexts (rows : List (List (List Nat))) (i : Nat) : List (List Nat) :=
  rows.map fun row => row.getD i []

/-- The rows as the console takes them in. -/
def Grid.cleanRows (t : Grid) : List (List (List Nat)) :=
  t.rows.map fun row => row.map Paragraph.clean

/-- The widths of the columns on a console of some width. -/
def Grid.widths (limit : Nat) (t : Grid) : List Nat :=
  columnWidths limit ((List.range t.heading.length).map (columnTexts (t.heading :: t.cleanRows)))

/-- The lines of a table on a console of some width.  Its edges may go beyond that; where there is
no room at all there are no lines. -/
def Grid.lines (limit : Nat) (t : Grid) : List (List Nat) :=
  let widths := t.widths limit
  if limit = 0 then []
  else
    [topRule.rule '━' widths] ++ rowLines .bottom headingEdges widths t.heading ++
      [headingRule.rule '━' widths] ++ t.cleanRows.flatMap (rowLines .top rowEdges widths) ++
      [bottomRule.rule '─' widths]

end Table

end ColumnTypes
