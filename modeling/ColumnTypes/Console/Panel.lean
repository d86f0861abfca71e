import ColumnTypes.Console.Table

/-!
# Panels

A `Panel` is a text in a frame with a title in its upper edge.  The frame is as wide as the text or
the title needs, up to the width of the console.
-/

namespace ColumnTypes

/-- A text in a frame. -/
structure Panel where
  title : List Nat
  body : List Nat
  /-- The most cells that the frame takes for the text. -/
  limit : Nat

namespace Panel

/-- The cells of the edges or of the margins of a line. -/
def sides : Nat := 2

/-- The edge above or below. -/
def edge (n : Nat) : List Nat :=
  List.replicate n '─'.toNat

/-- A text in the middle of an edge. -/
def centred (width : Nat) (text : List Nat) : List Nat :=
  let excess := width - Text.width text
  edge (excess / 2) ++ text ++ edge (excess - excess / 2)

/-- The cells between the edges of a panel on a console of some width. -/
def innerWidth (width : Nat) (p : Panel) : Nat :=
  let wanted := min (min width p.limit - sides) (Table.textWidth p.body + sides)
  min (width - sides) (max wanted (Text.width p.title + 2 * sides))

/-- The upper edge, with the title if there is room for it. -/
def upperEdge (inner : Nat) (title : List Nat) : List Nat :=
  if inner ≤ sides then '╭'.toNat :: edge inner ++ ['╮'.toNat]
  else
    let title := Text.cropped (inner - sides) (Text.space :: title ++ [Text.space])
    '╭'.toNat :: edge 1 ++ centred (inner - sides) title ++ edge 1 ++ ['╮'.toNat]

/-- The lines of a panel on a console of some width; where there is no room at all there are
none. -/
def lines (width : Nat) (p : Panel) : List (List Nat) :=
  let inner := p.innerWidth width
  let body := (Paragraph.lines (inner - sides) .fold p.body).map fun line =>
    ['│'.toNat, Text.space] ++ Text.padded (inner - sides) line ++ [Text.space, '│'.toNat]
  if width = 0 then []
  else upperEdge inner p.title :: body ++ ['╰'.toNat :: edge inner ++ ['╯'.toNat]]

end Panel

end ColumnTypes
