import ColumnTypes.Document

/-!
# Members of a set

A set of numbers has an order of its own, in which its members are gone through and shown.  Every
number has a rank, equal numbers the same, and a table of cells, twice as many as there are members
or more, is filled with the members as they come: each goes to the cell of its rank, or on from
there to one that is free.  The order of the cells is the order of the set.

`Document.ofMembers` is the set of given members.  One that holds anything but numbers keeps them as
they came.
-/

namespace ColumnTypes.Document

/-! ## Ranks -/

/-- The prime to which ranks are reduced. -/
def rankModulus : Nat := Decimal.twoTo 61 - 1

/-- The rank of a number with a sign; minus one is no rank. -/
def signedRank (negative : Bool) (n : Nat) : Int :=
  let r := n % rankModulus
  if negative then (if r = 1 then -2 else -(r : Int)) else r

/-- The rank of the infinite numbers. -/
def infiniteRank : Int := 314159

/-- The rank of a number.  Twos can be taken out of a reduced fraction 61 at a time, since their
61st power leaves one. -/
def rank? : Document → Option Int
  | bool b => some (if b then 1 else 0)
  | int n => some (signedRank (n < 0) n.natAbs)
  | float x =>
    match Decimal.decode x with
    | .zero _ => some 0
    | .infinite negative => some (if negative then -infiniteRank else infiniteRank)
    | .finite negative v =>
      some (signedRank negative (v.mantissa * Decimal.twoTo (v.exponent % 61).toNat))
    | .nan => none
  | _ => none

/-! ## Cells -/

/-- The fewest cells. -/
def fewestCells : Nat := 8

/-- Twice a number of cells until there are more than twice as many as members. -/
def enlarged (members : Nat) : (fuel cells : Nat) → Nat
  | 0, cells => cells
  | fuel + 1, cells => if cells ≤ 2 * members then enlarged members fuel (2 * cells) else cells

/-- The number of cells for some members; the fewest are enough for four. -/
def cellsFor (members : Nat) : Nat :=
  if members ≤ 4 then fewestCells else enlarged members members fewestCells

/-- How many cells after the first are tried in a row, where that does not leave the table. -/
def reach : Nat := 9

/-- The first free cell from a given one on: a row of cells is tried, and then one that `spread`, a
32nd part at a time, decides.  In the end all cells are tried, so a budget that covers them is
enough. -/
def freeCell (cells : Nat) (isTaken : Nat → Bool) : (fuel cell spread : Nat) → Nat
  | 0, cell, _ => cell
  | fuel + 1, cell, spread =>
    let row := if cell + reach < cells then reach + 1 else 1
    match (List.range row).find? fun k => !isTaken (cell + k) with
    | some k => cell + k
    | none =>
      let spread := spread / 32
      freeCell cells isTaken fuel ((5 * cell + 1 + spread) % cells) spread

/-- A rank as a number that is not negative. -/
def spreadOf (rank : Int) : Nat :=
  (rank % (Decimal.twoTo 64 : Nat)).toNat

/-- The filled cells with one more member. -/
def withMember (cells : Nat) (filled : List (Nat × Document)) (member : Int × Document) :
    List (Nat × Document) :=
  let spread := spreadOf member.1
  let isTaken (i : Nat) : Bool := filled.any fun (j, _) => i == j
  (freeCell cells isTaken (cells + 13) (spread % cells) spread, member.2) :: filled

/-- Members with ranks in the order of the cells that they fill. -/
def inCells (members : List (Int × Document)) : List Document :=
  let cells := cellsFor members.length
  let filled := members.foldl (withMember cells) []
  (List.range cells).filterMap fun i => filled.lookup i

/-- The set of some members. -/
def ofMembers (members : List Document) : Document :=
  match members.mapM rank? with
  | some ranks => .set (inCells (ranks.zip members))
  | none => .set members

end ColumnTypes.Document
