import ColumnTypes.Text.Blank

/-!
# Numerals of all scripts

Where a number is read from a text, the decimal digits of every script count as those of ASCII, and
so do the blanks.  `Text.asciiNumerals` writes them in ASCII.
-/

namespace ColumnTypes.Text

/-- The zeros of the decimal digits outside ASCII; their other digits follow in order. -/
def decimalZeros : List Nat :=
  [1632, 1776, 1984, 2406, 2534, 2662, 2790, 2918, 3046, 3174, 3302, 3430, 3558, 3664, 3792,
   3872, 4160, 4240, 6112, 6160, 6470, 6608, 6784, 6800, 6992, 7088, 7232, 7248, 42528, 43216,
   43264, 43472, 43504, 43600, 44016, 65296, 66720, 68912, 69734, 69872, 69942, 70096, 70384,
   70736, 70864, 71248, 71360, 71472, 71904, 72016, 72784, 73040, 73120, 92768, 92864, 93008,
   120782, 120792, 120802, 120812, 120822, 123200, 123632, 125264, 130032]

/-- The value of a decimal digit outside ASCII. -/
def decimalValue? (c : Char) : Option Nat :=
  (decimalZeros.find? fun first => first ≤ c.toNat && c.toNat < first + 10).map (c.toNat - ·)

/-- A character with its digit or blank in ASCII. -/
def asciiNumeral (c : Char) : Char :=
  if c.toNat < 128 then c
  else if isBlank c then ' '
  else match decimalValue? c with
    | some n => Char.ofNat (48 + n)
    | none => c

/-- A text with its digits and blanks in ASCII. -/
def asciiNumerals (cs : List Char) : List Char :=
  cs.map asciiNumeral

/-- The blanks of ASCII that may stand around a number. -/
def isAsciiBlank (c : Char) : Bool :=
  c == ' ' || ('\t' ≤ c && c ≤ '\r')

example : asciiNumeral '٣' = '3' := by decide

end ColumnTypes.Text
