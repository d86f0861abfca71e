import ColumnTypes.Text.CodePoints
import ColumnTypes.Text.Utf8

/-!
# Names of the system

The system knows names as bytes.  Those that are UTF-8 are read as characters, and every other byte
as a surrogate of its own, so that each name can be written and asked for again.  A text can also
spell the bytes of a character one by one; `Text.listed` is the spelling that the system itself
uses.
-/

namespace ColumnTypes.Text

/-- What is added to a byte that is part of no character. -/
def escapeStart : Nat := 0xDC00

/-- The bytes of a code point in the system. -/
def systemBytes (n : Nat) : List UInt8 :=
  if isEscapedByte n then [UInt8.ofNat (n - escapeStart)] else String.utf8EncodeChar (Char.ofNat n)

/-- The code points of bytes of the system; `fuel` bounds their number. -/
def systemCodes : Nat → List UInt8 → List Nat
  | 0, _ => []
  | _, [] => []
  | fuel + 1, b :: rest =>
    match decodeNext b rest with
    | .ok (c, n) => c.toNat :: systemCodes fuel (rest.drop (n - 1))
    | .error _ => (b.toNat + escapeStart) :: systemCodes fuel rest

/-- A name as the system lists it.  Only bytes that are spelled one by one can be listed otherwise
than they are written. -/
def listed (name : String) : String :=
  if (codes name).any isEscapedByte then
    let bytes := (codes name).flatMap systemBytes
    ofCodes (systemCodes bytes.length bytes)
  else name

/-- A name without such bytes is listed as it is written. -/
theorem listed_of_not_escaped {name : String} (h : (codes name).any isEscapedByte = false) :
    listed name = name := by
  rw [listed, h, if_neg Bool.false_ne_true]

example : listed (ofCodes [0xDCC3, 0xDCA9]) = "é" := by decide
example : listed (ofCodes [0x61, 0xDCFF]) = ofCodes [0x61, 0xDCFF] := by decide

end ColumnTypes.Text
