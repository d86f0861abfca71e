import ColumnTypes.Text.CodePoints
import ColumnTypes.Text.PrintableTable

/-!
# Quoted texts

`Text.quoted` is the form in which a text is shown inside messages and inside printed collections:
between quotes, on one line, with everything invisible escaped.  Single quotes are used unless the
text holds a single quote and no double quote.
-/

namespace ColumnTypes.Text

/-- Whether a code point is shown as itself inside quotes. -/
def isPrintable (n : Nat) : Bool :=
  if n < 128 then 32 ≤ n && n < 127
  else !unprintableRanges.any fun (first, last) => first ≤ n && n ≤ last

/-- A hexadecimal digit. -/
def hexDigit (n : Nat) : Char :=
  if n < 10 then Char.ofNat (48 + n) else Char.ofNat (87 + n)

/-- The last `width` hexadecimal digits of a number. -/
def hex : Nat → Nat → List Char
  | 0, _ => []
  | width + 1, n => hex width (n / 16) ++ [hexDigit (n % 16)]

/-- The quote that encloses a text: double only where single quotes occur and double ones do not. -/
def enclosingQuote (codes : List Nat) : Char :=
  if codes.contains 39 && !codes.contains 34 then '"' else '\''

/-- Escapes that have a letter of their own. -/
def namedEscape? (n : Nat) : Option Char :=
  if n = 9 then some 't' else if n = 10 then some 'n' else if n = 13 then some 'r' else none

/-- One code point inside quotes. -/
def quotedCode (quote : Char) (n : Nat) : List Char :=
  if n = quote.toNat ∨ n = 92 then ['\\', Char.ofNat n]
  else match namedEscape? n with
    | some c => ['\\', c]
    | none =>
      if isPrintable n then ofCode n
      else if n < 0x100 then '\\' :: 'x' :: hex 2 n
      else if n < 0x10000 then '\\' :: 'u' :: hex 4 n
      else '\\' :: 'U' :: hex 8 n

/-- A sequence of code points between quotes. -/
def quotedCodes (codes : List Nat) : String :=
  let quote := enclosingQuote codes
  String.ofList (quote :: codes.flatMap (quotedCode quote) ++ [quote])

/-- A text between quotes. -/
def quoted (s : String) : String :=
  quotedCodes (codes s)

/-- One byte inside quotes: a visible ASCII character or an escape. -/
def quotedByte (quote : Char) (n : Nat) : List Char :=
  if n < 128 then quotedCode quote n else '\\' :: 'x' :: hex 2 n

/-- A sequence of bytes between quotes, marked as bytes. -/
def quotedBytes (bytes : List UInt8) : String :=
  let codes := bytes.map UInt8.toNat
  let quote := enclosingQuote codes
  String.ofList ('b' :: quote :: codes.flatMap (quotedByte quote) ++ [quote])

end ColumnTypes.Text
