import ColumnTypes.Text.Quoted

/-!
# Reading UTF-8

`Text.decodeUtf8` turns bytes into characters or says where and how the first malformed sequence
fails.  A malformed sequence ends before the first byte that cannot continue it, so the reported
range covers its well-formed beginning.
-/

namespace ColumnTypes.Text

/-- How a byte sequence fails to be UTF-8. -/
inductive Utf8Fault where
  | badStart
  | badContinuation
  | cutShort
  deriving DecidableEq, Repr

/-- The first malformed sequence of a byte text: its offset, its length and its first byte. -/
structure Utf8Error where
  fault : Utf8Fault
  offset : Nat
  length : Nat
  firstByte : UInt8
  deriving DecidableEq, Repr

/-- The wording of a fault. -/
def Utf8Fault.wording : Utf8Fault → String
  | badStart => "invalid start byte"
  | badContinuation => "invalid continuation byte"
  | cutShort => "unexpected end of data"

/-- The message of a malformed sequence. -/
def Utf8Error.message (e : Utf8Error) : String :=
  let place :=
    if e.length = 1 then
      "byte 0x" ++ String.ofList (hex 2 e.firstByte.toNat) ++ " in position " ++ toString e.offset
    else
      "bytes in position " ++ toString e.offset ++ "-" ++ toString (e.offset + e.length - 1)
  "'utf-8' codec can't decode " ++ place ++ ": " ++ e.fault.wording

/-- Number of continuation bytes that a first byte calls for, with the range of the first of them;
`none` if no sequence starts so. -/
def sequenceShape? (b : UInt8) : Option (Nat × UInt8 × UInt8) :=
  if b < 0xC2 then none
  else if b < 0xE0 then some (1, 0x80, 0xC0)
  else if b = 0xE0 then some (2, 0xA0, 0xC0)
  else if b = 0xED then some (2, 0x80, 0xA0)
  else if b < 0xF0 then some (2, 0x80, 0xC0)
  else if b = 0xF0 then some (3, 0x90, 0xC0)
  else if b < 0xF4 then some (3, 0x80, 0xC0)
  else if b = 0xF4 then some (3, 0x80, 0x90)
  else none

/-- How many of the wanted continuation bytes are there, and whether the text ended first. -/
def matched (low high : UInt8) : Nat → List UInt8 → Nat × Bool
  | 0, _ => (0, false)
  | _ + 1, [] => (0, true)
  | wanted + 1, b :: rest =>
    if low ≤ b && b < high then
      let (n, ended) := matched 0x80 0xC0 wanted rest
      (n + 1, ended)
    else (0, false)

/-- The code point that a first byte and its continuation bytes spell. -/
def codePoint (first : UInt8) (tail : List UInt8) : Nat :=
  let head := match tail.length with
    | 1 => first.toNat % 32
    | 2 => first.toNat % 16
    | _ => first.toNat % 8
  tail.foldl (fun n b => n * 64 + b.toNat % 64) head

/-- One character from the front of a non-empty byte text, with the number of bytes it took. -/
def decodeNext (first : UInt8) (rest : List UInt8) : Except (Utf8Fault × Nat) (Char × Nat) :=
  if first < 0x80 then .ok (Char.ofNat first.toNat, 1)
  else match sequenceShape? first with
    | none => .error (.badStart, 1)
    | some (wanted, low, high) =>
      match matched low high wanted rest with
      | (n, ended) =>
        if n = wanted then .ok (Char.ofNat (codePoint first (rest.take wanted)), wanted + 1)
        else .error (if ended then .cutShort else .badContinuation, n + 1)

/-- Reads characters while bytes remain; `fuel` bounds the number of characters. -/
def decodeUtf8From : Nat → Nat → List UInt8 → List Char → Except Utf8Error (List Char)
  | 0, _, _, done => .ok done.reverse
  | _, _, [], done => .ok done.reverse
  | fuel + 1, offset, b :: rest, done =>
    match decodeNext b rest with
    | .ok (c, n) => decodeUtf8From fuel (offset + n) (rest.drop (n - 1)) (c :: done)
    | .error (fault, n) => .error ⟨fault, offset, n, b⟩

/-- The characters that a byte text spells. -/
def decodeUtf8 (bytes : List UInt8) : Except Utf8Error (List Char) :=
  decodeUtf8From bytes.length 0 bytes []

/-- Reads every line break, `\r\n` and `\r` included, as a line feed. -/
def universalNewlines : List Char → List Char
  | [] => []
  | '\r' :: '\n' :: rest => '\n' :: universalNewlines rest
  | '\r' :: rest => '\n' :: universalNewlines rest
  | c :: rest => c :: universalNewlines rest

end ColumnTypes.Text
