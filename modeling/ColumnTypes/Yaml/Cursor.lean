import ColumnTypes.Yaml.Error

/-!
# Positions in a YAML text

A `Cursor` is a place in a text: what is left of it, and the counts of characters and lines so far.
Looking past the end gives the character NUL, which no YAML text holds, so every test on a
character also tells the end.
-/

namespace ColumnTypes.Yaml

/-! ## Classes of characters -/

/-- The character that stands for the end of the text. -/
def endMark : Char := '\x00'

/-- Line breaks. -/
def isBreak (c : Char) : Bool :=
  Mark.endsLine c

/-- Breaks and the end. -/
def isBreakOrEnd (c : Char) : Bool :=
  c == endMark || isBreak c

/-- Blanks, breaks and the end. -/
def isSpaceOrEnd (c : Char) : Bool :=
  c == ' ' || c == '\t' || isBreakOrEnd c

/-- What may follow a directive, a tag or a block header: a blank, a break or the end. -/
def isPlainSpaceOrEnd (c : Char) : Bool :=
  c == ' ' || isBreakOrEnd c

/-- Characters of names of anchors, directives and tag handles. -/
def isWordChar (c : Char) : Bool :=
  c.isAlphanum || c == '-' || c == '_'

/-- Characters of tags. -/
def isUriChar (c : Char) : Bool :=
  c.isAlphanum || "-;/?:@&=+$,_.!~*'()[]%".toList.contains c

/-- Hexadecimal digits. -/
def isHexDigit (c : Char) : Bool :=
  c.isDigit || ('a' ≤ c && c ≤ 'f') || ('A' ≤ c && c ≤ 'F')

/-- The value of a hexadecimal digit. -/
def hexDigitValue (c : Char) : Nat :=
  if c.isDigit then c.toNat - 48 else c.toLower.toNat - 87

/-- The number that hexadecimal digits spell. -/
def hexValue (digits : List Char) : Nat :=
  digits.foldl (fun n c => n * 16 + hexDigitValue c) 0

/-- Characters that a YAML text may hold. -/
def isAllowed (c : Char) : Bool :=
  let n := c.toNat
  n == 9 || n == 10 || n == 13 || (0x20 ≤ n && n ≤ 0x7E) || n == 0x85 ||
    (0xA0 ≤ n && n ≤ 0xFFFD) || 0x10000 ≤ n

/-! ## Cursors -/

/-- A place in a text. -/
structure Cursor where
  rest : List Char
  index : Nat
  line : Nat
  column : Nat

namespace Cursor

/-- The beginning of a text. -/
def start (text : List Char) : Cursor := ⟨text, 0, 0, 0⟩

/-- The mark of a place. -/
def mark (c : Cursor) : Mark :=
  ⟨c.index, c.line, c.column⟩

/-- The character `n` places on. -/
def peek (c : Cursor) (n : Nat) : Char :=
  c.rest.getD n endMark

/-- The next character. -/
def head (c : Cursor) : Char :=
  c.rest.headD endMark

/-- The place after the next character.  A byte order mark takes no column, and of `\r\n` only the
line feed ends the line. -/
def next (c : Cursor) : Cursor :=
  match c.rest with
  | [] => c
  | ch :: rest =>
    if isBreak ch && !(ch == '\r' && rest.head? == some '\n') then
      ⟨rest, c.index + 1, c.line + 1, 0⟩
    else
      ⟨rest, c.index + 1, c.line, if ch = '\ufeff' then c.column else c.column + 1⟩

/-- The place `n` characters on. -/
def skip (c : Cursor) : Nat → Cursor
  | 0 => c
  | n + 1 => c.next.skip n

/-- The characters from here on that have a property, and the place after them. -/
def span (c : Cursor) (p : Char → Bool) : List Char × Cursor :=
  let run := c.rest.takeWhile p
  (run, c.skip run.length)

/-- The place after the blanks. -/
def skipSpaces (c : Cursor) : Cursor :=
  (c.span (· == ' ')).2

/-- The place after a comment, if one starts here. -/
def skipComment (c : Cursor) : Cursor :=
  if c.head = '#' then (c.span (!isBreak ·)).2 else c

/-- The line break here as a text has it, and the place after it. -/
def takeBreak? (c : Cursor) : Option (Char × Cursor) :=
  let ch := c.head
  if ch = '\r' ∨ ch = '\n' ∨ ch = '\u0085' then
    some ('\n', if ch = '\r' ∧ c.peek 1 = '\n' then c.skip 2 else c.next)
  else if ch = '\u2028' ∨ ch = '\u2029' then some (ch, c.next)
  else none

/-- The place after a line break, if there is one. -/
def skipBreak (c : Cursor) : Cursor :=
  match c.takeBreak? with
  | some (_, c) => c
  | none => c

/-- Whether three characters and a blank or the end stand here. -/
def startsMark (c : Cursor) (ch : Char) : Bool :=
  c.peek 0 == ch && c.peek 1 == ch && c.peek 2 == ch && isSpaceOrEnd (c.peek 3)

/-- Whether a mark between documents stands here. -/
def startsDocumentMark (c : Cursor) : Bool :=
  c.startsMark '-' || c.startsMark '.'

end Cursor

end ColumnTypes.Yaml
