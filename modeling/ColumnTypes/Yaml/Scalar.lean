import ColumnTypes.Yaml.Cursor

/-!
# Scalars in a YAML text

The contents of plain, quoted and block scalars, read at a cursor.  Line breaks inside plain and
quoted scalars fold: one break is a blank, each further one stands for itself.  Block scalars keep
or fold their breaks by their style and cut the end by their chomping.

Every reader takes a budget that the length of the remaining text covers, since each of its rounds
consumes a character or is the last.
-/

namespace ColumnTypes.Yaml

/-- A fault found while something is read that began at a mark. -/
def faultSince {α : Type} (activity : Activity) (start : Mark) (problem : Problem)
    (place : Cursor) : Except Error α :=
  .error (.malformed ⟨some activity, some start, problem, place.mark⟩)

/-- What breaks leave in a folded text: the first is a blank unless others follow it. -/
def foldedBreaks (first : Char) (others : List Char) : List Char :=
  (if first ≠ '\n' then [first] else if others.isEmpty then [' '] else []) ++ others

/-! ## Plain scalars -/

/-- Characters that end a plain scalar inside brackets. -/
def isFlowEnd (c : Char) : Bool :=
  c == ',' || c == '[' || c == ']' || c == '\x7b' || c == '\x7d'

/-- Length of the run of plain characters at the front of a text. -/
def plainLength (inFlow : Bool) : List Char → Nat
  | [] => 0
  | c :: rest =>
    let following := rest.headD endMark
    if isSpaceOrEnd c
        || (c == ':' && (isSpaceOrEnd following || (inFlow && isFlowEnd following)))
        || (inFlow && (isFlowEnd c || c == '?')) then 0
    else plainLength inFlow rest + 1

/-- Further breaks inside a plain scalar; `none` if a mark between documents comes. -/
def plainBreaks : Nat → Cursor → List Char → Option (List Char) × Cursor
  | 0, c, found => (some found.reverse, c)
  | fuel + 1, c, found =>
    if c.head = ' ' then plainBreaks fuel c.next found
    else match c.takeBreak? with
      | none => (some found.reverse, c)
      | some (b, c) =>
        if c.startsDocumentMark then (none, c) else plainBreaks fuel c (b :: found)

/-- The blanks and breaks after a plain run, as they count if more text follows, whether there was
a break, and the place after them. -/
def plainSpaces (c : Cursor) : List Char × Bool × Cursor :=
  let (blanks, c) := c.span (· == ' ')
  match c.takeBreak? with
  | none => (blanks, false, c)
  | some (b, c) =>
    if c.startsDocumentMark then ([], true, c)
    else match plainBreaks c.rest.length c [] with
      | (some others, c) => (foldedBreaks b others, true, c)
      | (none, c) => ([], true, c)

/-- Runs of plain text with the spaces between them.  The flag tells whether the last spaces held a
break, after which a key may start. -/
def plainRuns (inFlow : Bool) (indent : Int) :
    Nat → Cursor → List Char → List Char → Bool → List Char × Bool × Cursor
  | 0, c, done, _, broke => (done.reverse, broke, c)
  | fuel + 1, c, done, spaces, broke =>
    let n := if c.head = '#' then 0 else plainLength inFlow c.rest
    if n = 0 then (done.reverse, broke, c)
    else
      let done := (c.rest.take n).reverse ++ (spaces.reverse ++ done)
      let (spaces, broke, c) := plainSpaces (c.skip n)
      if spaces.isEmpty ∨ c.head = '#' ∨ (!inFlow ∧ (c.column : Int) < indent) then
        (done.reverse, broke, c)
      else plainRuns inFlow indent fuel c done spaces broke

/-- A plain scalar: its text, whether a key may follow, and the place after it. -/
def plainScalar (inFlow : Bool) (indent : Int) (c : Cursor) : String × Bool × Cursor :=
  let (text, broke, c) := plainRuns inFlow indent (c.rest.length + 1) c [] [] false
  (Text.ofChars text, broke, c)

/-! ## Quoted scalars -/

/-- Escapes of one letter. -/
def letterEscapes : List (Char × Nat) :=
  [('0', 0), ('a', 7), ('b', 8), ('t', 9), ('\t', 9), ('n', 10), ('v', 11), ('f', 12), ('r', 13),
   ('e', 27), (' ', 32), ('"', 34), ('\\', 92), ('/', 47), ('N', 0x85), ('_', 0xA0), ('L', 0x2028),
   ('P', 0x2029)]

/-- Escapes of a number of hexadecimal digits. -/
def digitEscapes : List (Char × Nat) :=
  [('x', 2), ('u', 4), ('U', 8)]

/-- Breaks and blanks at line starts inside quotes; a mark between documents may not come. -/
def quotedBreaks (start : Mark) : Nat → Cursor → List Char → Except Error (List Char × Cursor)
  | 0, c, found => .ok (found.reverse, c)
  | fuel + 1, c, found =>
    if c.startsDocumentMark then faultSince .quotedScalar start .documentSeparator c
    else
      let c := (c.span fun ch => ch == ' ' || ch == '\t').2
      match c.takeBreak? with
      | none => .ok (found.reverse, c)
      | some (b, c) => quotedBreaks start fuel c (b :: found)

/-- Blanks inside quotes, with the fold of the breaks after them. -/
def quotedSpaces (start : Mark) (c : Cursor) : Except Error (List Char × Cursor) :=
  let (blanks, c) := c.span fun ch => ch == ' ' || ch == '\t'
  match c.takeBreak? with
  | none => .ok (blanks, c)
  | some (b, c) => do
    let (others, c) ← quotedBreaks start (c.rest.length + 1) c []
    .ok (foldedBreaks b others, c)

/-- The code point that a number of hexadecimal digits spell. -/
def escapedCodePoint (start : Mark) (length : Nat) (c : Cursor) : Except Error Nat :=
  match ((List.range length).map c.peek).find? (!isHexDigit ·) with
  | some found =>
    faultSince .doubleQuotedScalar start
      (.expected ("escape sequence of " ++ toString length ++ " hexadecimal numbers") found) c
  | none =>
    let n := hexValue (c.rest.take length)
    if 0x80000000 ≤ n then .error (.scalar .codePointOverflow)
    else if 0x110000 ≤ n then .error (.scalar .codePointTooLarge)
    else .ok n

/-- An escape after its backslash: the code points that it stands for. -/
def escape (start : Mark) (c : Cursor) : Except Error (List Nat × Cursor) :=
  match letterEscapes.lookup c.head with
  | some n => .ok ([n], c.next)
  | none =>
    match digitEscapes.lookup c.head with
    | some length => do
      let n ← escapedCodePoint start length c.next
      .ok ([n], c.next.skip length)
    | none =>
      match c.takeBreak? with
      | some (_, c) => do
        let (others, c) ← quotedBreaks start (c.rest.length + 1) c []
        .ok (others.map Char.toNat, c)
      | none => faultSince .doubleQuotedScalar start (.unknownEscape c.head) c

/-- The inside of quotes up to the closing one, as code points in reverse. -/
def quotedCodes (double : Bool) (start : Mark) :
    Nat → Cursor → List Nat → Except Error (List Nat × Cursor)
  | 0, c, _ => faultSince .quotedScalar start .endOfText c
  | fuel + 1, c, done =>
    let ch := c.head
    if ch = endMark then faultSince .quotedScalar start .endOfText c
    else if ch = '\'' ∧ !double then
      if c.peek 1 = '\'' then quotedCodes double start fuel (c.skip 2) (39 :: done)
      else .ok (done, c.next)
    else if ch = '"' ∧ double then .ok (done, c.next)
    else if ch = '\\' ∧ double then do
      let (codes, c) ← escape start c.next
      quotedCodes double start fuel c (codes.reverse ++ done)
    else if isSpaceOrEnd ch then do
      let (spaces, c) ← quotedSpaces start c
      quotedCodes double start fuel c ((spaces.map Char.toNat).reverse ++ done)
    else quotedCodes double start fuel c.next (ch.toNat :: done)

/-- A quoted scalar, read at its opening quote. -/
def quotedScalar (double : Bool) (c : Cursor) : Except Error (String × Cursor) := do
  let (codes, c) ← quotedCodes double c.mark (c.rest.length + 1) c.next []
  .ok (Text.ofCodes codes.reverse, c)

/-! ## Block scalars -/

/-- What happens to the breaks at the end of a block scalar. -/
inductive Chomping where
  | clip
  | strip
  | keep
  deriving DecidableEq, Repr

/-- The chomping of an indicator. -/
def Chomping.ofChar? (c : Char) : Option Chomping :=
  if c = '+' then some .keep else if c = '-' then some .strip else none

/-- The digit of an indentation, which is not zero, and the place after it; nothing if no digit is
there. -/
def indentation? (start : Mark) (c : Cursor) : Except Error (Option Nat × Cursor) :=
  if c.head = '0' then faultSince .blockScalar start .zeroIndentation c
  else if c.head.isDigit then .ok (some (c.head.toNat - 48), c.next)
  else .ok (none, c)

/-- The header of a block scalar: chomping and indentation, in either order. -/
def blockHeader (start : Mark) (c : Cursor) : Except Error (Chomping × Option Nat × Cursor) := do
  let (chomping, increment, c) ←
    match Chomping.ofChar? c.head with
    | some chomping => do
      let (increment, c) ← indentation? start c.next
      pure (chomping, increment, c)
    | none => do
      let (increment, c) ← indentation? start c
      match increment, Chomping.ofChar? c.head with
      | some n, some chomping => pure (chomping, some n, c.next)
      | _, _ => pure (Chomping.clip, increment, c)
  if isPlainSpaceOrEnd c.head then .ok (chomping, increment, c)
  else faultSince .blockScalar start (.expected "chomping or indentation indicators" c.head) c

/-- The rest of a line that may hold only blanks and a comment. -/
def endOfLine (activity : Activity) (start : Mark) (c : Cursor) : Except Error Cursor :=
  let c := c.skipSpaces.skipComment
  if isBreakOrEnd c.head then .ok c.skipBreak
  else faultSince activity start (.expected "a comment or a line break" c.head) c

/-- Empty lines before a block scalar whose indentation is to be found, and the widest of them. -/
def leadingBreaks : Nat → Cursor → List Char → Nat → List Char × Nat × Cursor
  | 0, c, found, widest => (found.reverse, widest, c)
  | fuel + 1, c, found, widest =>
    if c.head = ' ' then leadingBreaks fuel c.next found (max widest c.next.column)
    else match c.takeBreak? with
      | some (b, c) => leadingBreaks fuel c (b :: found) widest
      | none => (found.reverse, widest, c)

/-- The place after the blanks before an indentation. -/
def skipIndent : Nat → Nat → Cursor → Cursor
  | 0, _, c => c
  | fuel + 1, indent, c =>
    if c.column < indent ∧ c.head = ' ' then skipIndent fuel indent c.next else c

/-- Empty lines inside a block scalar. -/
def blockBreaks (indent : Nat) : Nat → Cursor → List Char → List Char × Cursor
  | 0, c, found => (found.reverse, c)
  | fuel + 1, c, found =>
    let c := skipIndent indent indent c
    match c.takeBreak? with
    | some (b, c) => blockBreaks indent fuel c (b :: found)
    | none => (found.reverse, c)

/-- The break of a line as it counts: nothing after a last line without one. -/
def lineBreak (c : Cursor) : List Char × Cursor :=
  match c.takeBreak? with
  | some (b, c) => ([b], c)
  | none => ([], c)

/-- The lines of a block scalar, in reverse, with the last break and the empty lines after it. -/
def blockLines (folded : Bool) (indent : Nat) :
    Nat → Cursor → List Char → List Char → List Char × List Char × List Char × Cursor
  | 0, c, done, breaks => (done, [], breaks, c)
  | fuel + 1, c, done, breaks =>
    let startsText := !(c.head == ' ' || c.head == '\t')
    let (line, c) := c.span (!isBreak ·)
    let done := line.reverse ++ (breaks.reverse ++ done)
    let (last, c) := lineBreak c
    let (breaks, c) := blockBreaks indent (c.rest.length + 1) c []
    if c.column = indent ∧ c.head ≠ endMark then
      let between :=
        if folded ∧ last = ['\n'] ∧ startsText ∧ c.head ≠ ' ' ∧ c.head ≠ '\t' then
          if breaks.isEmpty then [' '] else []
        else last
      blockLines folded indent fuel c (between.reverse ++ done) breaks
    else (done, last, breaks, c)

/-- A block scalar, read at its indicator, inside a block of the given indentation. -/
def blockScalar (folded : Bool) (parent : Int) (c : Cursor) : Except Error (String × Cursor) := do
  let start := c.mark
  let (chomping, increment, c) ← blockHeader start c.next
  let c ← endOfLine .blockScalar start c
  let least := (max (parent + 1) 1).toNat
  let (breaks, indent, c) :=
    match increment with
    | none =>
      let (breaks, widest, c) := leadingBreaks c.rest.length c [] 0
      (breaks, max least widest, c)
    | some n =>
      let indent := least + n - 1
      let (breaks, c) := blockBreaks indent (c.rest.length + 1) c []
      (breaks, indent, c)
  let (done, last, breaks, c) :=
    if c.column = indent ∧ c.head ≠ endMark then
      blockLines folded indent (c.rest.length + 1) c [] breaks
    else ([], [], breaks, c)
  let tail := match chomping with
    | .clip => last
    | .strip => []
    | .keep => last ++ breaks
  .ok (Text.ofChars (done.reverse ++ tail), c)

end ColumnTypes.Yaml
