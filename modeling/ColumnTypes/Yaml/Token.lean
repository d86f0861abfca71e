import ColumnTypes.Yaml.Scalar

/-!
# Tokens of a YAML text

`Token.ofText` cuts a text into tokens.  A key is not marked in front; only the colon after it
shows that it was one, and then the mark is put in where the key began.  A `SimpleKey` remembers
that place, and no token from there on is released while a mark may still be put before it.

Scanning stops at the first error.  What was released before it can still be read: the error stands
in the place of the first token that was not.
-/

namespace ColumnTypes.Yaml

/-- What a token is. -/
inductive Symbol where
  | version (major minor : Nat)
  | handle (handle start : String)
  | otherDirective
  | documentStart
  | documentEnd
  | blockSequenceStart
  | blockMappingStart
  | blockEnd
  | flowSequenceStart
  | flowSequenceEnd
  | flowMappingStart
  | flowMappingEnd
  | blockEntry
  | flowEntry
  | key
  | value
  | reference (name : String)
  | anchor (name : String)
  | tag (handle : Option String) (suffix : String)
  | scalar (content : String) (plain : Bool)
  | textEnd
  deriving DecidableEq, Repr

/-- The name of a symbol in messages. -/
def Symbol.name : Symbol → String
  | version _ _ | handle _ _ | otherDirective => "<directive>"
  | documentStart => "<document start>"
  | documentEnd => "<document end>"
  | blockSequenceStart => "<block sequence start>"
  | blockMappingStart => "<block mapping start>"
  | blockEnd => "<block end>"
  | flowSequenceStart => "["
  | flowSequenceEnd => "]"
  | flowMappingStart => "\x7b"
  | flowMappingEnd => "\x7d"
  | blockEntry => "-"
  | flowEntry => ","
  | key => "?"
  | value => ":"
  | reference _ => "<alias>"
  | anchor _ => "<anchor>"
  | tag _ _ => "<tag>"
  | scalar _ _ => "<scalar>"
  | textEnd => "<stream end>"

/-- A token with its place in the text. -/
structure Token where
  symbol : Symbol
  start : Mark
  stop : Mark
  deriving DecidableEq, Repr

/-- A place where a key may have begun. -/
structure SimpleKey where
  /-- Number of tokens before the key. -/
  position : Nat
  /-- At the indentation of its block nothing but a key may stand. -/
  required : Bool
  mark : Mark

/-- The state of the cutting. -/
structure Scan where
  cursor : Cursor
  indent : Int
  indents : List Int
  /-- Opening brackets less closing ones. -/
  flowLevel : Int
  keyAllowed : Bool
  /-- Possible keys by flow level. -/
  keys : List (Int × SimpleKey)
  tokens : Array Token
  /-- Whether the end of the text has been read. -/
  ended : Bool

namespace Scan

/-- The state at the beginning of a text. -/
def start (text : List Char) : Scan :=
  ⟨.start text, -1, [], 0, true, [], #[], false⟩

/-- Whether brackets enclose the place, or have been closed that were not open. -/
def inFlow (s : Scan) : Bool :=
  s.flowLevel != 0

/-- The mark of the place. -/
def mark (s : Scan) : Mark :=
  s.cursor.mark

/-- A fault at the place that has no activity. -/
def fault {α : Type} (s : Scan) (problem : Problem) : Except Error α :=
  .error (.malformed ⟨none, none, problem, s.mark⟩)

/-- Adds a token that takes no characters. -/
def push (s : Scan) (symbol : Symbol) : Scan :=
  { s with tokens := s.tokens.push ⟨symbol, s.mark, s.mark⟩ }

/-- Adds a token that ends at a place and goes there. -/
def pushTo (s : Scan) (symbol : Symbol) (c : Cursor) : Scan :=
  { s with tokens := s.tokens.push ⟨symbol, s.mark, c.mark⟩, cursor := c }

/-- Adds a token of some characters. -/
def take (s : Scan) (n : Nat) (symbol : Symbol) : Scan :=
  s.pushTo symbol (s.cursor.skip n)

/-- Puts a token in where a key began. -/
def insert (s : Scan) (key : SimpleKey) (symbol : Symbol) : Scan :=
  { s with tokens := s.tokens.insertIdxIfInBounds key.position ⟨symbol, key.mark, key.mark⟩ }

/-! ## Possible keys -/

/-- The fault of a required key without its colon. -/
def missingColon {α : Type} (s : Scan) (key : SimpleKey) : Except Error α :=
  faultSince .simpleKey key.mark .missingColon s.cursor

/-- Forgets the possible key of the present level; a required one must have been a key. -/
def dropKey (s : Scan) : Except Error Scan :=
  match s.keys.lookup s.flowLevel with
  | some key =>
    if key.required then s.missingColon key
    else .ok { s with keys := s.keys.filter (·.1 != s.flowLevel) }
  | none => .ok s

/-- Remembers that a key may begin here. -/
def saveKey (s : Scan) : Except Error Scan := do
  if s.keyAllowed then
    let required := !s.inFlow && s.indent == s.cursor.column
    let s ← s.dropKey
    return { s with keys := (s.flowLevel, ⟨s.tokens.size, required, s.mark⟩) :: s.keys }
  else return s

/-- The longest key, in characters. -/
def keyLimit : Nat := 1024

/-- A key ends on the line on which it began, before it gets too long. -/
def isStale (s : Scan) (key : SimpleKey) : Bool :=
  key.mark.line != s.cursor.line || keyLimit < s.cursor.index - key.mark.index

/-- Forgets the possible keys that can no longer be keys. -/
def dropStaleKeys (s : Scan) : Except Error Scan :=
  match s.keys.find? fun (_, key) => s.isStale key && key.required with
  | some (_, key) => s.missingColon key
  | none => .ok { s with keys := s.keys.filter fun (_, key) => !s.isStale key }

/-! ## Indentation -/

/-- Ends the blocks that are indented further than a column. -/
def unwind (s : Scan) (column : Int) : Scan :=
  if s.inFlow then s else go s s.indents
where
  go (s : Scan) : List Int → Scan
    | [] => s
    | outer :: rest =>
      if column < s.indent then
        go { s.push .blockEnd with indent := outer, indents := rest } rest
      else s

/-- Begins a block at a column, if it is further in than the present one. -/
def indentTo (s : Scan) (column : Nat) : Option Scan :=
  if s.indent < column then
    some { s with indent := column, indents := s.indent :: s.indents }
  else none

/-- Begins a block of items or entries at the place, if it is further in than the present one. -/
def openBlock (s : Scan) (symbol : Symbol) : Scan :=
  match s.indentTo s.cursor.column with
  | some inner => inner.push symbol
  | none => s

/-! ## Between tokens -/

/-- Skips blanks, comments and breaks; outside brackets a key may begin on a new line. -/
def skipToToken : Nat → Scan → Scan
  | 0, s => s
  | fuel + 1, s =>
    let c := s.cursor.skipSpaces.skipComment
    match c.takeBreak? with
    | some (_, c) =>
      skipToToken fuel { s with cursor := c, keyAllowed := s.keyAllowed || !s.inFlow }
    | none => { s with cursor := c }

/-- A byte order mark at the beginning of the text is passed over. -/
def skipOrderMark (s : Scan) : Scan :=
  if s.cursor.index = 0 ∧ s.cursor.head = '\ufeff' then { s with cursor := s.cursor.next } else s

/-! ## Directives, anchors and tags -/

/-- The most digits that a number of a version can have. -/
def versionDigitLimit : Nat := 4300

/-- A number of a version. -/
def versionNumber (start : Mark) (c : Cursor) : Except Error (Nat × Cursor) :=
  match c.span Char.isDigit with
  | ([], _) => faultSince .directive start (.expected "a digit" c.head) c
  | (digits, after) =>
    if versionDigitLimit < digits.length then .error (.scalar (.tooManyDigits digits.length))
    else .ok (digits.foldl (fun n d => n * 10 + (d.toNat - 48)) 0, after)

/-- A version, two numbers with a point between. -/
def versionDirective (start : Mark) (c : Cursor) : Except Error (Symbol × Cursor) := do
  let (major, c) ← versionNumber start c.skipSpaces
  if c.head ≠ '.' then faultSince .directive start (.expected "a digit or '.'" c.head) c
  else
    let (minor, c) ← versionNumber start c.next
    if isPlainSpaceOrEnd c.head then .ok (.version major minor, c)
    else faultSince .directive start (.expected "a digit or ' '" c.head) c

/-- A tag handle: `!`, or word characters between two of them. -/
def tagHandle (activity : Activity) (start : Mark) (c : Cursor) :
    Except Error (String × Cursor) :=
  if c.head ≠ '!' then faultSince activity start (.expected "'!'" c.head) c
  else if c.peek 1 = ' ' then .ok ("!", c.next)
  else
    let (word, after) := c.next.span isWordChar
    if after.head = '!' then .ok ("!" ++ String.ofList word ++ "!", after.next)
    else faultSince activity start (.expected "'!'" after.head) after

/-- Bytes written as percent signs with two hexadecimal digits each. -/
def percentBytes (activity : Activity) (start : Mark) :
    Nat → Cursor → List UInt8 → Except Error (List UInt8 × Cursor)
  | 0, c, done => .ok (done.reverse, c)
  | fuel + 1, c, done =>
    if c.head ≠ '%' then .ok (done.reverse, c)
    else
      match [c.peek 1, c.peek 2].find? (!isHexDigit ·) with
      | some found =>
        faultSince activity start
          (.expected "URI escape sequence of 2 hexadecimal numbers" found) c.next
      | none =>
        percentBytes activity start fuel (c.skip 3)
          (UInt8.ofNat (hexValue [c.peek 1, c.peek 2]) :: done)

/-- The characters of a tag, escapes read as the text they spell; `escaped` is the activity while an
escape is read. -/
def tagUri (activity escaped : Activity) (start : Mark) :
    Nat → Cursor → List Char → Except Error (String × Cursor)
  | 0, c, done => .ok (Text.ofChars done.reverse, c)
  | fuel + 1, c, done =>
    if c.head = '%' then do
      let (bytes, after) ← percentBytes escaped start c.rest.length c []
      match Text.decodeUtf8 bytes with
      | .ok cs => tagUri activity escaped start fuel after (cs.reverse ++ done)
      | .error e => faultSince escaped start (.badUtf8 e) c
    else if isUriChar c.head then tagUri activity escaped start fuel c.next (c.head :: done)
    else if done.isEmpty then faultSince activity start (.expected "URI" c.head) c
    else .ok (Text.ofChars done.reverse, c)

/-- A handle with the text it stands for. -/
def handleDirective (start : Mark) (c : Cursor) : Except Error (Symbol × Cursor) := do
  let (handle, c) ← tagHandle .directive start c.skipSpaces
  if c.head ≠ ' ' then faultSince .directive start (.expected "' '" c.head) c
  else
    let c := c.skipSpaces
    let (text, c) ← tagUri .directiveUri .directive start (c.rest.length + 1) c []
    if isPlainSpaceOrEnd c.head then .ok (.handle handle text, c)
    else faultSince .directive start (.expected "' '" c.head) c

/-- What a directive or an anchor must be made of. -/
def wordDescription : String := "alphabetic or numeric character"

/-- A directive, read at its percent sign; the place after it is that of the next line. -/
def directive (c : Cursor) : Except Error (Symbol × Cursor) := do
  let start := c.mark
  let (name, c) := c.next.span isWordChar
  if name.isEmpty ∨ !isPlainSpaceOrEnd c.head then
    faultSince .directive start (.expected wordDescription c.head) c
  else
    let (symbol, c) ←
      if name = "YAML".toList then versionDirective start c
      else if name = "TAG".toList then handleDirective start c
      else .ok (.otherDirective, (c.span (!isBreak ·)).2)
    let c ← endOfLine .directive start c
    .ok (symbol, c)

/-- The name of an anchor or alias, read at its indicator. -/
def anchorName (activity : Activity) (c : Cursor) : Except Error (String × Cursor) :=
  let (name, after) := c.next.span isWordChar
  if name.isEmpty ∨
      !(isSpaceOrEnd after.head || "?:,]\x7d%@\x60".toList.contains after.head) then
    faultSince activity c.mark (.expected wordDescription after.head) after
  else .ok (String.ofList name, after)

/-- Whether a second exclamation mark comes before the end of a tag, so that it has a handle. -/
def hasHandle (c : Cursor) : Bool :=
  (c.next.rest.takeWhile fun ch => !isPlainSpaceOrEnd ch).contains '!'

/-- A tag, read at its exclamation mark. -/
def tag (c : Cursor) : Except Error (Symbol × Cursor) := do
  let start := c.mark
  let uri (c : Cursor) := tagUri .tagUri .tag start (c.rest.length + 1) c []
  let (symbol, c) ←
    if c.peek 1 = '<' then do
      let (name, c) ← uri (c.skip 2)
      if c.head = '>' then .ok (Symbol.tag none name, c.next)
      else faultSince .tagUri start (.expected "'>'" c.head) c
    else if isSpaceOrEnd (c.peek 1) then .ok (Symbol.tag none "!", c.next)
    else do
      let (handle, c) ← if hasHandle c then tagHandle .tag start c else .ok ("!", c.next)
      let (suffix, c) ← uri c
      .ok (Symbol.tag (some handle) suffix, c)
  if isPlainSpaceOrEnd c.head then .ok (symbol, c)
  else faultSince .tag start (.expected "' '" c.head) c

/-! ## Steps -/

/-- A token that a key may begin with. -/
def keyStart (s : Scan) (read : Cursor → Except Error (Symbol × Cursor)) : Except Error Scan := do
  let s ← s.saveKey
  let (symbol, c) ← read s.cursor
  return { s.pushTo symbol c with keyAllowed := false }

/-- A mark between documents, or a directive: all blocks end before it. -/
def betweenDocuments (s : Scan) : Except Error Scan := do
  let s ← (s.unwind (-1)).dropKey
  return { s with keyAllowed := false }

/-- An opening bracket. -/
def openFlow (s : Scan) (symbol : Symbol) : Except Error Scan := do
  let s ← s.saveKey
  return { s.take 1 symbol with flowLevel := s.flowLevel + 1, keyAllowed := true }

/-- A closing bracket. -/
def closeFlow (s : Scan) (symbol : Symbol) : Except Error Scan := do
  let s ← s.dropKey
  return { s.take 1 symbol with flowLevel := s.flowLevel - 1, keyAllowed := false }

/-- A comma between items. -/
def flowEntry (s : Scan) : Except Error Scan := do
  let s ← s.dropKey
  return { s.take 1 .flowEntry with keyAllowed := true }

/-- The hyphen of an item. -/
def blockEntry (s : Scan) : Except Error Scan := do
  if !s.inFlow && !s.keyAllowed then s.fault .entryNotAllowed
  else
    let s ← (if s.inFlow then s else s.openBlock .blockSequenceStart).dropKey
    return { s.take 1 .blockEntry with keyAllowed := true }

/-- A question mark before a key. -/
def explicitKey (s : Scan) : Except Error Scan := do
  if !s.inFlow && !s.keyAllowed then s.fault .keyNotAllowed
  else
    let s ← (if s.inFlow then s else s.openBlock .blockMappingStart).dropKey
    return { s.take 1 .key with keyAllowed := !s.inFlow }

/-- The colon after a key that began at a remembered place. -/
def colonAfterKey (s : Scan) (key : SimpleKey) : Scan :=
  let s := { s with keys := s.keys.filter (·.1 != s.flowLevel) }.insert key .key
  let s :=
    if s.inFlow then s
    else match s.indentTo key.mark.column with
      | some inner => inner.insert key .blockMappingStart
      | none => s
  { s.take 1 .value with keyAllowed := false }

/-- A colon where no key is open. -/
def bareColon (s : Scan) : Except Error Scan := do
  if !s.inFlow && !s.keyAllowed then s.fault .valueNotAllowed
  else
    let s ← (if s.inFlow then s else s.openBlock .blockMappingStart).dropKey
    return { s.take 1 .value with keyAllowed := !s.inFlow }

/-- A colon. -/
def colon (s : Scan) : Except Error Scan :=
  match s.keys.lookup s.flowLevel with
  | some key => .ok (s.colonAfterKey key)
  | none => s.bareColon

/-- A block scalar. -/
def block (s : Scan) (folded : Bool) : Except Error Scan := do
  let s ← ({ s with keyAllowed := true } : Scan).dropKey
  let (text, c) ← blockScalar folded s.indent s.cursor
  return s.pushTo (.scalar text false) c

/-- A plain scalar. -/
def plain (s : Scan) : Except Error Scan := do
  let s ← s.saveKey
  let (text, broke, c) := plainScalar s.inFlow (s.indent + 1) s.cursor
  return { s.pushTo (.scalar text true) c with keyAllowed := broke }

/-- Whether a plain scalar begins with these two characters. -/
def startsPlain (inFlow : Bool) (c following : Char) : Bool :=
  !(isSpaceOrEnd c || "-?:,[]\x7b\x7d#&*!|>'\"%@\x60".toList.contains c) ||
    (!isSpaceOrEnd following && (c == '-' || (!inFlow && (c == '?' || c == ':'))))

/-- Reads the token at the cursor. -/
def readToken (s : Scan) : Except Error Scan :=
  let following := s.cursor.peek 1
  let named (activity : Activity) (make : String → Symbol) :=
    s.keyStart fun c => (anchorName activity c).map fun (name, c) => (make name, c)
  let quoted (double : Bool) :=
    s.keyStart fun c => (quotedScalar double c).map fun (text, c) => (.scalar text false, c)
  match s.cursor.head with
  | '[' => s.openFlow .flowSequenceStart
  | '\x7b' => s.openFlow .flowMappingStart
  | ']' => s.closeFlow .flowSequenceEnd
  | '\x7d' => s.closeFlow .flowMappingEnd
  | ',' => s.flowEntry
  | '*' => named .reference .reference
  | '&' => named .anchor .anchor
  | '!' => s.keyStart tag
  | '\'' => quoted false
  | '"' => quoted true
  | ch =>
    if ch = '-' ∧ isSpaceOrEnd following then s.blockEntry
    else if ch = '?' ∧ (s.inFlow ∨ isSpaceOrEnd following) then s.explicitKey
    else if ch = ':' ∧ (s.inFlow ∨ isSpaceOrEnd following) then s.colon
    else if ch = '|' ∧ !s.inFlow then s.block false
    else if ch = '>' ∧ !s.inFlow then s.block true
    else if startsPlain s.inFlow ch following then s.plain
    else .error (.malformed ⟨some .nextToken, none, .cannotStart ch, s.mark⟩)

/-- The end of the text. -/
def finish (s : Scan) : Except Error Scan := do
  let s ← (s.unwind (-1)).dropKey
  return { s.push .textEnd with keyAllowed := false, keys := [], ended := true }

/-- Goes on to the next token and reads it. -/
def step (s : Scan) : Except Error Scan := do
  let s := (s.skipOrderMark).skipToToken (s.cursor.rest.length + 1)
  let s ← s.dropStaleKeys
  let s := s.unwind s.cursor.column
  let c := s.cursor
  if c.head = endMark then s.finish
  else if c.column = 0 ∧ c.head = '%' then
    let s ← s.betweenDocuments
    let (symbol, c) ← directive s.cursor
    return s.pushTo symbol c
  else if c.column = 0 ∧ c.startsMark '-' then
    let s ← s.betweenDocuments
    return s.take 3 .documentStart
  else if c.column = 0 ∧ c.startsMark '.' then
    let s ← s.betweenDocuments
    return s.take 3 .documentEnd
  else s.readToken

/-! ## Release -/

/-- Whether a key may still begin at the token of a number, after the keys that cannot be have been
forgotten. -/
def awaits (s : Scan) (number : Nat) : Except Error (Scan × Bool) :=
  if s.ended then .ok (s, false)
  else if s.tokens.size ≤ number then .ok (s, true)
  else do
    let s ← s.dropStaleKeys
    return (s, (s.keys.map fun (_, key) => key.position).min? == some number)

/-- The tokens from a number on, in the order of their release; the first error comes last.  `fuel`
bounds the number of steps, `done` holds, in reverse, what has been released. -/
def released : Nat → Scan → Nat → List (Except Error Token) → List (Except Error Token)
  | 0, _, _, done => done.reverse
  | fuel + 1, s, number, done =>
    match s.awaits number with
    | .error e => (.error e :: done).reverse
    | .ok (s, true) =>
      match s.step with
      | .error e => (.error e :: done).reverse
      | .ok s => released fuel s number done
    | .ok (s, false) =>
      match s.tokens[number]? with
      | some t => released fuel s (number + 1) (.ok t :: done)
      | none => done.reverse

end Scan

/-- The tokens of a text.  Every step takes a character or is the last, and brings at most three
tokens and the ends of blocks that were begun before. -/
def Token.ofText (text : List Char) : List (Except Error Token) :=
  match text.findIdx? (!isAllowed ·) with
  | some i => [.error (.unacceptable (text.getD i endMark) i)]
  | none => Scan.released (8 * text.length + 16) (.start text) 0 []

end ColumnTypes.Yaml
