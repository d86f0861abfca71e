import ColumnTypes.Text.Blank
import ColumnTypes.Text.CodePoints

/-!
# Literals

A tag that names an event may give values to its handler, written as literals: numbers, quoted
texts, `None`, `True`, `False` and `...`, and tuples, sets and dictionaries of these.
`Literal.isReadable` says which texts are literals.
-/

namespace ColumnTypes.Literal

/-- The words and signs of a literal. -/
inductive Token where
  | number (imaginary : Bool)
  | quoted (bytes : Bool)
  | constant
  | set
  | openParen
  | closeParen
  | openBrace
  | closeBrace
  | comma
  | colon
  | plus
  | minus
  deriving DecidableEq, Repr

/-! ## Numbers -/

/-- Whether a character is one of `0` to `9`. -/
def isDecimal (c : Char) : Bool :=
  '0' ≤ c && c ≤ '9'

/-- Whether a character is a hexadecimal digit. -/
def isHexadecimal (c : Char) : Bool :=
  isDecimal c || ('a' ≤ c && c ≤ 'f') || ('A' ≤ c && c ≤ 'F')

/-- Whether a character can continue a name. -/
def continuesName (c : Char) : Bool :=
  isDecimal c || ('a' ≤ c && c ≤ 'z') || ('A' ≤ c && c ≤ 'Z') || c == '_' || 128 ≤ c.toNat

/-- The digits that a text begins with, among which single underscores may stand, and the text after
them; there is none where an underscore is not followed by a digit. -/
def digits? (isDigit : Char → Bool) : List Char → Option (List Char × List Char)
  | '_' :: c :: rest =>
    if isDigit c then (digits? isDigit rest).map fun (ds, rest) => (c :: ds, rest) else none
  | ['_'] => none
  | c :: rest =>
    if isDigit c then (digits? isDigit rest).map fun (ds, rest) => (c :: ds, rest)
    else some ([], c :: rest)
  | [] => some ([], [])

/-- The most digits of a whole number. -/
def digitLimit : Nat := 4300

/-- The text after an exponent, where there is one. -/
def afterExponent? : List Char → Option (List Char)
  | e :: rest =>
    if e = 'e' ∨ e = 'E' then
      let unsigned := match rest with
        | c :: after => if c = '+' ∨ c = '-' then after else rest
        | [] => rest
      match unsigned with
      | c :: after => if isDecimal c then (digits? isDecimal after).map (·.2) else none
      | [] => none
    else some (e :: rest)
  | [] => some []

/-- The text after a fraction, where there is one. -/
def afterFraction? : List Char → Option (List Char)
  | '.' :: c :: rest =>
    if isDecimal c then (digits? isDecimal rest).map (·.2) else some (c :: rest)
  | '.' :: rest => some rest
  | rest => some rest

/-- The end of a number: its last mark, and what must not follow directly. -/
def ended? (wasWhole : Bool) (rest : List Char) : Option (Token × List Char) :=
  let (imaginary, rest) := match rest with
    | c :: after => if c = 'j' ∨ c = 'J' then (true, after) else (false, rest)
    | [] => (false, rest)
  if rest.head?.any continuesName || (!imaginary && !wasWhole) then none
  else some (.number imaginary, rest)

/-- A whole number is not too long, and begins with zero only if it is zero. -/
def isWhole (digits : List Char) : Bool :=
  (digits.head? != some '0' || digits.all (· == '0')) && digits.length ≤ digitLimit

/-- The number that a text with a digit or a point and a digit begins with. -/
def number? (cs : List Char) : Option (Token × List Char) := do
  match cs with
  | '0' :: mark :: rest =>
    let radix? : Option (Char → Bool) :=
      if mark = 'x' ∨ mark = 'X' then some isHexadecimal
      else if mark = 'o' ∨ mark = 'O' then some fun c => '0' ≤ c && c ≤ '7'
      else if mark = 'b' ∨ mark = 'B' then some fun c => c == '0' || c == '1'
      else none
    match radix? with
    | some isDigit =>
      let (digits, rest) ← digits? isDigit rest
      if digits.isEmpty || rest.head?.any continuesName then none
      else some (.number false, rest)
    | none => decimal? cs
  | cs => decimal? cs
where
  decimal? (cs : List Char) : Option (Token × List Char) := do
    let (digits, rest) ← digits? isDecimal cs
    let afterPoint ← afterFraction? rest
    let after ← afterExponent? afterPoint
    ended? (after.length != rest.length || isWhole digits) after

/-! ## Quoted texts -/

/-- Whether the escapes in a quoted text can be read. -/
def escapesRead (bytes : Bool) : List Char → Bool
  | '\\' :: 'x' :: rest => hexadecimalStart 2 rest && escapesRead bytes rest
  | '\\' :: 'u' :: rest => (bytes || hexadecimalStart 4 rest) && escapesRead bytes rest
  | '\\' :: 'U' :: rest =>
    (bytes || (hexadecimalStart 8 rest && (rest.take 2 == ['0', '0'] &&
      (rest.getD 2 '0' == '0' || rest.take 4 == ['0', '0', '1', '0'])))) && escapesRead bytes rest
  | '\\' :: 'N' :: rest => (bytes || isNamed rest) && escapesRead bytes rest
  | '\\' :: _ :: rest => escapesRead bytes rest
  | _ :: rest => escapesRead bytes rest
  | [] => true
where
  hexadecimalStart (n : Nat) (cs : List Char) : Bool :=
    (cs.takeWhile isHexadecimal).length ≥ n
  isNamed (cs : List Char) : Bool :=
    cs.head? == some '\x7b' && cs.contains '\x7d' &&
      ((cs.drop 1).takeWhile (· != '\x7d')).any fun c => 'A' ≤ c && c ≤ 'z'

/-- The inside of a quoted text up to its closing quotes, and the text after them. -/
def inside? (closing : List Char) (multiline : Bool) : List Char → Option (List Char × List Char)
  | [] => none
  | c :: rest =>
    if closing.isPrefixOf (c :: rest) then some ([], (c :: rest).drop closing.length)
    else if c = '\\' then
      match rest with
      | d :: rest =>
        (inside? closing multiline rest).map fun (inner, rest) => (c :: d :: inner, rest)
      | [] => none
    else if c = '\n' ∧ !multiline then none
    else (inside? closing multiline rest).map fun (inner, rest) => (c :: inner, rest)

/-- The quoted text that a text with a quote begins with, after the letters before it. -/
def quoted? (letters : List Char) (cs : List Char) : Option (Token × List Char) := do
  let quote ← cs.head?
  let triple := List.replicate 3 quote
  let closing := if triple.isPrefixOf cs then triple else [quote]
  let (inner, rest) ← inside? closing (closing == triple) (cs.drop closing.length)
  let letters := String.ofList (letters.map Char.toLower)
  let bytes := ["b", "br", "rb"].contains letters
  let raw := ["r", "br", "rb"].contains letters
  if !(["", "r", "u", "b", "br", "rb"].contains letters) then none
  else if bytes && inner.any (128 ≤ ·.toNat) then none
  else if !raw && !escapesRead bytes inner then none
  else some (.quoted bytes, rest)

/-! ## Tokens -/

/-- The token of a character that is one by itself. -/
def sign? (c : Char) : Option Token :=
  [('(', .openParen), (')', .closeParen), ('\x7b', .openBrace), ('\x7d', .closeBrace),
   (',', .comma), (':', .colon), ('+', .plus), ('-', .minus)].lookup c

/-- The deepest nesting of brackets. -/
def depthLimit : Nat := 200

/-- How many brackets are open after a token. -/
def depthAfter (depth : Nat) : Token → Nat
  | .openParen | .openBrace => depth + 1
  | .closeParen | .closeBrace => depth - 1
  | _ => depth

/-- The token that a text begins with. -/
def token? : List Char → Option (Token × List Char)
  | [] => none
  | c :: rest =>
    if isDecimal c || (c == '.' && rest.head?.any isDecimal) then number? (c :: rest)
    else if ['.', '.', '.'].isPrefixOf (c :: rest) then some (.constant, rest.drop 2)
    else if c = '\'' ∨ c = '"' then quoted? [] (c :: rest)
    else if continuesName c then
      let word := (c :: rest).takeWhile continuesName
      let after := (c :: rest).dropWhile continuesName
      if after.head? = some '\'' ∨ after.head? = some '"' then quoted? word after
      else if ["None", "True", "False"].contains (String.ofList word) then some (.constant, after)
      else if String.ofList word = "set" then some (.set, after)
      else none
    else (sign? c).map fun t => (t, rest)

/-- Whether nothing but blanks and comments is left; `comment` tells whether a comment goes on. -/
def isIdle (comment : Bool) : List Char → Bool
  | [] => true
  | c :: rest =>
    if c = '\n' then isIdle false rest
    else if comment || c == ' ' || c == '\t' || c == '\x0c' then isIdle comment rest
    else c == '#' && isIdle true rest

/-- The tokens of a text where some brackets are open.  A line break ends the literal unless it
stands in brackets or after a backslash; `fuel` bounds the number of steps. -/
def tokensFrom : (fuel depth : Nat) → List Char → Option (List Token)
  | 0, _, _ => none
  | _, _, [] => some []
  | fuel + 1, depth, c :: rest =>
    if c = ' ' ∨ c = '\t' ∨ c = '\x0c' then tokensFrom fuel depth rest
    else if c = '\n' then
      if depth = 0 then (if isIdle false rest then some [] else none)
      else tokensFrom fuel depth rest
    else if c = '#' then tokensFrom fuel depth (rest.dropWhile (· != '\n'))
    else if c = '\\' then
      match rest with
      | '\n' :: d :: rest => tokensFrom fuel depth (d :: rest)
      | _ => none
    else match token? (c :: rest) with
      | some (t, rest) =>
        if depthLimit < depthAfter depth t then none
        else (tokensFrom fuel (depthAfter depth t) rest).map (t :: ·)
      | none => none

/-- A text in which every line ends in a line feed. -/
def withLineFeeds : List Char → List Char
  | '\r' :: '\n' :: rest => '\n' :: withLineFeeds rest
  | '\r' :: rest => '\n' :: withLineFeeds rest
  | c :: rest => c :: withLineFeeds rest
  | [] => []

/-- A text without the lines before its first token. -/
def withoutIdleLines (cs : List Char) : List Char :=
  Text.joinWith ['\n'] ((Text.splitAt '\n' cs).dropWhile (isIdle false))

/-- The tokens of a text, which must not be indented. -/
def tokens? (cs : List Char) : Option (List Token) :=
  let cs := withoutIdleLines (withLineFeeds cs)
  if cs.head? = some ' ' ∨ cs.head? = some '\t' then none else tokensFrom (cs.length + 1) 0 cs

/-! ## Values -/

/-- What matters of a value for what may be built from it. -/
inductive Kind where
  | real
  | imaginary
  | signedReal
  | signedImaginary
  /-- Any other value that can be a member of a set or a key. -/
  | member
  /-- A set, a dictionary, or a tuple with one of these. -/
  | container
  deriving DecidableEq, Repr

/-- The kind of a tuple. -/
def tupleKind (kinds : List Kind) : Kind :=
  if kinds.contains .container then .container else .member

/-- The kind of a number with a sign before it. -/
def signed? : Kind → Option Kind
  | .real => some .signedReal
  | .imaginary => some .signedImaginary
  | _ => none

/-- The kind of a sum or a difference, which is one of a real and an imaginary number. -/
def sum? (left right : Kind) : Option Kind :=
  if (left = .real ∨ left = .signedReal) ∧ right = .imaginary then some .member else none

mutual

/-- The value that tokens begin with, and the tokens after it. -/
def value? : Nat → List Token → Option (Kind × List Token)
  | 0, _ => none
  | fuel + 1, ts => do
    let (left, ts) ← operand? fuel ts
    match ts with
    | .plus :: ts | .minus :: ts =>
      let (right, ts) ← operand? fuel ts
      let kind ← sum? left right
      match ts with
      | .plus :: _ | .minus :: _ => none
      | ts => some (kind, ts)
    | ts => some (left, ts)

/-- A value that is not a sum. -/
def operand? : Nat → List Token → Option (Kind × List Token)
  | 0, _ => none
  | fuel + 1, ts =>
    match ts with
    | .plus :: ts | .minus :: ts => do
      let (kind, ts) ← operand? fuel ts
      some (← signed? kind, ts)
    | .number imaginary :: ts => some (if imaginary then .imaginary else .real, ts)
    | .constant :: ts => some (.member, ts)
    | .set :: .openParen :: .closeParen :: ts => some (.container, ts)
    | .quoted bytes :: ts =>
      match ts.dropWhile (· == .quoted bytes) with
      | .quoted _ :: _ => none
      | ts => some (.member, ts)
    | .openParen :: .closeParen :: ts => some (.member, ts)
    | .openParen :: ts => do
      let (kind, ts) ← value? fuel ts
      match ts with
      | .closeParen :: ts => some (kind, ts)
      | .comma :: ts =>
        let (kinds, ts) ← items? fuel .closeParen ts
        some (tupleKind (kind :: kinds), ts)
      | _ => none
    | .openBrace :: .closeBrace :: ts => some (.container, ts)
    | .openBrace :: ts => do
      let (kind, after) ← value? fuel ts
      if kind = .container then none
      else match after with
      | .closeBrace :: ts => some (.container, ts)
      | .comma :: ts =>
        let (kinds, ts) ← items? fuel .closeBrace ts
        if kinds.contains .container then none else some (.container, ts)
      | .colon :: _ => (entries? fuel ts).map fun ts => (.container, ts)
      | _ => none
    | _ => none

/-- Values between commas up to a closing bracket. -/
def items? : Nat → Token → List Token → Option (List Kind × List Token)
  | 0, _, _ => none
  | fuel + 1, closing, ts =>
    if ts.head? = some closing then some ([], ts.drop 1)
    else do
      let (kind, ts) ← value? fuel ts
      match ts with
      | .comma :: ts =>
        let (kinds, ts) ← items? fuel closing ts
        some (kind :: kinds, ts)
      | ts => if ts.head? = some closing then some ([kind], ts.drop 1) else none

/-- The entries of a dictionary up to its closing brace, and the tokens after it. -/
def entries? : Nat → List Token → Option (List Token)
  | 0, _ => none
  | fuel + 1, ts =>
    match ts with
    | .closeBrace :: ts => some ts
    | ts => do
      let (key, ts) ← value? fuel ts
      match ts with
      | .colon :: ts =>
        let (_, ts) ← value? fuel ts
        if key = .container then none
        else match ts with
        | .comma :: ts => entries? fuel ts
        | .closeBrace :: ts => some ts
        | _ => none
      | _ => none

end

/-- Whether tokens are a literal: a value, or several of them between commas. -/
def areReadable (ts : List Token) : Bool :=
  !ts.isEmpty &&
    (items? (3 * ts.length + 3) .closeParen (ts ++ [.closeParen])).any fun (_, rest) => rest.isEmpty

/-- Whether a text is a literal. -/
def isReadable (cs : List Char) : Bool :=
  !cs.contains '\x00' && !Text.hasSurrogate (String.ofList cs) && (tokens? cs).any areReadable

end ColumnTypes.Literal
