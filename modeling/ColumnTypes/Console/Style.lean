import ColumnTypes.Console.ColourTable
import ColumnTypes.Text.Blank
import ColumnTypes.Text.Case
import ColumnTypes.Text.Numeral

/-!
# Styles

A style is written as words: attributes such as `bold`, each of which `not` may negate, a colour, a
colour of the background after `on`, and an address after `link`.  `Style.parse` reads the words and
`Style.text` writes them in their usual order, so two ways of writing a style have one `Style.name`.
A text that is no style is a name of its own.
-/

namespace ColumnTypes

/-- What a style can do to a text besides its colours. -/
inductive Style.Attribute where
  | bold
  | dim
  | italic
  | underline
  | blink
  | blink2
  | reverse
  | conceal
  | strike
  | underline2
  | frame
  | encircle
  | overline
  deriving DecidableEq, Repr

/-- A style: which attributes it sets, on or off, its colours, and its address. -/
structure Style where
  attributes : Style.Attribute → Option Bool
  colour : Option (List Char)
  background : Option (List Char)
  link : Option (List Char)

namespace Style

/-- Why a text is not a style. -/
inductive Fault where
  /-- A word is none of a style. -/
  | unknown
  /-- A part of a colour is not a number. -/
  | notANumber
  deriving DecidableEq, Repr

/-- The style that changes nothing. -/
def plain : Style := ⟨fun _ => none, none, none, none⟩

/-! ## Attributes -/

/-- The attributes in their usual order. -/
def Attribute.all : List Attribute :=
  [.bold, .dim, .italic, .underline, .blink, .blink2, .reverse, .conceal, .strike, .underline2,
   .frame, .encircle, .overline]

/-- The name of an attribute. -/
def Attribute.name : Attribute → String
  | bold => "bold"
  | dim => "dim"
  | italic => "italic"
  | underline => "underline"
  | blink => "blink"
  | blink2 => "blink2"
  | reverse => "reverse"
  | conceal => "conceal"
  | strike => "strike"
  | underline2 => "underline2"
  | frame => "frame"
  | encircle => "encircle"
  | overline => "overline"

/-- The short name of an attribute. -/
def Attribute.shortName? : Attribute → Option String
  | bold => some "b"
  | dim => some "d"
  | italic => some "i"
  | underline => some "u"
  | reverse => some "r"
  | conceal => some "c"
  | strike => some "s"
  | underline2 => some "uu"
  | overline => some "o"
  | blink | blink2 | frame | encircle => none

/-- The attribute of a name, long or short. -/
def Attribute.ofName? (name : List Char) : Option Attribute :=
  let name := String.ofList name
  Attribute.all.find? fun a => a.name == name || a.shortName? == some name

/-- A style with an attribute on or off. -/
def withAttribute (s : Style) (a : Attribute) (on : Bool) : Style :=
  { s with attributes := fun b => if b = a then some on else s.attributes b }

/-! ## Colours -/

/-- Whether a character is a decimal digit of any script. -/
def isDecimal (c : Char) : Bool :=
  ('0' ≤ c && c ≤ '9') || (Text.decimalValue? c).isSome

/-- The most digits that a number may have. -/
def digitLimit : Nat := 4300

/-- The number that decimal digits of any script spell. -/
def number? (digits : List Char) : Option Nat :=
  if digits.isEmpty || digitLimit < digits.length then none
  else some ((Text.asciiNumerals digits).foldl (fun n c => 10 * n + (c.toNat - 48)) 0)

/-- The greatest value of a part of a colour, and the greatest number of a colour. -/
def colourLimit : Nat := 255

/-- The text between brackets after a word. -/
def bracketed? (word : String) (cs : List Char) : Option (List Char) :=
  let start := word.toList ++ ['(']
  if start.isPrefixOf cs && cs.getLast? == some ')' then
    some ((cs.drop start.length).dropLast)
  else none

/-- Whether a text is a colour in six hexadecimal digits. -/
def isHexadecimal (cs : List Char) : Bool :=
  match cs with
  | '#' :: digits =>
    digits.length == 6 && digits.all fun c => ('0' ≤ c && c ≤ '9') || ('a' ≤ c && c ≤ 'f')
  | _ => false

/-- Whether a text is a colour by its number. -/
def isNumbered (cs : List Char) : Bool :=
  match bracketed? "color" cs with
  | some digits =>
    digits.all (fun c => '0' ≤ c && c ≤ '9') && digits.length ≤ 3 &&
      ((number? digits).any (· ≤ colourLimit))
  | none => false

/-- Whether a text is a colour by its red, green and blue parts. -/
def isMixed (cs : List Char) : Except Fault Bool :=
  match bracketed? "rgb" cs with
  | some inner =>
    let parts := Text.splitAt ',' inner
    if inner.all (fun c => isDecimal c || c == ',') && parts.length == 3 then
      match parts.mapM number? with
      | some numbers => .ok (numbers.all (· ≤ colourLimit))
      | none => .error .notANumber
    else .ok false
  | none => .ok false

/-- The colour that a word names, in lower case. -/
def colourOf (word : List Char) : Except Fault (List Char) :=
  let name := Text.lowered word
  if String.ofList name = "default" ∨ String.ofList name ∈ colourNames ∨ isHexadecimal name ∨
      isNumbered name then .ok name
  else match isMixed name with
    | .ok true => .ok name
    | .ok false => .error .unknown
    | .error fault => .error fault

/-! ## Reading and writing -/

/-- A style after the words that are left. -/
def afterWords (s : Style) : List (List Char) → Except Fault Style
  | [] => .ok s
  | word :: rest =>
    let name := Text.lowered word
    match String.ofList name, rest with
    | "on", background :: rest =>
      match colourOf background with
      | .ok c => afterWords { s with background := some c } rest
      | .error fault => .error fault
    | "not", negated :: rest =>
      match Attribute.ofName? negated with
      | some a => afterWords (s.withAttribute a false) rest
      | none => .error .unknown
    | "link", address :: rest => afterWords { s with link := some address } rest
    | _, rest =>
      match Attribute.ofName? name with
      | some a => afterWords (s.withAttribute a true) rest
      | none =>
        match colourOf name with
        | .ok c => afterWords { s with colour := some c } rest
        | .error fault => .error fault

/-- The style that a text describes. -/
def parse (cs : List Char) : Except Fault Style :=
  let words := Text.words cs
  if words = ["none".toList] then .ok plain else afterWords plain words

/-- The word or words of an attribute. -/
def attributeWords (s : Style) (a : Attribute) : List (List Char) :=
  match s.attributes a with
  | some true => [a.name.toList]
  | some false => ["not".toList, a.name.toList]
  | none => []

/-- The words of a style. -/
def wordsOf (s : Style) : List (List Char) :=
  Attribute.all.flatMap s.attributeWords ++ s.colour.toList ++
    (s.background.toList.flatMap fun c => ["on".toList, c]) ++
    (s.link.toList.flatMap fun l => ["link".toList, l])

/-- The text of a style. -/
def text (s : Style) : List Char :=
  let words := s.wordsOf
  if words.isEmpty then "none".toList else Text.joinWith [' '] words

/-- Drops the blanks at both ends. -/
def trimmed (cs : List Char) : List Char :=
  Text.dropEnd Text.isBlank (cs.dropWhile Text.isBlank)

/-- The name under which a style is known: its usual text, or the text itself in lower case where it
describes none. -/
def name (cs : List Char) : Except Fault (List Char) :=
  match parse cs with
  | .ok s => .ok s.text
  | .error .unknown => .ok (Text.lowered (trimmed cs))
  | .error .notANumber => .error .notANumber

end Style

end ColumnTypes
