import ColumnTypes.Yaml.Scalar

/-!
# Tags

A tag says what a node is.  A plain scalar without one is matched against the written forms of the
scalar types; text that has none of these forms is a string.  A line break at the very end of a text
does not keep it from having a form.
-/

namespace ColumnTypes.Yaml

/-- What a node is. -/
inductive Tag where
  | null | bool | int | float | timestamp | binary | str | seq | map | set | omap | pairs
  | merge
  | value
  /-- A tag with no meaning here, by its full name. -/
  | other (uri : String)
  deriving DecidableEq, Repr

namespace Tag

/-- What stands before the names of the common tags. -/
def commonStart : String := "tag:yaml.org,2002:"

/-- The common tags by name. -/
def common : List (String × Tag) :=
  [("null", null), ("bool", bool), ("int", int), ("float", float), ("timestamp", timestamp),
   ("binary", binary), ("str", str), ("seq", seq), ("map", map), ("set", set), ("omap", omap),
   ("pairs", pairs), ("merge", merge), ("value", value)]

/-- The tag of a full name. -/
def ofUri (uri : String) : Tag :=
  match common.find? fun (name, _) => commonStart ++ name == uri with
  | some (_, tag) => tag
  | none => other uri

/-- The full name of a tag. -/
def uri : Tag → String
  | other uri => uri
  | tag =>
    match common.find? (·.2 == tag) with
    | some (name, _) => commonStart ++ name
    | none => ""

end Tag

/-! ## Written forms

A form is a test on a whole text, put together from readers of its parts.  A reader takes the
longest front it can, and the parts are such that this never keeps the rest from matching. -/

namespace Form

/-- Digits and the underscores between them. -/
def isDigitOrLine (c : Char) : Bool :=
  c.isDigit || c == '_'

/-- The text after an optional sign. -/
def afterSign : List Char → List Char
  | '+' :: rest => rest
  | '-' :: rest => rest
  | cs => cs

/-- Groups of a colon and a number below sixty; `none` if there is no group or anything else. -/
def isSixties (needed : Bool) : List Char → Bool
  | [] => !needed
  | ':' :: a :: b :: rest =>
    if '0' ≤ a ∧ a ≤ '5' ∧ b.isDigit then isSixties false rest
    else if a.isDigit then isSixties false (b :: rest)
    else false
  | [':', a] => a.isDigit
  | _ => false

/-- Base two, eight, ten or sixteen, or base sixty with colons. -/
def isInt (text : List Char) : Bool :=
  match afterSign text with
  | '0' :: 'b' :: rest => !rest.isEmpty && rest.all fun c => c == '0' || c == '1' || c == '_'
  | '0' :: 'x' :: rest => !rest.isEmpty && rest.all fun c => isHexDigit c || c == '_'
  | '0' :: rest => rest.all fun c => ('0' ≤ c && c ≤ '7') || c == '_'
  | c :: rest =>
    c.isDigit &&
      (let tail := rest.dropWhile isDigitOrLine
       tail.isEmpty || isSixties true tail)
  | [] => false

/-- An optional exponent, which has a sign. -/
def isExponent : List Char → Bool
  | [] => true
  | e :: sign :: rest =>
    (e == 'e' || e == 'E') && (sign == '+' || sign == '-') && !rest.isEmpty && rest.all Char.isDigit
  | _ => false

/-- The fraction after a point, with an optional exponent. -/
def isFraction (cs : List Char) : Bool :=
  isExponent (cs.dropWhile isDigitOrLine)

/-- Groups of a colon and a number below sixty, then a point and a fraction. -/
def isSixtiesFraction (needed : Bool) : List Char → Bool
  | '.' :: rest => !needed && rest.all isDigitOrLine
  | ':' :: a :: b :: rest =>
    if '0' ≤ a ∧ a ≤ '5' ∧ b.isDigit then isSixtiesFraction false rest
    else if a.isDigit then isSixtiesFraction false (b :: rest)
    else false
  | _ => false

/-- Digits with a point, base sixty with a point, infinity, or not a number. -/
def isFloat (text : List Char) : Bool :=
  let unsigned := afterSign text
  match unsigned with
  | '.' :: rest =>
    ["inf".toList, "Inf".toList, "INF".toList].contains rest ||
      (unsigned.length == text.length &&
        (["nan".toList, "NaN".toList, "NAN".toList].contains rest ||
          (match rest with
           | c :: _ => c.isDigit && isFraction rest
           | [] => false)))
  | c :: rest =>
    c.isDigit &&
      (match rest.dropWhile isDigitOrLine with
       | '.' :: fraction => isFraction fraction
       | tail => isSixtiesFraction true tail)
  | [] => false

/-- The words for truth values. -/
def truthWords : List String :=
  ["yes", "Yes", "YES", "no", "No", "NO", "true", "True", "TRUE", "false", "False", "FALSE", "on",
   "On", "ON", "off", "Off", "OFF"]

/-- The words for nothing. -/
def nullWords : List String :=
  ["~", "null", "Null", "NULL", ""]

end Form

/-! ## Timestamps -/

/-- The numbers of a timestamp as written: a date, and perhaps a time of day with a zone. -/
structure Stamp where
  year : Nat
  month : Nat
  day : Nat
  /-- Hour, minute, second and the digits of the fraction. -/
  time : Option (Nat × Nat × Nat × List Char)
  /-- Sign, hours and minutes of the offset; universal time is zero. -/
  zone : Option (Int × Nat × Nat)

namespace Stamp

/-- The number that digits spell. -/
def numeral (digits : List Char) : Nat :=
  digits.foldl (fun n d => n * 10 + (d.toNat - 48)) 0

/-- Between `least` and `most` digits, and the text after them. -/
def digits? (least most : Nat) (cs : List Char) : Option (Nat × List Char) :=
  let run := (cs.take most).takeWhile Char.isDigit
  if least ≤ run.length then some (numeral run, cs.drop run.length) else none

/-- The text after a character. -/
def after? (c : Char) : List Char → Option (List Char)
  | d :: rest => if c = d then some rest else none
  | [] => none

/-- The text after the blanks. -/
def afterBlanks (cs : List Char) : List Char :=
  cs.dropWhile fun c => c == ' ' || c == '\t'

/-- The text after what parts a date from a time: a letter `T` or blanks. -/
def afterGap? (cs : List Char) : Option (List Char) :=
  match cs with
  | 'T' :: rest => some rest
  | 't' :: rest => some rest
  | ' ' :: _ => some (afterBlanks cs)
  | '\t' :: _ => some (afterBlanks cs)
  | _ => none

/-- A zone up to the end of the text; blanks before it are allowed. -/
def zone? (cs : List Char) : Option (Option (Int × Nat × Nat)) :=
  match afterBlanks cs with
  | [] => if cs.isEmpty then some none else none
  | ['Z'] => some (some (1, 0, 0))
  | c :: rest => do
    let sign : Int ← if c = '+' then some 1 else if c = '-' then some (-1) else none
    let (hours, rest) ← digits? 1 2 rest
    if rest.isEmpty then some (some (sign, hours, 0))
    else
      let (minutes, rest) ← digits? 2 2 (← after? ':' rest)
      if rest.isEmpty then some (some (sign, hours, minutes)) else none

/-- A time of day with its zone up to the end of the text. -/
def time? (cs : List Char) :
    Option ((Nat × Nat × Nat × List Char) × Option (Int × Nat × Nat)) := do
  let (hour, cs) ← digits? 1 2 cs
  let (minute, cs) ← digits? 2 2 (← after? ':' cs)
  let (second, cs) ← digits? 2 2 (← after? ':' cs)
  let (fraction, cs) := match cs with
    | '.' :: rest => (rest.takeWhile Char.isDigit, rest.dropWhile Char.isDigit)
    | _ => ([], cs)
  let zone ← zone? cs
  some ((hour, minute, second, fraction), zone)

/-- The numbers of a timestamp.  Month and day of a bare date have two digits each. -/
def ofText? (text : List Char) : Option Stamp := do
  let (year, rest) ← digits? 4 4 text
  let dashed ← after? '-' rest
  let (month, rest) ← digits? 1 2 dashed
  let (day, rest) ← digits? 1 2 (← after? '-' rest)
  if rest.isEmpty then
    some ⟨year, month, day, none, none⟩
  else
    let (time, zone) ← time? (← afterGap? rest)
    some ⟨year, month, day, some time, zone⟩

/-- Whether a plain scalar is a timestamp: a bare date must have all its zeros. -/
def isImplicit (text : List Char) : Bool :=
  match ofText? text with
  | some stamp => stamp.time.isSome || text.length == 10
  | none => false

end Stamp

/-- A text without the line feed that may end it. -/
def withoutLastBreak (cs : List Char) : List Char :=
  if cs.getLast? = some '\n' then cs.dropLast else cs

/-- The tag of the characters that have no meaning alone, such as an anchor without a name. -/
def Tag.indicator : Tag :=
  .other (commonStart ++ "yaml")

/-- The tag of a scalar that has a text with a form of its own, and none otherwise. -/
def Tag.ofForm? (cs : List Char) : Option Tag :=
  let s := String.ofList cs
  if Form.truthWords.contains s then some .bool
  else if Form.isFloat cs then some .float
  else if Form.isInt cs then some .int
  else if s == "<<" then some .merge
  else if Form.nullWords.contains s then some .null
  else if Stamp.isImplicit cs then some .timestamp
  else if s == "=" then some .value
  else if s == "!" ∨ s == "&" ∨ s == "*" then some indicator
  else none

/-- The tag of a plain scalar without one.  A line feed alone is no empty text. -/
def Tag.ofPlain (content : String) : Tag :=
  if content == "\n" then .str
  else (ofForm? (withoutLastBreak content.toList)).getD .str

end ColumnTypes.Yaml
