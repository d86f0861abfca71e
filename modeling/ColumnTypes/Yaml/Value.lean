import ColumnTypes.Document
import ColumnTypes.Text.Blank
import ColumnTypes.Text.Case
import ColumnTypes.Text.Numeral
import ColumnTypes.Yaml.Tag

/-!
# Values of scalars

What a scalar of each type is worth: integers in their bases, floating-point numbers, truth values,
timestamps and base64 data.  A tag given by hand may be wrong about its text; that is a
`ScalarError`.
-/

namespace ColumnTypes.Yaml

namespace Value

/-- Drops the underscores that group digits. -/
def withoutLines (text : List Char) : List Char :=
  text.filter (· != '_')

/-- A sign as a factor, and the text after it. -/
def sign : List Char → Int × List Char
  | '-' :: rest => (-1, rest)
  | '+' :: rest => (1, rest)
  | cs => (1, cs)

/-- A number's text with its digits and blanks in ASCII, without the blanks at both ends. -/
def trimmed (text : List Char) : List Char :=
  let cs := (Text.asciiNumerals text).dropWhile Text.isAsciiBlank
  (cs.reverse.dropWhile Text.isAsciiBlank).reverse

/-! ## Integers -/

/-- Whether a character is a digit of a base. -/
def isDigitOf (base : Nat) (c : Char) : Bool :=
  isHexDigit c && hexDigitValue c < base

/-- The number that digits of a base spell. -/
def natural (base : Nat) (digits : List Char) : Nat :=
  digits.foldl (fun n c => n * base + hexDigitValue c) 0

/-- More decimal digits than this are refused, whatever follows them. -/
def digitLimit : Nat := 4300

/-- The letter that marks a base after a zero, in lower case. -/
def baseMark? (base : Nat) : Option Char :=
  match base with
  | 2 => some 'b'
  | 8 => some 'o'
  | 16 => some 'x'
  | _ => none

/-- Drops the mark that a number of a base may begin with. -/
def withoutMark (base : Nat) : List Char → List Char
  | '0' :: c :: rest => if some c.toLower = baseMark? base then rest else '0' :: c :: rest
  | cs => cs

/-- The most characters of a quoted text that a message about an integer shows. -/
def shownLimit : Nat := 200

/-- The text that is no integer, as a message shows it. -/
def shownInteger (text : List Char) : String :=
  String.ofList ((Text.quoted (String.ofList text)).toList.take shownLimit)

/-- A whole number of a base, with a sign and a mark of its own and blanks around it. -/
def integer (base : Nat) (text : List Char) : Except ScalarError Int :=
  let (factor, cs) := sign (trimmed text)
  let cs := withoutMark base cs
  let digits := cs.takeWhile (isDigitOf base)
  if base = 10 ∧ digitLimit < digits.length then .error (.tooManyDigits digits.length)
  else if digits.isEmpty ∨ digits.length < cs.length then
    .error (.notInteger base (shownInteger text))
  else .ok (factor * natural base digits)

/-- A number of parts in base sixty, the most significant first. -/
def sixties (parts : List Int) : Int :=
  parts.foldl (fun n part => n * 60 + part) 0

/-- The value of an integer's text. -/
def int (text : List Char) : Except ScalarError Int :=
  match withoutLines text with
  | [] => .error .emptyNumber
  | c :: rest => do
    let (factor, cs) := sign (c :: rest)
    match cs with
    | [] => .error .emptyNumber
    | ['0'] => .ok 0
    | '0' :: 'b' :: digits => return factor * (← integer 2 digits)
    | '0' :: 'x' :: digits => return factor * (← integer 16 digits)
    | '0' :: _ => return factor * (← integer 8 cs)
    | _ =>
      if cs.contains ':' then
        return factor * sixties (← (Text.splitAt ':' cs).mapM (integer 10))
      else return factor * (← integer 10 cs)

/-! ## Floating-point numbers -/

/-- Beyond this decimal exponent a number is infinite, and below its opposite it is zero. -/
def exponentLimit : Int := 400

/-- The number nearest to `digits · 10^scale`. -/
def nearest (digits : Nat) (scale : Int) : Float :=
  let top := scale + (toString digits).length
  if digits = 0 ∨ top < -exponentLimit then 0
  else if exponentLimit < top then 1.0 / 0.0
  else if scale < 0 then Float.ofScientific digits true scale.natAbs
  else Float.ofScientific digits false scale.natAbs

/-- The number that decimal digits spell, if there are digits and nothing else. -/
def natural? (digits : List Char) : Option Nat :=
  if !digits.isEmpty && digits.all Char.isDigit then some (natural 10 digits) else none

/-- An exponent after its letter: a sign and digits. -/
def exponent? (cs : List Char) : Option Int :=
  let (factor, digits) := sign cs
  (natural? digits).map (factor * ·)

/-- A decimal number without a sign: digits with an optional point and an optional exponent. -/
def unsignedDecimal? (cs : List Char) : Option Float := do
  let whole := cs.takeWhile Char.isDigit
  let rest := cs.dropWhile Char.isDigit
  let (fraction, rest) := match rest with
    | '.' :: rest => (rest.takeWhile Char.isDigit, rest.dropWhile Char.isDigit)
    | _ => ([], rest)
  let digits ← natural? (whole ++ fraction)
  let exponent ← match rest with
    | [] => some 0
    | e :: rest => if e = 'e' ∨ e = 'E' then exponent? rest else none
  return nearest digits (exponent - fraction.length)

/-- A decimal number, infinity or not a number, in lower case and with blanks around it. -/
def decimal (text : List Char) : Except ScalarError Float :=
  let (factor, cs) := sign (trimmed text)
  let unsigned : Option Float :=
    if cs = "inf".toList ∨ cs = "infinity".toList then some (1.0 / 0.0)
    else if cs = "nan".toList then some (0.0 / 0.0)
    else unsignedDecimal? cs
  match unsigned with
  | some x => .ok (if factor < 0 then -x else x)
  | none => .error (.notNumber (Text.quoted (String.ofList text)))

/-- From here on a power of the base has no floating-point number. -/
def powerLimit : Nat := Decimal.twoTo 1024

/-- Parts in base sixty, the least significant first, added to a sum. -/
def sixtiesSum (sum : Float) (power : Nat) : List Float → Except ScalarError Float
  | [] => .ok sum
  | part :: parts =>
    if powerLimit ≤ power then .error .baseTooLarge
    else sixtiesSum (sum + part * Float.ofNat power) (power * 60) parts

/-- The value of a floating-point number's text, and whether it is the one that is written as not
being a number. -/
def float (text : List Char) : Except ScalarError (Float × Bool) :=
  match Text.lowered (withoutLines text) with
  | [] => .error .emptyNumber
  | c :: rest => do
    let (factor, cs) := sign (c :: rest)
    let signed (x : Float) : Float × Bool := (if factor < 0 then -x else x, false)
    if cs = ".inf".toList then return signed (1.0 / 0.0)
    else if cs = ".nan".toList then return (0.0 / 0.0, true)
    else if cs.contains ':' then
      return signed (← sixtiesSum 0.0 1 (← (Text.splitAt ':' cs).mapM decimal).reverse)
    else return signed (← decimal cs)

/-! ## Other types -/

/-- The value of a truth value's text, in any case. -/
def bool (s : String) : Except ScalarError Bool :=
  let word := String.ofList (Text.lowered s.toList)
  if ["yes", "true", "on"].contains word then .ok true
  else if ["no", "false", "off"].contains word then .ok false
  else .error (.notTruthValue (Text.quoted word))

/-- The microseconds that the digits of a fraction stand for; the first six count. -/
def microseconds (fraction : List Char) : Nat :=
  Stamp.numeral ((fraction ++ List.replicate 6 '0').take 6)

/-- A calendar error as a scalar's. -/
def calendarError (e : CalendarError) : ScalarError :=
  match e with
  | .offset seconds => .calendar e (Document.shownSpan seconds)
  | _ => .calendar e ""

/-- The value of a timestamp's text: a date, or a date and time. -/
def timestamp (text : List Char) : Except ScalarError Document :=
  match Stamp.ofText? (withoutLastBreak text) with
  | none => .error .notTimestamp
  | some stamp =>
    match stamp.time with
    | none =>
      match Date.make stamp.year stamp.month stamp.day with
      | .ok d => .ok (.date d)
      | .error e => .error (calendarError e)
    | some (hour, minute, second, fraction) =>
      let offset := stamp.zone.map fun (factor, hours, minutes) =>
        factor * ((hours * 3600 + minutes * 60 : Nat) : Int)
      if 86400 ≤ (offset.getD 0).natAbs then
        .error (calendarError (.offset (offset.getD 0)))
      else
        match DateTime.make stamp.year stamp.month stamp.day hour minute second
          (microseconds fraction) offset with
        | .ok d => .ok (.dateTime d)
        | .error e => .error (calendarError e)

/-- The value of a base64 digit. -/
def base64Digit? (c : Char) : Option Nat :=
  if 'A' ≤ c ∧ c ≤ 'Z' then some (c.toNat - 65)
  else if 'a' ≤ c ∧ c ≤ 'z' then some (c.toNat - 71)
  else if c.isDigit then some (c.toNat + 4)
  else if c = '+' then some 62
  else if c = '/' then some 63
  else none

/-- Reads base64 text.  Characters that are no digits are passed over; padding ends the data once it
completes a group of four.  `held` has the bits of `count` digits of an open group. -/
def base64 : List Char → (count held pads : Nat) → (done : List UInt8) → Except Problem (List UInt8)
  | [], count, _, _, done =>
    if count = 0 then .ok done.reverse
    else .error (if count = 1 then .oddDigit (done.length / 3 * 4 + 1) else .badPadding)
  | c :: rest, count, held, pads, done =>
    if c = '=' then
      if 2 ≤ count ∧ 4 ≤ count + pads + 1 then .ok done.reverse
      else base64 rest count held (if 2 ≤ count then pads + 1 else pads) done
    else match base64Digit? c with
      | none => base64 rest count held pads done
      | some d =>
        match count with
        | 0 => base64 rest 1 d 0 done
        | 1 => base64 rest 2 (d % 16) 0 (UInt8.ofNat (held * 4 + d / 16) :: done)
        | 2 => base64 rest 3 (d % 4) 0 (UInt8.ofNat (held * 16 + d / 4) :: done)
        | _ => base64 rest 0 0 0 (UInt8.ofNat (held * 64 + d) :: done)

/-- The problem of the first run of code points that are not ASCII. -/
def notAscii? (codes : List Nat) : Option Problem :=
  let before := codes.takeWhile (· < 128)
  match codes.drop before.length with
  | [] => none
  | n :: rest =>
    let last := before.length + (rest.takeWhile (128 ≤ ·)).length
    some (.notAscii n before.length last)

/-- The value of base64 text, which must be ASCII. -/
def binary (s : String) : Except Problem (List UInt8) :=
  match notAscii? (Text.codes s) with
  | some problem => .error problem
  | none => base64 s.toList 0 0 0 []

end Value

end ColumnTypes.Yaml
