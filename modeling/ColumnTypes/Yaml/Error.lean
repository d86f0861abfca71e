import ColumnTypes.Calendar
import ColumnTypes.Text.Utf8
import ColumnTypes.Yaml.Mark

/-!
# Errors of reading YAML

A text can fail to be a YAML document at all, which is a `Fault` at a mark in it, or a scalar in it
can fail to be what its tag says.  The message of a fault says what was being read, since where, and
what is wrong at which place; it quotes the text around both places.
-/

namespace ColumnTypes.Yaml

/-- What was being read when a fault was found. -/
inductive Activity where
  | nextToken
  | simpleKey
  | directive
  | directiveUri
  | anchor
  | reference
  | tag
  | tagUri
  | blockScalar
  | quotedScalar
  | doubleQuotedScalar
  | node
  | blockNode
  | flowNode
  | blockCollection
  | blockMapping
  | flowSequence
  | flowMapping
  /-- A node under an anchor that another node has. -/
  | anchored (name : String)
  | document
  | mapping
  | orderedMapping
  | pairs
  deriving DecidableEq, Repr

/-- What is wrong with a text. -/
inductive Problem where
  | cannotStart (found : Char)
  | missingColon
  | entryNotAllowed
  | keyNotAllowed
  | valueNotAllowed
  /-- Another character than what is described. -/
  | expected (what : String) (found : Char)
  | zeroIndentation
  | unknownEscape (found : Char)
  | endOfText
  | documentSeparator
  | badUtf8 (error : Text.Utf8Error)
  | notDocumentStart (found : String)
  | secondVersion
  | wrongVersion
  | secondHandle (handle : String)
  | unknownHandle (handle : String)
  | noContent (found : String)
  | noBlockEnd (found : String)
  | noFlowEnd (bracket : Char) (found : String)
  | unknownAlias (name : String)
  | secondAnchor
  | secondDocument
  | unknownTag (uri : String)
  /-- A node of another kind than what is described. -/
  | wrongNode (what found : String)
  | severalEntries (count : Nat)
  | badKey
  | notAscii (code : Nat) (first last : Nat)
  | badPadding
  | oddDigit (count : Nat)
  deriving DecidableEq, Repr

/-- Why a text is not a YAML document. -/
structure Fault where
  activity : Option Activity
  /-- Where the activity began. -/
  start : Option Mark
  problem : Problem
  place : Mark
  deriving DecidableEq, Repr

/-- Why a scalar is not what its tag says. -/
inductive ScalarError where
  | notInteger (base : Nat) (shown : String)
  | tooManyDigits (count : Nat)
  | notNumber (shown : String)
  | baseTooLarge
  | notTruthValue (shown : String)
  | notTimestamp
  | timestampOfMapping
  | endlessText
  | emptyNumber
  | codePointTooLarge
  | codePointOverflow
  | calendar (error : CalendarError) (shownOffset : String)
  deriving DecidableEq, Repr

/-- Why reading failed. -/
inductive Error where
  /-- A character that no YAML text holds, with the number of characters before it. -/
  | unacceptable (found : Char) (position : Nat)
  | malformed (fault : Fault)
  | scalar (error : ScalarError)
  deriving DecidableEq, Repr

/-! ## Wording -/

/-- The wording of an activity. -/
def Activity.wording : Activity → String
  | nextToken => "while scanning for the next token"
  | simpleKey => "while scanning a simple key"
  | directive => "while scanning a directive"
  | directiveUri => "while parsing a directive"
  | anchor => "while scanning an anchor"
  | reference => "while scanning an alias"
  | tag => "while scanning a tag"
  | tagUri => "while parsing a tag"
  | blockScalar => "while scanning a block scalar"
  | quotedScalar => "while scanning a quoted scalar"
  | doubleQuotedScalar => "while scanning a double-quoted scalar"
  | node => "while parsing a node"
  | blockNode => "while parsing a block node"
  | flowNode => "while parsing a flow node"
  | blockCollection => "while parsing a block collection"
  | blockMapping => "while parsing a block mapping"
  | flowSequence => "while parsing a flow sequence"
  | flowMapping => "while parsing a flow mapping"
  | anchored name => "found duplicate anchor " ++ Text.quoted name ++ "; first occurrence"
  | document => "expected a single document in the stream"
  | mapping => "while constructing a mapping"
  | orderedMapping => "while constructing an ordered map"
  | pairs => "while constructing pairs"

/-- A character between quotes. -/
def quotedChar (c : Char) : String :=
  Text.quoted (Text.ofChars [c])

/-- A character that is not ASCII, as an escape between single quotes. -/
def escapedCode (n : Nat) : String :=
  let digits :=
    if n < 0x100 then 'x' :: Text.hex 2 n
    else if n < 0x10000 then 'u' :: Text.hex 4 n
    else 'U' :: Text.hex 8 n
  "'\\" ++ String.ofList digits ++ "'"

/-- The message about characters that are not ASCII, in a range of positions. -/
def notAsciiMessage (code first last : Nat) : String :=
  let characters :=
    if first = last then "character " ++ escapedCode code ++ " in position " ++ toString first
    else "characters in position " ++ toString first ++ "-" ++ toString last
  "failed to convert base64 data into ascii: 'ascii' codec can't encode " ++ characters ++
    ": ordinal not in range(128)"

/-- The wording of a problem. -/
def Problem.wording : Problem → String
  | cannotStart c => "found character " ++ quotedChar c ++ " that cannot start any token"
  | missingColon => "could not find expected ':'"
  | entryNotAllowed => "sequence entries are not allowed here"
  | keyNotAllowed => "mapping keys are not allowed here"
  | valueNotAllowed => "mapping values are not allowed here"
  | expected what found => "expected " ++ what ++ ", but found " ++ quotedChar found
  | zeroIndentation => "expected indentation indicator in the range 1-9, but found 0"
  | unknownEscape c => "found unknown escape character " ++ quotedChar c
  | endOfText => "found unexpected end of stream"
  | documentSeparator => "found unexpected document separator"
  | badUtf8 e => e.message
  | notDocumentStart found => "expected '<document start>', but found " ++ Text.quoted found
  | secondVersion => "found duplicate YAML directive"
  | wrongVersion => "found incompatible YAML document (version 1.* is required)"
  | secondHandle handle => "duplicate tag handle " ++ Text.quoted handle
  | unknownHandle handle => "found undefined tag handle " ++ Text.quoted handle
  | noContent found => "expected the node content, but found " ++ Text.quoted found
  | noBlockEnd found => "expected <block end>, but found " ++ Text.quoted found
  | noFlowEnd bracket found =>
    "expected ',' or '" ++ String.singleton bracket ++ "', but got " ++ Text.quoted found
  | unknownAlias name => "found undefined alias " ++ Text.quoted name
  | secondAnchor => "second occurrence"
  | secondDocument => "but found another document"
  | unknownTag uri => "could not determine a constructor for the tag " ++ Text.quoted uri
  | wrongNode what found => "expected " ++ what ++ ", but found " ++ found
  | severalEntries count =>
    "expected a single mapping item, but found " ++ toString count ++ " items"
  | badKey => "found unhashable key"
  | notAscii code first last => notAsciiMessage code first last
  | badPadding => "failed to decode base64 data: Incorrect padding"
  | oddDigit count =>
    "failed to decode base64 data: Invalid base64-encoded string: number of data characters (" ++
      toString count ++ ") cannot be 1 more than a multiple of 4"

/-- The lines about the start of an activity; the start is left out where the fault is there too. -/
def Fault.startLines (text : List Char) (f : Fault) : List String :=
  match f.start with
  | some m => if m.sameSpot f.place then [] else [m.shown text]
  | none => []

/-- The message of a fault in a text. -/
def Fault.message (text : List Char) (f : Fault) : String :=
  "\n".intercalate
    ((f.activity.map Activity.wording).toList ++ f.startLines text ++
      [f.problem.wording, f.place.shown text])

/-- The wording of a calendar error. -/
def calendarMessage (shownOffset : String) : CalendarError → String
  | .year n => "year " ++ toString n ++ " is out of range"
  | .month => "month must be in 1..12"
  | .day => "day is out of range for month"
  | .hour => "hour must be in 0..23"
  | .minute => "minute must be in 0..59"
  | .second => "second must be in 0..59"
  | .offset _ =>
    "offset must be a timedelta strictly between -timedelta(hours=24) and timedelta(hours=24), " ++
      "not " ++ shownOffset ++ "."

/-- The wording of a scalar's error. -/
def ScalarError.message : ScalarError → String
  | .notInteger base shown =>
    "invalid literal for int() with base " ++ toString base ++ ": " ++ shown
  | .tooManyDigits count =>
    "Exceeds the limit (4300 digits) for integer string conversion: value has " ++
      toString count ++ " digits; use sys.set_int_max_str_digits() to increase the limit"
  | .notNumber shown => "could not convert string to float: " ++ shown
  | .baseTooLarge => "int too large to convert to float"
  | .notTruthValue shown => shown
  | .notTimestamp => "'NoneType' object has no attribute 'groupdict'"
  | .timestampOfMapping => "expected string or bytes-like object, got 'list'"
  | .endlessText => "maximum recursion depth exceeded"
  | .emptyNumber => "string index out of range"
  | .codePointTooLarge => "chr() arg not in range(0x110000)"
  | .codePointOverflow => "Python int too large to convert to C int"
  | .calendar error shownOffset => calendarMessage shownOffset error

/-- The message about a character that no YAML text holds. -/
def unacceptableMessage (c : Char) (position : Nat) : String :=
  "unacceptable character #x" ++ String.ofList (Text.hex 4 c.toNat) ++
    ": special characters are not allowed\n  in \"<unicode string>\", position " ++
    toString position

/-- The message of an error in a text. -/
def Error.message (text : List Char) : Error → String
  | .unacceptable found position => unacceptableMessage found position
  | .malformed fault => fault.message text
  | .scalar error => error.message

end ColumnTypes.Yaml
