import ColumnTypes.Calendar
import ColumnTypes.Decimal.Shortest
import ColumnTypes.Text.Quoted

/-!
# Documents

A `Document` is a value as configuration and catalog files hold it, before anything is known about
what it ought to be: the input of every validation.  The module gives its kinds, when it counts as
empty, when two of them are the same mapping key, and its two texts:

* `Document.shown` is the text inside a collection or a message, with strings in quotes;
* `Document.text` is the text standing alone, with a string as it is.

An integer of very many digits has no text (`Document.hasLongInteger`).

A collection can contain itself.  It is then a `loop` with a number, and inside of it the number
alone stands for all of it; `Document.unrolled` opens the outermost collection of a document.
-/

namespace ColumnTypes

/-- A value of a data file. -/
inductive Document where
  | null
  | bool (b : Bool)
  | int (n : Int)
  | float (x : Float)
  | str (s : String)
  | bytes (b : List UInt8)
  | date (d : Date)
  | dateTime (d : DateTime)
  | list (items : List Document)
  | pair (first second : Document)
  | set (items : List Document)
  /-- Entries in the order in which their keys first came. -/
  | map (entries : List (Document × Document))
  /-- A collection to which a number inside of it leads back. -/
  | loop (number : Nat) (body : Document)
  /-- The loop of a number around this place. -/
  | again (number : Nat)
  deriving Inhabited

namespace Document

/-- The name of a document's kind. -/
def kind : Document → String
  | null => "NoneType"
  | bool _ => "bool"
  | int _ => "int"
  | float _ => "float"
  | str _ => "str"
  | bytes _ => "bytes"
  | date _ => "date"
  | dateTime _ => "datetime"
  | list _ => "list"
  | pair _ _ => "tuple"
  | set _ => "set"
  | map _ => "dict"
  | loop _ body => kind body
  | again _ => "list"

/-- The name of a document's kind with its family in front, where it has one. -/
def qualifiedKind : Document → String
  | date _ => "datetime.date"
  | dateTime _ => "datetime.datetime"
  | d => d.kind

/-- Whether a document counts as absent: nothing, false, zero, or without content. -/
def isEmpty : Document → Bool
  | null => true
  | bool b => !b
  | int n => n == 0
  | float x => x == 0
  | str s => s.isEmpty
  | bytes b => b.isEmpty
  | list items => items.isEmpty
  | set items => items.isEmpty
  | map entries => entries.isEmpty
  | loop _ body => isEmpty body
  | date _ | dateTime _ | pair _ _ | again _ => false

/-- The integer a document equals, truth values counting as one and zero. -/
def integerValue? : Document → Option Int
  | bool b => some (if b then 1 else 0)
  | int n => some n
  | float x => Decimal.toInt? x
  | _ => none

/-- Whether two documents are the same key of a mapping; numbers are compared by value. -/
def sameKey (a b : Document) : Bool :=
  match a.integerValue?, b.integerValue? with
  | some m, some n => m == n
  | none, none =>
    match a, b with
    | null, null => true
    | float x, float y => x == y
    | str s, str t => s == t
    | bytes s, bytes t => s == t
    | date d, date e => d == e
    | dateTime d, dateTime e => d.sameMoment e
    | _, _ => false
  | _, _ => false

/-- The value under a text key. -/
def valueOf? (key : String) : List (Document × Document) → Option Document
  | [] => none
  | (k, v) :: rest =>
    match k with
    | str s => if s = key then some v else valueOf? key rest
    | _ => valueOf? key rest

/-- Sets a key's value: in its place if the key is there, at the end otherwise. -/
def insertEntry (key value : Document) : List (Document × Document) → List (Document × Document)
  | [] => [(key, value)]
  | (k, v) :: rest =>
    if k.sameKey key then (k, value) :: rest else (k, v) :: insertEntry key value rest

/-! ## Loops -/

mutual

/-- A document with the whole of a loop in every place that leads back to it. -/
def reopened (number : Nat) (whole : Document) : Document → Document
  | again n => if n = number then whole else again n
  | loop n body => loop n (if n = number then body else reopened number whole body)
  | list items => list (reopenedItems number whole items)
  | set items => set (reopenedItems number whole items)
  | pair a b => pair (reopened number whole a) (reopened number whole b)
  | map entries => map (reopenedEntries number whole entries)
  | d => d

/-- Items with the whole of a loop in every place that leads back to it. -/
def reopenedItems (number : Nat) (whole : Document) : List Document → List Document
  | [] => []
  | d :: ds => reopened number whole d :: reopenedItems number whole ds

/-- Entries with the whole of a loop in every place that leads back to it. -/
def reopenedEntries (number : Nat) (whole : Document) :
    List (Document × Document) → List (Document × Document)
  | [] => []
  | (k, v) :: rest =>
    (reopened number whole k, reopened number whole v) :: reopenedEntries number whole rest

end

/-- A document whose outermost collection is no loop. -/
def unrolled : Document → Document
  | loop n body => reopened n (loop n body) body
  | d => d

/-! ## Integers that are too long -/

/-- The first integer with more digits than are ever written. -/
def longInteger : Nat := Decimal.tenTo 4300

mutual

/-- Whether a document holds an integer that is too long to be written. -/
def hasLongInteger : Document → Bool
  | int n => longInteger ≤ n.natAbs
  | list items | set items => anyLongInteger items
  | pair a b => hasLongInteger a || hasLongInteger b
  | map entries => entriesHaveLongInteger entries
  | loop _ body => hasLongInteger body
  | _ => false

/-- Whether one of some items holds an integer that is too long to be written. -/
def anyLongInteger : List Document → Bool
  | [] => false
  | d :: ds => hasLongInteger d || anyLongInteger ds

/-- Whether one of some entries holds an integer that is too long to be written. -/
def entriesHaveLongInteger : List (Document × Document) → Bool
  | [] => false
  | (k, v) :: rest => hasLongInteger k || hasLongInteger v || entriesHaveLongInteger rest

end

/-! ## Texts -/

/-- Arguments between parentheses. -/
def call (name : String) (arguments : List String) : String :=
  name ++ "(" ++ ", ".intercalate arguments ++ ")"

/-- A date as a message shows it. -/
def shownDate (d : Date) : String :=
  call "datetime.date" [toString d.year, toString d.month, toString d.day]

/-- A span of seconds as whole days, possibly negative, and the seconds that remain. -/
def shownSpan (seconds : Int) : String :=
  let days := seconds.fdiv 86400
  let rest := seconds.fmod 86400
  call "datetime.timedelta"
    ((if days = 0 then [] else ["days=" ++ toString days]) ++
      (if rest = 0 then (if days = 0 then ["0"] else []) else ["seconds=" ++ toString rest]))

/-- An offset from universal time as a message shows it. -/
def shownOffset (seconds : Int) : String :=
  if seconds = 0 then "datetime.timezone.utc" else call "datetime.timezone" [shownSpan seconds]

/-- A date and time as a message shows it. -/
def shownDateTime (d : DateTime) : String :=
  let parts := [d.date.year, d.date.month, d.date.day, d.hour, d.minute]
  let seconds :=
    if d.microsecond ≠ 0 then [d.second, d.microsecond]
    else if d.second ≠ 0 then [d.second] else []
  let zone := match d.offset with
    | none => []
    | some seconds => ["tzinfo=" ++ shownOffset seconds]
  call "datetime.datetime" ((parts ++ seconds).map (fun (n : Nat) => toString n) ++ zone)

/-- What stands for a collection inside its own text. -/
def ellipsis : Document → String
  | map _ => "\x7b...\x7d"
  | pair _ _ => "(...)"
  | _ => "[...]"

mutual

/-- The text of a document inside a collection or a message; `around` lists the loops in whose texts
it stands, each with its ellipsis. -/
def shownIn (around : List (Nat × String)) : Document → String
  | null => "None"
  | bool b => if b then "True" else "False"
  | int n => toString n
  | float x => Decimal.floatText x
  | str s => Text.quoted s
  | bytes b => Text.quotedBytes b
  | date d => shownDate d
  | dateTime d => shownDateTime d
  | list items => "[" ++ shownItems around items ++ "]"
  | pair a b => "(" ++ shownIn around a ++ ", " ++ shownIn around b ++ ")"
  | set items =>
    if items.isEmpty then "set()" else "\x7b" ++ shownItems around items ++ "\x7d"
  | map entries => "\x7b" ++ shownEntries around entries ++ "\x7d"
  | loop n body => (around.lookup n).getD (shownIn ((n, body.ellipsis) :: around) body)
  | again n => (around.lookup n).getD ""

/-- Items with commas between. -/
def shownItems (around : List (Nat × String)) : List Document → String
  | [] => ""
  | [d] => shownIn around d
  | d :: ds => shownIn around d ++ ", " ++ shownItems around ds

/-- Entries with commas between. -/
def shownEntries (around : List (Nat × String)) : List (Document × Document) → String
  | [] => ""
  | [(k, v)] => shownIn around k ++ ": " ++ shownIn around v
  | (k, v) :: rest =>
    shownIn around k ++ ": " ++ shownIn around v ++ ", " ++ shownEntries around rest

end

/-- The text of a document inside a collection or a message. -/
def shown (d : Document) : String :=
  d.shownIn []

/-- The text of a document standing alone. -/
def text : Document → String
  | str s => s
  | date d => d.text
  | dateTime d => d.text
  | d => d.shown

end Document

end ColumnTypes
