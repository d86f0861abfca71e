import ColumnTypes.Document

/-!
# Validation of documents

A **check** reads a `Document` as a value of some type.  It either succeeds or lists its faults:
what is wrong, where, and which document was found there.  Checks are put together so that no fault
hides another:

* `Checked.both` and `Checked.each` go on after a failure and append the faults in order;
* `Checked.under` prefixes the location of every fault with a step.

Records are read field by field with `requiredField` and `optionalField`; `noOtherEntries` refuses
the entries that no field has used.
-/

namespace ColumnTypes

/-- One step of a location inside a document. -/
inductive Step where
  | field (name : String)
  | item (index : Int)
  deriving DecidableEq, Repr, Inhabited

/-- What is wrong with a document. -/
inductive Problem where
  | missing
  | notText
  | brokenText
  | emptyText
  | notTruthValue
  | unclearTruthValue
  | notList
  | notMapping
  | notTuple
  | tooManyItems (limit found : Nat)
  | notRecord (model : String)
  | notFields
  | unexpectedEntry
  | badEntryName
  | longInteger
  | notLiteral (expected : String)
  | unknownTag (tag : String)
  | noTag
  deriving DecidableEq, Repr

/-- A fault: where it is, what is wrong, and the document found there. -/
structure Fault where
  location : List Step
  problem : Problem
  found : Document

/-- The outcome of a check. -/
abbrev Checked (α : Type) := Except (List Fault) α

namespace Checked

variable {α β : Type}

/-- A failure with a single fault at the place itself. -/
def fail (problem : Problem) (found : Document) : Checked α :=
  .error [⟨[], problem, found⟩]

/-- The same outcome with the faults one step further inside. -/
def under (step : Step) : Checked α → Checked α
  | .ok a => .ok a
  | .error faults => .error (faults.map fun f => { f with location := step :: f.location })

/-- Both outcomes, or the faults of both. -/
def both : Checked α → Checked β → Checked (α × β)
  | .ok a, .ok b => .ok (a, b)
  | .ok _, .error g => .error g
  | .error f, .ok _ => .error f
  | .error f, .error g => .error (f ++ g)

/-- Checks items one after another, each under its position counted from `start`. -/
def each (check : Document → Checked α) (start : Nat) : List Document → Checked (List α)
  | [] => .ok []
  | d :: ds =>
    match both ((check d).under (.item start)) (each check (start + 1) ds) with
    | .ok (a, as) => .ok (a :: as)
    | .error faults => .error faults

end Checked

namespace Document

/-! ## Checks of single values -/

/-- The text that bytes spell. -/
def spelled? (b : List UInt8) : Option String :=
  (String.fromUTF8? ⟨b.toArray⟩).map fun s => Text.ofChars s.toList

/-- Text; bytes count as the text they spell. -/
def asText (d : Document) : Checked String :=
  match d with
  | str s => .ok s
  | bytes b =>
    match spelled? b with
    | some s => .ok s
    | none => .fail .brokenText d
  | _ => .fail .notText d

/-- Text of at least one character, without surrogates. -/
def asNonemptyText (d : Document) : Checked String :=
  match d.asText with
  | .ok s =>
    if Text.hasSurrogate s then .fail .brokenText d
    else if s.isEmpty then .fail .emptyText d else .ok s
  | .error faults => .error faults

/-- Text or nothing. -/
def asOptionalText (d : Document) : Checked (Option String) :=
  match d with
  | null => .ok none
  | _ =>
    match d.asText with
    | .ok s => .ok (some s)
    | .error faults => .error faults

/-- The words for true and false, in lower case. -/
def truthWords : List (String × Bool) :=
  [("0", false), ("off", false), ("f", false), ("false", false), ("n", false), ("no", false),
   ("1", true), ("on", true), ("t", true), ("true", true), ("y", true), ("yes", true)]

/-- The truth value that a word stands for, in any case of its ASCII letters. -/
def truthOfWord? (s : String) : Option Bool :=
  truthWords.lookup (s.map Char.toLower)

/-- The first integer that a signed word of 64 bits does not hold: two to the power of 63. -/
def wordLimit : Int := 9223372036854775808

/-- Whether an integer fits a signed 64-bit word. -/
def fitsWord (n : Int) : Bool :=
  -wordLimit ≤ n && n < wordLimit

/-- The truth value of an integer: one and zero only. -/
def truthOfInt (d : Document) (n : Int) : Checked Bool :=
  if n = 0 then .ok false else if n = 1 then .ok true else .fail .unclearTruthValue d

/-- A truth value, given as such, as a word, or as one or zero.  A number without a fraction counts
as the integer it equals, as far as that fits a word. -/
def asBool (d : Document) : Checked Bool :=
  match d with
  | bool b => .ok b
  | str s =>
    match truthOfWord? s with
    | some b => .ok b
    | none => .fail (if Text.hasSurrogate s then .brokenText else .unclearTruthValue) d
  | bytes b =>
    match (spelled? b).bind truthOfWord? with
    | some b => .ok b
    | none => .fail .unclearTruthValue d
  | int n => if fitsWord n then truthOfInt d n else .fail .notTruthValue d
  | float x =>
    match Decimal.toInt? x with
    | some n => if fitsWord n && n != -wordLimit then truthOfInt d n else .fail .notTruthValue d
    | none => .fail .notTruthValue d
  | _ => .fail .notTruthValue d

/-! ## Checks of collections -/

/-- The items of a list-like document. -/
def items? (d : Document) : Option (List Document) :=
  match d.unrolled with
  | list items => some items
  | set items => some items
  | pair a b => some [a, b]
  | _ => none

/-- A list whose items all pass a check. -/
def asList {α : Type} (check : Document → Checked α) (d : Document) : Checked (List α) :=
  match d.items? with
  | some items => Checked.each check 0 items
  | none => .fail .notList d

/-- The entries of a mapping. -/
def entries? (d : Document) : Option (List (Document × Document)) :=
  match d.unrolled with
  | map entries => some entries
  | _ => none

/-- A record: a mapping whose entries pass a check. -/
def asRecord {α : Type} (model : String) (check : List (Document × Document) → Checked α)
    (d : Document) : Checked α :=
  match d.entries? with
  | some entries => check entries
  | none => .fail (.notRecord model) d

/-- Whether a document is a text with surrogates in it. -/
def isBrokenText : Document → Bool
  | str s => Text.hasSurrogate s
  | _ => false

/-- A record in which every entry must be known.  An entry whose name is a text with surrogates is
the only fault, since no name can be told from it. -/
def asStrictRecord {α : Type} (model : String)
    (check : List (Document × Document) → Checked α) : Document → Checked α :=
  asRecord model fun entries =>
    match entries.find? fun (key, _) => key.isBrokenText with
    | some (key, _) => .fail .brokenText key
    | none => check entries

/-- The entry under the first of several names that is there. -/
def findField? (names : List String) (entries : List (Document × Document)) :
    Option (String × Document) :=
  names.findSome? fun name => (valueOf? name entries).map (name, ·)

/-- The value of a field that must be there; its faults carry the name it was given under. -/
def requiredField {α : Type} (names : List String) (check : Document → Checked α)
    (entries : List (Document × Document)) : Checked α :=
  match findField? names entries with
  | some (name, d) => (check d).under (.field name)
  | none => (Checked.fail .missing (map entries)).under (.field (names.headD ""))

/-- The value of a field that may be absent. -/
def optionalField {α : Type} (names : List String) (check : Document → Checked α) (default : α)
    (entries : List (Document × Document)) : Checked α :=
  match findField? names entries with
  | some (name, d) => (check d).under (.field name)
  | none => .ok default

/-- The text of a document in reports: one that cannot be written is told by its kind. -/
def reported (d : Document) : String :=
  if d.hasLongInteger then "<unprintable " ++ d.kind ++ " object>" else d.shown

/-- The step that a mapping key stands for. -/
def keyStep (key : Document) : Step :=
  match key with
  | str s => .field (Text.withoutSurrogates s)
  | bool b => .item (if b then 1 else 0)
  | int n => if fitsWord n then .item n else .field key.reported
  | _ => .field key.reported

/-- Refuses every entry whose name is not among the names that fields have used. -/
def noOtherEntries (used : List String) (entries : List (Document × Document)) : Checked Unit :=
  match entries.filterMap fun (key, value) =>
      match key with
      | str s => if used.contains s then none else some ⟨[keyStep key], .unexpectedEntry, value⟩
      | _ => some ⟨[keyStep key], .badEntryName, key⟩ with
  | [] => .ok ()
  | faults => .error faults

/-- The names under which fields are found, each field by the first of its names that is there. -/
def usedNames (fields : List (List String)) (entries : List (Document × Document)) : List String :=
  fields.filterMap fun names => (findField? names entries).map Prod.fst

end Document

end ColumnTypes
