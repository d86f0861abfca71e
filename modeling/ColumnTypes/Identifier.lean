import ColumnTypes.Text.Blank

/-!
# Qualified identifiers

A dotted name has one, two or three parts: `name`, `schema.name` or `catalog.schema.name`.
`Identifier.parse?` reads exactly these; a part may be empty, the whole name may not.

* `Identifier.text` joins the parts that are set and not empty.
* `Identifier.typeName` is the `schema.name` spelling under which types are looked up.
-/

namespace ColumnTypes

/-- A possibly qualified name of a relation or type. -/
structure Identifier where
  catalog : Option String
  schema : Option String
  name : String
  deriving DecidableEq, Repr

namespace Identifier

/-- The parts of a dotted name; the empty name has none. -/
def parts (s : String) : List String :=
  if s.isEmpty then [] else (Text.splitAt '.' s.toList).map String.ofList

/-- Reads a dotted name of one to three parts. -/
def parse? (s : String) : Option Identifier :=
  match parts s with
  | [name] => some ⟨none, none, name⟩
  | [schema, name] => some ⟨none, some schema, name⟩
  | [catalog, schema, name] => some ⟨some catalog, some schema, name⟩
  | _ => none

/-- The message for a dotted name that has no parts or more than three. -/
def invalidMessage (s : String) : String :=
  "invalid name: " ++ s

/-- The parts that are set and not empty, in order. -/
def visibleParts (i : Identifier) : List String :=
  ([i.catalog.getD "", i.schema.getD "", i.name]).filter fun part => !part.isEmpty

/-- The dotted text of an identifier. -/
def text (i : Identifier) : String :=
  ".".intercalate i.visibleParts

/-- The name with its schema in front, if there is one. -/
def typeName (i : Identifier) : String :=
  match i.schema with
  | some schema => if schema.isEmpty then i.name else schema ++ "." ++ i.name
  | none => i.name

end Identifier

end ColumnTypes
