import ColumnTypes.Column
import ColumnTypes.Identifier

/-!
# Catalogs

The schemas of a database with the enums, composite types and tables in them.  The order of the
schemas is part of a catalog: a search goes through them in this order and takes the first match.
The system schema `pg_catalog` may be listed but is never searched.
-/

namespace ColumnTypes

/-- A user-defined enum type with its values. -/
structure EnumType where
  name : String
  values : List String
  deriving DecidableEq, Repr

/-- A user-defined composite (row) type. -/
structure CompositeType where
  name : String
  deriving DecidableEq, Repr

/-- A table with its columns in declaration order. -/
structure Table where
  name : String
  columns : List Column
  deriving DecidableEq, Repr

/-- A named space of tables, enums and composite types. -/
structure Schema where
  name : String
  enums : List EnumType
  composites : List CompositeType
  tables : List Table
  deriving DecidableEq, Repr

/-- The schemas of a database and the schema of unqualified names. -/
structure Catalog where
  defaultSchema : String
  schemas : List Schema
  deriving DecidableEq, Repr

/-- The name of the system schema. -/
def systemSchema : String := "pg_catalog"

/-- Whether a schema is the system schema. -/
def Schema.isSystem (s : Schema) : Bool :=
  s.name == systemSchema

/-- A type that a catalog defines, as resolution needs it. -/
inductive UserType where
  /-- An enum, with the SQL name from which its struct name is made. -/
  | enum (key : String)
  | composite
  deriving DecidableEq, Repr

namespace Schema

/-- Whether the schema has an enum of this name. -/
def hasEnum (s : Schema) (name : String) : Bool :=
  s.enums.any (·.name == name)

/-- Whether the schema has a composite type of this name. -/
def hasComposite (s : Schema) (name : String) : Bool :=
  s.composites.any (·.name == name)

end Schema

namespace Catalog

/-- The default schema of a catalog that names none. -/
def publicSchema : String := "public"

/-- The catalog without schemas. -/
def empty : Catalog := ⟨publicSchema, []⟩

/-- The first schema of a name. -/
def schema? (c : Catalog) (name : String) : Option Schema :=
  c.schemas.find? (·.name == name)

/-- The schemas other than the system schema, in order. -/
def userSchemas (c : Catalog) : List Schema :=
  c.schemas.filter (!·.isSystem)

/-- The SQL name from which an enum's struct name is made: outside the default schema it has the
schema's name in front. -/
def enumKey (c : Catalog) (schema name : String) : String :=
  if schema = c.defaultSchema then name else schema ++ "_" ++ name

/-- The type of a name in one schema; enums come before composite types. -/
def typeIn? (c : Catalog) (name : String) (s : Schema) : Option UserType :=
  if s.hasEnum name then some (.enum (c.enumKey s.name name))
  else if s.hasComposite name then some .composite
  else none

/-- The schema that a qualified name refers to: the default schema if it names none. -/
def schemaOf (c : Catalog) (i : Identifier) : String :=
  match i.schema with
  | some schema => if schema.isEmpty then c.defaultSchema else schema
  | none => c.defaultSchema

/-- The first type of a name among the user schemas of the schema it refers to. -/
def userType? (c : Catalog) (i : Identifier) : Option UserType :=
  (c.userSchemas.filter (·.name == c.schemaOf i)).findSome? (c.typeIn? i.name)

end Catalog

end ColumnTypes
