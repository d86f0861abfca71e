import ColumnTypes.Catalog
import ColumnTypes.GoType
import ColumnTypes.StructName

/-!
# Resolution of column types

A declared type is understood in one of five ways, its `Finding`.  The finding depends on the
catalog and the declared type alone; the driver, nullability and overrides matter only when the
finding is turned into a Go type.

* `Catalog.classify` finds how a declared type is to be understood.
* `Finding.goType` is the Go type of a finding; it always is one.
* `Catalog.logs` is what is logged when a column is resolved.
-/

namespace ColumnTypes

/-- How a declared type is understood. -/
inductive Finding where
  | builtin (family : Family)
  | user (type : UserType)
  /-- Not a name of one to three parts. -/
  | malformed
  /-- A well-formed name that nothing has. -/
  | unknown
  deriving DecidableEq, Repr

/-- How a declared type is understood: built-in names first, then the catalog. -/
def Catalog.classify (c : Catalog) (declared : String) : Finding :=
  match Family.ofDeclared? declared with
  | some family => .builtin family
  | none =>
    match Identifier.parse? declared with
    | none => .malformed
    | some i =>
      match c.userType? i with
      | some t => .user t
      | none => .unknown

namespace UserType

/-- The Go type of a user-defined type: a struct name for an enum, text for a composite. -/
def goType (t : UserType) (notNull : Bool) (rename : Rename) : GoType :=
  match t with
  | enum key => .named (structName rename key)
  | composite => if notNull then .string else .nullString

end UserType

namespace Finding

/-- The Go type of a finding. -/
def goType (f : Finding) (driver : Option Driver) (notNull : Bool) (rename : Rename) : GoType :=
  match f with
  | builtin family => family.goType driver notNull
  | user t => t.goType notNull rename
  | malformed => .dynamic
  | unknown => .dynamic

end Finding

/-- How weighty a log record is. -/
inductive Level where
  | debug
  | warning
  deriving DecidableEq, Repr

/-- The spelling of a level. -/
def Level.name : Level → String
  | debug => "DEBUG"
  | warning => "WARNING"

/-- A log record. -/
structure LogRecord where
  level : Level
  message : String
  deriving DecidableEq, Repr

/-- The record for a declared type that nothing has. -/
def unknownTypeRecord (declared : String) : LogRecord :=
  ⟨.warning, "unknown PostgreSQL type: " ++ declared⟩

/-- What a resolution depends on besides the catalog and the column. -/
structure Settings where
  driver : Option Driver
  rename : Rename
  debug : Bool

namespace Catalog

/-- The Go type of a column. -/
def goType (c : Catalog) (settings : Settings) (column : Column) : GoType :=
  (c.classify column.declaredType).goType settings.driver column.effectiveNotNull settings.rename

/-- What is logged when a column is resolved: with `debug`, a type that nothing has. -/
def logs (c : Catalog) (settings : Settings) (column : Column) : List LogRecord :=
  if settings.debug && c.classify column.declaredType == .unknown then
    [unknownTypeRecord column.declaredType]
  else []

end Catalog

/-! ## Whole catalogs -/

/-- A table's column with the Go type chosen for it. -/
structure ResolvedColumn where
  schema : String
  table : String
  column : String
  declaredType : String
  goType : GoType
  deriving DecidableEq, Repr

/-- Numbers of schemas, tables, columns, and columns without a specific Go type. -/
structure Statistics where
  schemas : Nat
  tables : Nat
  columns : Nat
  dynamic : Nat
  deriving DecidableEq, Repr

/-- The columns of a catalog with their types, and what was logged on the way. -/
structure CatalogTypes where
  columns : List ResolvedColumn
  statistics : Statistics
  logs : List LogRecord

namespace ResolvedColumn

/-- Whether the column has no specific Go type. -/
def isDynamic (r : ResolvedColumn) : Bool :=
  r.goType.isDynamic

end ResolvedColumn

namespace CatalogTypes

/-- The columns without a specific Go type. -/
def unresolved (t : CatalogTypes) : List ResolvedColumn :=
  t.columns.filter (·.isDynamic)

end CatalogTypes

namespace Catalog

/-- Every column of the user schemas with its schema and table, in order. -/
def tableColumns (c : Catalog) : List (Schema × Table × Column) :=
  c.userSchemas.flatMap fun s => s.tables.flatMap fun t => t.columns.map fun col => (s, t, col)

/-- A column with its Go type. -/
def resolveColumn (c : Catalog) (settings : Settings) :
    Schema × Table × Column → ResolvedColumn
  | (s, t, col) => ⟨s.name, t.name, col.name, col.declaredType, c.goType settings col⟩

/-- Resolves every table column of the user schemas. -/
def resolveAll (c : Catalog) (settings : Settings) : CatalogTypes :=
  let columns := c.tableColumns.map (c.resolveColumn settings)
  { columns
    statistics :=
      { schemas := c.userSchemas.length
        tables := (c.userSchemas.flatMap (·.tables)).length
        columns := columns.length
        dynamic := (columns.filter (·.isDynamic)).length }
    logs := c.tableColumns.flatMap fun (_, _, col) => c.logs settings col }

end Catalog

end ColumnTypes
