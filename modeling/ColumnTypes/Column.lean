/-!
# Columns

A column as type resolution sees it: its name, its type as declared, and two flags.
-/

namespace ColumnTypes

/-- A column of a table or of a query's result. -/
structure Column where
  /-- Empty for an anonymous result column. -/
  name : String
  /-- The SQL type as declared; a column read from a document never has an empty one. -/
  declaredType : String
  notNull : Bool
  isArray : Bool
  deriving DecidableEq, Repr

/-- Arrays are never represented as nullable scalars. -/
def Column.effectiveNotNull (c : Column) : Bool :=
  c.notNull || c.isArray

end ColumnTypes
