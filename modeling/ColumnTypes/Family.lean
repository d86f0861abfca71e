/-!
# Families of built-in types

SQL types that share a Go representation form a family.  A name belongs to at most one family and
is matched with its case; with `pg_catalog.` in front it means the same.
-/

namespace ColumnTypes

/-- A group of built-in SQL types with one Go representation. -/
inductive Family where
  | smallint | integer | bigint | real | double | numeric | boolean | json | jsonb | bytea
  | datetime | text | uuid | inet | cidr | macaddr | ltree | interval | daterange | tsrange
  | tstzrange | numrange | int4range | int8range | hstore | void
  deriving DecidableEq, Repr

namespace Family

/-- Every family. -/
def all : List Family :=
  [smallint, integer, bigint, real, double, numeric, boolean, json, jsonb, bytea, datetime, text,
   uuid, inet, cidr, macaddr, ltree, interval, daterange, tsrange, tstzrange, numrange, int4range,
   int8range, hstore, void]

/-- The name of a family. -/
def name : Family → String
  | smallint => "smallint"
  | integer => "integer"
  | bigint => "bigint"
  | real => "real"
  | double => "double"
  | numeric => "numeric"
  | boolean => "boolean"
  | json => "json"
  | jsonb => "jsonb"
  | bytea => "bytea"
  | datetime => "datetime"
  | text => "text"
  | uuid => "uuid"
  | inet => "inet"
  | cidr => "cidr"
  | macaddr => "macaddr"
  | ltree => "ltree"
  | interval => "interval"
  | daterange => "daterange"
  | tsrange => "tsrange"
  | tstzrange => "tstzrange"
  | numrange => "numrange"
  | int4range => "int4range"
  | int8range => "int8range"
  | hstore => "hstore"
  | void => "void"

/-- The family of a name. -/
def ofName? (s : String) : Option Family :=
  all.find? (·.name == s)

/-- The message for a name that no family has. -/
def unknownMessage (quotedName : String) : String :=
  quotedName ++ " is not a valid TypeFamily"

/-- The SQL types of a family. -/
def sqlNames : Family → List String
  | smallint => ["smallint", "int2", "smallserial", "serial2"]
  | integer => ["integer", "int", "int4", "serial", "serial4"]
  | bigint => ["bigint", "int8", "bigserial", "serial8"]
  | real => ["real", "float4"]
  | double => ["float", "double precision", "float8"]
  | numeric => ["numeric", "money"]
  | boolean => ["boolean", "bool"]
  | json => ["json"]
  | jsonb => ["jsonb"]
  | bytea => ["bytea", "blob"]
  | datetime => ["date", "time", "timetz", "timestamp", "timestamptz"]
  | text => ["text", "varchar", "bpchar", "string"]
  | uuid => ["uuid"]
  | inet => ["inet"]
  | cidr => ["cidr"]
  | macaddr => ["macaddr", "macaddr8"]
  | ltree => ["ltree", "lquery", "ltxtquery"]
  | interval => ["interval"]
  | daterange => ["daterange"]
  | tsrange => ["tsrange"]
  | tstzrange => ["tstzrange"]
  | numrange => ["numrange"]
  | int4range => ["int4range"]
  | int8range => ["int8range"]
  | hstore => ["hstore"]
  | void => ["void", "any"]

/-- The family of an SQL type given by its bare name. -/
def ofSqlName? (s : String) : Option Family :=
  all.find? fun family => family.sqlNames.contains s

/-- What stands before a built-in name that is qualified by the system schema. -/
def systemQualifier : List Char := "pg_catalog.".toList

/-- A declared type without the system schema in front, if it has it. -/
def unqualified? (declared : String) : Option String :=
  if systemQualifier.isPrefixOf declared.toList then
    some (String.ofList (declared.toList.drop systemQualifier.length))
  else none

/-- The family of a declared type. -/
def ofDeclared? (declared : String) : Option Family :=
  (ofSqlName? declared).or ((unqualified? declared).bind ofSqlName?)

end Family

end ColumnTypes
