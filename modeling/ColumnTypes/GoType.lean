import ColumnTypes.Family

/-!
# Go types

The Go types that a column can be given, with the spelling under which they go into generated code,
and the representation of the built-in families under a driver.
-/

namespace ColumnTypes

/-- The driver library that generated code is for. -/
inductive Driver where
  /-- The package `database/sql` with its standard PostgreSQL driver. -/
  | standard
  /-- The package `pgx/v4`, which has representations of its own for several families. -/
  | pgxV4
  /-- Any other driver: it has no representations of its own. -/
  | other (name : String)
  deriving DecidableEq, Repr

namespace Driver

/-- The spelling of a driver in configuration files. -/
def name : Driver → String
  | standard => "database/sql"
  | pgxV4 => "pgx/v4"
  | other name => name

/-- The drivers that can be chosen. -/
def choices : List Driver := [standard, pgxV4]

/-- The driver of a configured package; an unrecognised one selects the standard driver. -/
def ofPackage (package : String) : Driver :=
  if package = pgxV4.name then pgxV4 else standard

/-- The driver of a name that can be chosen. -/
def ofName? (s : String) : Option Driver :=
  choices.find? (·.name == s)

end Driver

/-- A Go type for a column. -/
inductive GoType where
  | int16 | int32 | int64 | float32 | float64 | bool | string | bytes | time | uuid
  | nullString | rawMessage | nullRawMessage
  | pgNumeric | pgJson | pgJsonb | pgInet | pgCidr | pgMacaddr | pgDaterange | pgTsrange
  | pgTstzrange | pgNumrange | pgInt4range | pgInt8range | pgHstore
  /-- The empty interface: no specific representation applies. -/
  | dynamic
  /-- A generated type. -/
  | named (name : String)
  deriving DecidableEq, Repr

namespace GoType

/-- The spelling of a type in generated code. -/
def text : GoType → String
  | int16 => "int16"
  | int32 => "int32"
  | int64 => "int64"
  | float32 => "float32"
  | float64 => "float64"
  | bool => "bool"
  | string => "string"
  | bytes => "[]byte"
  | time => "time.Time"
  | uuid => "uuid.UUID"
  | nullString => "sql.NullString"
  | rawMessage => "json.RawMessage"
  | nullRawMessage => "pqtype.NullRawMessage"
  | pgNumeric => "pgtype.Numeric"
  | pgJson => "pgtype.JSON"
  | pgJsonb => "pgtype.JSONB"
  | pgInet => "pgtype.Inet"
  | pgCidr => "pgtype.CIDR"
  | pgMacaddr => "pgtype.Macaddr"
  | pgDaterange => "pgtype.Daterange"
  | pgTsrange => "pgtype.Tsrange"
  | pgTstzrange => "pgtype.Tstzrange"
  | pgNumrange => "pgtype.Numrange"
  | pgInt4range => "pgtype.Int4range"
  | pgInt8range => "pgtype.Int8range"
  | pgHstore => "pgtype.Hstore"
  | dynamic => "interface\x7b\x7d"
  | named name => name

/-- Whether a type is spelled as the empty interface. -/
def isDynamic (t : GoType) : Bool :=
  t.text == dynamic.text

end GoType

namespace Family

/-- The representation that every driver shares; families without one are dynamic. -/
def sharedType : Family → GoType
  | smallint => .int16
  | integer => .int32
  | bigint => .int64
  | real => .float32
  | double => .float64
  | numeric => .string
  | boolean => .bool
  | bytea => .bytes
  | datetime => .time
  | text => .string
  | uuid => .uuid
  | ltree => .string
  | interval => .int64
  | _ => .dynamic

/-- The representation of its own that `pgx/v4` has for a family. -/
def pgxType? : Family → Option GoType
  | numeric => some .pgNumeric
  | json => some .pgJson
  | jsonb => some .pgJsonb
  | inet => some .pgInet
  | cidr => some .pgCidr
  | macaddr => some .pgMacaddr
  | daterange => some .pgDaterange
  | tsrange => some .pgTsrange
  | tstzrange => some .pgTstzrange
  | numrange => some .pgNumrange
  | int4range => some .pgInt4range
  | int8range => some .pgInt8range
  | hstore => some .pgHstore
  | _ => none

/-- The representation of its own that a driver has for a family. -/
def ownType? (family : Family) : Option Driver → Option GoType
  | some .pgxV4 => family.pgxType?
  | _ => none

/-- Whether the family holds JSON documents, whose representation depends on nullability. -/
def isDocument : Family → Bool
  | json | jsonb => true
  | _ => false

/-- The representation of a JSON document; without a driver there is none. -/
def documentType (driver : Option Driver) (notNull : Bool) : GoType :=
  match driver with
  | none => .dynamic
  | some _ => if notNull then .rawMessage else .nullRawMessage

/-- The Go type of a family under a driver. -/
def goType (family : Family) (driver : Option Driver) (notNull : Bool) : GoType :=
  match family.ownType? driver with
  | some t => t
  | none => if family.isDocument then documentType driver notNull else family.sharedType

end Family

end ColumnTypes
