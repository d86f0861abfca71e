import ColumnTypes.Catalog
import ColumnTypes.Validation.Report

/-!
# Catalogs as documents

Identifiers, columns and catalogs are read from documents and written to them.  Reading a catalog
is strict: at every level an entry that is not a field of the record is a fault.  The faults come
in the order of the fields, then the unexpected entries in the order of the document.
-/

namespace ColumnTypes

open Document

/-! ## Reading -/

/-- Reads an identifier; entries it does not know are left alone. -/
def Identifier.ofEntries (entries : List (Document × Document)) : Checked Identifier :=
  let catalog := optionalField ["catalog"] asOptionalText none entries
  let schema := optionalField ["schema", "schema_name"] asOptionalText none entries
  let name := requiredField ["name"] asText entries
  (catalog.both (schema.both name)).map fun (catalog, schema, name) => ⟨catalog, schema, name⟩

/-- Reads an identifier from a document. -/
def Identifier.ofDocument : Document → Checked Identifier :=
  asRecord "Identifier" Identifier.ofEntries

/-- The fields of a column; the type goes under either of two names. -/
def Column.fields : List (List String) :=
  [["name"], ["type", "declared_type"], ["not_null"], ["is_array"]]

/-- Reads a column. -/
def Column.ofEntries (entries : List (Document × Document)) : Checked Column :=
  let name := optionalField ["name"] asText "" entries
  let declaredType := requiredField ["type", "declared_type"] asNonemptyText entries
  let notNull := optionalField ["not_null"] asBool false entries
  let isArray := optionalField ["is_array"] asBool false entries
  let others := noOtherEntries (usedNames Column.fields entries) entries
  (name.both (declaredType.both (notNull.both (isArray.both others)))).map
    fun (name, declaredType, notNull, isArray, _) => ⟨name, declaredType, notNull, isArray⟩

/-- Reads a column from a document. -/
def Column.ofDocument : Document → Checked Column :=
  asStrictRecord "Column" Column.ofEntries

/-- Reads an enum type. -/
def EnumType.ofEntries (entries : List (Document × Document)) : Checked EnumType :=
  let name := requiredField ["name"] asText entries
  let values := optionalField ["vals"] (asList asText) [] entries
  let others := noOtherEntries ["name", "vals"] entries
  (name.both (values.both others)).map fun (name, values, _) => ⟨name, values⟩

/-- Reads an enum type from a document. -/
def EnumType.ofDocument : Document → Checked EnumType :=
  asStrictRecord "EnumType" EnumType.ofEntries

/-- Reads a composite type. -/
def CompositeType.ofEntries (entries : List (Document × Document)) : Checked CompositeType :=
  let name := requiredField ["name"] asText entries
  let others := noOtherEntries ["name"] entries
  (name.both others).map fun (name, _) => ⟨name⟩

/-- Reads a composite type from a document. -/
def CompositeType.ofDocument : Document → Checked CompositeType :=
  asStrictRecord "CompositeType" CompositeType.ofEntries

/-- Reads a table. -/
def Table.ofEntries (entries : List (Document × Document)) : Checked Table :=
  let name := requiredField ["name"] asText entries
  let columns := optionalField ["columns"] (asList Column.ofDocument) [] entries
  let others := noOtherEntries ["name", "columns"] entries
  (name.both (columns.both others)).map fun (name, columns, _) => ⟨name, columns⟩

/-- Reads a table from a document. -/
def Table.ofDocument : Document → Checked Table :=
  asStrictRecord "Table" Table.ofEntries

/-- Reads a schema. -/
def Schema.ofEntries (entries : List (Document × Document)) : Checked Schema :=
  let name := requiredField ["name"] asText entries
  let enums := optionalField ["enums"] (asList EnumType.ofDocument) [] entries
  let composites := optionalField ["composite_types"] (asList CompositeType.ofDocument) [] entries
  let tables := optionalField ["tables"] (asList Table.ofDocument) [] entries
  let others := noOtherEntries ["name", "enums", "composite_types", "tables"] entries
  (name.both (enums.both (composites.both (tables.both others)))).map
    fun (name, enums, composites, tables, _) => ⟨name, enums, composites, tables⟩

/-- Reads a schema from a document. -/
def Schema.ofDocument : Document → Checked Schema :=
  asStrictRecord "Schema" Schema.ofEntries

/-- Reads a catalog. -/
def Catalog.ofEntries (entries : List (Document × Document)) : Checked Catalog :=
  let defaultSchema := optionalField ["default_schema"] asText Catalog.publicSchema entries
  let schemas := optionalField ["schemas"] (asList Schema.ofDocument) [] entries
  let others := noOtherEntries ["default_schema", "schemas"] entries
  (defaultSchema.both (schemas.both others)).map
    fun (defaultSchema, schemas, _) => ⟨defaultSchema, schemas⟩

/-- Reads a catalog from a document. -/
def Catalog.ofDocument : Document → Checked Catalog :=
  asStrictRecord "Catalog" Catalog.ofEntries

/-! ## Writing -/

/-- A mapping with text keys. -/
def Document.record (fields : List (String × Document)) : Document :=
  .map (fields.map fun (name, value) => (.str name, value))

/-- The name under which a column's type is written. -/
inductive TypeSpelling where
  /-- The name used in catalog files. -/
  | short
  /-- The name of the field. -/
  | long
  deriving DecidableEq, Repr

/-- The text of a spelling. -/
def TypeSpelling.text : TypeSpelling → String
  | short => "type"
  | long => "declared_type"

/-- A column as a document with every field. -/
def Column.toDocument (spelling : TypeSpelling) (c : Column) : Document :=
  .record [("name", .str c.name), (spelling.text, .str c.declaredType),
    ("not_null", .bool c.notNull), ("is_array", .bool c.isArray)]

/-- An enum type as a document. -/
def EnumType.toDocument (e : EnumType) : Document :=
  .record [("name", .str e.name), ("vals", .list (e.values.map .str))]

/-- A composite type as a document. -/
def CompositeType.toDocument (c : CompositeType) : Document :=
  .record [("name", .str c.name)]

/-- A table as a document. -/
def Table.toDocument (spelling : TypeSpelling) (t : Table) : Document :=
  .record [("name", .str t.name), ("columns", .list (t.columns.map (Column.toDocument spelling)))]

/-- A schema as a document. -/
def Schema.toDocument (spelling : TypeSpelling) (s : Schema) : Document :=
  .record [("name", .str s.name), ("enums", .list (s.enums.map EnumType.toDocument)),
    ("composite_types", .list (s.composites.map CompositeType.toDocument)),
    ("tables", .list (s.tables.map (Table.toDocument spelling)))]

/-- A catalog as a document. -/
def Catalog.toDocument (spelling : TypeSpelling) (c : Catalog) : Document :=
  .record [("default_schema", .str c.defaultSchema),
    ("schemas", .list (c.schemas.map (Schema.toDocument spelling)))]

end ColumnTypes
