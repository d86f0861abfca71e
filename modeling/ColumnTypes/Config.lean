import ColumnTypes.GoType
import ColumnTypes.Path
import ColumnTypes.StructName
import ColumnTypes.Validation.Report

/-!
# Configurations

A `Config` says where the catalog is, for which driver package types are chosen, which struct names
are overridden, and whether unresolved types are logged.  It is read from a mapping with the
sections `go` and `options`; entries it does not know are left alone.
-/

namespace ColumnTypes

open Document

/-- The settings of a project. -/
structure Config where
  /-- The path of the catalog as written, or anchored at the configuration file. -/
  catalog : String
  /-- The driver package as written. -/
  package : String
  rename : Rename
  debug : Bool
  deriving DecidableEq, Repr

namespace Config

/-- The path of the catalog. -/
def catalogPath (c : Config) : Path :=
  Path.ofText c.catalog

/-- The driver that the package selects. -/
def driver (c : Config) : Driver :=
  Driver.ofPackage c.package

/-- The configuration with its catalog path taken from the directory of a configuration file. -/
def anchoredAt (c : Config) (folder : Location) : Config :=
  if c.catalogPath.isAbsolute then c
  else { c with catalog := ((Path.ofLocation folder).join c.catalogPath).text }

/-! ## Reading -/

/-- The environment variable that turns logging on. -/
def debugVariableName : String := "PGCODEGEN_DEBUG"

/-- The words that turn logging on, in lower case. -/
def debugWords : List String := ["1", "true", "yes", "on"]

/-- Whether an environment variable's value turns logging on; an unset one does not. -/
def debugDefault (value : Option String) : Bool :=
  match value with
  | some s => debugWords.contains (s.map Text.lowerAscii)
  | none => false

/-- Reads the driver package: nothing is the empty package, and every other value is its text, if it
can be written. -/
def readPackage (d : Document) : Checked String :=
  match d with
  | null => .ok ""
  | _ => if d.hasLongInteger then .fail .longInteger d else .ok d.text

/-- Sets an override, in its place if its name is there. -/
def setOverride (name value : String) : Rename → Rename
  | [] => [(name, value)]
  | (n, v) :: rest =>
    if n = name then (n, value) :: rest else (n, v) :: setOverride name value rest

/-- Reads an override.  The faults of its key are marked as such. -/
def readOverride (key value : Document) : Checked (String × String) :=
  ((key.asText.under (.field "[key]")).both value.asText).under (keyStep key)

/-- Reads overrides one after another. -/
def readOverrides : List (Document × Document) → Checked (List (String × String))
  | [] => .ok []
  | (key, value) :: rest =>
    ((readOverride key value).both (readOverrides rest)).map fun (entry, entries) =>
      entry :: entries

/-- Reads the overrides of struct names; of two for a name the later one counts. -/
def readRename (d : Document) : Checked Rename :=
  match d.entries? with
  | some entries =>
    (readOverrides entries).map (·.foldl (fun done (name, value) => setOverride name value done) [])
  | none => .fail .notMapping d

/-- Reads the section on generated code: package and overrides. -/
def readGo (entries : List (Document × Document)) : Checked (String × Rename) :=
  (optionalField ["sql_package"] readPackage "" entries).both
    (optionalField ["rename"] readRename [] entries)

/-- Reads the section of options. -/
def readOptions (default : Bool) (entries : List (Document × Document)) : Checked Bool :=
  optionalField ["debug"] asBool default entries

/-- Reads a configuration.  What the environment says about logging is the default. -/
def ofEntries (debug : Bool) (entries : List (Document × Document)) : Checked Config :=
  let catalog := requiredField ["catalog"] asText entries
  let go := optionalField ["go"] (asRecord "GoConfig" readGo) ("", []) entries
  let options :=
    optionalField ["options"] (asRecord "OptionsConfig" (readOptions debug)) debug entries
  (catalog.both (go.both options)).map fun (catalog, (package, rename), debug) =>
    ⟨catalog, package, rename, debug⟩

/-- Reads a configuration from a document. -/
def ofDocument (debug : Bool) (d : Document) : Except Report Config :=
  (asRecord "CodegenConfig" (ofEntries debug) d).report "CodegenConfig"

end Config

end ColumnTypes
