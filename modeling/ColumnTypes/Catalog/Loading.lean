import ColumnTypes.Catalog.Reading
import ColumnTypes.Config.Loading

/-!
# Loading catalogs

A catalog is a YAML file, or a directory with YAML files at any depth.  The files of a directory are
taken in the order of their paths, compared name by name, if every directory on the way can be
listed.  Their schemas form one list, and the first default schema that is not empty counts; only
this merged mapping is then read as a catalog.
-/

namespace ColumnTypes

/-- What the files of a catalog give together. -/
structure CatalogParts where
  defaultSchema : Option Document
  schemas : List Document

namespace CatalogParts

/-- Nothing. -/
def empty : CatalogParts := ⟨none, []⟩

/-- Two parts one after the other; the first default schema counts. -/
def append (a b : CatalogParts) : CatalogParts :=
  ⟨a.defaultSchema.orElse fun _ => b.defaultSchema, a.schemas ++ b.schemas⟩

/-- The mapping of all parts. -/
def entries (parts : CatalogParts) : List (Document × Document) :=
  (.str "schemas", .list parts.schemas) ::
    match parts.defaultSchema with
    | some d => [(.str "default_schema", d)]
    | none => []

/-- What a document can be gone through by: items, keys, characters or bytes. -/
def elements? (d : Document) : Option (List Document) :=
  match d.unrolled with
  | .list items => some items
  | .set items => some items
  | .pair a b => some [a, b]
  | .map entries => some (entries.map Prod.fst)
  | .str s => some ((Text.codes s).map fun n => .str (Text.ofCodes [n]))
  | .bytes b => some (b.map fun n => .int n.toNat)
  | _ => none

/-- An entry's value unless it is empty. -/
def filled? (name : String) (entries : List (Document × Document)) : Option Document :=
  (Document.valueOf? name entries).filter (!·.isEmpty)

/-- The parts that a mapping gives. -/
def ofEntries (entries : List (Document × Document)) : Except LoadError CatalogParts :=
  let defaultSchema := filled? "default_schema" entries
  match filled? "schemas" entries with
  | none => .ok ⟨defaultSchema, []⟩
  | some d =>
    match elements? d with
    | some schemas => .ok ⟨defaultSchema, schemas⟩
    | none => .error (.notIterable d.qualifiedKind)

/-- The parts that a file's document gives; an empty document gives nothing. -/
def ofDocument (file : Path) (d : Document) : Except LoadError CatalogParts :=
  match d.unrolled with
  | .null => .ok empty
  | .map entries => ofEntries entries
  | _ => .error (.notMapping file d.kind)

/-- The catalog that all parts give. -/
def catalog (parts : CatalogParts) : Except LoadError Catalog :=
  match (Catalog.ofEntries parts.entries).report "Catalog" with
  | .ok c => .ok c
  | .error report => .error (.invalid report)

end CatalogParts

/-! ## Files -/

/-- The endings of the names of YAML files, in the order in which they are looked for. -/
def yamlEndings : List String := [".yml", ".yaml"]

/-- Whether a name has an ending. -/
def hasEnding (ending name : String) : Bool :=
  ending.toList.isSuffixOf name.toList

/-- Whether a name has the ending of a YAML file. -/
def isYamlName (name : String) : Bool :=
  yamlEndings.any (hasEnding · name)

/-- Whether the path through some names comes before the path through others or is the same: the
first name in which they differ decides, and a path comes before those that go on from it. -/
def precedes : List String → List String → Bool
  | [], _ => true
  | _ :: _, [] => false
  | a :: as, b :: bs => if a = b then precedes as bs else decide (a < b)

namespace FileTree

/-- What below a location has a last name with an ending, in the order of the system. -/
def matching (t : FileTree) (l : Location) (ending : String) : List (List String) :=
  (t.descendants l).filter fun names => names.getLast?.any (hasEnding ending)

/-- What below a place is named as a YAML file: found ending by ending, taken once each, and put in
the order of the names. -/
def yamlNames (t : FileTree) (p : Place) : List (List String) :=
  if p.isPresent then ((yamlEndings.flatMap (t.matching p.location)).eraseDups).mergeSort precedes
  else []

/-- The names of the directories below a place, in the order in which they are listed. -/
def directoryNames (t : FileTree) (p : Place) : List (List String) :=
  if p.isPresent then
    (t.descendants p.location).filter fun names => t.isDirectoryAt (p.location ++ names)
  else []

end FileTree

namespace Surroundings

/-- The parts that a file gives. -/
def catalogPart (s : Surroundings) (file : Path) : Except LoadError CatalogParts := do
  CatalogParts.ofDocument file (← s.readYaml file)

/-- The parts that files give together; the first file that fails decides the error. -/
def catalogParts (s : Surroundings) : List Path → Except LoadError CatalogParts
  | [] => .ok .empty
  | file :: rest => do
    let part ← s.catalogPart file
    return part.append (← s.catalogParts rest)

/-- The path through more names. -/
def below (p : Path) (names : List String) : Path := ⟨p.start, p.names ++ names⟩

/-- The YAML files below the directory at a path.  A directory among them whose path is too long
cannot be listed, and the first such one decides the error. -/
def listedFiles (s : Surroundings) (p : Path) (place : Place) : Except LoadError (List Path) :=
  let tooLong := fun names => FileTree.pathLimit < Text.byteSize (below p names).text
  match (s.files.directoryNames place).find? tooLong with
  | some names => .error (.unreadable .nameTooLong (below p names))
  | none => .ok ((s.files.yamlNames place).map (below p))

/-- The files of the catalog at a path: the file there, or those below the directory there. -/
def catalogFiles (s : Surroundings) (p : Path) : Except LoadError (List Path) :=
  match s.files.entryAt? s.directory p with
  | .error fault => .error (.unreadable fault p)
  | .ok none => .error (.noCatalog p)
  | .ok (some (.file _)) => .ok [p]
  | .ok (some .directory) =>
    match s.files.directoryAt s.directory p with
    | .ok place => s.listedFiles p place
    | .error fault => .error (.unreadable fault p)

/-- The catalog at a path. -/
def loadCatalog (s : Surroundings) (p : Path) : Except LoadError Catalog := do
  (← s.catalogParts (← s.catalogFiles p)).catalog

end Surroundings

end ColumnTypes
