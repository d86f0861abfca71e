import ColumnTypes.Config
import ColumnTypes.LoadError
import ColumnTypes.Yaml.Reading

/-!
# Loading configurations

A configuration is loaded from a named file or from the nearest one: `Surroundings.findConfig` looks
for the four names of configuration files in a directory and then in every directory above it.  A
relative catalog path is anchored at the file's own directory, so what is loaded does not depend on
where the program runs.
-/

namespace ColumnTypes

/-- What the program finds around it: files, working directory, the environment variable that turns
logging on, and the number of cells on a line of its consoles. -/
structure Surroundings where
  files : FileTree
  directory : Place
  debugVariable : Option String
  width : Nat := 80

/-- The document of a YAML file's bytes. -/
def Yaml.readBytes (bytes : List UInt8) : Except LoadError Document :=
  match Text.decodeUtf8 bytes with
  | .error e => .error (.notUtf8 e)
  | .ok text =>
    let text := Text.universalNewlines text
    match Yaml.read text with
    | .error e => .error (.notYaml e text)
    | .ok d => .ok d

namespace Config

/-- Reads a configuration from YAML text. -/
def ofYaml (debug : Bool) (text : List Char) : Except LoadError Config :=
  match Yaml.read text with
  | .error e => .error (.notYaml e text)
  | .ok d =>
    match ofDocument debug d with
    | .ok c => .ok c
    | .error report => .error (.invalid report)

/-- Reads a configuration from the bytes of a file. -/
def ofBytes (debug : Bool) (bytes : List UInt8) : Except LoadError Config :=
  match Text.decodeUtf8 bytes with
  | .error e => .error (.notUtf8 e)
  | .ok text => ofYaml debug (Text.universalNewlines text)

/-- The names of configuration files; an earlier one is preferred in a directory. -/
def fileNames : List String :=
  ["pgcodegen.yml", "pgcodegen.yaml", ".pgcodegen.yml", ".pgcodegen.yaml"]

end Config

namespace Surroundings

/-- What the environment says about logging. -/
def debugDefault (s : Surroundings) : Bool :=
  Config.debugDefault s.debugVariable

/-- The bytes of a file. -/
def readFile (s : Surroundings) (p : Path) : Except LoadError (List UInt8) :=
  match s.files.readFile s.directory p with
  | .ok bytes => .ok bytes
  | .error fault => .error (.unreadable fault p)

/-- The document of a YAML file. -/
def readYaml (s : Surroundings) (p : Path) : Except LoadError Document := do
  Yaml.readBytes (← s.readFile p)

/-- The location of a path as its names give it; a relative path needs the working directory. -/
def locate (s : Surroundings) (p : Path) : Except LoadError Location :=
  if p.isAbsolute || s.directory.isPresent then .ok (p.locate s.directory)
  else .error .noDirectory

/-- The configuration in a file. -/
def configAt (s : Surroundings) (p : Path) : Except LoadError Config := do
  let config ← Config.ofBytes s.debugDefault (← s.readFile p)
  if config.catalogPath.isAbsolute then return config
  else return config.anchoredAt (← s.locate p).dropLast

/-- The first of some names that a file in a directory has. -/
def firstFile? (s : Surroundings) (folder : Location) :
    List String → Except LoadError (Option Location)
  | [] => .ok none
  | name :: rest =>
    let p := Path.ofLocation (folder ++ [name])
    match s.files.entryAt? s.directory p with
    | .error fault => .error (.unreadable fault p)
    | .ok (some (.file _)) => .ok (some (folder ++ [name]))
    | .ok _ => s.firstFile? folder rest

/-- The first configuration file in some directories. -/
def firstConfig? (s : Surroundings) : List Location → Except LoadError (Option Location)
  | [] => .ok none
  | folder :: rest =>
    match s.firstFile? folder Config.fileNames with
    | .ok none => s.firstConfig? rest
    | found => found

/-- A location and every one above it, nearest first. -/
def upward (l : Location) : List Location :=
  ((List.range (l.length + 1)).map l.take).reverse

/-- The nearest configuration file at or above a directory, which need not exist. -/
def findConfig (s : Surroundings) (start : Path) : Except LoadError (Option Location) := do
  if start.isUnusable then
    .error (.unreadable (.ofText start.askedPart.text) start.askedPart)
  else s.firstConfig? (upward (← s.locate start))

/-- The nearest configuration file at or above the working directory. -/
def nearestConfig (s : Surroundings) : Except LoadError (Option Location) :=
  if s.directory.isPresent then s.firstConfig? (upward s.directory.location)
  else .error .noDirectory

/-- The configuration in a named file, or in the nearest one. -/
def loadConfig (s : Surroundings) (path : Option Path) : Except LoadError Config :=
  match path with
  | some p => s.configAt p
  | none =>
    match s.nearestConfig with
    | .ok (some l) => s.configAt (Path.ofLocation l)
    | .ok none => .error .noConfig
    | .error e => .error e

end Surroundings

end ColumnTypes
