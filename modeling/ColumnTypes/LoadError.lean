import ColumnTypes.FileTree
import ColumnTypes.Text.Utf8
import ColumnTypes.Validation.Report
import ColumnTypes.Yaml.Error

/-!
# Load errors

Why a configuration or a catalog cannot be loaded.  Commands recover from most of these errors with
a line of explanation; `LoadError.category?` says which line, and whether there is one.
-/

namespace ColumnTypes

/-- Why a configuration or a catalog cannot be loaded. -/
inductive LoadError where
  /-- The system refuses a path. -/
  | unreadable (fault : FileFault) (path : Path)
  /-- The working directory has been removed. -/
  | noDirectory
  /-- No configuration file was named and none was found. -/
  | noConfig
  | noCatalog (path : Path)
  | notUtf8 (error : Text.Utf8Error)
  /-- A text that cannot be read as YAML. -/
  | notYaml (error : Yaml.Error) (text : List Char)
  | invalid (report : Report)
  /-- A catalog file whose document is no mapping. -/
  | notMapping (path : Path) (kind : String)
  /-- A catalog file whose schemas cannot be gone through. -/
  | notIterable (kind : String)

/-- The kinds of load errors that a command explains. -/
inductive LoadError.Category where
  | missing
  | yaml
  | invalid
  | value
  deriving DecidableEq, Repr

/-- The category of a scalar's error: some have none. -/
def Yaml.ScalarError.category? : Yaml.ScalarError → Option LoadError.Category
  | notInteger _ _ | tooManyDigits _ | notNumber _ | codePointTooLarge | calendar _ _ => some .value
  | notTruthValue _ | notTimestamp | timestampOfMapping | emptyNumber | codePointOverflow
  | baseTooLarge | endlessText => none

namespace LoadError

/-- The category of an error; an error without one ends the command. -/
def category? : LoadError → Option Category
  | unreadable .notFound _ => some .missing
  | unreadable .nullCharacter _ | unreadable .unencodable _ => some .value
  | unreadable _ _ => none
  | noDirectory => some .missing
  | noConfig => some .missing
  | noCatalog _ => some .missing
  | notUtf8 _ => some .value
  | notYaml (.scalar e) _ => e.category?
  | notYaml _ _ => some .yaml
  | invalid _ => some .invalid
  | notMapping _ _ => some .value
  | notIterable _ => none

/-- The message of an error. -/
def message : LoadError → String
  | unreadable fault path => fault.message path
  | noDirectory =>
    "[Errno " ++ toString FileFault.notFound.number ++ "] " ++ FileFault.notFound.wording
  | noConfig => "No pgcodegen.yml found. Create one or specify path with --config"
  | noCatalog path => "Catalog not found: " ++ path.text
  | notUtf8 e => e.message
  | notYaml e text => e.message text
  | invalid report => report.text
  | notMapping path kind => "Expected a mapping in " ++ path.text ++ ", got " ++ kind
  | notIterable kind => "'" ++ kind ++ "' object is not iterable"

end LoadError

end ColumnTypes
