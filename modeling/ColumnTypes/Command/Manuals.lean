import ColumnTypes.Command.Help
import ColumnTypes.GoType

/-!
# The commands and their help

What each command accepts and says about itself.
-/

namespace ColumnTypes.Command

/-- The name of the program. -/
def programName : String := "pgcodegen"

/-- The version of the program. -/
def programVersion : String := "0.1.0"

/-- The line that `--version` prints. -/
def versionText : String := programName ++ ", version " ++ programVersion

/-! ## Options -/

/-- The option that names the configuration file. -/
def configOption (help : String) : OptionSpec := ⟨["--config", "-c"], .path, help⟩

/-- The option that names the driver. -/
def driverOption (help : String) : OptionSpec :=
  ⟨["--driver"], .choice (Driver.choices.map Driver.name), help⟩

/-- The option that turns logging and stack traces on. -/
def debugOption (help : String) : OptionSpec := ⟨["--debug"], .flag, help⟩

/-- The option that asks for help. -/
def helpOption : OptionSpec := ⟨["--help"], .help, "Show this message and exit."⟩

/-- The option that asks for the version. -/
def versionOption : OptionSpec := ⟨["--version"], .version, "Show the version and exit."⟩

/-- The options of `resolve`. -/
def resolveOptions : List OptionSpec :=
  [⟨["--not-null"], .flag, "Column is NOT NULL"⟩,
   ⟨["--array"], .flag, "Column is an array"⟩,
   driverOption "Driver profile (defaults to go.sql_package from config)",
   ⟨["--catalog"], .path, "Catalog YAML file or directory (defaults to config catalog)"⟩,
   configOption "Path to pgcodegen.yml config file (auto-detected if not specified)",
   debugOption "Log unresolved types and show full stacktraces",
   helpOption]

/-- The options of `columns`. -/
def columnsOptions : List OptionSpec :=
  [configOption "Path to pgcodegen.yml config file (auto-detected if not specified)",
   driverOption "Override go.sql_package from config",
   debugOption "Log unresolved types and show full stacktraces",
   helpOption]

/-- The options of `validate`. -/
def validateOptions : List OptionSpec :=
  [configOption "Path to pgcodegen.yml config file",
   debugOption "Show full exception stacktraces for troubleshooting",
   helpOption]

/-! ## Commands -/

/-- The commands of the program. -/
inductive Name where
  | columns
  | resolve
  | validate
  deriving DecidableEq, Repr

namespace Name

/-- All commands, in alphabetical order. -/
def all : List Name := [columns, resolve, validate]

/-- The word that calls a command. -/
def word : Name → String
  | columns => "columns"
  | resolve => "resolve"
  | validate => "validate"

/-- The command that a word calls. -/
def ofWord? (s : String) : Option Name :=
  all.find? (·.word == s)

/-- What a command does, in a sentence. -/
def summary : Name → String
  | columns => "Resolve the Go type of every table column in the catalog."
  | resolve => "Print the Go type for a single PostgreSQL column type."
  | validate => "Validate configuration and catalog."

/-- A paragraph of text. -/
def prose (s : String) : HelpParagraph := ⟨0, s⟩

/-- A paragraph that shows a call. -/
def sample (s : String) : HelpParagraph := ⟨4, "$ " ++ programName ++ " " ++ s⟩

/-- What a command's help says below its summary. -/
def details : Name → List HelpParagraph
  | columns => [prose "## Examples", sample "columns", sample "columns --driver pgx/v4"]
  | resolve =>
    [prose "## Examples", prose "Built-in type:", sample "resolve bigint",
     prose "Nullable JSON under pgx:", sample "resolve jsonb --driver pgx/v4",
     prose "Enum from a catalog:", sample "resolve billing.status --catalog catalog.yml"]
  | validate =>
    [prose ("Checks that: - pgcodegen.yml is valid - The catalog exists and parses - " ++
       "Every table column declares a type"),
     prose "## Examples", sample "validate", sample "validate --config ./configs/pgcodegen.yml"]

/-- The options of a command. -/
def options : Name → List OptionSpec
  | columns => columnsOptions
  | resolve => resolveOptions
  | validate => validateOptions

/-- The operand of a command. -/
def operand : Name → Option String
  | resolve => some "DECLARED_TYPE"
  | columns | validate => none

/-- What a command's arguments may be. -/
def usage (n : Name) : Usage := ⟨n.options, n.operand, true⟩

/-- The help of a command. -/
def manual (n : Name) : Manual :=
  { call := programName ++ " " ++ n.word
    arguments := " ".intercalate ("[OPTIONS]" :: n.operand.toList)
    description := prose n.summary :: n.details
    options := n.options
    commands := [] }

end Name

/-- What the program's own arguments may be; the operands are a command and its arguments. -/
def programUsage : Usage := ⟨[versionOption, helpOption], none, false⟩

/-- The help of the program. -/
def programManual : Manual :=
  { call := programName
    arguments := "[OPTIONS] COMMAND [ARGS]..."
    description :=
      [Name.prose "Resolve PostgreSQL column types to Go types.", Name.prose "Single type:",
       Name.sample "resolve numeric --driver pgx/v4",
       Name.prose "Whole catalog, using pgcodegen.yml:", Name.sample "columns"]
    options := programUsage.options
    commands := Name.all.map fun n => (n.word, n.summary) }

end ColumnTypes.Command
