import ColumnTypes.Catalog.Loading
import ColumnTypes.Command.Output

/-!
# Loading in commands

Commands load the configuration and the catalog with an explanation of what goes wrong: a line on
the command's stream, then the error message, then the end.  Errors that have no explanation break
the command off.
-/

namespace ColumnTypes.Command

/-- What a command loads. -/
inductive Subject where
  | config
  | catalog
  deriving DecidableEq, Repr

/-- The name of a subject in messages. -/
def Subject.name : Subject → String
  | config => "Config"
  | catalog => "Catalog"

/-- How an explanation begins. -/
def explanationHead (subject : Subject) : LoadError.Category → String
  | .missing => subject.name ++ " not found:"
  | .yaml => "YAML parsing error:"
  | .invalid => subject.name ++ " validation error:"
  | .value => subject.name ++ " error:"

/-- What stands for the stack trace of an error; its frames are no part of the text. -/
def traceText : String := "<TRACEBACK>"

/-- Prints the stack trace of an error. -/
def printTrace (width : Nat) (stream : Stream) : Action Unit :=
  Action.print width stream traceText

/-- Explains an error and ends the command. -/
def explain {α : Type} (width : Nat) (stream : Stream) (subject : Subject) (debug : Bool)
    (e : LoadError) : Action α :=
  match e.category? with
  | none => Action.crash (.load e)
  | some category => do
    if debug then printTrace width stream
    Action.print width stream
      ("[red]" ++ explanationHead subject category ++ "[/red] " ++ e.message)
    Action.fail e.message

/-- A loaded value, or an explanation of why there is none. -/
def loaded {α : Type} (width : Nat) (stream : Stream) (subject : Subject) (debug : Bool) :
    Except LoadError α → Action α
  | .ok a => pure a
  | .error e => explain width stream subject debug e

/-- The path of the configuration file: the named one, or the nearest one if there is any.  A
search that the system refuses breaks the command off. -/
def configPath (s : Surroundings) (named : Option Path) : Action (Option Path) :=
  match named with
  | some p => pure (some p)
  | none =>
    match s.nearestConfig with
    | .ok l => pure (l.map Path.ofLocation)
    | .error e => Action.crash (.load e)

/-- The configuration, if one is named or found, with the path of its file. -/
def optionalConfig (s : Surroundings) (stream : Stream) (named : Option Path) (debug : Bool) :
    Action (Option (Config × Path)) := do
  match ← configPath s named with
  | none => return none
  | some p =>
    let config ← loaded s.width stream .config debug (s.configAt p)
    return some (config, p)

/-- What is printed where a configuration file is missing. -/
def missingConfigLines : List String :=
  ["[red]No pgcodegen.yml found[/red]",
   "\nCreate a pgcodegen.yml file:",
   "\n[dim]catalog: ./catalog.yml\n\ngo:\n  sql_package: pgx/v4[/dim]\n"]

/-- The configuration, with the path of its file; the command ends if there is none. -/
def requiredConfig (s : Surroundings) (stream : Stream) (named : Option Path) (debug : Bool) :
    Action (Config × Path) := do
  match ← optionalConfig s stream named debug with
  | some found => return found
  | none =>
    missingConfigLines.forM (Action.print s.width stream)
    Action.fail "Config file not found"

/-- The catalog at a path. -/
def requiredCatalog (s : Surroundings) (stream : Stream) (p : Path) (debug : Bool) :
    Action Catalog :=
  loaded s.width stream .catalog debug (s.loadCatalog p)

end ColumnTypes.Command
