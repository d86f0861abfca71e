import ColumnTypes.Command.Loading
import ColumnTypes.Command.Options

/-!
# The command `validate`

Loads the configuration and the catalog and reports what is in them: a line a schema, and a warning
if no schema is the default one.
-/

namespace ColumnTypes.Command

/-- What `validate` is asked for. -/
structure ValidateRequest where
  config : Option Path
  debug : Bool

/-- The request of given options. -/
def ValidateRequest.ofGiven (given : List Given) : ValidateRequest :=
  { config := (valueOf? "--config" given).map Path.ofText
    debug := isGiven "--debug" given }

/-- The line of a schema. -/
def schemaLine (s : Schema) : String :=
  "  - " ++ s.name ++ ": " ++ toString s.tables.length ++ " tables, " ++
    toString s.enums.length ++ " enums, " ++ toString s.composites.length ++ " composite types"

/-- The warning about a default schema that is not there. -/
def missingDefaultLine (name : String) : String :=
  "[yellow]Default schema '" ++ name ++ "' is not in the catalog[/yellow]"

/-- Runs `validate`. -/
def validate (s : Surroundings) (r : ValidateRequest) : Action Unit := do
  let (config, path) ← requiredConfig s .out r.config r.debug
  Action.print s.width .out ("[green]Config valid:[/green] " ++ path.text)
  Action.print s.width .out ("[green]Driver:[/green] " ++ config.driver.name)
  let catalog ← requiredCatalog s .out config.catalogPath r.debug
  Action.print s.width .out ("[green]Catalog valid:[/green] " ++ config.catalogPath.text)
  catalog.schemas.forM fun schema => Action.print s.width .out (schemaLine schema)
  if (catalog.schema? catalog.defaultSchema).isNone then
    Action.print s.width .out (missingDefaultLine catalog.defaultSchema)
  Action.print s.width .out "\n[bold green]All checks passed[/bold green]"

end ColumnTypes.Command
