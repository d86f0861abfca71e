import ColumnTypes.Command.Loading
import ColumnTypes.Command.Options

/-!
# The command `columns`

Resolves every table column of the catalog and prints a table of the results, with a warning if some
columns have no specific Go type.
-/

namespace ColumnTypes.Command

/-- What `columns` is asked for. -/
structure ColumnsRequest where
  driver : Option Driver
  config : Option Path
  debug : Bool

namespace ColumnsRequest

/-- The request of given options. -/
def ofGiven (given : List Given) : ColumnsRequest :=
  { driver := (valueOf? "--driver" given).bind Driver.ofName?
    config := (valueOf? "--config" given).map Path.ofText
    debug := isGiven "--debug" given }

/-- The driver: the named one, or else the configured one. -/
def chosenDriver (r : ColumnsRequest) (config : Config) : Driver :=
  r.driver.getD config.driver

/-- The settings of the resolution. -/
def settings (r : ColumnsRequest) (config : Config) : Settings :=
  { driver := some (r.chosenDriver config)
    rename := config.rename
    debug := r.debug || config.debug }

end ColumnsRequest

/-- The heading of the table of columns. -/
def columnsHeading : List String := ["Schema", "Table", "Column", "SQL type", "Go type"]

/-- A resolved column as a row of the table. -/
def columnsRow (c : ResolvedColumn) : List String :=
  [c.schema, c.table, c.column, c.declaredType, c.goType.text]

/-- The line of numbers below the table. -/
def summaryLine (s : Statistics) : String :=
  "\n[bold]" ++ toString s.columns ++ "[/bold] columns in " ++ toString s.tables ++
    " tables across " ++ toString s.schemas ++ " schemas"

/-- The warning about columns without a specific Go type. -/
def dynamicWarning (count : Nat) : Panel :=
  { title := Text.codes "Warning"
    body := Text.codes (toString count ++ " column(s) resolved to interface\x7b\x7d\n\n" ++
      "Run with --debug to log each unresolved type.")
    limit := 78 }

/-- Runs `columns`. -/
def columns (s : Surroundings) (r : ColumnsRequest) : Action Unit := do
  let (config, path) ← requiredConfig s .out r.config r.debug
  let settings := r.settings config
  Action.configureLogging settings.debug
  let catalog ← requiredCatalog s .out config.catalogPath settings.debug
  let types := catalog.resolveAll settings
  Action.log types.logs
  Action.print s.width .out ("[dim]Config:[/dim]  " ++ path.text)
  Action.print s.width .out ("[dim]Catalog:[/dim] " ++ config.catalogPath.text)
  Action.print s.width .out ("[dim]Driver:[/dim]  " ++ (r.chosenDriver config).name)
  Action.print s.width .out ""
  Action.printTable s.width .out columnsHeading (types.columns.map columnsRow)
  Action.print s.width .out (summaryLine types.statistics)
  if types.statistics.dynamic ≠ 0 then
    Action.printPanel s.width .out (dynamicWarning types.statistics.dynamic)

end ColumnTypes.Command
