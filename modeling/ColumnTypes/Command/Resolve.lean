import ColumnTypes.Command.Loading
import ColumnTypes.Command.Options

/-!
# The command `resolve`

Prints the Go type of a single column type.  Everything but the type itself goes to the error
stream, so the output is a type or nothing.
-/

namespace ColumnTypes.Command

/-- What `resolve` is asked for. -/
structure ResolveRequest where
  declaredType : String
  notNull : Bool
  isArray : Bool
  driver : Option Driver
  catalog : Option Path
  config : Option Path
  debug : Bool

namespace ResolveRequest

/-- The request of given options and a declared type. -/
def ofGiven (given : List Given) (declaredType : String) : ResolveRequest :=
  { declaredType
    notNull := isGiven "--not-null" given
    isArray := isGiven "--array" given
    driver := (valueOf? "--driver" given).bind Driver.ofName?
    catalog := (valueOf? "--catalog" given).map Path.ofText
    config := (valueOf? "--config" given).map Path.ofText
    debug := isGiven "--debug" given }

/-- The path of the catalog: the named one, or else the configured one. -/
def catalogPath? (r : ResolveRequest) (config : Option Config) : Option Path :=
  r.catalog.or (config.map Config.catalogPath)

/-- The settings of a resolution: the driver that is named, or configured, or standard; the
configured overrides; and logging if either asks for it. -/
def settings (r : ResolveRequest) (config : Option Config) : Settings :=
  { driver := some (r.driver.getD ((config.map Config.driver).getD .standard))
    rename := (config.map Config.rename).getD []
    debug := r.debug || (config.map Config.debug).getD false }

/-- The column whose type is asked for; its declared type must not be empty. -/
def column (r : ResolveRequest) : Except Report Column :=
  (Column.ofEntries
    [(.str "declared_type", .str r.declaredType), (.str "not_null", .bool r.notNull),
     (.str "is_array", .bool r.isArray)]).report "Column"

end ResolveRequest

/-- Runs `resolve`. -/
def resolve (s : Surroundings) (r : ResolveRequest) : Action Unit := do
  let found ← optionalConfig s .err r.config r.debug
  let config := found.map Prod.fst
  let catalog ←
    match r.catalogPath? config with
    | some p => requiredCatalog s .err p r.debug
    | none => pure Catalog.empty
  let settings := r.settings config
  Action.configureLogging settings.debug
  match r.column with
  | .error report =>
    Action.print s.width .err ("[red]Invalid column:[/red] " ++ report.text)
    Action.fail "Declared type must not be empty"
  | .ok column =>
    Action.log (catalog.logs settings column)
    Action.echo .out (catalog.goType settings column).text

end ColumnTypes.Command
