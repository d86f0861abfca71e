import ColumnTypes.Command.Invocation

/-!
# Sessions

A `Session` is a process in which the program is run any number of times.  What a run leaves to the
next is the configuration of the logger, and the consoles of `columns` and `validate`.

A text that a console cannot write stays with it, and is tried again before any other text.  The
console is **stuck**: every later run of the command breaks off where it would first print.  Until
then it does what it always does, so it still configures the logger and logs.  The console of
`resolve` is on the error stream, where every text can be written.
-/

namespace ColumnTypes.Command

/-! ## Stuck consoles -/

/-- Prints on a stuck console, whatever the text. -/
def Action.printStuck {α : Type} : Action α :=
  Action.crash .unencodable

/-- A loaded value.  The explanation of why there is none cannot be printed. -/
def loadedStuck {α : Type} : Except LoadError α → Action α
  | .ok a => pure a
  | .error e =>
    match e.category? with
    | none => Action.crash (.load e)
    | some _ => Action.printStuck

/-- The configuration that a command must have. -/
def requiredConfigStuck (s : Surroundings) (named : Option Path) : Action Config := do
  match ← configPath s named with
  | none => Action.printStuck
  | some p => loadedStuck (s.configAt p)

/-- Runs `columns` on a stuck console. -/
def columnsStuck (s : Surroundings) (r : ColumnsRequest) : Action Unit := do
  let config ← requiredConfigStuck s r.config
  let settings := r.settings config
  Action.configureLogging settings.debug
  let catalog ← loadedStuck (s.loadCatalog config.catalogPath)
  Action.log (catalog.resolveAll settings).logs
  Action.printStuck

/-- Runs `validate` on a stuck console. -/
def validateStuck (s : Surroundings) (r : ValidateRequest) : Action Unit := do
  discard (requiredConfigStuck s r.config)
  Action.printStuck

/-- Runs a command whose console is stuck or not. -/
def performOn (stuck : Bool) (s : Surroundings) (n : Name) (given : List Given)
    (operands : List String) : Action Unit :=
  match stuck, n with
  | true, .columns => columnsStuck s (.ofGiven given)
  | true, .validate => validateStuck s (.ofGiven given)
  | _, _ => perform s n given operands

/-- Whether a console is stuck after a run of its command that has ended so.  The output of
`resolve` does not go through a console. -/
def leavesStuck : Name → Ending → Bool
  | .columns, .crash .unencodable => true
  | .validate, .crash .unencodable => true
  | _, _ => false

/-! ## Sessions -/

/-- A command with the options and the operands that it is given. -/
structure Call where
  name : Name
  given : List Given
  operands : List String

/-- The call that arguments make, if they are accepted. -/
def call? (s : Surroundings) (arguments : List String) : Option Call :=
  match programUsage.readOptions (fun _ => true) arguments with
  | .ok (.run _ (word :: rest)) =>
    (Name.ofWord? word).bind fun n =>
      match n.usage.read (s.files.isPresent s.directory) rest with
      | .ok (.run given operands) => some ⟨n, given, operands⟩
      | _ => none
  | _ => none

/-- A process with its surroundings, its logger, and the commands whose consoles are stuck. -/
structure Session where
  surroundings : Surroundings
  logging : Logging
  stuck : List Name

/-- What is seen of a run: how it ends, its streams, and the records that the logger lets
through. -/
structure Outcome where
  ending : Ending
  out : String
  err : String
  records : List LogRecord

/-- What happens in a session. -/
inductive Event where
  /-- The logger is configured by the program's own function, and not by a command. -/
  | configure (debug : Bool)
  | invoke (arguments : List String)
  /-- Files, working directory or environment are changed from outside. -/
  | change (surroundings : Surroundings)

namespace Session

/-- A session in which nothing has happened; the logger may have handlers of other kinds. -/
def start (s : Surroundings) (others : List String) : Session :=
  ⟨s, ⟨none, others.map .other⟩, []⟩

/-- What the program does with arguments. -/
def action (t : Session) (arguments : List String) : Action Unit :=
  match call? t.surroundings arguments with
  | some ⟨n, given, operands⟩ => performOn (t.stuck.contains n) t.surroundings n given operands
  | none => program t.surroundings arguments

/-- How a run ends, and what it has done. -/
def run (t : Session) (arguments : List String) : Ending × Progress :=
  (t.action arguments).run t.logging

/-- What is seen of a run. -/
def outcome (t : Session) (arguments : List String) : Outcome :=
  let (ending, p) := t.run arguments
  ⟨ending, p.out, p.err, p.logs.filter p.logging.letsThrough⟩

/-- The commands whose consoles are stuck after a run. -/
def stuckAfter (t : Session) (arguments : List String) (ending : Ending) : List Name :=
  match call? t.surroundings arguments with
  | some c => if leavesStuck c.name ending then c.name :: t.stuck else t.stuck
  | none => t.stuck

/-- The session after a run. -/
def invoke (t : Session) (arguments : List String) : Session :=
  let (ending, p) := t.run arguments
  { t with logging := p.logging, stuck := t.stuckAfter arguments ending }

/-- The session after something has happened. -/
def step (t : Session) : Event → Session
  | .configure debug => { t with logging := t.logging.configure debug }
  | .invoke arguments => t.invoke arguments
  | .change surroundings => { t with surroundings }

/-- The session after a history. -/
def after (t : Session) (history : List Event) : Session :=
  history.foldl step t

end Session

end ColumnTypes.Command
