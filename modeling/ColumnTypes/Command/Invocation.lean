import ColumnTypes.Command.Columns
import ColumnTypes.Command.Manuals
import ColumnTypes.Command.Resolve
import ColumnTypes.Command.Validate

/-!
# Invocations

`invoke` runs the program with arguments: it finds the command, reads its options and runs it.
Arguments that are refused end it with exit code 2 and a message on the error stream.
-/

namespace ColumnTypes.Command

/-- The exit code for refused arguments. -/
def usageExit : Nat := 2

/-- Ends the program because of refused arguments.  A path that the system cannot be asked for
breaks it off. -/
def refuse {α : Type} (manual : Manual) (e : UsageError) : Action α := do
  match e with
  | .unusablePath value =>
    Action.crash (.load (.unreadable (.ofText value) (Path.ofText value)))
  | _ =>
    if e.showsUsage then
      Action.echo .err (manual.usageLine ++ "\n" ++ manual.helpHint ++ "\n")
    Action.echo .err ("Error: " ++ e.message)
    Action.stop (.exit usageExit)

/-- Answers an option that asks for information. -/
def inform (manual : Manual) (o : OptionSpec) : Action Unit :=
  match o.kind with
  | .version => Action.echo .out versionText
  | _ => Action.echo .out manual.text

/-- Runs a command that has been asked for with given options and operands. -/
def perform (s : Surroundings) (n : Name) (given : List Given) (operands : List String) :
    Action Unit :=
  match n with
  | .columns => columns s (.ofGiven given)
  | .resolve => resolve s (.ofGiven given (operands.headD ""))
  | .validate => validate s (.ofGiven given)

/-- Runs a command with arguments. -/
def runCommand (s : Surroundings) (n : Name) (arguments : List String) : Action Unit :=
  match n.usage.read (s.files.isPresent s.directory) arguments with
  | .error e => refuse n.manual e
  | .ok (.question o) => inform n.manual o
  | .ok (.run given operands) => perform s n given operands

/-- The error for a word that calls no command. -/
def unknownCommand (word : String) : UsageError :=
  .noSuchCommand word (Text.guesses (Name.all.map Name.word) word)

/-- Runs the command that the first of some words calls.  A word that calls none but begins with a
dash is read as an option of the program. -/
def runWords (s : Surroundings) : List String → Action Unit
  | [] => refuse programManual .missingCommand
  | word :: arguments =>
    match Name.ofWord? word with
    | some n => runCommand s n arguments
    | none =>
      match programUsage.readOptions (fun _ => true) (word :: arguments) with
      | .error e => refuse programManual e
      | .ok (.question o) => inform programManual o
      | .ok (.run _ _) => refuse programManual (unknownCommand word)

/-- Runs the program. -/
def program (s : Surroundings) (arguments : List String) : Action Unit :=
  if arguments.isEmpty then do
    Action.echo .err programManual.text
    Action.stop (.exit usageExit)
  else
    match programUsage.readOptions (fun _ => true) arguments with
    | .error e => refuse programManual e
    | .ok (.question o) => inform programManual o
    | .ok (.run _ words) => runWords s words

/-- Runs the program where it finds itself: how it ends, and what it has done. -/
def invoke (s : Surroundings) (logging : Logging) (arguments : List String) : Ending × Progress :=
  (program s arguments).run logging

end ColumnTypes.Command
