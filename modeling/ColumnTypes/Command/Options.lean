import ColumnTypes.Path
import ColumnTypes.Text.Likeness
import ColumnTypes.Text.Quoted

/-!
# Options and operands

What a command line may hold is given by a `Usage`: options, which begin with a dash, and operands.
`Usage.read` takes arguments apart accordingly.

* A value follows its option as the next argument, or after an equals sign, or directly after a
  short name.  Of an option given more than once the last value counts.
* Two dashes end the options.
* Options that ask for information, such as help, come before everything else; then values are
  checked in the order in which the options are first given, then the operand, then operands that
  are too many.
-/

namespace ColumnTypes.Command

/-- What an option means and takes. -/
inductive OptionKind where
  | flag
  /-- The path of something that exists. -/
  | path
  | choice (values : List String)
  /-- Asks for the help text. -/
  | help
  /-- Asks for the version. -/
  | version
  deriving DecidableEq, Repr

/-- An option: its names, of which the first identifies it, and its line in the help text. -/
structure OptionSpec where
  names : List String
  kind : OptionKind
  help : String
  deriving DecidableEq, Repr

namespace OptionSpec

/-- The name that identifies an option. -/
def name (o : OptionSpec) : String :=
  o.names.headD ""

/-- Whether an option has a value. -/
def takesValue (o : OptionSpec) : Bool :=
  match o.kind with
  | .path | .choice _ => true
  | .flag | .help | .version => false

/-- Whether an option asks for information instead of a run. -/
def isQuestion (o : OptionSpec) : Bool :=
  o.kind == .help || o.kind == .version

/-- The names of an option as messages show them. -/
def hint (o : OptionSpec) : String :=
  " / ".intercalate (o.names.map fun name => "'" ++ name ++ "'")

end OptionSpec

/-- What a command line may hold. -/
structure Usage where
  options : List OptionSpec
  /-- The name of the operand; without one there is none. -/
  operand : Option String
  /-- Whether options may come after operands. -/
  interspersed : Bool

/-- Why arguments are refused. -/
inductive UsageError where
  | noSuchOption (name : String) (guesses : List String)
  | missingValue (name : String)
  | unexpectedValue (name : String)
  | missingOperand (name : String)
  | extraOperands (operands : List String)
  | notChosen (hint value : String) (values : List String)
  | noSuchPath (hint value : String)
  /-- A path that the system cannot even be asked for. -/
  | unusablePath (value : String)
  | noSuchCommand (name : String) (guesses : List String)
  | missingCommand
  deriving DecidableEq, Repr

namespace UsageError

/-- A message with guesses after it. -/
def withGuesses (message : String) (guesses : List String) : String :=
  match guesses with
  | [] => message
  | [guess] => message ++ " Did you mean " ++ Text.quoted guess ++ "?"
  | _ =>
    message ++ " (Did you mean one of: " ++ ", ".intercalate (guesses.map Text.quoted) ++ "?)"

/-- The message of an error. -/
def message : UsageError → String
  | noSuchOption name guesses =>
    withGuesses ("No such option " ++ Text.quoted name ++ ".") guesses
  | missingValue name => "Option " ++ Text.quoted name ++ " requires an argument."
  | unexpectedValue name => "Option " ++ Text.quoted name ++ " does not take a value."
  | missingOperand name => "Missing argument '" ++ name ++ "'."
  | extraOperands operands =>
    "Got unexpected extra argument" ++ (if operands.length = 1 then "" else "s") ++ " (" ++
      " ".intercalate operands ++ ")"
  | notChosen hint value values =>
    "Invalid value for " ++ hint ++ ": " ++ Text.quoted value ++ " is not one of " ++
      ", ".intercalate (values.map Text.quoted) ++ "."
  | noSuchPath hint value =>
    "Invalid value for " ++ hint ++ ": Path " ++ Text.quoted value ++ " does not exist."
  | unusablePath value => "Path " ++ Text.quoted value ++ " cannot be used."
  | noSuchCommand name guesses =>
    withGuesses ("No such command " ++ Text.quoted name ++ ".") guesses
  | missingCommand => "Missing command."

/-- Whether the usage line is shown before the message. -/
def showsUsage : UsageError → Bool
  | missingValue _ | unexpectedValue _ => false
  | _ => true

end UsageError

/-! ## Taking arguments apart -/

/-- An option as given, with its value; a flag's value is empty. -/
abbrev Given := OptionSpec × String

/-- Arguments taken apart. -/
structure Scanned where
  given : List Given
  operands : List String

/-- What an argument that begins with a dash stands for. -/
inductive OptionArgument where
  | complete (given : List Given)
  /-- An option, under the name used, whose value is the next argument. -/
  | needsValue (given : List Given) (option : OptionSpec) (name : String)

/-- Whether a name has two dashes. -/
def isLongName (name : String) : Bool :=
  "--".toList.isPrefixOf name.toList

/-- Whether an argument is an option and not an operand. -/
def isOption (argument : String) : Bool :=
  match argument.toList with
  | '-' :: _ :: _ => true
  | _ => false

namespace Usage

/-- The option of a name. -/
def option? (u : Usage) (name : String) : Option OptionSpec :=
  u.options.find? (·.names.contains name)

/-- The names with two dashes. -/
def longNames (u : Usage) : List String :=
  (u.options.flatMap (·.names)).filter isLongName

/-- Reads short names written together; what follows one that takes a value is the value. -/
def readShort (u : Usage) : List Char → Except UsageError OptionArgument
  | [] => .ok (.complete [])
  | c :: rest =>
    let name := String.ofList ['-', c]
    match u.option? name with
    | none => .error (.noSuchOption name [])
    | some o =>
      if o.takesValue then
        if rest.isEmpty then .ok (.needsValue [] o name)
        else .ok (.complete [(o, String.ofList rest)])
      else
        match u.readShort rest with
        | .ok (.complete given) => .ok (.complete ((o, "") :: given))
        | .ok (.needsValue given last name) => .ok (.needsValue ((o, "") :: given) last name)
        | .error e => .error e

/-- Reads an argument that begins with a dash. -/
def readOption (u : Usage) (argument : String) : Except UsageError OptionArgument :=
  let name := String.ofList (argument.toList.takeWhile (· != '='))
  let value? : Option String :=
    match argument.toList.dropWhile (· != '=') with
    | _ :: value => some (String.ofList value)
    | [] => none
  match if isLongName name then u.option? name else none with
  | some o =>
    match o.takesValue, value? with
    | true, some value => .ok (.complete [(o, value)])
    | true, none => .ok (.needsValue [] o name)
    | false, some _ => .error (.unexpectedValue name)
    | false, none => .ok (.complete [(o, "")])
  | none =>
    if isLongName argument then .error (.noSuchOption name (Text.guesses u.longNames name))
    else u.readShort argument.toList.tail

/-- Arguments taken apart, one after another. -/
def scan (u : Usage) : List String → Except UsageError Scanned
  | [] => .ok ⟨[], []⟩
  | argument :: rest =>
    if argument = "--" then .ok ⟨[], rest⟩
    else if isOption argument then
      match u.readOption argument with
      | .error e => .error e
      | .ok (.complete given) =>
        (u.scan rest).map fun s => { s with given := given ++ s.given }
      | .ok (.needsValue given o name) =>
        match rest with
        | [] => .error (.missingValue name)
        | value :: rest =>
          (u.scan rest).map fun s => { s with given := given ++ (o, value) :: s.given }
    else if u.interspersed then
      (u.scan rest).map fun s => { s with operands := argument :: s.operands }
    else .ok ⟨[], argument :: rest⟩

end Usage

/-! ## Checking -/

/-- Sets the value of an option, in its place if it is there. -/
def put (option : OptionSpec) (value : String) : List Given → List Given
  | [] => [(option, value)]
  | (o, v) :: rest =>
    if o = option then (o, value) :: rest else (o, v) :: put option value rest

/-- Options with the value that counts, in the order in which they were first given. -/
def distinct (given : List Given) : List Given :=
  given.foldl (fun done (o, value) => put o value done) []

/-- Whether a value is one that its option takes. -/
def checkValue (isPresent : String → Bool) : Given → Except UsageError Unit
  | (o, value) =>
    match o.kind with
    | .choice values =>
      if values.contains value then .ok () else .error (.notChosen o.hint value values)
    | .path =>
      if Path.isUnusableText value then .error (.unusablePath value)
      else if isPresent value then .ok () else .error (.noSuchPath o.hint value)
    | .flag | .help | .version => .ok ()

/-- What a command line asks for. -/
inductive Request where
  /-- An option that asks for information. -/
  | question (option : OptionSpec)
  | run (given : List Given) (operands : List String)

namespace Usage

/-- Takes arguments apart and checks the values of options. -/
def readOptions (u : Usage) (isPresent : String → Bool) (arguments : List String) :
    Except UsageError Request := do
  let scanned ← u.scan arguments
  match scanned.given.find? (·.1.isQuestion) with
  | some (o, _) => return .question o
  | none =>
    let given := distinct scanned.given
    given.forM (checkValue isPresent)
    return .run given scanned.operands

/-- Reads all arguments of a command, whose operand must be given once if it has one. -/
def read (u : Usage) (isPresent : String → Bool) (arguments : List String) :
    Except UsageError Request := do
  match ← u.readOptions isPresent arguments with
  | .question o => return .question o
  | .run given operands =>
    match u.operand with
    | none =>
      if operands.isEmpty then return .run given []
      else .error (.extraOperands operands)
    | some name =>
      match operands with
      | [] => .error (.missingOperand name)
      | operand :: rest =>
        if rest.isEmpty then return .run given [operand] else .error (.extraOperands rest)

end Usage

/-- The value given for an option. -/
def valueOf? (name : String) (given : List Given) : Option String :=
  (given.find? (·.1.name == name)).map Prod.snd

/-- Whether a flag is given. -/
def isGiven (name : String) (given : List Given) : Bool :=
  (valueOf? name given).isSome

end ColumnTypes.Command
