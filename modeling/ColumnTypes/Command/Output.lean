import ColumnTypes.Console.Markup
import ColumnTypes.Console.Panel
import ColumnTypes.Console.Table
import ColumnTypes.LoadError
import ColumnTypes.Logging

/-!
# What a command does

An `Action` is a step of a command: it writes to the two output streams, logs records, configures
the logger, and may end the command early.  What was written before an early end stays written.

There are two ways to write.  `Action.print` goes through the console, which reads markup and lays
lines out on its width; `Action.echo` writes a text as it is, less its terminal control sequences.
What is left to be written may hold surrogates.  They cannot be written on the output stream, and
the error stream shows them as escapes.
-/

namespace ColumnTypes.Command

/-- An output stream. -/
inductive Stream where
  | out
  | err
  deriving DecidableEq, Repr

/-- Why a command breaks off without a message. -/
inductive Crash where
  | load (error : LoadError)
  | markup (error : MarkupError)
  /-- A surrogate in a text for the output stream. -/
  | unencodable

/-- How a command ends. -/
inductive Ending where
  | exit (code : Nat)
  | crash (cause : Crash)

/-- What a command has done so far. -/
structure Progress where
  out : String
  err : String
  logs : List LogRecord
  logging : Logging

namespace Progress

/-- Nothing done. -/
def start (logging : Logging) : Progress := ⟨"", "", [], logging⟩

/-- Writes to a stream. -/
def write (p : Progress) (stream : Stream) (s : String) : Progress :=
  match stream with
  | .out => { p with out := p.out ++ s }
  | .err => { p with err := p.err ++ s }

end Progress

/-- A step of a command. -/
abbrev Action (α : Type) := ExceptT Ending (StateM Progress) α

/-! ## What a console shows -/

/-- Lines on a console of some width: each is cut there and has its break. -/
def linesText (width : Nat) (lines : List (List Nat)) : String :=
  Text.ofCodes (lines.flatMap fun line => Text.cropped width line ++ [Paragraph.lineFeed])

/-- A text on a console of some width. -/
def paragraphText (width : Nat) (text : String) : String :=
  linesText width (Paragraph.lines width .fold (Paragraph.clean (Text.codes text)))

/-- A table on a console of some width: its heading, and rows of texts that are no markup. -/
def tableText (width : Nat) (heading : List String) (rows : List (List String)) : String :=
  let grid : Table.Grid := ⟨heading.map Text.codes, rows.map (·.map Text.codes)⟩
  linesText width (grid.lines width)

/-- A panel on a console of some width. -/
def panelText (width : Nat) (p : Panel) : String :=
  linesText width (p.lines width)

/-! ## Terminal control sequences -/

/-- Whether a code point is a parameter of a terminal control sequence. -/
def isParameter (n : Nat) : Bool :=
  '0'.toNat ≤ n && n ≤ '?'.toNat

/-- Whether a code point can stand between the parameters and the end of a control sequence. -/
def isIntermediate (n : Nat) : Bool :=
  ' '.toNat ≤ n && n ≤ '/'.toNat

/-- Whether a code point ends a terminal control sequence. -/
def endsControl (n : Nat) : Bool :=
  '@'.toNat ≤ n && n ≤ '~'.toNat

/-- The code points after a terminal control sequence that begins them: an escape and a bracket,
parameters, and an end. -/
def afterControl? : List Nat → Option (List Nat)
  | 0x1B :: 0x5B :: rest =>
    match (rest.dropWhile isParameter).dropWhile isIntermediate with
    | n :: rest => if endsControl n then some rest else none
    | [] => none
  | _ => none

/-- Code points without terminal control sequences; `fuel` bounds the number of steps. -/
def withoutControlsFrom : Nat → List Nat → List Nat
  | 0, codes => codes
  | _, [] => []
  | fuel + 1, n :: codes =>
    match afterControl? (n :: codes) with
    | some rest => withoutControlsFrom fuel rest
    | none => n :: withoutControlsFrom fuel codes

/-- A text without its terminal control sequences. -/
def withoutControls (s : String) : String :=
  let codes := Text.codes s
  Text.ofCodes (withoutControlsFrom codes.length codes)

/-! ## Actions -/

namespace Action

/-- Ends the command. -/
def stop {α : Type} (ending : Ending) : Action α :=
  throw ending

/-- Ends the command without a message. -/
def crash {α : Type} (cause : Crash) : Action α :=
  stop (.crash cause)

/-- A text as a stream takes it. -/
def encoded (stream : Stream) (s : String) : Action String :=
  match stream with
  | .out => if Text.hasSurrogate s then crash .unencodable else pure s
  | .err => pure (Text.escaped s)

/-- Writes a text. -/
def write (stream : Stream) (s : String) : Action Unit := do
  let text ← encoded stream s
  modify fun p => p.write stream text

/-- Writes a text and a line break, without terminal control sequences. -/
def echo (stream : Stream) (s : String) : Action Unit :=
  write stream (withoutControls (s ++ "\n"))

/-- Prints marked-up text on a console of some width; malformed markup breaks the command off. -/
def print (width : Nat) (stream : Stream) (markup : String) : Action Unit :=
  match Markup.plain markup.toList with
  | .ok plain => write stream (paragraphText width (String.ofList plain))
  | .error e => crash (.markup e)

/-- Prints a table on a console of some width. -/
def printTable (width : Nat) (stream : Stream) (heading : List String)
    (rows : List (List String)) : Action Unit :=
  write stream (tableText width heading rows)

/-- Prints a panel on a console of some width. -/
def printPanel (width : Nat) (stream : Stream) (p : Panel) : Action Unit :=
  write stream (panelText width p)

/-- Ends the command with an error message. -/
def fail {α : Type} (message : String) : Action α := do
  echo .err ("Error: " ++ message)
  stop (.exit 1)

/-- Logs records. -/
def log (records : List LogRecord) : Action Unit :=
  modify fun p => { p with logs := p.logs ++ records }

/-- Configures the logger. -/
def configureLogging (debug : Bool) : Action Unit :=
  modify fun p => { p with logging := p.logging.configure debug }

/-- How a command ends, and what it has done; one that does not end early exits with zero. -/
def run (action : Action Unit) (logging : Logging) : Ending × Progress :=
  match (ExceptT.run action).run (.start logging) with
  | (.ok _, p) => (.exit 0, p)
  | (.error ending, p) => (ending, p)

end Action

end ColumnTypes.Command
