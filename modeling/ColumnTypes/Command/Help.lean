import ColumnTypes.Command.Options
import ColumnTypes.Text.Blank

/-!
# Help texts

A `Manual` is what a command's help says: how it is called, what it does, its options, and the
commands below it.  Texts are wrapped at a fixed width; in lists the names stand on the left and the
texts beside them.
-/

namespace ColumnTypes.Command

/-- A paragraph of a help text and how far it is indented. -/
structure HelpParagraph where
  indent : Nat
  text : String

/-- What a command's help says. -/
structure Manual where
  /-- The words by which the command is called. -/
  call : String
  /-- What may follow them. -/
  arguments : String
  description : List HelpParagraph
  options : List OptionSpec
  /-- The commands below this one, with what they do. -/
  commands : List (String × String)

namespace Help

/-- The width of a help text. -/
def width : Nat := 88

/-- Blanks. -/
def blanks (n : Nat) : List Char :=
  List.replicate n ' '

/-- Places words on lines of a width; `line` is the last line. -/
def placeWords (limit : Nat) (line : List Char) : List (List Char) → List (List Char)
  | [] => if line.isEmpty then [] else [line]
  | word :: rest =>
    if line.isEmpty then placeWords limit word rest
    else if line.length + 1 + word.length ≤ limit then
      placeWords limit (line ++ ' ' :: word) rest
    else line :: placeWords limit word rest

/-- A text in lines of a width. -/
def wrapped (limit : Nat) (text : String) : List (List Char) :=
  placeWords limit [] (Text.words text.toList)

/-- The indentation of every section's content. -/
def margin : Nat := 2

/-- The lines of a paragraph. -/
def paragraphLines (p : HelpParagraph) : List (List Char) :=
  let indent := margin + p.indent
  (wrapped (width - indent) p.text).map (blanks indent ++ ·)

/-- The widest name that texts stand beside. -/
def nameLimit : Nat := 30

/-- The lines of a list entry: its name, and its text from a column on. -/
def entryLines (column : Nat) (name text : String) : List (List Char) :=
  let first := blanks margin ++ name.toList
  let room := width - column - margin
  let indent := blanks (column + margin)
  match wrapped room text with
  | [] => [first]
  | line :: rest =>
    let others := rest.map (indent ++ ·)
    if name.length + margin ≤ column then
      (first ++ blanks (column - name.length) ++ line) :: others
    else first :: (indent ++ line) :: others

/-- The lines of a list. -/
def listLines (entries : List (String × String)) : List (List Char) :=
  let widest := ((entries.map (·.1.length)).max?).getD 0
  entries.flatMap fun (name, text) => entryLines (min widest nameLimit + margin) name text

/-- What stands for the value of an option. -/
def valueName (kind : OptionKind) : String :=
  match kind with
  | .path => " PATH"
  | .choice values => " [" ++ "|".intercalate values ++ "]"
  | .flag | .help | .version => ""

/-- An option as a list entry; short names come first. -/
def optionEntry (o : OptionSpec) : String × String :=
  let (long, short) := o.names.partition isLongName
  (", ".intercalate (short ++ long) ++ valueName o.kind, o.help)

/-- A section of a help text, if it has any lines. -/
def sectionLines (title : String) (lines : List (List Char)) : List (List Char) :=
  if lines.isEmpty then [] else [] :: title.toList :: lines

end Help

namespace Manual

/-- The line that says how a command is called. -/
def usageLine (m : Manual) : String :=
  "Usage: " ++ m.call ++ " " ++ m.arguments

/-- The line that points to the help text. -/
def helpHint (m : Manual) : String :=
  "Try '" ++ m.call ++ " --help' for help."

/-- The help text. -/
def text (m : Manual) : String :=
  let lines := [m.usageLine.toList] ++
    m.description.flatMap (fun p => [] :: Help.paragraphLines p) ++
    Help.sectionLines "Options:" (Help.listLines (m.options.map Help.optionEntry)) ++
    Help.sectionLines "Commands:" (Help.listLines m.commands)
  String.ofList (lines.flatMap (· ++ ['\n']))

end Manual

end ColumnTypes.Command
