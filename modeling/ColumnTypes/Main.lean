import ColumnTypes.Command.Invocation

/-!
# The program

`main` runs `Command.invoke` on a tree of the files that the arguments can lead to.  The tree is
taken from the system beforehand in two rounds: first the configuration files and whatever the
arguments name, then the catalogs that these configurations name.  So the outcome is decided by
`Surroundings` alone, and what is left here is looking and printing.
-/

namespace ColumnTypes.Program

/-! ## Texts of the system -/

/-- A text that the system has given. -/
def taken (s : String) : String :=
  Text.ofChars s.toList

/-- A text as the system is given it. -/
def told (s : String) : String :=
  String.ofList ((Text.codes (Text.escaped s)).map Char.ofNat)

/-! ## What can be asked for -/

/-- The paths in an argument: all of it, or the value that an option carries. -/
def argumentPaths (argument : String) : List Path :=
  let cs := argument.toList
  ([cs, cs.drop 2, (cs.dropWhile (· != '=')).drop 1].filter (!·.isEmpty)).map fun cs =>
    Path.ofText (String.ofList cs)

/-- The paths of the configuration files that a search from a directory upward tries. -/
def searchedPaths (directory : Location) : List Path :=
  (Surroundings.upward directory).flatMap fun l =>
    Config.fileNames.map fun name => Path.ofLocation (l ++ [name])

/-- The paths of the catalogs that the configurations at some paths name. -/
def namedCatalogs (s : Surroundings) (paths : List Path) : List Path :=
  paths.filterMap fun p => (s.configAt p).toOption.map Config.catalogPath

/-- The locations on the way along a path, the last of them its own. -/
def stops (directory : Place) (p : Path) : List Location :=
  (List.range (p.names.length + 1)).map fun n => (⟨p.start, p.names.take n⟩ : Path).locate directory

/-! ## Looking -/

/-- Directories are followed down to this depth. -/
def depthLimit : Nat := 64

/-- Adds to a tree what the system has at a location: a file, or a directory with the directories
and YAML files below it down to a depth.  What cannot be looked at is left out. -/
def gather (depth : Nat) (l : Location) (t : FileTree) : IO FileTree := do
  let place := (← IO.currentDir) / told (Path.ofLocation l).text
  try
    if ← place.isDir then
      let mut t := t.makeDirectories l
      match depth with
      | 0 => return t
      | depth + 1 =>
        for item in ← place.readDir do
          if isYamlName item.fileName || (← item.path.isDir) then
            t ← gather depth (l ++ [taken item.fileName]) t
        return t
    else if ← place.pathExists then
      return t.writeFile l (← IO.FS.readBinFile place).toList
    else return t
  catch _ => return t

/-- Adds to the files what the system has along some paths. -/
def gatherPaths (s : Surroundings) (paths : List Path) : IO Surroundings := do
  let mut files := s.files
  for p in paths do
    for l in stops s.directory p do
      files ← gather 0 l files
    files ← gather depthLimit (p.locate s.directory) files
  return { s with files }

/-- The cells of a console line: those that the environment gives, or 80. -/
def consoleWidth (setting : Option String) : Nat :=
  let digits := setting.getD ""
  if digits.toList.all Char.isDigit then digits.toNat?.getD 80 else 80

/-- What the program finds around it, as far as its arguments can ask for it. -/
def surroundings (arguments : List String) : IO Surroundings := do
  let directory := (Path.ofText (taken (← IO.currentDir).toString)).locate (.ofLocation [])
  let paths := searchedPaths directory ++ arguments.flatMap argumentPaths
  let setting := (← IO.getEnv Config.debugVariableName).map taken
  let width := consoleWidth (← IO.getEnv "COLUMNS")
  let s ← gatherPaths ⟨.empty, .ofLocation directory, setting, width⟩ paths
  gatherPaths s (namedCatalogs s paths)

/-! ## Printing -/

/-- The message of a crash. -/
def crashText : Command.Crash → String
  | .load e => e.message
  | .markup e => e.message
  | .unencodable => "a surrogate cannot be written"

/-- Prints what a run has done, and gives its exit code. -/
def report (ending : Command.Ending) (p : Command.Progress) : IO Nat := do
  IO.print (told p.out)
  for l in p.logs do
    IO.eprintln (l.level.name ++ " " ++ told l.message)
  IO.eprint (told p.err)
  match ending with
  | .exit code => return code
  | .crash cause =>
    IO.eprintln (told (crashText cause))
    return 1

/-- Runs the program with its arguments, and gives its exit code. -/
def run (arguments : List String) : IO Nat := do
  let (ending, p) := Command.invoke (← surroundings arguments) .unconfigured arguments
  report ending p

end ColumnTypes.Program

/-- The entry point. -/
def main (arguments : List String) : IO UInt32 := do
  return (← ColumnTypes.Program.run (arguments.map ColumnTypes.Program.taken)).toUInt32
