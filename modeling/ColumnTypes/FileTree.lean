import ColumnTypes.Path
import ColumnTypes.Text.SystemNames

/-!
# File trees

A `FileTree` is what a file system holds: files and directories by their locations, in the order in
which the system would go through them.  The root is always a directory.

`FileTree.walk` goes from name to name as the system does, so it fails where a name is missing or a
file stands in the way; this is where it differs from `Path.locate`.  Names are looked up in the
spelling in which the system lists them.
-/

namespace ColumnTypes

/-- What is at a location. -/
inductive Entry where
  | file (bytes : List UInt8)
  | directory
  deriving DecidableEq

/-- The files and directories of a file system. -/
structure FileTree where
  entries : List (Location × Entry)

/-- Why the system refuses a path. -/
inductive FileFault where
  | notFound
  | notDirectory
  | isDirectory
  | nameTooLong
  /-- A NUL in a path, which is not even asked for. -/
  | nullCharacter
  /-- A surrogate in a path that stands for no byte, so that the path cannot be asked for. -/
  | unencodable
  deriving DecidableEq, Repr

namespace FileFault

/-- The system's number of a fault. -/
def number : FileFault → Nat
  | notFound => 2
  | notDirectory => 20
  | isDirectory => 21
  | nameTooLong => 36
  | nullCharacter | unencodable => 22

/-- The system's wording of a fault. -/
def wording : FileFault → String
  | notFound => "No such file or directory"
  | notDirectory => "Not a directory"
  | isDirectory => "Is a directory"
  | nameTooLong => "File name too long"
  | nullCharacter => "embedded null byte"
  | unencodable => "surrogates not allowed"

/-- Why a path with an unusable text is not even asked for. -/
def ofText (s : String) : FileFault :=
  if (Text.codes s).any Text.isUnencodable then unencodable else nullCharacter

/-- The place of the first surrogate of a text that stands for nothing, together with the surrogates
right behind it. -/
def brokenPlace (s : String) : String :=
  let before := (Text.codes s).takeWhile (!Text.isUnencodable ·)
  let broken := ((Text.codes s).drop before.length).takeWhile Text.isSurrogate
  match broken with
  | [n] => "character '\\u" ++ String.ofList (Text.hex 4 n) ++ "' in position " ++
      toString before.length
  | _ => "characters in position " ++ toString before.length ++ "-" ++
      toString (before.length + broken.length - 1)

/-- The message of a fault at a path. -/
def message (f : FileFault) (p : Path) : String :=
  match f with
  | nullCharacter => f.wording
  | unencodable => "'utf-8' codec can't encode " ++ brokenPlace p.text ++ ": " ++ f.wording
  | _ => "[Errno " ++ toString f.number ++ "] " ++ f.wording ++ ": " ++ Text.quoted p.text

end FileFault

namespace FileTree

/-- The tree without anything but the root. -/
def empty : FileTree := ⟨[]⟩

/-! ## Looking -/

/-- What is at a location. -/
def get? (t : FileTree) (l : Location) : Option Entry :=
  if l = [] then some .directory else t.entries.lookup l

/-- Whether there is a directory at a location. -/
def isDirectoryAt (t : FileTree) (l : Location) : Bool :=
  t.get? l == some .directory

/-- Whether there is a file at a location. -/
def isFileAt (t : FileTree) (l : Location) : Bool :=
  match t.get? l with
  | some (.file _) => true
  | _ => false

/-- The most bytes that a name can have. -/
def nameLimit : Nat := 255

/-- The most bytes that a path can have. -/
def pathLimit : Nat := 4095

/-- What is at a place; a directory that has been removed is still one to those who are in it. -/
def entryAtPlace? (t : FileTree) (p : Place) : Option Entry :=
  if p.isPresent then t.get? p.location else some .directory

/-- The place that names lead to.  A name that is empty or a dot stays where it is, but even that
takes a directory; from a directory that has been removed there is only the way up. -/
def walk (t : FileTree) (p : Place) : List String → Except FileFault Place
  | [] => .ok p
  | name :: rest =>
    if t.entryAtPlace? p != some .directory then .error .notDirectory
    else if !Path.isName name then t.walk p rest
    else if nameLimit < Text.byteSize name then .error .nameTooLong
    else if name = ".." then t.walk p.parent rest
    else if p.isPresent && (t.get? (p.location ++ [name])).isSome then
      t.walk ⟨p.location ++ [name], 0⟩ rest
    else .error .notFound

/-- The place that a path leads to from a working directory. -/
def placeAt (t : FileTree) (directory : Place) (p : Path) : Except FileFault Place :=
  if p.isUnusable then .error (.ofText p.text)
  else if pathLimit < Text.byteSize p.text then .error .nameTooLong
  else t.walk (p.base directory) (p.names.map Text.listed)

/-- What a path leads to from a working directory. -/
def entryAt (t : FileTree) (directory : Place) (p : Path) : Except FileFault Entry := do
  match t.entryAtPlace? (← t.placeAt directory p) with
  | some entry => .ok entry
  | none => .error .notFound

/-- What a path leads to, if anything; only a path that is too long is an error. -/
def entryAt? (t : FileTree) (directory : Place) (p : Path) : Except FileFault (Option Entry) :=
  match t.entryAt directory p with
  | .ok entry => .ok (some entry)
  | .error .nameTooLong => .error .nameTooLong
  | .error _ => .ok none

/-- The place of the directory that a path leads to. -/
def directoryAt (t : FileTree) (directory : Place) (p : Path) : Except FileFault Place := do
  let place ← t.placeAt directory p
  if t.entryAtPlace? place == some .directory then .ok place else .error .notDirectory

/-- The bytes of the file that a path leads to. -/
def readFile (t : FileTree) (directory : Place) (p : Path) : Except FileFault (List UInt8) := do
  match ← t.entryAt directory p with
  | .file bytes => .ok bytes
  | .directory => .error .isDirectory

/-- Whether a text, taken as the system takes it, leads to anything.  Unlike a `Path` it may end in
a slash, and then it must lead to a directory. -/
def isPresent (t : FileTree) (directory : Place) (s : String) : Bool :=
  !s.isEmpty && Text.byteSize s ≤ pathLimit &&
    (t.walk ((Path.ofText s).base directory) ((Path.rawNames s).map Text.listed)).isOk

/-! ## Listing -/

/-- The names from one location down to another, if the other is below it. -/
def below? : Location → Location → Option (List String)
  | [], names => if names.isEmpty then none else some names
  | _ :: _, [] => none
  | a :: l, b :: m => if a = b then below? l m else none

/-- Everything below a location, by its names from there, in the order of the system. -/
def descendants (t : FileTree) (l : Location) : List (List String) :=
  t.entries.filterMap fun (m, _) => below? l m

/-! ## Changing -/

/-- Puts an entry at a location, in the place of what is there. -/
def insert (t : FileTree) (l : Location) (entry : Entry) : FileTree :=
  if t.entries.any (·.1 == l) then
    ⟨t.entries.map fun (m, e) => if m = l then (m, entry) else (m, e)⟩
  else ⟨t.entries ++ [(l, entry)]⟩

/-- Makes a directory at a location unless something is there. -/
def addDirectory (t : FileTree) (l : Location) : FileTree :=
  if (t.get? l).isSome then t else t.insert l .directory

/-- Makes the directories on the way to a location, and the one there. -/
def makeDirectories (t : FileTree) (l : Location) : FileTree :=
  ((List.range (l.length + 1)).map l.take).foldl addDirectory t

/-- Writes a file, with the directories on the way to it. -/
def writeFile (t : FileTree) (l : Location) (bytes : List UInt8) : FileTree :=
  (t.makeDirectories l.dropLast).insert l (.file bytes)

/-- Removes what is at a location, with everything below. -/
def remove (t : FileTree) (l : Location) : FileTree :=
  ⟨t.entries.filter fun (m, _) => !(m = l || (below? l m).isSome)⟩

/-- A place after what is at a location has been removed. -/
def placeWithout (l : Location) (p : Place) : Place :=
  if l.isPrefixOf p.location then
    ⟨p.location, max p.lost (p.location.length + 1 - l.length)⟩
  else p

end FileTree

end ColumnTypes
