import ColumnTypes.Text.Blank
import ColumnTypes.Text.CodePoints

/-!
# Paths

A `Path` is a path as written, less what never matters: empty names, single dots and slashes at the
end.  Double dots stay, because what they lead to depends on the files.  A `Location` is a place in
the file tree, given by the names on the way from the root.

`Path.locate` turns a path into a location by its names alone: double dots take back the name before
them, and at the root they lead nowhere.
-/

namespace ColumnTypes

/-- A place in a file tree: the names on the way from the root. -/
abbrev Location := List String

/-- A directory that relative paths start from.  It may have been removed, and directories above it
too: then nothing is in it, but the way up is still known. -/
structure Place where
  location : Location
  /-- How many directories on the way, counted from this one up, have been removed. -/
  lost : Nat

/-- The place of a directory that is there. -/
def Place.ofLocation (l : Location) : Place := ⟨l, 0⟩

/-- Whether the directory is there. -/
def Place.isPresent (p : Place) : Bool :=
  p.lost == 0

/-- The place one directory up. -/
def Place.parent (p : Place) : Place := ⟨p.location.dropLast, p.lost - 1⟩

/-- What a path starts with. -/
inductive Start where
  | relative
  | root
  /-- Exactly two slashes, which are kept apart from one. -/
  | twoSlashes
  deriving DecidableEq, Repr

/-- A path: where it starts and the names it goes through. -/
structure Path where
  start : Start
  names : List String
  deriving DecidableEq, Repr

/-- The slashes of a start. -/
def Start.text : Start → String
  | relative => ""
  | root => "/"
  | twoSlashes => "//"

namespace Path

/-- The start of a path with a number of slashes in front. -/
def startOf (slashes : Nat) : Start :=
  if slashes = 0 then .relative else if slashes = 2 then .twoSlashes else .root

/-- The names of a text between its slashes, empty ones included. -/
def rawNames (s : String) : List String :=
  (Text.splitAt '/' s.toList).map String.ofList

/-- Whether a name leads on from a directory. -/
def isName (name : String) : Bool :=
  !name.isEmpty && name != "."

/-- The path that a text spells. -/
def ofText (s : String) : Path :=
  ⟨startOf (s.toList.takeWhile (· == '/')).length, (rawNames s).filter isName⟩

/-- The text of a path; the path that goes nowhere is a dot. -/
def text (p : Path) : String :=
  if p.start = .relative ∧ p.names.isEmpty then "."
  else p.start.text ++ "/".intercalate p.names

/-- Whether a path starts at the root. -/
def isAbsolute (p : Path) : Bool :=
  p.start != .relative

/-- Whether a text holds a code point that no path of the system can: NUL, or a surrogate that
stands for no byte. -/
def isUnusableText (s : String) : Bool :=
  (Text.codes s).any fun n => n == 0 || Text.isUnencodable n

/-- Whether a path holds such a code point. -/
def isUnusable (p : Path) : Bool :=
  p.names.any isUnusableText

/-- Names behind others, where a double dot takes back the name before it.  Above the root it leads
nowhere, and in a relative path it stays if there is nothing to take back. -/
def collapse (start : Start) (done : List String) (name : String) : List String :=
  if name = ".." then
    match done.getLast? with
    | some last => if last = ".." then done ++ [name] else done.dropLast
    | none => if start = .relative then [name] else []
  else done ++ [name]

/-- The beginning of a path that is asked for name by name: up to the first name with an unusable
text. -/
def askedPart (p : Path) : Path :=
  let usable := p.names.takeWhile (!isUnusableText ·)
  ⟨if p.start = .relative then .relative else .root,
    usable.foldl (collapse p.start) [] ++ (p.names.drop usable.length).take 1⟩

/-- A path followed by another, which an absolute one replaces. -/
def join (p q : Path) : Path :=
  if q.isAbsolute then q else ⟨p.start, p.names ++ q.names⟩

/-- The path to a location. -/
def ofLocation (l : Location) : Path :=
  ⟨.root, l⟩

/-- The location reached from another through a name. -/
def follow (l : Location) (name : String) : Location :=
  if name = ".." then l.dropLast else l ++ [name]

/-- The place that a path starts from, seen from a working directory. -/
def base (p : Path) (directory : Place) : Place :=
  if p.isAbsolute then .ofLocation [] else directory

/-- The location of a path as its names give it, seen from a working directory. -/
def locate (p : Path) (directory : Place) : Location :=
  p.names.foldl follow (p.base directory).location

/-- An absolute path leads to the same location from everywhere. -/
theorem locate_of_isAbsolute {p : Path} (h : p.isAbsolute = true) (d e : Place) :
    p.locate d = p.locate e := by
  simp [locate, base, h]

example : (ofText "a//b/./c/").text = "a/b/c" := by decide
example : (ofText "//a").text = "//a" ∧ (ofText "///a").text = "/a" := by decide
example : (ofText "").text = "." := by decide

end Path

end ColumnTypes
