import ColumnTypes.Text.Blank
import ColumnTypes.Text.Case

/-!
# Struct names

The exported Go name of a type with a `snake_case` SQL name: its parts between underscores, each
with an upper-case first character, one after another.  The part `id` becomes `ID`.  An override
that is not empty takes the place of the derived name.
-/

namespace ColumnTypes

/-- Overrides of struct names, keyed by SQL name; the first entry of a key counts. -/
abbrev Rename := List (String × String)

namespace Rename

/-- The override of a name; an empty one counts as none. -/
def override? (rename : Rename) (name : String) : Option String :=
  match rename.lookup name with
  | some s => if s.isEmpty then none else some s
  | none => none

end Rename

namespace StructName

/-- A part of a name with its first character in upper case. -/
def capitalized : List Char → List Char
  | [] => []
  | c :: cs => Text.upper c ++ cs

/-- The exported form of a part. -/
def ofPart (part : List Char) : List Char :=
  if part = ['i', 'd'] then ['I', 'D'] else capitalized part

/-- The exported form of a name. -/
def ofChars (name : List Char) : List Char :=
  (Text.splitAt '_' name).flatMap ofPart

/-- The name derived from an SQL name. -/
def derived (name : String) : String :=
  String.ofList (ofChars name.toList)

end StructName

/-- The struct name of an SQL name: its override, or else the derived name. -/
def structName (rename : Rename) (name : String) : String :=
  (rename.override? name).getD (StructName.derived name)

example : structName [] "billing_status" = "BillingStatus" := by decide
example : structName [] "user_id" = "UserID" := by decide
example : structName [("status", "State")] "status" = "State" := by decide

end ColumnTypes
