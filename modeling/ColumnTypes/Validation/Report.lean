import ColumnTypes.Validation

/-!
# Reports of failed validations

A `Report` names the record that was being read and lists the faults.  Its text has one paragraph a
fault: the location on a line of its own, then the message, indented, with the document found.
-/

namespace ColumnTypes

/-- The faults found when a document was read as a record of the named model. -/
structure Report where
  model : String
  faults : List Fault

namespace Problem

/-- The identifier of a problem. -/
def code : Problem → String
  | missing => "missing"
  | notText => "string_type"
  | brokenText => "string_unicode"
  | emptyText => "string_too_short"
  | notTruthValue => "bool_type"
  | unclearTruthValue => "bool_parsing"
  | notList => "list_type"
  | notMapping => "dict_type"
  | notTuple => "tuple_type"
  | tooManyItems _ _ => "too_long"
  | notRecord _ => "model_type"
  | notFields => "model_attributes_type"
  | unexpectedEntry => "extra_forbidden"
  | badEntryName => "invalid_key"
  | longInteger => "value_error"
  | notLiteral _ => "literal_error"
  | unknownTag _ => "union_tag_invalid"
  | noTag => "union_tag_not_found"

/-- The wording of a problem. -/
def message : Problem → String
  | missing => "Field required"
  | notText => "Input should be a valid string"
  | brokenText =>
    "Input should be a valid string, unable to parse raw data as a unicode string"
  | emptyText => "String should have at least 1 character"
  | notTruthValue => "Input should be a valid boolean"
  | unclearTruthValue => "Input should be a valid boolean, unable to interpret input"
  | notList => "Input should be a valid list"
  | notMapping => "Input should be a valid dictionary"
  | notTuple => "Input should be a valid tuple"
  | tooManyItems limit found =>
    "Tuple should have at most " ++ toString limit ++ " items after validation, not " ++
      toString found
  | notRecord model => "Input should be a valid dictionary or instance of " ++ model
  | notFields => "Input should be a valid dictionary or object to extract fields from"
  | unexpectedEntry => "Extra inputs are not permitted"
  | badEntryName => "Keys should be strings"
  | longInteger =>
    "Value error, Exceeds the limit (4300 digits) for integer string conversion; " ++
      "use sys.set_int_max_str_digits() to increase the limit"
  | notLiteral expected => "Input should be '" ++ expected ++ "'"
  | unknownTag tag =>
    "Input tag '" ++ tag ++ "' found using 'kind' does not match any of the expected tags: " ++
      "'class', 'nullable_type', 'user_type'"
  | noTag => "Unable to extract tag using discriminator 'kind'"

end Problem

/-- A step inside a dotted location; a name that holds a dot is set off. -/
def Step.text : Step → String
  | .item n => toString n
  | .field name => if name.contains '.' then "\x60" ++ name ++ "\x60" else name

/-- The longest beginning of a text within a number of bytes. -/
def takeBytes : Nat → List Char → List Char
  | _, [] => []
  | room, c :: rest =>
    if c.utf8Size ≤ room then c :: takeBytes (room - c.utf8Size) rest else []

/-- Shortens a text of more than 50 bytes to its beginning and its end. -/
def abbreviated (s : String) : String :=
  if s.utf8ByteSize ≤ 50 then s
  else
    String.ofList (takeBytes 25 s.toList) ++ "..." ++
      String.ofList (takeBytes 24 s.toList.reverse).reverse

/-- The message of a fault, followed by what was found. -/
def Fault.line (f : Fault) : String :=
  "  " ++ f.problem.message ++ " [type=" ++ f.problem.code ++ ", input_value=" ++
    abbreviated f.found.reported ++ ", input_type=" ++ f.found.kind ++ "]"

/-- The paragraph of a fault. -/
def Fault.text (f : Fault) : String :=
  if f.location.isEmpty then f.line
  else ".".intercalate (f.location.map Step.text) ++ "\n" ++ f.line

/-- The text of a report. -/
def Report.text (r : Report) : String :=
  toString r.faults.length ++ " validation error" ++ (if r.faults.length = 1 then "" else "s") ++
    " for " ++ r.model ++ "\n" ++ "\n".intercalate (r.faults.map Fault.text)

/-- The outcome of a check as a report on failure. -/
def Checked.report {α : Type} (model : String) : Checked α → Except Report α
  | .ok a => .ok a
  | .error faults => .error ⟨model, faults⟩

end ColumnTypes
