import ColumnTypes.Catalog.Reading

/-!
# Kotlin declarations as tagged nodes

A `Node` boxes one of three kinds of Kotlin element: a class, a nullable type or a user type.  Each
carries its kind as a tag, so that a node written as a document is read back as the same kind.

The type of a class property is a user type or a nullable type and may be given without its tag.
Then both readings are tried, and of two that succeed the one that uses more of the given fields
counts, the user type on a tie.

There are two written forms, which differ in the properties of a class: `Node.dump` has them as
pairs, and `Node.toDocument` as lists.
-/

namespace ColumnTypes.Kotlin

open Document

/-- A reference to a named type. -/
structure UserType where
  name : String
  package : Option String
  deriving DecidableEq, Repr

/-- A nullable wrapper around a type. -/
structure NullableType where
  inner : UserType
  deriving DecidableEq, Repr

/-- The type of a class property. -/
inductive PropertyType where
  | user (type : UserType)
  | nullable (type : NullableType)
  deriving DecidableEq, Repr

/-- A class declaration. -/
structure ClassDecl where
  name : String
  data : Bool
  properties : List (String × PropertyType)
  deriving DecidableEq, Repr

/-- A boxed element. -/
inductive Node where
  | classDecl (c : ClassDecl)
  | nullableType (t : NullableType)
  | userType (t : UserType)
  deriving DecidableEq, Repr

/-! ## Tags and names -/

/-- The tag of a class. -/
def classTag : String := "class"

/-- The tag of a nullable type. -/
def nullableTag : String := "nullable_type"

/-- The tag of a user type. -/
def userTag : String := "user_type"

/-- The tag of a node. -/
def Node.kind : Node → String
  | .classDecl _ => classTag
  | .nullableType _ => nullableTag
  | .userType _ => userTag

/-- The name with its package in front, if there is one. -/
def UserType.qualifiedName (t : UserType) : String :=
  match t.package with
  | some package => if package.isEmpty then t.name else package ++ "." ++ t.name
  | none => t.name

/-- The message for a value of a kind that cannot be boxed. -/
def unsupportedMessage (kind : String) : String :=
  "unsupported Kotlin AST node: " ++ kind

/-! ## Boxing -/

/-- A value that is given to be boxed. -/
inductive Value where
  | classDecl (c : ClassDecl)
  | nullableType (t : NullableType)
  | userType (t : UserType)
  /-- A box, which is no element itself. -/
  | node (n : Node)
  | document (d : Document)

/-- The name of a value's kind. -/
def Value.kind : Value → String
  | .classDecl _ => "Class"
  | .nullableType _ => "NullableType"
  | .userType _ => "UserType"
  | .node _ => "Node"
  | .document d => d.kind

/-- Boxes an element; every other value is refused with a message. -/
def Value.box : Value → Except String Node
  | .classDecl c => .ok (.classDecl c)
  | .nullableType t => .ok (.nullableType t)
  | .userType t => .ok (.userType t)
  | v => .error (unsupportedMessage v.kind)

/-- The element inside a node. -/
def Node.element : Node → Value
  | .classDecl c => .classDecl c
  | .nullableType t => .nullableType t
  | .userType t => .userType t

/-! ## Reading -/

/-- The tag that a record of one kind must have, if it has one. -/
def asTag (tag : String) (d : Document) : Checked Unit :=
  match d with
  | str s => if s = tag then .ok () else .fail (.notLiteral tag) d
  | _ => .fail (.notLiteral tag) d

/-- Reads a user type. -/
def UserType.ofEntries (entries : List (Document × Document)) : Checked UserType :=
  let tag := optionalField ["kind"] (asTag userTag) () entries
  let name := requiredField ["name"] asText entries
  let package := optionalField ["package"] asOptionalText none entries
  (tag.both (name.both package)).map fun (_, name, package) => ⟨name, package⟩

/-- Reads a user type from a document. -/
def UserType.ofDocument : Document → Checked UserType :=
  asRecord "UserType" UserType.ofEntries

/-- Reads a nullable type. -/
def NullableType.ofEntries (entries : List (Document × Document)) : Checked NullableType :=
  let tag := optionalField ["kind"] (asTag nullableTag) () entries
  let inner := requiredField ["inner"] UserType.ofDocument entries
  (tag.both inner).map fun (_, inner) => ⟨inner⟩

/-- Reads a nullable type from a document. -/
def NullableType.ofDocument : Document → Checked NullableType :=
  asRecord "NullableType" NullableType.ofEntries

/-- How many of the given names a document has entries for. -/
def countFields (names : List String) (d : Document) : Nat :=
  match d.entries? with
  | some entries => (names.filter fun name => (valueOf? name entries).isSome).length
  | none => 0

/-- How many fields a document gives for a user type. -/
def userWeight (d : Document) : Nat :=
  countFields ["kind", "name", "package"] d

/-- How many fields a document gives for a nullable type, those of the inner type included. -/
def nullableWeight (d : Document) : Nat :=
  countFields ["kind", "inner"] d +
    match d.entries? with
    | some entries => ((valueOf? "inner" entries).map userWeight).getD 0
    | none => 0

/-- Reads the type of a property. -/
def PropertyType.ofDocument (d : Document) : Checked PropertyType :=
  match UserType.ofDocument d, NullableType.ofDocument d with
  | .ok u, .ok n => .ok (if userWeight d < nullableWeight d then .nullable n else .user u)
  | .ok u, .error _ => .ok (.user u)
  | .error _, .ok n => .ok (.nullable n)
  | .error f, .error g =>
    ((Checked.under (.field "UserType") (.error f)).both
      (Checked.under (.field "NullableType") (.error g : Checked Unit))).map (·.1)

/-- Reads a property: its name and its type. -/
def propertyOfDocument (d : Document) : Checked (String × PropertyType) :=
  match d.items? with
  | none => .fail .notTuple d
  | some [] =>
    (Checked.under (.item 0) (.fail .missing d)).both (Checked.under (.item 1) (.fail .missing d))
  | some [name] =>
    ((asText name).under (.item 0)).both (Checked.under (.item 1) (.fail .missing d))
  | some [name, type] =>
    ((asText name).under (.item 0)).both ((PropertyType.ofDocument type).under (.item 1))
  | some items => .fail (.tooManyItems 2 items.length) d

/-- Reads a class. -/
def ClassDecl.ofEntries (entries : List (Document × Document)) : Checked ClassDecl :=
  let tag := optionalField ["kind"] (asTag classTag) () entries
  let name := requiredField ["name"] asText entries
  let data := optionalField ["data"] asBool false entries
  let properties := optionalField ["properties"] (asList propertyOfDocument) [] entries
  (tag.both (name.both (data.both properties))).map
    fun (_, name, data, properties) => ⟨name, data, properties⟩

/-- Reads a class from a document. -/
def ClassDecl.ofDocument : Document → Checked ClassDecl :=
  asRecord "Class" ClassDecl.ofEntries

/-- Reads the element inside a node by its tag. -/
def Node.elementOfDocument (d : Document) : Checked Node :=
  match d.entries? with
  | none => .fail .notFields d
  | some entries =>
    match valueOf? "kind" entries with
    | none => .fail .noTag d
    | some tag =>
      let unknown := Checked.fail (.unknownTag tag.text) d
      match tag with
      | str s =>
        if s = classTag then
          ((ClassDecl.ofDocument d).under (.field classTag)).map Node.classDecl
        else if s = nullableTag then
          ((NullableType.ofDocument d).under (.field nullableTag)).map Node.nullableType
        else if s = userTag then
          ((UserType.ofDocument d).under (.field userTag)).map Node.userType
        else unknown
      | _ => unknown

/-- Reads a node. -/
def Node.ofEntries : List (Document × Document) → Checked Node :=
  requiredField ["node"] Node.elementOfDocument

/-- Reads a node from a document. -/
def Node.ofDocument : Document → Checked Node :=
  asRecord "Node" Node.ofEntries

/-! ## Writing -/

/-- Text or nothing as a document. -/
def optionalText : Option String → Document
  | some s => .str s
  | none => .null

/-- A user type as a document with every field. -/
def UserType.toDocument (t : UserType) : Document :=
  .record [("kind", .str userTag), ("name", .str t.name), ("package", optionalText t.package)]

/-- A nullable type as a document. -/
def NullableType.toDocument (t : NullableType) : Document :=
  .record [("kind", .str nullableTag), ("inner", t.inner.toDocument)]

/-- The type of a property as a document. -/
def PropertyType.toDocument : PropertyType → Document
  | .user t => t.toDocument
  | .nullable t => t.toDocument

/-- A class as a document. -/
def ClassDecl.toDocument (c : ClassDecl) : Document :=
  .record [("kind", .str classTag), ("name", .str c.name), ("data", .bool c.data),
    ("properties", .list (c.properties.map fun (name, type) => .list [.str name, type.toDocument]))]

/-- A property as a pair of its name and its type. -/
def propertyPair : String × PropertyType → Document
  | (name, type) => .pair (.str name) type.toDocument

/-- A class as a document in which the properties are pairs. -/
def ClassDecl.dump (c : ClassDecl) : Document :=
  .record [("kind", .str classTag), ("name", .str c.name), ("data", .bool c.data),
    ("properties", .list (c.properties.map propertyPair))]

/-- The element inside a node as a document. -/
def Node.elementDocument : Node → Document
  | .classDecl c => c.toDocument
  | .nullableType t => t.toDocument
  | .userType t => t.toDocument

/-- A node as a document. -/
def Node.toDocument (n : Node) : Document :=
  .record [("node", n.elementDocument)]

/-- The element inside a node as a document in which the properties are pairs. -/
def Node.elementDump : Node → Document
  | .classDecl c => c.dump
  | .nullableType t => t.toDocument
  | .userType t => t.toDocument

/-- A node as a document in which the properties are pairs. -/
def Node.dump (n : Node) : Document :=
  .record [("node", n.elementDump)]

end ColumnTypes.Kotlin
