import ColumnTypes.Kotlin.Node
import ColumnTypes.Proofs.Validation

/-!
# Nodes that are written and read again

An element is boxed, the node is written as a document, and the document is read as the same node
again: of the same kind, and with the same properties.

The type of a property is read by trying both kinds.  A written type has its tag with it, and only
the reading of that kind takes the tag (`UserType.not_ofDocument_nullable`,
`NullableType.not_ofDocument_user`), so the weights of two readings never decide.

Main statement: `Value.restored_of_isElement`, for both written forms: `Node.dump`, in which a
property is a pair, and the same with lists in the place of pairs (`Document.withoutPairs`).
-/

namespace ColumnTypes

open Document Checked

/-! ## Lists in the place of pairs -/

namespace Document

mutual

/-- A document with a list in the place of every pair. -/
def withoutPairs : Document → Document
  | pair a b => list [withoutPairs a, withoutPairs b]
  | list items => list (itemsWithoutPairs items)
  | set items => set (itemsWithoutPairs items)
  | map entries => map (entriesWithoutPairs entries)
  | loop n body => loop n (withoutPairs body)
  | d => d

/-- Items with a list in the place of every pair. -/
def itemsWithoutPairs : List Document → List Document
  | [] => []
  | d :: ds => withoutPairs d :: itemsWithoutPairs ds

/-- Entries with a list in the place of every pair. -/
def entriesWithoutPairs : List (Document × Document) → List (Document × Document)
  | [] => []
  | (k, v) :: rest => (withoutPairs k, withoutPairs v) :: entriesWithoutPairs rest

end

theorem itemsWithoutPairs_eq_map (ds : List Document) :
    itemsWithoutPairs ds = ds.map withoutPairs := by
  induction ds with
  | nil => rfl
  | cons d ds ih => rw [itemsWithoutPairs, ih, List.map_cons]

theorem withoutPairs_list (ds : List Document) :
    (list ds).withoutPairs = list (ds.map withoutPairs) := by
  rw [withoutPairs, itemsWithoutPairs_eq_map]

/-- A record is written field by field. -/
theorem withoutPairs_record (fields : List (String × Document)) :
    (record fields).withoutPairs = record (fields.map fun (name, d) => (name, d.withoutPairs)) := by
  unfold record
  rw [withoutPairs]
  refine congrArg map ?_
  induction fields with
  | nil => rfl
  | cons field fields ih =>
      rw [List.map_cons, entriesWithoutPairs, ih]
      rfl

/-- A record is read from its fields. -/
theorem asRecord_record {α : Type} {model : String}
    {check : List (Document × Document) → Checked α} {fields : List (String × Document)} :
    asRecord model check (record fields) =
      check (fields.map fun (name, value) => (str name, value)) :=
  rfl

end Document

namespace Kotlin

/-! ## Fields

An element is read exactly if each of its fields is. -/

variable {entries : List (Document × Document)}

/-- The fields of a user type. -/
theorem UserType.ofEntries_eq_ok_iff {t : UserType} :
    UserType.ofEntries entries = .ok t ↔
      optionalField ["kind"] (asTag userTag) () entries = .ok () ∧
      requiredField ["name"] asText entries = .ok t.name ∧
      optionalField ["package"] asOptionalText none entries = .ok t.package := by
  simp only [UserType.ofEntries, map_eq_ok_iff, both_eq_ok_iff]
  constructor
  · rintro ⟨p, h, rfl⟩
    exact h
  · intro h
    exact ⟨⟨(), t.name, t.package⟩, h, rfl⟩

/-- The fields of a nullable type. -/
theorem NullableType.ofEntries_eq_ok_iff {t : NullableType} :
    NullableType.ofEntries entries = .ok t ↔
      optionalField ["kind"] (asTag nullableTag) () entries = .ok () ∧
      requiredField ["inner"] UserType.ofDocument entries = .ok t.inner := by
  simp only [NullableType.ofEntries, map_eq_ok_iff, both_eq_ok_iff]
  constructor
  · rintro ⟨p, h, rfl⟩
    exact h
  · intro h
    exact ⟨⟨(), t.inner⟩, h, rfl⟩

/-- The fields of a class. -/
theorem ClassDecl.ofEntries_eq_ok_iff {c : ClassDecl} :
    ClassDecl.ofEntries entries = .ok c ↔
      optionalField ["kind"] (asTag classTag) () entries = .ok () ∧
      requiredField ["name"] asText entries = .ok c.name ∧
      optionalField ["data"] asBool false entries = .ok c.data ∧
      optionalField ["properties"] (asList propertyOfDocument) [] entries = .ok c.properties := by
  simp only [ClassDecl.ofEntries, map_eq_ok_iff, both_eq_ok_iff]
  constructor
  · rintro ⟨p, h, rfl⟩
    exact h
  · intro h
    exact ⟨⟨(), c.name, c.data, c.properties⟩, h, rfl⟩

/-! ## Types -/

/-- A user type is read back. -/
theorem UserType.ofDocument_toDocument (t : UserType) :
    UserType.ofDocument t.toDocument = .ok t := by
  refine UserType.ofEntries_eq_ok_iff.2 ⟨rfl, rfl, ?_⟩
  cases t with
  | mk name package => cases package <;> rfl

/-- A nullable type is read back. -/
theorem NullableType.ofDocument_toDocument (t : NullableType) :
    NullableType.ofDocument t.toDocument = .ok t :=
  NullableType.ofEntries_eq_ok_iff.2
    ⟨rfl, under_eq_ok_iff.2 t.inner.ofDocument_toDocument⟩

/-- The tag of a nullable type is not that of a user type. -/
theorem UserType.not_ofDocument_nullable (t : NullableType) (u : UserType) :
    UserType.ofDocument t.toDocument ≠ .ok u := by
  intro h
  unfold NullableType.toDocument UserType.ofDocument at h
  rw [asRecord_record] at h
  obtain ⟨htag, -⟩ := UserType.ofEntries_eq_ok_iff.1 h
  exact nomatch htag

/-- The tag of a user type is not that of a nullable type. -/
theorem NullableType.not_ofDocument_user (u : UserType) (t : NullableType) :
    NullableType.ofDocument u.toDocument ≠ .ok t := by
  intro h
  unfold UserType.toDocument NullableType.ofDocument at h
  rw [asRecord_record] at h
  obtain ⟨htag, -⟩ := NullableType.ofEntries_eq_ok_iff.1 h
  exact nomatch htag

/-- The type of a property is read back as what it was. -/
theorem PropertyType.ofDocument_toDocument (type : PropertyType) :
    PropertyType.ofDocument type.toDocument = .ok type := by
  cases type with
  | user u =>
      show PropertyType.ofDocument u.toDocument = _
      unfold PropertyType.ofDocument
      rw [u.ofDocument_toDocument]
      cases h : NullableType.ofDocument u.toDocument with
      | ok t => exact absurd h (NullableType.not_ofDocument_user u t)
      | error faults => rfl
  | nullable t =>
      show PropertyType.ofDocument t.toDocument = _
      unfold PropertyType.ofDocument
      rw [t.ofDocument_toDocument]
      cases h : UserType.ofDocument t.toDocument with
      | ok u => exact absurd h (UserType.not_ofDocument_nullable t u)
      | error faults => rfl

/-! ## Classes -/

/-- A property is read back from its name and its type, however the two are held together. -/
theorem propertyOfDocument_of_items {d : Document} {property : String × PropertyType}
    (h : d.items? = some [.str property.1, property.2.toDocument]) :
    propertyOfDocument d = .ok property := by
  have htype : ((PropertyType.ofDocument property.2.toDocument).under (.item 1)) =
      .ok property.2 :=
    under_eq_ok_iff.2 property.2.ofDocument_toDocument
  unfold propertyOfDocument
  rw [h]
  show both (.ok property.1) ((PropertyType.ofDocument property.2.toDocument).under (.item 1)) = _
  rw [htype]
  rfl

/-- A class is read back from its fields, however its properties are written. -/
theorem ClassDecl.ofDocument_record (c : ClassDecl) {write : String × PropertyType → Document}
    (hwrite : ∀ property, (write property).items? =
      some [.str property.1, property.2.toDocument]) :
    ClassDecl.ofDocument (.record [("kind", .str classTag), ("name", .str c.name),
      ("data", .bool c.data), ("properties", .list (c.properties.map write))]) = .ok c := by
  refine ClassDecl.ofEntries_eq_ok_iff.2 ⟨rfl, rfl, rfl, under_eq_ok_iff.2 ?_⟩
  exact each_map fun property _ => propertyOfDocument_of_items (hwrite property)

/-- A class is read back where its properties are pairs. -/
theorem ClassDecl.ofDocument_dump (c : ClassDecl) : ClassDecl.ofDocument c.dump = .ok c :=
  c.ofDocument_record fun _ => rfl

/-- A class is read back where its properties are lists. -/
theorem ClassDecl.ofDocument_toDocument (c : ClassDecl) :
    ClassDecl.ofDocument c.toDocument = .ok c :=
  c.ofDocument_record fun _ => rfl

/-! ## Nodes -/

/-- An element is read back by its tag. -/
theorem Node.elementOfDocument_elementDump (n : Node) :
    Node.elementOfDocument n.elementDump = .ok n := by
  cases n with
  | classDecl c =>
      show ((ClassDecl.ofDocument c.dump).under (.field classTag)).map Node.classDecl = _
      rw [c.ofDocument_dump]
      rfl
  | nullableType t =>
      show ((NullableType.ofDocument t.toDocument).under (.field nullableTag)).map
        Node.nullableType = _
      rw [t.ofDocument_toDocument]
      rfl
  | userType t =>
      show ((UserType.ofDocument t.toDocument).under (.field userTag)).map Node.userType = _
      rw [t.ofDocument_toDocument]
      rfl

/-- So it is where properties are lists. -/
theorem Node.elementOfDocument_elementDocument (n : Node) :
    Node.elementOfDocument n.elementDocument = .ok n := by
  cases n with
  | classDecl c =>
      show ((ClassDecl.ofDocument c.toDocument).under (.field classTag)).map Node.classDecl = _
      rw [c.ofDocument_toDocument]
      rfl
  | nullableType t => exact elementOfDocument_elementDump (.nullableType t)
  | userType t => exact elementOfDocument_elementDump (.userType t)

/-- A node is read back from its dump. -/
theorem Node.ofDocument_dump (n : Node) : Node.ofDocument n.dump = .ok n :=
  under_eq_ok_iff.2 n.elementOfDocument_elementDump

/-- A node is read back from its document. -/
theorem Node.ofDocument_toDocument (n : Node) : Node.ofDocument n.toDocument = .ok n :=
  under_eq_ok_iff.2 n.elementOfDocument_elementDocument

/-- Types have no pairs in them. -/
theorem UserType.withoutPairs_toDocument (t : UserType) :
    t.toDocument.withoutPairs = t.toDocument := by
  obtain ⟨name, package⟩ := t
  cases package <;> rfl

theorem PropertyType.withoutPairs_toDocument (type : PropertyType) :
    type.toDocument.withoutPairs = type.toDocument := by
  cases type with
  | user t => exact t.withoutPairs_toDocument
  | nullable t =>
      show (NullableType.toDocument t).withoutPairs = t.toDocument
      unfold NullableType.toDocument
      rw [withoutPairs_record]
      simp only [List.map_cons, List.map_nil, t.inner.withoutPairs_toDocument]
      rfl

/-- The two written forms differ in the pairs. -/
theorem Node.withoutPairs_dump (n : Node) : n.dump.withoutPairs = n.toDocument := by
  have helement : n.elementDump.withoutPairs = n.elementDocument := by
    cases n with
    | classDecl c =>
        have hproperty (property : String × PropertyType) :
            (propertyPair property).withoutPairs =
              .list [.str property.1, property.2.toDocument] := by
          show Document.list [.str property.1, property.2.toDocument.withoutPairs] = _
          rw [property.2.withoutPairs_toDocument]
        show c.dump.withoutPairs = c.toDocument
        unfold ClassDecl.dump ClassDecl.toDocument
        rw [withoutPairs_record]
        simp only [List.map_cons, List.map_nil, withoutPairs_list, List.map_map,
          Function.comp_def, hproperty]
        rfl
    | nullableType t => exact PropertyType.withoutPairs_toDocument (.nullable t)
    | userType t => exact t.withoutPairs_toDocument
  unfold Node.dump Node.toDocument
  rw [withoutPairs_record]
  show Document.record [("node", n.elementDump.withoutPairs)] = _
  rw [helement]

/-! ## Boxes -/

/-- A value that is an element: a class, a nullable type or a user type. -/
def Value.IsElement : Value → Prop
  | .classDecl _ | .nullableType _ | .userType _ => True
  | .node _ | .document _ => False

/-- Exactly the elements are boxed, each in a node of its own. -/
theorem Value.box_eq_ok_iff {v : Value} {n : Node} : v.box = .ok n ↔ v = n.element := by
  cases v <;> cases n <;> simp [Value.box, Node.element]

/-- **Nodes are restored.** Every element can be boxed; its node is read back from what is written
for it, with pairs or with lists in their place, and so is every node that any document is read as,
so that reading what was written for it changes nothing. -/
theorem Value.restored_of_isElement {v : Value} (h : v.IsElement) :
    (∃ n, v.box = .ok n ∧ n.element = v ∧ Node.ofDocument n.dump = .ok n ∧
      Node.ofDocument n.dump.withoutPairs = .ok n) ∧
    ∀ d, ((Node.ofDocument d).bind fun n => Node.ofDocument n.dump) = Node.ofDocument d ∧
      ((Node.ofDocument d).bind fun n => Node.ofDocument n.dump.withoutPairs) =
        Node.ofDocument d := by
  have hlists (n : Node) : Node.ofDocument n.dump.withoutPairs = .ok n := by
    rw [n.withoutPairs_dump]
    exact n.ofDocument_toDocument
  constructor
  · obtain ⟨n, rfl⟩ : ∃ n : Node, v = n.element := by
      cases v with
      | classDecl c => exact ⟨.classDecl c, rfl⟩
      | nullableType t => exact ⟨.nullableType t, rfl⟩
      | userType t => exact ⟨.userType t, rfl⟩
      | node n => exact h.elim
      | document d => exact h.elim
    exact ⟨n, Value.box_eq_ok_iff.2 rfl, rfl, n.ofDocument_dump, hlists n⟩
  · intro d
    cases Node.ofDocument d with
    | error faults => exact ⟨rfl, rfl⟩
    | ok n => exact ⟨n.ofDocument_dump, hlists n⟩

/-- A class with a property of either kind. -/
def author : ClassDecl :=
  ⟨"Author", true, [("id", .user ⟨"Long", some "kotlin"⟩), ("bio", .nullable ⟨⟨"String", none⟩⟩)]⟩

/-- It is boxed and restored. -/
theorem restored_author :
    (Value.classDecl author).IsElement ∧
      (Value.classDecl author).box = .ok (.classDecl author) ∧
      Node.ofDocument (Node.classDecl author).dump = .ok (.classDecl author) := by
  have helement : (Value.classDecl author).IsElement := trivial
  obtain ⟨⟨n, hbox, -, hdump, -⟩, -⟩ := Value.restored_of_isElement helement
  obtain rfl : Node.classDecl author = n := Except.ok.inj hbox
  exact ⟨helement, hbox, hdump⟩

end Kotlin

end ColumnTypes
