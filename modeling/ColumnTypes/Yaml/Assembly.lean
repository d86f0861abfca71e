import ColumnTypes.Yaml.Node
import ColumnTypes.Yaml.Value

/-!
# Assembling values from nodes

Every node of a graph is given its value by its tag.  Scalars get theirs at once.  A collection is
begun empty and put off; `Assembly.run` fills what has been put off round by round, so several
places can share one collection and a collection can come to hold itself.

* **Mappings** keep the place of a key that comes again and take its last value.  A key tagged as a
  merge stands for the entries of other mappings, which come before the mapping's own entries and so
  give way to them (`Assembly.flatten`).
* **Errors** come in the order of this work: of several the one that is met first counts.
-/

namespace ColumnTypes.Yaml

/-- The value of a node; collections hold the numbers of the nodes in them. -/
inductive Made where
  /-- A value without parts; `shared` marks the only number that equals itself though it is none. -/
  | scalar (value : Document) (shared : Bool)
  | list (items : List Nat)
  | pairs (entries : List (Nat × Nat))
  | set (keys : List Nat)
  | map (entries : List (Nat × Nat))
  deriving Inhabited

/-- The state of the work. -/
structure Assembly where
  nodes : Array Node
  made : Array (Option Made)
  /-- The collections that have been put off, the last one first. -/
  waiting : List Nat
  /-- The number of merge entries at the start. -/
  merges : Nat

namespace Assembly

/-- The number of merge entries in a mapping. -/
def mergeCount (nodes : Array Node) (node : Node) : Nat :=
  match node.body with
  | .map entries => (entries.filter fun (k, _) => nodes[k]?.map Node.tag == some .merge).length
  | _ => 0

/-- The state before anything is made. -/
def start (g : Graph) : Assembly :=
  { nodes := g.nodes
    made := Array.replicate g.nodes.size none
    waiting := []
    merges := g.nodes.foldl (fun n node => n + mergeCount g.nodes node) 0 }

/-- A step of the work. -/
abbrev Work := StateT Assembly (Except Error)

/-- The node of a number. -/
def nodeAt (s : Assembly) (number : Nat) : Node :=
  s.nodes.getD number (.absent ⟨0, 0, 0⟩)

/-- The entries of a mapping. -/
def entriesAt (s : Assembly) (number : Nat) : List (Nat × Nat) :=
  match (s.nodeAt number).body with
  | .map entries => entries
  | _ => []

/-- Whether a node has a tag. -/
def isTagged (s : Assembly) (tag : Tag) (number : Nat) : Bool :=
  (s.nodeAt number).tag == tag

/-- Changes the node of a number. -/
def change (number : Nat) (f : Node → Node) : Work Unit :=
  modify fun s => { s with nodes := s.nodes.modify number f }

/-- Fails at a node. -/
def failAt {α : Type} (problem : Problem) (node : Node) : Work α :=
  throw (.malformed ⟨none, none, problem, node.start⟩)

/-- Fails at a part of a collection. -/
def failIn {α : Type} (activity : Activity) (whole : Node) (problem : Problem) (part : Node) :
    Work α :=
  throw (.malformed ⟨some activity, some whole.start, problem, part.start⟩)

/-! ## Scalars -/

/-- The text of a scalar; a mapping has that of its value entry.  The budget covers the nodes, so a
chain of value entries that uses it up leads in a circle. -/
def textOf (s : Assembly) : Nat → Nat → Except Error String
  | 0, _ => .error (.scalar .endlessText)
  | fuel + 1, number =>
    let node := s.nodeAt number
    let misplaced :=
      .error (.malformed ⟨none, none, .wrongNode "a scalar node" node.body.kind, node.start⟩)
    match node.body with
    | .scalar text => .ok text
    | .map entries =>
      match entries.find? fun (k, _) => s.isTagged .value k with
      | some (_, v) => s.textOf fuel v
      | none => misplaced
    | .seq _ => misplaced

/-- A value or why the text of its scalar does not have one. -/
def ofScalar {α : Type} (make : α → Document) : Except ScalarError α → Except Error Made
  | .ok a => .ok (.scalar (make a) false)
  | .error e => .error (.scalar e)

/-- The value of a text as a number with a fraction. -/
def floatValue (text : String) : Except Error Made :=
  match Value.float text.toList with
  | .ok (x, shared) => .ok (.scalar (.float x) shared)
  | .error e => .error (.scalar e)

/-- The value of a text as a timestamp, which must stand in the node itself. -/
def timestampValue (node : Node) (text : String) : Except Error Made :=
  match node.body with
  | .scalar _ => ofScalar id (Value.timestamp text.toList)
  | _ => .error (.scalar .timestampOfMapping)

/-- The value of a text as base64 data. -/
def binaryValue (node : Node) (text : String) : Except Error Made :=
  match Value.binary text with
  | .ok bytes => .ok (.scalar (.bytes bytes) false)
  | .error problem => .error (.malformed ⟨none, none, problem, node.start⟩)

/-- The value of a text under the tag of its node. -/
def scalarValue (node : Node) (text : String) : Except Error Made :=
  match node.tag with
  | .null => .ok (.scalar .null false)
  | .bool => ofScalar .bool (Value.bool text)
  | .int => ofScalar .int (Value.int text.toList)
  | .float => floatValue text
  | .timestamp => timestampValue node text
  | .binary => binaryValue node text
  | _ => .ok (.scalar (.str text) false)

/-! ## Nodes -/

/-- What a collection of a tag is before it is filled. -/
def begun? : Tag → Option Made
  | .seq => some (.list [])
  | .omap | .pairs => some (.pairs [])
  | .set => some (.set [])
  | .map => some (.map [])
  | _ => none

/-- Whether a tag has a meaning for a value. -/
def isKnown : Tag → Bool
  | .merge | .value | .other _ => false
  | _ => true

/-- Records what has been made of a node. -/
def record (number : Nat) (made : Made) : Work Unit :=
  modify fun s => { s with made := s.made.setIfInBounds number (some made) }

/-- Makes the value of a node, unless it has been made; collections are put off. -/
def make (number : Nat) : Work Unit := do
  let s ← get
  if (s.made.getD number none).isSome then return
  let node := s.nodeAt number
  match begun? node.tag with
  | some made =>
    record number made
    modify fun s => { s with waiting := number :: s.waiting }
  | none =>
    if isKnown node.tag then
      record number (← scalarValue node (← s.textOf (s.nodes.size + 1) number))
    else failAt (.unknownTag node.tag.uri) node

/-! ## Merging -/

/-- A key tagged as a value is a text from now on. -/
def settleKey (key : Nat) : Work Unit :=
  change key fun node => if node.tag = .value then { node with tag := .str } else node

/-- Replaces the merge entries of a mapping, from an index on, by the entries they stand for;
`merged` has those that have been found.  Each step takes away a merge entry, so a budget that
covers their number is enough. -/
def flattenFrom : Nat → Nat → Nat → List (Nat × Nat) → Work Unit
  | 0, _, _, _ => return
  | fuel + 1, number, index, merged => do
    let s ← get
    let entries := s.entriesAt number
    let own := (entries.drop index).takeWhile fun (k, _) => !s.isTagged .merge k
    own.forM fun (k, _) => settleKey k
    match entries[index + own.length]? with
    | none =>
      if !merged.isEmpty then
        change number fun node => { node with body := .map (merged ++ entries) }
    | some (_, v) =>
      let index := index + own.length
      change number fun node => { node with body := .map (entries.eraseIdx index) }
      let whole := s.nodeAt number
      let flattened (part : Nat) : Work (List (Nat × Nat)) := do
        flattenFrom fuel part 0 []
        return (← get).entriesAt part
      let refuse {α : Type} (what : String) (part : Node) : Work α :=
        failIn .mapping whole (.wrongNode (what ++ " for merging") part.body.kind) part
      let found ←
        match (s.nodeAt v).body with
        | .map _ => flattened v
        | .seq items => do
          let parts ← items.mapM fun item => do
            let part := (← get).nodeAt item
            match part.body with
            | .map _ => flattened item
            | _ => refuse "a mapping" part
          pure parts.reverse.flatten
        | .scalar _ => refuse "a mapping or list of mappings" (s.nodeAt v)
      flattenFrom fuel number index (merged ++ found)

/-- Replaces the merge entries of a mapping by the entries they stand for. -/
def flatten (number : Nat) : Work Unit := do
  flattenFrom ((← get).merges + 1) number 0 []

/-! ## Collections -/

/-- The value of a node without parts. -/
def scalarAt? (s : Assembly) (number : Nat) : Option (Document × Bool) :=
  match s.made.getD number none with
  | some (.scalar value shared) => some (value, shared)
  | _ => none

/-- Whether the values of two nodes are the same key.  A value that does not equal itself is the
same key only as itself. -/
def isSameKey (s : Assembly) (m n : Nat) : Bool :=
  m == n ||
    match s.scalarAt? m, s.scalarAt? n with
    | some (d, shared), some (e, alsoShared) => d.sameKey e || (shared && alsoShared)
    | _, _ => false

/-- Sets a key's value: in its place if the key is there, at the end otherwise. -/
def insertEntry (s : Assembly) (key value : Nat) : List (Nat × Nat) → List (Nat × Nat)
  | [] => [(key, value)]
  | (k, v) :: rest =>
    if s.isSameKey k key then (k, value) :: rest else (k, v) :: s.insertEntry key value rest

/-- Makes keys and values of a mapping and collects its entries. -/
def fillEntries (whole : Node) : List (Nat × Nat) → List (Nat × Nat) → Work (List (Nat × Nat))
  | done, [] => return done
  | done, (k, v) :: rest => do
    make k
    if ((← get).scalarAt? k).isNone then failIn .mapping whole .badKey ((← get).nodeAt k)
    make v
    fillEntries whole ((← get).insertEntry k v done) rest

/-- The entries of a mapping, with merges carried out. -/
def mapping (number : Nat) : Work (List (Nat × Nat)) := do
  let node := (← get).nodeAt number
  match node.body with
  | .map _ =>
    flatten number
    fillEntries node [] ((← get).entriesAt number)
  | _ => failAt (.wrongNode "a mapping node" node.body.kind) node

/-- The items of a sequence. -/
def sequence (number : Nat) : Work (List Nat) := do
  let node := (← get).nodeAt number
  match node.body with
  | .seq items =>
    items.forM make
    return items
  | _ => failAt (.wrongNode "a sequence node" node.body.kind) node

/-- The single entries of mappings in a sequence. -/
def singleEntries (activity : Activity) (number : Nat) : Work (List (Nat × Nat)) := do
  let whole := (← get).nodeAt number
  let refuse {α : Type} (problem : Problem) (part : Node) : Work α :=
    failIn activity whole problem part
  match whole.body with
  | .seq items =>
    items.mapM fun item => do
      let part := (← get).nodeAt item
      match part.body with
      | .map [(k, v)] =>
        make k
        make v
        return (k, v)
      | .map entries => refuse (.severalEntries entries.length) part
      | _ => refuse (.wrongNode "a mapping of length 1" part.body.kind) part
  | _ => refuse (.wrongNode "a sequence" whole.body.kind) whole

/-- Fills a collection that has been put off. -/
def fill (number : Nat) : Work Unit := do
  match ((← get).nodeAt number).tag with
  | .seq => record number (.list (← sequence number))
  | .omap => record number (.pairs (← singleEntries .orderedMapping number))
  | .pairs => record number (.pairs (← singleEntries .pairs number))
  | .set => record number (.set ((← mapping number).map Prod.fst))
  | _ => record number (.map (← mapping number))

/-- Fills what has been put off, round by round.  Each round takes a node that is never put off
again, so a budget that covers the nodes is enough. -/
def rounds : Nat → Work Unit
  | 0 => return
  | fuel + 1 => do
    let waiting := (← get).waiting.reverse
    if waiting.isEmpty then return
    modify fun s => { s with waiting := [] }
    waiting.forM fill
    rounds fuel

/-- Makes the values of all nodes that the outermost one leads to. -/
def run (g : Graph) : Except Error Assembly :=
  match (do make g.root; rounds (g.nodes.size + 1) : Work Unit).run (start g) with
  | .ok (_, s) => .ok s
  | .error e => .error e

end Assembly

end ColumnTypes.Yaml
