import ColumnTypes.Yaml.Tag
import ColumnTypes.Yaml.Token

/-!
# Nodes of a YAML document

A `Node` is a scalar, a sequence or a mapping with its tag.  The nodes of a document are numbered,
and collections hold the numbers of what is in them, so that several places can lead to one node and
a node can lead back to itself.  `Graph.ofTokens` reads the one document of a token list.

The readers recurse on a budget.  Every round takes a token or ends a level of nesting, so twice
the number of tokens is enough.
-/

namespace ColumnTypes.Yaml

/-- What is in a node. -/
inductive Body where
  | scalar (text : String)
  | seq (items : List Nat)
  | map (entries : List (Nat × Nat))
  deriving DecidableEq, Repr

/-- A node of a document, and where it starts in the text. -/
structure Node where
  tag : Tag
  body : Body
  start : Mark
  deriving DecidableEq, Repr

/-- The node of a value left out. -/
def Node.absent (start : Mark) : Node := ⟨.null, .scalar "", start⟩

/-- The kind of a body in messages. -/
def Body.kind : Body → String
  | scalar _ => "scalar"
  | seq _ => "sequence"
  | map _ => "mapping"

/-- The nodes of a document by their numbers. -/
structure Graph where
  nodes : Array Node
  /-- The number of the outermost node. -/
  root : Nat

/-- The state of reading: the tokens left, the nodes read, their anchors, and the tag handles. -/
structure Parse where
  tokens : List (Except Error Token)
  nodes : Array Node
  anchors : List (String × Nat)
  handles : List (String × String)

namespace Parse

/-- A reader. -/
abbrev Reader := StateT Parse (Except Error)

/-- Fails at a place. -/
def fail {α : Type} (activity : Option Activity) (start : Option Mark) (problem : Problem)
    (place : Mark) : Reader α :=
  throw (.malformed ⟨activity, start, problem, place⟩)

/-- The next token.  An error of the scan is met here. -/
def peek : Reader Token := do
  match (← get).tokens with
  | .error e :: _ => throw e
  | .ok t :: _ => return t
  | [] => return ⟨.textEnd, ⟨0, 0, 0⟩, ⟨0, 0, 0⟩⟩

/-- Takes the next token. -/
def next : Reader Token := do
  let t ← peek
  modify fun s => { s with tokens := s.tokens.tail }
  return t

/-- Takes a token with a given symbol if it comes next. -/
def accept? (symbol : Symbol) : Reader (Option Token) := do
  if (← peek).symbol = symbol then return some (← next) else return none

/-- Whether one of some symbols comes next. -/
def comes (symbols : List Symbol) : Reader Bool := do
  return symbols.contains (← peek).symbol

/-- Fails because of the token that comes next. -/
def failAtNext {α : Type} (activity : Activity) (start : Mark) (problem : String → Problem) :
    Reader α := do
  let t ← peek
  fail (some activity) (some start) (problem t.symbol.name) t.start

/-! ## Numbers of nodes -/

/-- Gives a node its number. -/
def add (node : Node) : Reader Nat := do
  let number := (← get).nodes.size
  modify fun s => { s with nodes := s.nodes.push node }
  return number

/-- The number of a value left out. -/
def absent (start : Mark) : Reader Nat :=
  add (.absent start)

/-- Puts content into a collection. -/
def fill (number : Nat) (body : Body) : Reader Nat := do
  modify fun s => { s with nodes := s.nodes.modify number fun node => { node with body } }
  return number

/-- Takes a new node under its anchor, which no other node may have. -/
def addAnchored (anchor : Option String) (node : Node) : Reader Nat := do
  match anchor with
  | none => add node
  | some name =>
    let s ← get
    match (s.anchors.lookup name).bind fun number => s.nodes[number]? with
    | some first => fail (some (.anchored name)) (some first.start) .secondAnchor node.start
    | none =>
      let number ← add node
      modify fun s => { s with anchors := (name, number) :: s.anchors }
      return number

/-- The node that an alias stands for. -/
def aliased (name : String) (place : Mark) : Reader Nat := do
  match (← get).anchors.lookup name with
  | some number => return number
  | none => fail none none (.unknownAlias name) place

/-! ## Properties -/

/-- The anchor and the tag before a node, and where they start. -/
structure Properties where
  anchor : Option String
  tag : Option String
  start : Option Mark

/-- The full name of a tag in a token; the node starts at `start`. -/
def tagName (start : Mark) (t : Token) : Reader (Option String) := do
  match t.symbol with
  | .tag none suffix => return some suffix
  | .tag (some handle) suffix =>
    match (← get).handles.lookup handle with
    | some text => return some (text ++ suffix)
    | none => fail (some .node) (some start) (.unknownHandle handle) t.start
  | _ => return none

/-- Anchor and tag before a node, in either order. -/
def properties : Reader Properties := do
  let t ← peek
  match t.symbol with
  | .anchor name =>
    discard next
    let u ← peek
    match u.symbol with
    | .tag _ _ => discard next; return ⟨some name, ← tagName t.start u, some t.start⟩
    | _ => return ⟨some name, none, some t.start⟩
  | .tag _ _ =>
    discard next
    match (← peek).symbol with
    | .anchor name => discard next; return ⟨some name, ← tagName t.start t, some t.start⟩
    | _ => return ⟨none, ← tagName t.start t, some t.start⟩
  | _ => return ⟨none, none, none⟩

/-- The tag of a collection: the given one, or its kind. -/
def collectionTag (tag : Option String) (kind : Tag) : Tag :=
  match tag with
  | none => kind
  | some "!" => kind
  | some uri => .ofUri uri

/-- The tag of a scalar: the given one, or what its text looks like if it is plain. -/
def scalarTag (tag : Option String) (content : String) (plain : Bool) : Tag :=
  match tag with
  | none => if plain then .ofPlain content else .str
  | some "!" => .ofPlain content
  | some uri => .ofUri uri

/-! ## Nodes -/

/-- Nothing after an anchor or a tag is an empty scalar; nothing at all is a fault. -/
def emptyNode (inBlock : Bool) (p : Properties) (start : Mark) : Reader Nat := do
  if p.anchor.isNone ∧ p.tag.isNone then
    failAtNext (if inBlock then .blockNode else .flowNode) start .noContent
  else addAnchored p.anchor ⟨scalarTag p.tag "" (p.tag == none), .scalar "", start⟩

/-- What a reader reads after a token, left out where one of some symbols comes next. -/
def readUnless (ends : List Symbol) (before : Token) (read : Reader Nat) : Reader Nat := do
  if ← comes ends then absent before.stop else read

/-- What a reader reads after a colon; without one it is left out. -/
def readValue (ends : List Symbol) (read : Reader Nat) : Reader Nat := do
  match ← accept? .value with
  | some colon => readUnless ends colon read
  | none => absent (← peek).start

mutual

/-- A node.  In a block a collection may be written by indentation; after a key the items of a
sequence need not be indented. -/
def node (inBlock unindented : Bool) : Nat → Reader Nat
  | 0 => absent ⟨0, 0, 0⟩
  | fuel + 1 => do
    let t ← peek
    match t.symbol with
    | .reference name => discard next; aliased name t.start
    | _ =>
      let p ← properties
      let t ← peek
      let start := p.start.getD t.start
      let sequence : Reader Nat :=
        addAnchored p.anchor ⟨collectionTag p.tag .seq, .seq [], start⟩
      let mapping : Reader Nat :=
        addAnchored p.anchor ⟨collectionTag p.tag .map, .map [], start⟩
      match t.symbol with
      | .scalar content plain =>
        discard next
        addAnchored p.anchor ⟨scalarTag p.tag content plain, .scalar content, start⟩
      | .flowSequenceStart =>
        let number ← sequence
        discard next
        fill number (.seq (← flowItems t.start true fuel))
      | .flowMappingStart =>
        let number ← mapping
        discard next
        fill number (.map (← flowEntries t.start true fuel))
      | symbol =>
        if unindented ∧ symbol = .blockEntry then
          let number ← sequence
          fill number (.seq (← unindentedItems fuel))
        else if inBlock ∧ symbol = .blockSequenceStart then
          let number ← sequence
          discard next
          fill number (.seq (← blockItems t.start fuel))
        else if inBlock ∧ symbol = .blockMappingStart then
          let number ← mapping
          discard next
          fill number (.map (← blockEntries t.start fuel))
        else emptyNode inBlock p start

/-- The items of an indented sequence that starts at a mark. -/
def blockItems (start : Mark) : Nat → Reader (List Nat)
  | 0 => return []
  | fuel + 1 => do
    match ← accept? .blockEntry with
    | some hyphen =>
      let item ← readUnless [.blockEntry, .blockEnd] hyphen (node true false fuel)
      return item :: (← blockItems start fuel)
    | none =>
      if (← accept? .blockEnd).isSome then return []
      else failAtNext .blockCollection start .noBlockEnd

/-- The items of a sequence at the indentation of the key before it. -/
def unindentedItems : Nat → Reader (List Nat)
  | 0 => return []
  | fuel + 1 => do
    match ← accept? .blockEntry with
    | some hyphen =>
      let item ← readUnless [.blockEntry, .key, .value, .blockEnd] hyphen (node true false fuel)
      return item :: (← unindentedItems fuel)
    | none => return []

/-- The entries of an indented mapping that starts at a mark. -/
def blockEntries (start : Mark) : Nat → Reader (List (Nat × Nat))
  | 0 => return []
  | fuel + 1 => do
    let ends := [.key, .value, .blockEnd]
    match ← accept? .key with
    | some mark =>
      let k ← readUnless ends mark (node true true fuel)
      let v ← readValue ends (node true true fuel)
      return (k, v) :: (← blockEntries start fuel)
    | none =>
      if (← accept? .blockEnd).isSome then return []
      else failAtNext .blockMapping start .noBlockEnd

/-- The items of a sequence in brackets that starts at a mark.  An item may be a single entry of a
mapping. -/
def flowItems (start : Mark) (first : Bool) : Nat → Reader (List Nat)
  | 0 => return []
  | fuel + 1 => do
    if (← accept? .flowSequenceEnd).isSome then return []
    if !first then
      if (← accept? .flowEntry).isNone then failAtNext .flowSequence start (.noFlowEnd ']')
    match ← accept? .key with
    | some mark =>
      let number ← add ⟨.map, .map [], mark.start⟩
      let k ← readUnless [.value, .flowEntry, .flowSequenceEnd] mark (node false false fuel)
      let v ← readValue [.flowEntry, .flowSequenceEnd] (node false false fuel)
      let number ← fill number (.map [(k, v)])
      return number :: (← flowItems start false fuel)
    | none =>
      if (← accept? .flowSequenceEnd).isSome then return []
      else
        let item ← node false false fuel
        return item :: (← flowItems start false fuel)

/-- The entries of a mapping in braces that starts at a mark. -/
def flowEntries (start : Mark) (first : Bool) : Nat → Reader (List (Nat × Nat))
  | 0 => return []
  | fuel + 1 => do
    if (← accept? .flowMappingEnd).isSome then return []
    if !first then
      if (← accept? .flowEntry).isNone then failAtNext .flowMapping start (.noFlowEnd '\x7d')
    match ← accept? .key with
    | some mark =>
      let k ← readUnless [.value, .flowEntry, .flowMappingEnd] mark (node false false fuel)
      let v ← readValue [.flowEntry, .flowMappingEnd] (node false false fuel)
      return (k, v) :: (← flowEntries start false fuel)
    | none =>
      if (← accept? .flowMappingEnd).isSome then return []
      else
        let k ← node false false fuel
        let v ← absent (← peek).start
        return (k, v) :: (← flowEntries start false fuel)

end

/-! ## Documents -/

/-- The handles that need no directive. -/
def defaultHandles : List (String × String) :=
  [("!", "!"), ("!!", Tag.commonStart)]

/-- The directives before a document. -/
def directives : Nat → Bool → List (String × String) → Reader (List (String × String))
  | 0, _, handles => return handles
  | fuel + 1, versioned, handles => do
    let t ← peek
    match t.symbol with
    | .version major _ =>
      discard next
      if versioned then fail none none .secondVersion t.start
      if major ≠ 1 then fail none none .wrongVersion t.start
      directives fuel true handles
    | .handle handle text =>
      discard next
      if (handles.lookup handle).isSome then fail none none (.secondHandle handle) t.start
      directives fuel versioned ((handle, text) :: handles)
    | .otherDirective => discard next; directives fuel versioned handles
    | _ => return handles

/-- Passes over the marks that end documents. -/
def skipDocumentEnds : Nat → Reader Unit
  | 0 => return
  | fuel + 1 => do
    if (← accept? .documentEnd).isSome then skipDocumentEnds fuel

/-- Whether a directive comes next. -/
def directiveComes : Reader Bool := do
  match (← peek).symbol with
  | .version _ _ | .handle _ _ | .otherDirective => return true
  | _ => return false

/-- Directives and the start mark of a document, which takes the handles into use. -/
def documentStart (fuel : Nat) : Reader Unit := do
  let handles ← directives fuel false []
  modify fun s => { s with handles := handles ++ defaultHandles }
  if (← accept? .documentStart).isNone then
    let t ← peek
    fail none none (.notDocumentStart t.symbol.name) t.start

/-- The node of a document after its start mark, if there is one. -/
def documentBody (fuel : Nat) : Reader Nat := do
  if (← directiveComes) ∨ (← comes [.documentStart, .documentEnd, .textEnd]) then
    absent (← peek).start
  else node true false fuel

/-- Makes sure that no document follows the one with a node of a given number. -/
def noFurtherDocument (fuel root : Nat) : Reader Unit := do
  skipDocumentEnds fuel
  let t ← peek
  if t.symbol ≠ .textEnd then
    documentStart fuel
    let start := (← get).nodes[root]?.map Node.start
    fail (some .document) start .secondDocument t.start

/-- The number of the outermost node of the only document; `none` if there is no document. -/
def document (fuel : Nat) : Reader (Option Nat) := do
  if ← comes [.textEnd] then return none
  let root ←
    if (← comes [.documentStart]) ∨ (← directiveComes) then
      documentStart fuel
      documentBody fuel
    else
      modify fun s => { s with handles := defaultHandles }
      node true false fuel
  noFurtherDocument fuel root
  return some root

end Parse

/-- The nodes of the only document of a token list; `none` if there is no document. -/
def Graph.ofTokens (tokens : List (Except Error Token)) : Except Error (Option Graph) :=
  match (Parse.document (2 * tokens.length + 2)).run ⟨tokens, #[], [], []⟩ with
  | .ok (root, s) => .ok (root.map fun root => ⟨s.nodes, root⟩)
  | .error e => .error e

end ColumnTypes.Yaml
