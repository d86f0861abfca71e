import ColumnTypes.Document.Members
import ColumnTypes.Yaml.Assembly

/-!
# Reading YAML

`Yaml.read` is the document that a YAML text holds.  The text is first read as a graph of nodes,
then every node is given its value, and last the graph is unfolded into a document: a collection
that leads back to itself becomes a loop.
-/

namespace ColumnTypes.Yaml

/-- What is known while a graph is unfolded: the documents of nodes that do not lead back to
themselves.  They are the same wherever such a node stands. -/
abbrev Unfolding := StateM (Array (Option Document))

/-- A document, and the numbers of the loops that it leads back to. -/
abbrev Part := Document × List Nat

/-- A collection and the loops it leads back to; it is a loop itself if anything in it leads back to
it or beyond. -/
def closed (number : Nat) (body : Document) (inner : List Nat) : Part :=
  if inner.isEmpty then (body, []) else (.loop number body, inner.filter (· != number))

/-- Whether a part can stand in every place that leads to its node. -/
def isFixed : Part → Bool
  | (.loop _ _, _) => false
  | (_, inner) => inner.isEmpty

/-- The document of a node inside others.  A collection goes on only into nodes that are not around
it, so a budget that covers the nodes is enough. -/
def unfold (s : Assembly) : Nat → List Nat → Nat → Unfolding Part
  | 0, _, _ => return (.null, [])
  | fuel + 1, around, number => do
    if around.contains number then return (.again number, [number])
    match (← get).getD number none with
    | some d => return (d, [])
    | none =>
      let inside (n : Nat) : Unfolding Part := unfold s fuel (number :: around) n
      let both (entry : Nat × Nat) : Unfolding (Part × Part) := do
        return (← inside entry.1, ← inside entry.2)
      let part ←
        match s.made.getD number none with
        | none => pure (.null, [])
        | some (.scalar d _) => pure (d, [])
        | some (.list items) => do
          let parts ← items.mapM inside
          pure (closed number (.list (parts.map Prod.fst)) (parts.flatMap Prod.snd))
        | some (.set keys) => do
          let parts ← keys.mapM inside
          pure (closed number (.ofMembers (parts.map Prod.fst)) (parts.flatMap Prod.snd))
        | some (.map entries) => do
          let parts ← entries.mapM both
          pure (closed number (.map (parts.map fun (k, v) => (k.1, v.1)))
            (parts.flatMap fun (k, v) => k.2 ++ v.2))
        | some (.pairs entries) => do
          let parts ← entries.mapM both
          let pairs := parts.zipIdx.map fun ((k, v), i) =>
            closed (number + s.nodes.size * (i + 1)) (.pair k.1 v.1) (k.2 ++ v.2)
          pure (closed number (.list (pairs.map Prod.fst)) (pairs.flatMap Prod.snd))
      if isFixed part then modify fun known => known.setIfInBounds number (some part.1)
      return part

/-- The document of a graph's outermost node. -/
def Assembly.document (s : Assembly) (root : Nat) : Document :=
  ((unfold s (s.nodes.size + 1) [] root).run (Array.replicate s.nodes.size none)).1.1

/-- The document that a YAML text holds; a text without a document holds nothing. -/
def read (text : List Char) : Except Error Document := do
  match ← Graph.ofTokens (Token.ofText text) with
  | none => return .null
  | some g => return (← Assembly.run g).document g.root

end ColumnTypes.Yaml
