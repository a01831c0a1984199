import PlaybookAssist.Yaml.Tag

/-!
# The nodes of a document

A document consists of scalars, sequences and mappings, each with its tag. An alias is the very node
that its anchor names, so the nodes form a graph: they are numbered in the order in which they begin,
and a collection lists the numbers of its parts. A collection that an alias inside it names is a part
of itself.

## Main definitions

- `Node` : a tag and a content
- `Graph` : the nodes by number, and the order in which they end
- `Graph.begin`, `Graph.finish` : the graph in which one more node begins, or one ends
-/

namespace PlaybookAssist.Yaml

/-- What a node consists of; its parts are given by their numbers. -/
inductive Content where
  | scalar (text : Text)
  | sequence (items : List Nat)
  | mapping (pairs : List (Nat × Nat))
  deriving DecidableEq, Repr, Inhabited

/-- A node of a document. -/
structure Node where
  tag : Tag
  content : Content
  deriving DecidableEq, Repr, Inhabited

/-- The node that stands where nothing is written. -/
def Node.empty : Node := ⟨.null, .scalar []⟩

/-- The nodes of a document. -/
structure Graph where
  nodes : Array Node
  /-- The numbers of the nodes that have ended, the latest first. Every part of a node ends before the
      node does, unless it is the node itself or one around it. -/
  ended : List Nat
  deriving DecidableEq, Repr, Inhabited

namespace Graph

/-- The graph without nodes. -/
def empty : Graph := ⟨#[], []⟩

/-- The number of nodes. -/
def size (g : Graph) : Nat :=
  g.nodes.size

/-- The node of a number. -/
def node (g : Graph) (n : Nat) : Node :=
  g.nodes.getD n .empty

/-- The tag of a node. -/
def tag (g : Graph) (n : Nat) : Tag :=
  (g.node n).tag

/-- The pairs of a mapping. -/
def pairs (g : Graph) (n : Nat) : List (Nat × Nat) :=
  match (g.node n).content with
  | .mapping ps => ps
  | _ => []

/-- The graph in which one more node begins, and its number. -/
def begin (g : Graph) (node : Node) : Nat × Graph :=
  (g.size, { g with nodes := g.nodes.push node })

/-- The graph in which a node ends with the given content. -/
def finish (g : Graph) (n : Nat) (content : Content) : Graph :=
  { nodes := g.nodes.modify n fun node => { node with content }, ended := n :: g.ended }

/-- The graph with a node that has no parts, and its number. -/
def leaf (g : Graph) (node : Node) : Nat × Graph :=
  let (n, g) := g.begin node
  (n, g.finish n node.content)

/-- The graph in which a mapping has the given pairs. -/
def setPairs (g : Graph) (n : Nat) (ps : List (Nat × Nat)) : Graph :=
  { g with nodes := g.nodes.modify n fun node => { node with content := .mapping ps } }

/-- The graph in which a node has the given tag. -/
def setTag (g : Graph) (n : Nat) (tag : Tag) : Graph :=
  { g with nodes := g.nodes.modify n fun node => { node with tag } }

end Graph

end PlaybookAssist.Yaml
