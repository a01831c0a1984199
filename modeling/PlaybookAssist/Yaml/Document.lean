import PlaybookAssist.Yaml.Graph.Merge
import PlaybookAssist.Yaml.Graph.Reader
import PlaybookAssist.Yaml.Layer

/-!
# The value of a document

Scalars become values by their tags, sequences lists, mappings mappings. A document is worked off in
rounds: a scalar gets its value where it is first met, the content of a collection one round later.
So of several faults the one of the earliest round counts, and within a round the leftmost; and what
merging changes in a node counts for the nodes that are met afterwards. A key has to be known when
its mapping is built, so it is never a collection.

## Main definitions

- `Graph.scalarText` : the text of a node read as a scalar
- `Builder` : what is known between two steps
- `Graph.value` : the value of a document
- `Yaml.load`, `Yaml.loadFrom` : the value of a text
-/

namespace PlaybookAssist.Yaml

/-! ## Scalars -/

namespace Graph

/-- The text of a node read as a scalar: a mapping stands for the value under its key `=`. A chain
    of such mappings longer than `fuel` comes back to itself. -/
def scalarTextIn (g : Graph) : Nat → Nat → Except Fault Text
  | 0, _ => .error .endless
  | fuel + 1, n =>
    match (g.node n).content with
    | .scalar t => .ok t
    | .sequence _ => .error .malformed
    | .mapping ps =>
      match ps.find? fun p => g.tag p.1 == .value with
      | some p => g.scalarTextIn fuel p.2
      | none => .error .malformed

/-- The text of a node read as a scalar. -/
def scalarText (g : Graph) (n : Nat) : Except Fault Text :=
  g.scalarTextIn (g.size + 1) n

/-- The value of a node read as a scalar. A numeral that gives no number is the same only as its own
    node. -/
def scalarValue (g : Graph) (n : Nat) : Except Fault Value := do
  let t ← g.scalarText n
  match (g.node n).content, g.tag n with
  | .mapping _, .timestamp => throw .timestampFromMapping
  | _, tag => tag.scalarValue (Tag.commonMark + 1 + n) t

end Graph

/-! ## Rounds -/

/-- What is known while a document is worked off. -/
structure Builder where
  graph : Graph
  /-- The layers of the nodes that have been met; of a collection it is filled a round later. -/
  met : Array (Option Layer)
  /-- The collections that have been met in this round, the latest first. -/
  waiting : List Nat

namespace Builder

/-- The builder before the first node. -/
def start (g : Graph) : Builder :=
  ⟨g, Array.replicate g.size none, []⟩

/-- The builder in which a node has a layer. -/
def setLayer (b : Builder) (n : Nat) (l : Layer) : Builder :=
  { b with met := b.met.set! n (some l) }

/-- The builder after meeting a node. -/
def meet (b : Builder) (n : Nat) : Except Fault Builder :=
  match b.met.getD n none with
  | some _ => .ok b
  | none =>
    match b.graph.tag n with
    | .seq | .map | .set | .omap | .pairs =>
      .ok { b.setLayer n (.list []) with waiting := n :: b.waiting }
    | _ => do pure (b.setLayer n (.scalar (← b.graph.scalarValue n)))

/-- The builder after meeting some nodes. -/
def meetAll (b : Builder) (ns : List Nat) : Except Fault Builder :=
  ns.foldlM meet b

/-- The key that a node stands for, and the builder after meeting it. -/
def meetKey (b : Builder) (n : Nat) : Except Fault (Value × Builder) := do
  let b ← b.meet n
  match b.met.getD n none with
  | some (.scalar v) => pure (v, b)
  | _ => throw .malformed

/-- The keys of some pairs with their nodes, after those in `acc` (the latest first), and the builder
    after meeting keys and values. -/
def meetPairs (acc : List (Value × Nat)) (b : Builder) :
    List (Nat × Nat) → Except Fault (List (Value × Nat) × Builder)
  | [] => .ok (Mapping.ofPairs acc.reverse, b)
  | (k, v) :: ps => do
    let (key, b) ← b.meetKey k
    let b ← b.meet v
    b.meetPairs ((key, v) :: acc) ps

/-- The pairs of a mapping with the pairs that are merged into it, and the builder after meeting
    them. -/
def mappingOf (b : Builder) (n : Nat) : Except Fault (List (Value × Nat) × Builder) := do
  let graph ← b.graph.merge n
  meetPairs [] { b with graph } (graph.pairs n)

/-- The only pairs of some mappings, after those in `acc` (the latest first), and the builder after
    meeting them. -/
def meetOnlyPairs (acc : List (Nat × Nat)) (b : Builder) :
    List Nat → Except Fault (List (Nat × Nat) × Builder)
  | [] => .ok (acc.reverse, b)
  | n :: ns => do
    match (b.graph.node n).content with
    | .mapping [(k, v)] => (← b.meetAll [k, v]).meetOnlyPairs ((k, v) :: acc) ns
    | _ => throw .malformed

/-- The builder after filling a collection. -/
def fill (b : Builder) (n : Nat) : Except Fault Builder :=
  match b.graph.tag n with
  | .map => do
    let (pairs, b) ← b.mappingOf n
    pure (b.setLayer n (.map pairs))
  | .set => do
    let (pairs, b) ← b.mappingOf n
    pure (b.setLayer n (.set (pairs.map (·.1))))
  | tag =>
    match (b.graph.node n).content with
    | .sequence items =>
      if tag = .seq then do pure ((← b.meetAll items).setLayer n (.list items))
      else do
        let (pairs, b) ← b.meetOnlyPairs [] items
        pure (b.setLayer n (.tuples pairs))
    | _ => .error .malformed

/-- The builder after at most `fuel` rounds, of which the next one fills the collections that
    wait. -/
def rounds : Nat → Builder → Except Fault Builder
  | 0, b => .ok b
  | fuel + 1, b =>
    match b.waiting with
    | [] => .ok b
    | waiting => do rounds fuel (← waiting.reverse.foldlM fill { b with waiting := [] })

end Builder

/-- The value of a document with the given root. No node waits twice, so there are no more rounds
    than nodes. -/
def Graph.value (g : Graph) (root : Nat) : Except Fault Value := do
  let b ← ((Builder.start g).meet root)
  let b ← b.rounds g.size
  let layers : Layers := ⟨b.met.map fun l => l.getD (.scalar .null), g.ended.reverse⟩
  pure (layers.unfold root)

/-- The value of a source; one without a document is null. -/
def loadFrom (s : Source) : Except Fault Value := do
  match ← Graph.ofTokens? (Token.ofSource s) with
  | none => pure .null
  | some (root, g) => g.value root

/-- The value of a text. -/
def load (t : Text) : Except Fault Value :=
  loadFrom (.ofText t)

end PlaybookAssist.Yaml
