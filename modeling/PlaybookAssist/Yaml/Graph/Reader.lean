import PlaybookAssist.Yaml.Graph
import PlaybookAssist.Yaml.Token.Lexer

/-!
# From tokens to nodes

The tokens of a document spell its nodes from left to right. Names of anchors are known from the
start of their node on, so that a collection can hold an alias of itself.

## Main definitions

- `Reader` : what is known between two tokens
- `Reader.read` : the node that the next tokens spell
- `Graph.ofTokens?` : the only document of a stream, if it has one
-/

namespace PlaybookAssist.Yaml

/-- What is known while the tokens of a document are read. -/
structure Reader where
  tokens : List Token
  /-- The anchors so far, each with the number of its node. -/
  anchors : List (Text × Nat)
  /-- The short forms of tags. -/
  handles : List (Text × Text)
  graph : Graph

namespace Reader

/-! ## Tokens -/

/-- The next token. -/
def peek (r : Reader) : Token :=
  r.tokens.headD (.fault .malformed)

/-- The reader after the next token. -/
def drop (r : Reader) : Reader :=
  { r with tokens := r.tokens.drop 1 }

/-- Why the next token is out of place. -/
def unexpected (r : Reader) : Fault :=
  match r.peek with
  | .fault f => f
  | _ => .malformed

/-- Is the next token one of the given? -/
def isAt (r : Reader) (ts : List Token) : Bool :=
  ts.elem r.peek

/-- The fault at this place, if there is one. -/
def expectNoFault (r : Reader) : Except Fault Unit :=
  match r.peek with
  | .fault f => .error f
  | _ => .ok ()

/-! ## Nodes -/

/-- No anchor may be declared twice. -/
def expectNewAnchor (r : Reader) (name : Option Text) : Except Fault Unit :=
  match name.bind fun a => r.anchors.lookup a with
  | some _ => .error .malformed
  | none => .ok ()

/-- The number of a node that begins here, and the reader in which its anchor is known. -/
def begin (r : Reader) (anchor : Option Text) (node : Node) : Nat × Reader :=
  let (n, graph) := r.graph.begin node
  (n, { r with graph, anchors := (anchor.toList.map fun a => (a, n)) ++ r.anchors })

/-- The reader in which a node ends with the given content. -/
def finish (r : Reader) (n : Nat) (content : Content) : Reader :=
  { r with graph := r.graph.finish n content }

/-- The number of a node without parts at this place, and the reader after it. -/
def leaf (r : Reader) (anchor : Option Text) (node : Node) : Nat × Reader :=
  let (n, r) := r.begin anchor node
  (n, r.finish n node.content)

/-- The number of the node that stands where nothing is written, and the reader after it. -/
def nothing (r : Reader) : Nat × Reader :=
  r.leaf none .empty

/-- The anchor and tag in front of a node. -/
structure Properties where
  anchor : Option Text
  tag : Option Text

/-- The full name of a tag token. -/
def tagName (r : Reader) (handle : Option Text) (suffix : Text) : Except Fault Text :=
  match handle with
  | none => .ok suffix
  | some h =>
    match r.handles.lookup h with
    | some start => .ok (start ++ suffix)
    | none => .error .malformed

/-- The anchor and tag at this place, in either order. -/
def properties (r : Reader) : Except Fault (Properties × Reader) :=
  match r.peek with
  | .anchor a =>
    match r.drop.peek with
    | .tag h s => do pure (⟨some a, some (← tagName r h s)⟩, r.drop.drop)
    | _ => .ok (⟨some a, none⟩, r.drop)
  | .tag h s =>
    match r.drop.peek with
    | .anchor a => do pure (⟨some a, some (← tagName r h s)⟩, r.drop.drop)
    | .fault f => .error f
    | _ => do pure (⟨none, some (← tagName r h s)⟩, r.drop)
  | _ => .ok (⟨none, none⟩, r)

/-- The tag of a scalar; an exclamation mark alone asks for the tag of a plain scalar. -/
def scalarTag (name : Option Text) (plain : Bool) (t : Text) : Tag :=
  match name with
  | none => if plain then .ofPlain t else .str
  | some n => if n = ['!'] then .ofPlain t else .ofName n

/-- The tag of a collection. -/
def collectionTag (name : Option Text) (usual : Tag) : Tag :=
  match name with
  | none => usual
  | some n => if n = ['!'] then usual else .ofName n

/-- Where a node stands. -/
inductive Place where
  /-- Inside a flow collection. -/
  | flow
  /-- An entry of a block sequence, or the root. -/
  | block
  /-- In a block mapping, where a sequence needs no further indentation. -/
  | blockMapping
  deriving DecidableEq, Repr

mutual

/-- The node at this place. -/
def read : Nat → Place → Reader → Except Fault (Nat × Reader)
  | 0, _, _ => .error .malformed
  | fuel + 1, place, r =>
    match r.peek with
    | .alias name =>
      match r.anchors.lookup name with
      | some n => .ok (n, r.drop)
      | none => .error .malformed
    | _ => do
      let (p, r) ← properties r
      r.expectNoFault
      r.expectNewAnchor p.anchor
      readContent fuel place p r

/-- The node after its anchor and tag. -/
def readContent : Nat → Place → Properties → Reader → Except Fault (Nat × Reader)
  | 0, _, _, _ => .error .malformed
  | fuel + 1, place, p, r =>
    let sequence (readItems : Reader → Except Fault (List Nat × Reader)) := do
      let (n, r) := r.begin p.anchor ⟨collectionTag p.tag .seq, .sequence []⟩
      let (items, r) ← readItems r
      pure (n, r.finish n (.sequence items))
    let mapping (readPairs : Reader → Except Fault (List (Nat × Nat) × Reader)) := do
      let (n, r) := r.begin p.anchor ⟨collectionTag p.tag .map, .mapping []⟩
      let (pairs, r) ← readPairs r
      pure (n, r.finish n (.mapping pairs))
    match r.peek with
    | .scalar t plain => .ok (r.drop.leaf p.anchor ⟨scalarTag p.tag plain t, .scalar t⟩)
    | .flowSequenceStart => sequence fun r => readFlowSequence fuel true [] r.drop
    | .flowMappingStart => mapping fun r => readFlowMapping fuel true [] r.drop
    | t =>
      if place = .blockMapping ∧ t = .blockEntry then sequence fun r => readBareSequence fuel [] r
      else if place ≠ .flow ∧ t = .blockSequenceStart then
        sequence fun r => readBlockSequence fuel [] r.drop
      else if place ≠ .flow ∧ t = .blockMappingStart then
        mapping fun r => readBlockMapping fuel [] r.drop
      else if p.anchor.isSome ∨ p.tag.isSome then
        .ok (r.leaf p.anchor ⟨scalarTag p.tag true [], .scalar []⟩)
      else .error .malformed

/-- The node at this place, or the empty one where one of the given tokens follows. -/
def readUnless : Nat → Place → List Token → Reader → Except Fault (Nat × Reader)
  | 0, _, _, _ => .error .malformed
  | fuel + 1, place, stops, r => if r.isAt stops then .ok r.nothing else read fuel place r

/-- The rest of a block sequence. -/
def readBlockSequence : Nat → List Nat → Reader → Except Fault (List Nat × Reader)
  | 0, _, _ => .error .malformed
  | fuel + 1, acc, r =>
    match r.peek with
    | .blockEntry => do
      let (n, r) ← readUnless fuel .block [.blockEntry, .blockEnd] r.drop
      readBlockSequence fuel (n :: acc) r
    | .blockEnd => .ok (acc.reverse, r.drop)
    | _ => .error r.unexpected

/-- The rest of a block sequence that is not indented. -/
def readBareSequence : Nat → List Nat → Reader → Except Fault (List Nat × Reader)
  | 0, _, _ => .error .malformed
  | fuel + 1, acc, r =>
    match r.peek with
    | .blockEntry => do
      let (n, r) ← readUnless fuel .block [.blockEntry, .key, .value, .blockEnd] r.drop
      readBareSequence fuel (n :: acc) r
    | .fault f => .error f
    | _ => .ok (acc.reverse, r)

/-- The value of a pair: the node after a colon, or the empty one. -/
def readValue : Nat → Place → List Token → Reader → Except Fault (Nat × Reader)
  | 0, _, _, _ => .error .malformed
  | fuel + 1, place, stops, r =>
    match r.peek with
    | .value => readUnless fuel place stops r.drop
    | .fault f => .error f
    | _ => .ok r.nothing

/-- The rest of a block mapping. -/
def readBlockMapping :
    Nat → List (Nat × Nat) → Reader → Except Fault (List (Nat × Nat) × Reader)
  | 0, _, _ => .error .malformed
  | fuel + 1, acc, r =>
    match r.peek with
    | .key => do
      let (k, r) ← readUnless fuel .blockMapping [.key, .value, .blockEnd] r.drop
      let (v, r) ← readValue fuel .blockMapping [.key, .value, .blockEnd] r
      readBlockMapping fuel ((k, v) :: acc) r
    | .blockEnd => .ok (acc.reverse, r.drop)
    | _ => .error r.unexpected

/-- The rest of a flow sequence. A key in it makes a mapping of one pair. -/
def readFlowSequence : Nat → Bool → List Nat → Reader → Except Fault (List Nat × Reader)
  | 0, _, _, _ => .error .malformed
  | fuel + 1, isFirst, acc, r =>
    if r.isAt [.flowSequenceEnd] then .ok (acc.reverse, r.drop)
    else if !isFirst && !r.isAt [.flowEntry] then .error r.unexpected
    else
      let r := if isFirst then r else r.drop
      match r.peek with
      | .flowSequenceEnd => .ok (acc.reverse, r.drop)
      | .key => do
        let (n, r) := r.begin none ⟨.map, .mapping []⟩
        let (k, r) ← readUnless fuel .flow [.value, .flowEntry, .flowSequenceEnd] r.drop
        let (v, r) ← readValue fuel .flow [.flowEntry, .flowSequenceEnd] r
        readFlowSequence fuel false (n :: acc) (r.finish n (.mapping [(k, v)]))
      | _ => do
        let (n, r) ← read fuel .flow r
        readFlowSequence fuel false (n :: acc) r

/-- The rest of a flow mapping. A node without a key mark is a key without a value. -/
def readFlowMapping :
    Nat → Bool → List (Nat × Nat) → Reader → Except Fault (List (Nat × Nat) × Reader)
  | 0, _, _, _ => .error .malformed
  | fuel + 1, isFirst, acc, r =>
    if r.isAt [.flowMappingEnd] then .ok (acc.reverse, r.drop)
    else if !isFirst && !r.isAt [.flowEntry] then .error r.unexpected
    else
      let r := if isFirst then r else r.drop
      match r.peek with
      | .flowMappingEnd => .ok (acc.reverse, r.drop)
      | .key => do
        let (k, r) ← readUnless fuel .flow [.value, .flowEntry, .flowMappingEnd] r.drop
        let (v, r) ← readValue fuel .flow [.flowEntry, .flowMappingEnd] r
        readFlowMapping fuel false ((k, v) :: acc) r
      | _ => do
        let (k, r) ← read fuel .flow r
        let (v, r) := r.nothing
        readFlowMapping fuel false ((k, v) :: acc) r

end

end Reader

/-! ## Documents -/

/-- The short forms of tags that every document has. -/
def usualHandles : List (Text × Text) :=
  [("!", "!"), ("!!", Tag.languageStart)]

/-- The short forms that the directives at this place declare and the tokens after them. The
    version may be given once and must be of the first generation, a short form declared once. -/
def directives (hasVersion : Bool) (handles : List (Text × Text)) :
    List Token → Except Fault (List (Text × Text) × List Token)
  | .directive (.version major _) :: rest =>
    if hasVersion ∨ major ≠ 1 then .error .malformed else directives true handles rest
  | .directive (.tagHandle h start) :: rest =>
    if (handles.lookup h).isSome then .error .malformed
    else directives hasVersion (handles ++ [(h, start)]) rest
  | .directive .other :: rest => directives hasVersion handles rest
  | rest => .ok (handles ++ usualHandles, rest)

/-- Nothing but ends of documents may follow the only document. -/
def Reader.expectEnd (r : Reader) : Except Fault Unit :=
  match r.tokens.dropWhile (· == .documentEnd) with
  | .streamEnd :: _ => .ok ()
  | rest => do
    match ← directives false [] rest with
    | (_, .fault f :: _) => throw f
    | _ => throw .malformed

/-- The document whose root is the next node, with the number of the root. -/
def readDocument (handles : List (Text × Text)) (isEmpty : Bool) (tokens : List Token) :
    Except Fault (Nat × Graph) := do
  let r : Reader := ⟨tokens, [], handles, .empty⟩
  let (n, r) ← if isEmpty then pure r.nothing else Reader.read (3 * tokens.length + 10) .block r
  r.expectEnd
  pure (n, r.graph)

/-- The only document of a stream, if it has one, with the number of its root. -/
def Graph.ofTokens? (tokens : List Token) : Except Fault (Option (Nat × Graph)) := do
  match tokens with
  | [] => throw .malformed
  | .streamEnd :: _ => pure none
  | t :: _ =>
    let isExplicit := match t with
      | .directive _ | .documentStart => true
      | _ => false
    if !isExplicit then some <$> readDocument usualHandles false tokens
    else
      let (handles, rest) ← directives false [] tokens
      match rest with
      | .documentStart :: rest =>
        let isEmpty := match rest with
          | .directive _ :: _ | .documentStart :: _ | .documentEnd :: _ | .streamEnd :: _ => true
          | _ => false
        some <$> readDocument handles isEmpty rest
      | .fault f :: _ => throw f
      | _ => throw .malformed

end PlaybookAssist.Yaml
