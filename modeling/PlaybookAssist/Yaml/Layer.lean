import PlaybookAssist.Value

/-!
# Layers of values

A layer is a value in which other values stand as numbers. A numbered family of layers describes
values that share parts and may hold themselves. Unfolding it puts the values in the places of the
numbers, part by part, so that a part is unfolded once however often it occurs. Where layers refer to
layers that come later, one pass over all layers does not do: then each pass sees one turn further,
and every collection is named by its number.

## Main definitions

- `Layer` : one layer
- `Layers` : a family of layers
- `Layers.unfold` : the value of one of its numbers
-/

namespace PlaybookAssist.Yaml

/-- A value in which the values inside collections stand as numbers. -/
inductive Layer where
  | scalar (v : Value)
  | list (items : List Nat)
  /-- A list of tuples of two. -/
  | tuples (pairs : List (Nat × Nat))
  | set (keys : List Value)
  | map (pairs : List (Value × Nat))
  deriving Repr, Inhabited

namespace Layer

/-- The numbers in a layer. -/
def parts : Layer → List Nat
  | .scalar _ | .set _ => []
  | .list items => items
  | .tuples pairs => pairs.flatMap fun p => [p.1, p.2]
  | .map pairs => pairs.map (·.2)

/-- The value of a layer, given the values of the numbers. -/
def toValue (values : Array Value) : Layer → Value
  | .scalar v => v
  | .list items => .list (items.map fun n => values.getD n .null)
  | .tuples pairs =>
    .list (pairs.map fun p => .tuple [values.getD p.1 .null, values.getD p.2 .null])
  | .set keys => .set keys
  | .map pairs => .map (pairs.map fun p => (p.1, values.getD p.2 .null))

/-- Can the layer be part of itself? -/
def isOpen : Layer → Bool
  | .list _ | .tuples _ | .map _ => true
  | _ => false

end Layer

/-- Layers by number. -/
structure Layers where
  layers : Array Layer
  /-- The numbers in the order in which they are passed over. -/
  order : List Nat
  deriving Repr, Inhabited

namespace Layers

/-- The layer of a number. -/
def layer (ls : Layers) (n : Nat) : Layer :=
  ls.layers.getD n (.scalar .null)

/-- The places of the numbers in the order. -/
def places (ls : Layers) : Array Nat :=
  ls.order.zipIdx.foldl (fun places p => places.set! p.1 p.2) (Array.replicate ls.layers.size 0)

/-- How often a layer refers to itself or to a layer that comes later. -/
def forwardCount (ls : Layers) : Nat :=
  let places := ls.places
  ls.order.foldl (fun count n =>
    count + ((ls.layer n).parts.filter fun m => places.getD n 0 ≤ places.getD m 0).length) 0

/-- The value of a layer, named by its number if names are wanted. -/
def valueOf (ls : Layers) (named : Bool) (values : Array Value) (n : Nat) : Value :=
  let l := ls.layer n
  if named && l.isOpen then .knot n (l.toValue values) else l.toValue values

/-- The values after one pass over all layers. -/
def pass (ls : Layers) (named : Bool) (values : Array Value) : Array Value :=
  ls.order.foldl (fun values n => values.set! n (ls.valueOf named values n)) values

/-- The values after some passes. -/
def passes (ls : Layers) (named : Bool) : Nat → Array Value
  | 0 => Array.replicate ls.layers.size .null
  | turns + 1 => ls.pass named (ls.passes named turns)

/-- How much further than once around values that hold themselves are unfolded. -/
def spareTurns : Nat := 16

/-- The value of a number. One pass is enough without references to later layers; otherwise there
    are passes enough to come around every such reference and then look on. -/
def unfold (ls : Layers) (n : Nat) : Value :=
  let forward := ls.forwardCount
  let values := if forward = 0 then ls.passes false 1 else ls.passes true (2 * forward + spareTurns)
  values.getD n .null

end Layers

end PlaybookAssist.Yaml
