import PlaybookAssist.Yaml.Graph

/-!
# Merging

Under a key `<<` a mapping names other mappings whose pairs are to stand before its own. Merging
changes the mapping itself: every alias of it stands for the mapping with the merged pairs, and a key
`=` becomes text wherever its node occurs. A mapping that is merged is first merged itself, and may
do so while another one waits for it, or while it waits for itself: a pair that names mappings is
taken away before they are looked at, so that the work ends.

## Main definitions

- `Graph.merge` : the graph in which a mapping holds the pairs of the mappings that it names
-/

namespace PlaybookAssist.Yaml.Graph

/-- The number of pairs that name mappings to be merged. -/
def mergeCount (g : Graph) : Nat :=
  g.nodes.foldl (fun count node =>
    match node.content with
    | .mapping ps => count + (ps.filter fun p => g.tag p.1 == .merge).length
    | _ => count) 0

/-- What stands first among the pairs `rest` of a mapping that names others, given that `seen` pairs
    stand before them: its place and its value. The keys `=` up to there become text. -/
def nextMerge (g : Graph) (seen : Nat) : List (Nat × Nat) → Graph × Option (Nat × Nat)
  | [] => (g, none)
  | (k, v) :: ps =>
    match g.tag k with
    | .merge => (g, some (seen, v))
    | .value => (g.setTag k .str).nextMerge (seen + 1) ps
    | _ => g.nextMerge (seen + 1) ps

section

variable (mergeIn : Nat → Graph → Except Fault Graph)

/-- The pairs of the mappings of a sequence, the last mapping first. -/
def mergeItems : List Nat → Graph → Except Fault (List (Nat × Nat) × Graph)
  | [], g => .ok ([], g)
  | v :: vs, g =>
    match (g.node v).content with
    | .mapping _ => do
      let g ← mergeIn v g
      let here := g.pairs v
      let (others, g) ← mergeItems vs g
      pure (others ++ here, g)
    | _ => .error .malformed

/-- The pairs of the mapping or mappings that a node names, and the graph in which those are merged
    themselves. Of several mappings the first one comes last, so that it prevails. -/
def mergeNamed (v : Nat) (g : Graph) : Except Fault (List (Nat × Nat) × Graph) :=
  match (g.node v).content with
  | .scalar _ => .error .malformed
  | .mapping _ => do
    let g ← mergeIn v g
    pure (g.pairs v, g)
  | .sequence items => mergeItems mergeIn items g

end

/-- The graph after the pairs of a mapping from place `seen` on, given the pairs that are merged so
    far. No more than `fuel` pairs that name mappings are taken away, one before each mapping that is
    looked at. -/
def mergePairs (fuel n seen : Nat) (merged : List (Nat × Nat)) (g : Graph) : Except Fault Graph :=
  match g.nextMerge seen ((g.pairs n).drop seen), fuel with
  | (g, none), _ => .ok (if merged.isEmpty then g else g.setPairs n (merged ++ g.pairs n))
  | (_, some _), 0 => .error .endless
  | (g, some (place, v)), fuel + 1 => do
    let rest := g.setPairs n ((g.pairs n).eraseIdx place)
    let (more, g) ← mergeNamed (fun m g => mergePairs fuel m 0 [] g) v rest
    mergePairs fuel n place (merged ++ more) g

/-- The graph in which a mapping holds the pairs of the mappings that it names, before its own. -/
def merge (g : Graph) (n : Nat) : Except Fault Graph :=
  match (g.node n).content with
  | .mapping ps =>
    -- without such pairs there is nothing to count
    let fuel := if ps.any fun p => g.tag p.1 == .merge then g.mergeCount else 0
    mergePairs fuel n 0 [] g
  | _ => .error .malformed

end PlaybookAssist.Yaml.Graph
