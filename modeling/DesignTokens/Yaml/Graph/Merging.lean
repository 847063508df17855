import DesignTokens.Yaml.Error
import DesignTokens.Yaml.Graph

/-!
# Merge keys

The value of a merge key is a mapping, or a sequence of mappings, whose pairs a mapping takes
over in front of its own; of several mappings in a sequence the last one goes first. What is
taken over has no merge keys itself: `flatten` takes them out of the sources too. A mapping
may be a source of itself or of a mapping inside it; it then gives what is left of it. The
key of a default value becomes an ordinary text on the way.
-/

namespace DesignTokens.Yaml

namespace Graph

/-- The value of the first merge key, and the other pairs. -/
def takeMerge? (graph : Graph) : List (Nat × Nat) → Option (Nat × List (Nat × Nat))
  | [] => none
  | (key, value) :: rest =>
      if graph.isTagged key .merge then some (value, rest)
      else (graph.takeMerge? rest).map fun (found, others) => (found, (key, value) :: others)

/-- The graph in which the keys of default values among the pairs are texts. -/
def settleKeys (graph : Graph) (pairs : List (Nat × Nat)) : Graph :=
  pairs.foldl (fun graph pair =>
    if graph.isTagged pair.1 .value then graph.retag pair.1 .text else graph) graph

mutual

/-- The graph in which the mapping at a place has no merge keys. -/
def flatten : Nat → (place : Nat) → Graph → Read Graph
  | 0, _, _ => malformed
  | fuel + 1, place, graph => do
      let (merged, graph) ← takeMerges fuel place [] graph
      let own := (graph.pairs? place).getD []
      let graph := graph.settleKeys own
      return if merged.isEmpty then graph else graph.fill place (.mapping (merged ++ own))

/-- Takes the merge keys out of the mapping at a place, one after the other, and collects
what they bring in. -/
def takeMerges : Nat → (place : Nat) → List (Nat × Nat) → Graph →
    Read (List (Nat × Nat) × Graph)
  | 0, _, _, _ => malformed
  | fuel + 1, place, merged, graph =>
      match graph.takeMerge? ((graph.pairs? place).getD []) with
      | none => .ok (merged, graph)
      | some (source, others) => do
          let (more, graph) ← sourcePairs fuel source (graph.fill place (.mapping others))
          takeMerges fuel place (merged ++ more) graph

/-- The pairs that the value of a merge key brings in. -/
def sourcePairs : Nat → (source : Nat) → Graph → Read (List (Nat × Nat) × Graph)
  | 0, _, _ => malformed
  | fuel + 1, source, graph =>
      let pairsOf (graph : Graph) (place : Nat) : Read (List (Nat × Nat) × Graph) :=
        match graph.pairs? place with
        | none => malformed
        | some _ => do
            let graph ← flatten fuel place graph
            return ((graph.pairs? place).getD [], graph)
      match graph.items? source with
      | none => pairsOf graph source
      | some items =>
          items.foldlM (fun (pairs, graph) item => do
            let (more, graph) ← pairsOf graph item
            return (more ++ pairs, graph)) ([], graph)

end

end Graph

end DesignTokens.Yaml
