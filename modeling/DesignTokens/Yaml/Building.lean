import DesignTokens.Source.Datum
import DesignTokens.Yaml.Graph.Merging
import DesignTokens.Yaml.Schema

/-!
# From a graph to data

Vertices are read in the order in which they are met. A scalar gets its value at once; a
collection gets a place among the collections, and what is in it is read when its turn comes.
So the parts of one collection are met before the parts of any of them, and of two faults
the one nearer to the top is found first. When all collections are known, they are unfolded
to nested data from the top down: a mapping that is met inside itself is left as endless,
and a list that is met inside itself as empty.
-/

namespace DesignTokens.Yaml

/-- A scalar, or a collection by its place among the collections. -/
inductive Part where
  | scalar (value : Scalar)
  | collection (place : Nat)
deriving Repr, Inhabited

/-- What a collection holds. -/
inductive Collection where
  | list (items : List Part)
  | pairs (pairs : List (Part × Part))
  | set (members : List Scalar)
  | map (entries : List (Scalar × Part))
deriving Repr, Inhabited

/-- The tag is that of a collection. -/
def Tag.isCollection : Tag → Bool
  | .sequence => true
  | .mapping => true
  | .set => true
  | .orderedMapping => true
  | .pairs => true
  | _ => false

/-- The tag is that of a scalar. -/
def Tag.isScalar : Tag → Bool
  | .null => true
  | .bool => true
  | .int => true
  | .float => true
  | .text => true
  | .binary => true
  | .time => true
  | _ => false

/-- The text that a vertex stands for as a scalar: a mapping stands for its default value. -/
def Graph.textAt (graph : Graph) : Nat → (place : Nat) → Read String
  | 0, _ => .error .endless
  | fuel + 1, place =>
      match graph.at? place with
      | some ⟨_, .scalar text⟩ => .ok text
      | some ⟨_, .mapping pairs⟩ =>
          match pairs.find? fun pair => graph.isTagged pair.1 .value with
          | some pair => graph.textAt fuel pair.2
          | none => malformed
      | _ => malformed

/-- The value of a vertex with the tag of a scalar. -/
def Graph.scalarAt (graph : Graph) (place : Nat) (vertex : Vertex) : Read Scalar :=
  if !vertex.tag.isScalar then malformed
  else do
    let text ← graph.textAt (graph.size + 1) place
    match vertex.tag, vertex.content with
    | .time, .mapping _ => .error .timeOfMapping
    | tag, _ => scalarValue tag text

/-- What has been read of a graph. -/
structure Builder where
  graph : Graph
  /-- Bounds the depth to which merge keys are followed. -/
  depth : Nat
  /-- What the vertices stand for that have been met. -/
  parts : Array (Option Part)
  /-- The vertices of the collections, in the order in which they were met. -/
  sources : Array Nat := #[]
  /-- The collections that have been read, in the same order. -/
  collections : Array Collection := #[]

namespace Builder

/-- Notes what a vertex stands for. -/
def note (builder : Builder) (vertex : Nat) (part : Part) : Builder :=
  { builder with parts := builder.parts.setIfInBounds vertex (some part) }

/-- What the vertex at a place stands for. -/
def meet (builder : Builder) (place : Nat) : Read (Part × Builder) :=
  match builder.parts[place]?, builder.graph.at? place with
  | some (some part), _ => .ok (part, builder)
  | _, some vertex =>
      if vertex.tag.isCollection then
        let part := Part.collection builder.sources.size
        .ok (part, { builder.note place part with sources := builder.sources.push place })
      else do
        let part := Part.scalar (← builder.graph.scalarAt place vertex)
        return (part, builder.note place part)
  | _, none => malformed

/-- What the items of a sequence stand for. -/
def meetItems : List Nat → Builder → Read (List Part × Builder)
  | [], builder => .ok ([], builder)
  | item :: rest, builder => do
      let (part, builder) ← builder.meet item
      let (parts, builder) ← meetItems rest builder
      return (part :: parts, builder)

/-- The pairs of a list of mappings with one pair each. -/
def meetPairs : List Nat → Builder → Read (List (Part × Part) × Builder)
  | [], builder => .ok ([], builder)
  | item :: rest, builder =>
      match builder.graph.pairs? item with
      | some [(key, value)] => do
          let (key, builder) ← builder.meet key
          let (value, builder) ← builder.meet value
          let (others, builder) ← meetPairs rest builder
          return ((key, value) :: others, builder)
      | _ => malformed

/-- The entries of a mapping with the given pairs, whose keys must be scalars. Of pairs with
one key, the first place and the last value count. -/
def meetEntries (entries : List (Scalar × Part)) :
    List (Nat × Nat) → Builder → Read (List (Scalar × Part) × Builder)
  | [], builder => .ok (entries, builder)
  | (key, value) :: rest, builder => do
      let (key, builder) ← builder.meet key
      match key with
      | .collection _ => malformed
      | .scalar key =>
          let (value, builder) ← builder.meet value
          meetEntries (Datum.putKey key value entries) rest builder

/-- The entries of the mapping at a place. -/
def entriesAt (builder : Builder) (place : Nat) : Read (List (Scalar × Part) × Builder) :=
  match builder.graph.pairs? place with
  | none => malformed
  | some _ => do
      let graph ← builder.graph.flatten builder.depth place
      meetEntries [] ((graph.pairs? place).getD []) { builder with graph }

/-- What the collection at a place of the graph holds. -/
def collectionAt (builder : Builder) (place : Nat) : Read (Collection × Builder) :=
  match builder.graph.at? place with
  | some ⟨.mapping, _⟩ => do
      let (entries, builder) ← builder.entriesAt place
      return (.map entries, builder)
  | some ⟨.set, _⟩ => do
      let (entries, builder) ← builder.entriesAt place
      return (.set (entries.map Prod.fst), builder)
  | some ⟨.sequence, .sequence items⟩ => do
      let (parts, builder) ← meetItems items builder
      return (.list parts, builder)
  | some ⟨.orderedMapping, .sequence items⟩ => do
      let (pairs, builder) ← meetPairs items builder
      return (.pairs pairs, builder)
  | some ⟨.pairs, .sequence items⟩ => do
      let (pairs, builder) ← meetPairs items builder
      return (.pairs pairs, builder)
  | _ => malformed

/-- Reads the collections that have been met, and those that are met on the way. -/
def readCollections : Nat → Builder → Read Builder
  | 0, builder => .ok builder
  | fuel + 1, builder =>
      match builder.sources[builder.collections.size]? with
      | none => .ok builder
      | some place => do
          let (collection, builder) ← builder.collectionAt place
          readCollections fuel
            { builder with collections := builder.collections.push collection }

end Builder

/-- A datum that a part has been unfolded to. -/
structure Unfolded (α : Type) where
  result : α
  /-- Nothing in it goes back to a collection around it. -/
  closed : Bool
  /-- The data of the collections that are closed. -/
  known : Array (Option Datum)

/-- Unfolds parts one after the other. -/
def unfoldAll (unfold : Array (Option Datum) → Part → Unfolded Datum)
    (known : Array (Option Datum)) : List Part → Unfolded (List Datum)
  | [] => ⟨[], true, known⟩
  | part :: rest =>
      let first := unfold known part
      let others := unfoldAll unfold first.known rest
      ⟨first.result :: others.result, first.closed && others.closed, others.known⟩

/-- The datum of a part inside the collections `around`. -/
def unfold (collections : Array Collection) :
    Nat → (around : List Nat) → Array (Option Datum) → Part → Unfolded Datum
  | _, _, known, .scalar value => ⟨.scalar value, true, known⟩
  | 0, _, known, .collection _ => ⟨.endless, false, known⟩
  | fuel + 1, around, known, .collection place =>
      let inside := unfoldAll (unfold collections fuel (place :: around)) known
      let make (parts : List Part) (datum : List Datum → Datum) : Unfolded Datum :=
        let all := inside parts
        let result := datum all.result
        let known := if all.closed then all.known.setIfInBounds place (some result) else all.known
        ⟨result, all.closed, known⟩
      match known[place]?, collections[place]? with
      | some (some datum), _ => ⟨datum, true, known⟩
      | _, some (.map entries) =>
          if around.contains place then ⟨.endless, false, known⟩
          else make (entries.map Prod.snd) fun data => .map ((entries.map Prod.fst).zip data)
      | _, some (.list items) =>
          if around.contains place then ⟨.list [], false, known⟩ else make items .list
      | _, some (.pairs pairs) =>
          if around.contains place then ⟨.list [], false, known⟩
          else make (pairs.flatMap fun pair => [pair.1, pair.2]) .list
      | _, some (.set members) => ⟨.set members, true, known⟩
      | _, none => ⟨.endless, false, known⟩

/-- The data of the vertex at a place of a graph. -/
def Graph.datumAt (graph : Graph) (place : Nat) : Read Datum := do
  let builder : Builder :=
    { graph, depth := 4 * graph.pairCount + 4, parts := Array.replicate graph.size none }
  let (part, builder) ← builder.meet place
  let builder ← builder.readCollections graph.size
  let count := builder.collections.size
  return (unfold builder.collections (count + 1) [] (Array.replicate count none) part).result

end DesignTokens.Yaml
