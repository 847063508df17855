/-!
# Graphs of a document

A document is a graph: its vertices are scalars, sequences and mappings, each with a tag
that says what it is to be read as, and a collection names its parts by their places. An
alias is one more way to a vertex, so a collection may be part of several others, and of
itself.
-/

namespace DesignTokens.Yaml

/-- What a vertex is to be read as. -/
inductive Tag where
  | null
  | bool
  | int
  | float
  | text
  | binary
  | time
  | sequence
  | mapping
  | set
  | orderedMapping
  | pairs
  /-- The key of a mapping whose entries are merged in. -/
  | merge
  /-- The key of the default value of a mapping. -/
  | value
  | unknown
deriving Repr, DecidableEq

/-- The common start of the tags that have a meaning. -/
def standardStart : String := "tag:yaml.org,2002:"

/-- The tags that have a meaning, with their names. -/
def standardTags : List (String × Tag) :=
  [("null", .null), ("bool", .bool), ("int", .int), ("float", .float), ("str", .text),
    ("binary", .binary), ("timestamp", .time), ("seq", .sequence), ("map", .mapping),
    ("set", .set), ("omap", .orderedMapping), ("pairs", .pairs), ("merge", .merge),
    ("value", .value)]

/-- The tag of a name. -/
def Tag.ofName (name : String) : Tag :=
  let known := standardTags.find? fun entry => standardStart ++ entry.1 == name
  (known.map Prod.snd).getD .unknown

/-- What a vertex holds; the parts of a collection are places of the graph. -/
inductive Content where
  | scalar (text : String)
  | sequence (items : List Nat)
  | mapping (pairs : List (Nat × Nat))
deriving Repr, DecidableEq, Inhabited

/-- A part of a document. -/
structure Vertex where
  tag : Tag
  content : Content
deriving Repr, DecidableEq

/-- The vertices of a document, each at its place. -/
structure Graph where
  vertices : Array Vertex := #[]
deriving Repr

namespace Graph

/-- The number of vertices, which is the place of the next one. -/
def size (graph : Graph) : Nat := graph.vertices.size

/-- The graph with one more vertex. -/
def add (graph : Graph) (vertex : Vertex) : Graph :=
  { vertices := graph.vertices.push vertex }

/-- The vertex at a place. -/
def at? (graph : Graph) (place : Nat) : Option Vertex := graph.vertices[place]?

/-- The graph with another content at a place. -/
def fill (graph : Graph) (place : Nat) (content : Content) : Graph :=
  { vertices := graph.vertices.modify place fun vertex => { vertex with content } }

/-- The graph with another tag at a place. -/
def retag (graph : Graph) (place : Nat) (tag : Tag) : Graph :=
  { vertices := graph.vertices.modify place fun vertex => { vertex with tag } }

/-- The vertex at a place has a tag. -/
def isTagged (graph : Graph) (place : Nat) (tag : Tag) : Bool :=
  (graph.at? place).any fun vertex => vertex.tag == tag

/-- The pairs of the mapping at a place. -/
def pairs? (graph : Graph) (place : Nat) : Option (List (Nat × Nat)) :=
  match graph.at? place with
  | some ⟨_, .mapping pairs⟩ => some pairs
  | _ => none

/-- The items of the sequence at a place. -/
def items? (graph : Graph) (place : Nat) : Option (List Nat) :=
  match graph.at? place with
  | some ⟨_, .sequence items⟩ => some items
  | _ => none

/-- The number of pairs in all mappings. -/
def pairCount (graph : Graph) : Nat :=
  graph.vertices.foldl (fun count vertex => match vertex.content with
    | .mapping pairs => count + pairs.length
    | _ => count) 0

end Graph

end DesignTokens.Yaml
