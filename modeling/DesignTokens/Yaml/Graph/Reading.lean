import DesignTokens.Entries
import DesignTokens.Yaml.Lexer
import DesignTokens.Yaml.Schema

/-!
# From tokens to a graph

A text holds at most one document. Anchors name vertices for the aliases behind them, each
anchor once, and a collection is named before its parts are read; a handle stands for a text
that a directive or the standard gives it. Tokens are asked for one at a time, so a fault of
their order comes before a fault of the text behind them. Every function takes a number that
bounds its depth: no call goes deeper than a small multiple of the number of tokens.
-/

namespace DesignTokens.Yaml

/-- What is left to read, what has been read, and the names that are in use. -/
structure GraphReader where
  tokens : List Token
  /-- Why there are no more tokens, unless the text ends. -/
  fault : Option DocumentError
  graph : Graph := {}
  anchors : Entries Nat := []
  handles : Entries String := []

namespace GraphReader

/-- What may be read from tokens. -/
abbrev Step (α : Type) := GraphReader → Read (α × GraphReader)

/-- The next token, if the text does not end here. -/
def head (reader : GraphReader) : Read (Option Token) :=
  match reader.tokens, reader.fault with
  | token :: _, _ => .ok (some token)
  | [], some fault => .error fault
  | [], none => .ok none

/-- The next token is one of the given ones. -/
def seesAny (reader : GraphReader) (tokens : List Token) : Read Bool := do
  return (← reader.head).any fun token => tokens.contains token

/-- Behind the next token. -/
def next (reader : GraphReader) : GraphReader := { reader with tokens := reader.tokens.drop 1 }

/-- Adds a vertex and gives its place. -/
def add (reader : GraphReader) (tag : Tag) (content : Content) : Nat × GraphReader :=
  (reader.graph.size, { reader with graph := reader.graph.add ⟨tag, content⟩ })

/-- The vertex of a value that is left out. -/
def addEmpty (reader : GraphReader) : Nat × GraphReader := reader.add .null (.scalar "")

/-- The tag that a written tag stands for, as its full text. -/
def tagName (reader : GraphReader) (tag : TagText) : Read String :=
  match tag.handle with
  | none => .ok tag.text
  | some handle =>
      match Entries.get? reader.handles handle with
      | some start => .ok (start ++ tag.text)
      | none => malformed

/-- What stands before a node. -/
structure Properties where
  anchor : Option String := none
  tag : Option String := none

/-- The anchor and the tag before a node, in either order. -/
def properties (reader : GraphReader) : Read (Properties × GraphReader) := do
  match ← reader.head with
  | some (.anchor name) =>
      match ← reader.next.head with
      | some (.tag tag) =>
          return ({ anchor := some name, tag := some (← reader.tagName tag) }, reader.next.next)
      | _ => return ({ anchor := some name }, reader.next)
  | some (.tag tag) =>
      match ← reader.next.head with
      | some (.anchor name) =>
          return ({ anchor := some name, tag := some (← reader.tagName tag) }, reader.next.next)
      | _ => return ({ tag := some (← reader.tagName tag) }, reader.next)
  | _ => return ({}, reader)

/-- The tag that is given, unless none is or it leaves the choice open. -/
def Properties.tagOr (properties : Properties) (otherwise : Tag) : Tag :=
  match properties.tag with
  | none => otherwise
  | some name => if name == "!" then otherwise else .ofName name

/-- The tag of a scalar: without a tag a plain one is read by its form and any other one is
a text. -/
def Properties.scalarTag (properties : Properties) (text : String) (plain : Bool) : Tag :=
  let byForm := plain || properties.tag == some "!"
  properties.tagOr (if byForm then implicitTag text else .text)

/-- Names a place if there is an anchor for it. -/
def name (reader : GraphReader) (anchor : Option String) (place : Nat) : GraphReader :=
  match anchor with
  | none => reader
  | some name => { reader with anchors := reader.anchors.put name place }

/-- Adds a scalar that may have an anchor. -/
def addScalar (reader : GraphReader) (properties : Properties) (text : String) (plain : Bool) :
    Nat × GraphReader :=
  let (place, reader) := reader.add (properties.scalarTag text plain) (.scalar text)
  (place, reader.name properties.anchor place)

/-- Adds a collection, which its anchor names from here on, and reads its parts. -/
def collection {α : Type} (reader : GraphReader) (anchor : Option String) (tag : Tag)
    (content : List α → Content) (parts : Step (List α)) : Read (Nat × GraphReader) := do
  let (place, reader) := reader.add tag (content [])
  let (parts, reader) ← parts (reader.name anchor place)
  return (place, { reader with graph := reader.graph.fill place (content parts) })

mutual

/-- A node. Blocks may start here if `block` says so, and a sequence that is not indented if
`bare` does. -/
def node : Nat → (block bare : Bool) → Step Nat
  | 0, _, _, _ => malformed
  | fuel + 1, block, bare, reader => do
      match ← reader.head with
      | some (.alias name) =>
          match Entries.get? reader.anchors name with
          | some place => return (place, reader.next)
          | none => malformed
      | _ =>
          let (props, reader) ← properties reader
          let sequence (parts : Step (List Nat)) : Read (Nat × GraphReader) :=
            reader.collection props.anchor (props.tagOr .sequence) .sequence parts
          let mapping (parts : Step (List (Nat × Nat))) : Read (Nat × GraphReader) :=
            reader.collection props.anchor (props.tagOr .mapping) .mapping parts
          let token ← reader.head
          if props.anchor.any fun name => Entries.has reader.anchors name then malformed
          else match token, bare, block with
            | some .blockEntry, true, _ => sequence (bareEntries fuel)
            | some (.scalar text plain), _, _ => return reader.next.addScalar props text plain
            | some .flowSequenceStart, _, _ =>
                sequence fun reader => flowItems fuel true reader.next
            | some .flowMappingStart, _, _ =>
                mapping fun reader => flowPairs fuel true reader.next
            | some .blockSequenceStart, _, true =>
                sequence fun reader => blockEntries fuel reader.next
            | some .blockMappingStart, _, true =>
                mapping fun reader => blockPairs fuel reader.next
            | _, _, _ =>
                if props.anchor.isNone && props.tag.isNone then malformed
                else return reader.addScalar props "" props.tag.isNone

/-- A node that is left out when one of the given tokens follows. -/
def optionalNode : Nat → List Token → (block bare : Bool) → Step Nat
  | 0, _, _, _, _ => malformed
  | fuel + 1, stops, block, bare, reader => do
      if ← reader.seesAny stops then return reader.addEmpty else node fuel block bare reader

/-- The entries of a block sequence up to its end. -/
def blockEntries : Nat → Step (List Nat)
  | 0, _ => malformed
  | fuel + 1, reader => do
      match ← reader.head with
      | some .blockEntry =>
          let (item, reader) ←
            optionalNode fuel [.blockEntry, .blockEnd] true false reader.next
          let (items, reader) ← blockEntries fuel reader
          return (item :: items, reader)
      | some .blockEnd => return ([], reader.next)
      | _ => malformed

/-- The entries of a sequence that is not indented. -/
def bareEntries : Nat → Step (List Nat)
  | 0, _ => malformed
  | fuel + 1, reader => do
      match ← reader.head with
      | some .blockEntry =>
          let (item, reader) ←
            optionalNode fuel [.blockEntry, .key, .value, .blockEnd] true false reader.next
          let (items, reader) ← bareEntries fuel reader
          return (item :: items, reader)
      | _ => return ([], reader)

/-- The pairs of a block mapping up to its end. -/
def blockPairs : Nat → Step (List (Nat × Nat))
  | 0, _ => malformed
  | fuel + 1, reader => do
      let stops := [Token.key, .value, .blockEnd]
      match ← reader.head with
      | some .key =>
          let (key, reader) ← optionalNode fuel stops true true reader.next
          let (value, reader) ← blockValue fuel reader
          let (pairs, reader) ← blockPairs fuel reader
          return ((key, value) :: pairs, reader)
      | some .blockEnd => return ([], reader.next)
      | _ => malformed

/-- The value of a pair of a block mapping. -/
def blockValue : Nat → Step Nat
  | 0, _ => malformed
  | fuel + 1, reader => do
      match ← reader.head with
      | some .value => optionalNode fuel [.key, .value, .blockEnd] true true reader.next
      | _ => return reader.addEmpty

/-- The items of a sequence in brackets. -/
def flowItems : Nat → (first : Bool) → Step (List Nat)
  | 0, _, _ => malformed
  | fuel + 1, first, reader => do
      match ← reader.head with
      | some .flowSequenceEnd => return ([], reader.next)
      | token =>
          if !first && token != some .flowEntry then malformed
          else
            let reader := if first then reader else reader.next
            match ← reader.head with
            | some .flowSequenceEnd => return ([], reader.next)
            | some .key =>
                let (item, reader) ←
                  reader.collection none .mapping .mapping (flowSinglePair fuel)
                let (items, reader) ← flowItems fuel false reader
                return (item :: items, reader)
            | _ =>
                let (item, reader) ← node fuel false false reader
                let (items, reader) ← flowItems fuel false reader
                return (item :: items, reader)

/-- The pair of a mapping that is an item of a sequence in brackets and has no braces. -/
def flowSinglePair : Nat → Step (List (Nat × Nat))
  | 0, _ => malformed
  | fuel + 1, reader => do
      let stops := [Token.value, .flowEntry, .flowSequenceEnd]
      let (key, reader) ← optionalNode fuel stops false false reader.next
      let (value, reader) ← flowValue fuel .flowSequenceEnd reader
      return ([(key, value)], reader)

/-- The pairs of a mapping in braces. -/
def flowPairs : Nat → (first : Bool) → Step (List (Nat × Nat))
  | 0, _, _ => malformed
  | fuel + 1, first, reader => do
      match ← reader.head with
      | some .flowMappingEnd => return ([], reader.next)
      | token =>
          if !first && token != some .flowEntry then malformed
          else
            let reader := if first then reader else reader.next
            match ← reader.head with
            | some .flowMappingEnd => return ([], reader.next)
            | some .key =>
                let stops := [Token.value, .flowEntry, .flowMappingEnd]
                let (key, reader) ← optionalNode fuel stops false false reader.next
                let (value, reader) ← flowValue fuel .flowMappingEnd reader
                let (pairs, reader) ← flowPairs fuel false reader
                return ((key, value) :: pairs, reader)
            | _ =>
                let (key, reader) ← node fuel false false reader
                let (value, reader) := reader.addEmpty
                let (pairs, reader) ← flowPairs fuel false reader
                return ((key, value) :: pairs, reader)

/-- The value of a pair between brackets that end with the given token. -/
def flowValue : Nat → (stop : Token) → Step Nat
  | 0, _, _ => malformed
  | fuel + 1, stop, reader => do
      match ← reader.head with
      | some .value => optionalNode fuel [.flowEntry, stop] false false reader.next
      | _ => return reader.addEmpty

end

/-- The handles that need no directive. -/
def standardHandles : Entries String := [("!", "!"), ("!!", standardStart)]

/-- The directives before a document: at most one version, which must be 1, and handles
that are given once each. -/
def directives : Nat → (versioned : Bool) → GraphReader → Read GraphReader
  | 0, _, _ => malformed
  | fuel + 1, versioned, reader => do
      match ← reader.head with
      | some (.directive (.version major _)) =>
          if versioned || major != 1 then malformed else directives fuel true reader.next
      | some (.directive (.tag handle text)) =>
          let handles := reader.handles.put handle text
          if Entries.has reader.handles handle then malformed
          else directives fuel versioned { reader.next with handles }
      | some (.directive .other) => directives fuel versioned reader.next
      | _ =>
          let missing := standardHandles.filter fun entry => !Entries.has reader.handles entry.1
          return { reader with handles := reader.handles ++ missing }

/-- The token starts a line of directions for the reader. -/
def isDirective : Token → Bool
  | .directive _ => true
  | _ => false

/-- The document that starts with its directives or its mark. -/
def markedDocument (fuel : Nat) : Step Nat := fun reader => do
  let reader ← directives fuel false reader
  match ← reader.head with
  | some .documentStart =>
      let reader := reader.next
      let ended := (← reader.head).all fun token =>
        isDirective token || [.documentStart, .documentEnd].contains token
      if ended then return reader.addEmpty else node fuel true false reader
  | _ => malformed

/-- Nothing follows a document but the marks of its end. Behind them, directives are read
before the text is refused. -/
def finish : Nat → GraphReader → Read Unit
  | 0, _ => malformed
  | fuel + 1, reader => do
      match ← reader.head with
      | none => return ()
      | some .documentEnd => finish fuel reader.next
      | some _ =>
          let _ ← directives fuel false { reader with handles := [] }
          malformed

/-- The graph of a text and the place of its document, unless the text is empty. -/
def document (list : TokenList) : Read (Graph × Option Nat) := do
  let fuel := 8 * list.tokens.length + 8
  let reader : GraphReader := { tokens := list.tokens, fault := list.fault }
  match ← reader.head with
  | none => return ({}, none)
  | some token =>
      let (place, reader) ←
        if isDirective token || token == .documentStart then markedDocument fuel reader
        else node fuel true false { reader with handles := standardHandles }
      finish fuel reader
      return (reader.graph, some place)

end GraphReader

end DesignTokens.Yaml
