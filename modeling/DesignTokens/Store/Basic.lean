import DesignTokens.Token.Classify
import DesignTokens.Token.Variable

/-!
# Token stores

A token store holds everything that a stylesheet is compiled from: the raw palettes and the
brand palette, both from family and shade to color, the semantic tree, and eight scales
that are the same in every theme.
-/

namespace DesignTokens

/-- Colors by family and shade. -/
abbrev Palette := Entries (Entries String)

/-- A scale that does not depend on the theme. -/
inductive ScaleKind where
  | spacing
  | radii
  | shadows
  | fontFamilies
  | fontSizes
  | fontWeights
  | lineHeights
  | letterSpacings
deriving Repr, DecidableEq

namespace ScaleKind

/-- The scales in the order in which they are checked and written. -/
def all : List ScaleKind :=
  [spacing, radii, shadows, fontFamilies, fontSizes, fontWeights, lineHeights, letterSpacings]

/-- The field that holds a scale in token sources. -/
def sourceName : ScaleKind → String
  | spacing => "spacing"
  | radii => "radii"
  | shadows => "shadows"
  | fontFamilies => "fontFamilies"
  | fontSizes => "fontSizes"
  | fontWeights => "fontWeights"
  | lineHeights => "lineHeights"
  | letterSpacings => "letterSpacings"

/-- The name of a scale in messages, which sources may use as well. -/
def fieldName : ScaleKind → String
  | spacing => "spacing"
  | radii => "radii"
  | shadows => "shadows"
  | fontFamilies => "font_families"
  | fontSizes => "font_sizes"
  | fontWeights => "font_weights"
  | lineHeights => "line_heights"
  | letterSpacings => "letter_spacings"

/-- The first segment of the custom properties of a scale. -/
def category : ScaleKind → String
  | spacing => "spacing"
  | radii => "radii"
  | shadows => "shadow"
  | fontFamilies => "font-family"
  | fontSizes => "font-size"
  | fontWeights => "font-weight"
  | lineHeights => "line-height"
  | letterSpacings => "letter-spacing"

theorem mem_all (kind : ScaleKind) : kind ∈ all := by cases kind <;> decide

end ScaleKind

/-- The eight scales. -/
structure Scales where
  spacing : Entries String := []
  radii : Entries String := []
  shadows : Entries String := []
  fontFamilies : Entries String := []
  fontSizes : Entries String := []
  fontWeights : Entries String := []
  lineHeights : Entries String := []
  letterSpacings : Entries String := []
deriving Repr, DecidableEq, Inhabited

/-- One of the scales. -/
def Scales.get (scales : Scales) : ScaleKind → Entries String
  | .spacing => scales.spacing
  | .radii => scales.radii
  | .shadows => scales.shadows
  | .fontFamilies => scales.fontFamilies
  | .fontSizes => scales.fontSizes
  | .fontWeights => scales.fontWeights
  | .lineHeights => scales.lineHeights
  | .letterSpacings => scales.letterSpacings

/-- The name of the built-in store, and of a store that gives none. -/
def defaultStoreName : String := "mond"

/-- The first segment of the custom properties of the brand palette. -/
def brandCategory : String := "color-brand"

/-- A complete set of design tokens. -/
structure TokenStore where
  name : String := defaultStoreName
  description : String := ""
  colors : Palette := []
  brand : Palette := []
  /-- The children of the root of the semantic tree. -/
  semantic : List (String × Node) := []
  scales : Scales := {}
deriving Repr, DecidableEq, Inhabited

namespace TokenStore

/-- The format tag of a store. -/
def schema : String := "tokens/v1"

/-- The semantic tree as one group. -/
def root (store : TokenStore) : Node := .group store.semantic

/-- The node at a path; the empty path leads nowhere. -/
def find? (store : TokenStore) (segments : List String) : Option Node :=
  if segments.isEmpty then none else store.root.find? segments

/-- Every token with its path, depth first. -/
def leaves (store : TokenStore) : List (List String × Leaf) := Node.leavesOf [] store.semantic

/-- The dotted paths of all tokens. -/
def semanticPaths (store : TokenStore) : List String :=
  store.leaves.map fun leaf => joinDotted leaf.1

/-- The color of a family and shade. -/
def paletteColor? (palette : Palette) (family shade : String) : Option String :=
  (Entries.get? palette family).bind fun shades => Entries.get? shades shade

/-- A text cut at its first dot; without a dot the second part is empty. -/
def cutAtDot (text : String) : String × String :=
  let cs := text.toList
  (String.ofList (cs.takeWhile fun c => c != '.'),
    String.ofList ((cs.dropWhile fun c => c != '.').drop 1))

/-- Looks up `family.shade` in the raw palettes. -/
def lookupColor? (store : TokenStore) (reference : String) : Option String :=
  let (family, shade) := cutAtDot reference
  paletteColor? store.colors family shade

/-- The scales by the first segment of their custom properties. -/
def staticScales (store : TokenStore) : List (String × Entries String) :=
  ScaleKind.all.map fun kind => (kind.category, store.scales.get kind)

/-- The palette as nested data. -/
def paletteDatum (palette : Palette) : Datum :=
  .ofEntries (palette.mapValues fun shades => .ofEntries (shades.mapValues Datum.text))

/-- The fields of a store as they are written. -/
def toEntries (store : TokenStore) : Entries Datum :=
  [("schema", .text schema), ("name", .text store.name),
    ("description", .text store.description), ("colors", paletteDatum store.colors),
    ("brand", paletteDatum store.brand), ("semantic", store.root.toDatum)] ++
    ScaleKind.all.map fun kind =>
      (kind.sourceName, .ofEntries ((store.scales.get kind).mapValues Datum.text))

/-- The store as nested data. -/
def toDatum (store : TokenStore) : Datum := .ofEntries store.toEntries

end TokenStore

/-- What a listing tells of a store. -/
structure StoreMetadata where
  name : String
  description : String
  semanticTokens : Nat
  scaleTokens : Nat
  brandFamilies : List String
deriving Repr, DecidableEq, Inhabited

/-- What a listing tells of the given store. -/
def StoreMetadata.ofStore (store : TokenStore) : StoreMetadata where
  name := store.name
  description := store.description
  semanticTokens := store.semanticPaths.length
  scaleTokens := store.staticScales.foldl (fun count scale => count + scale.2.length) 0
  brandFamilies := sortNames (Entries.keys store.brand)

end DesignTokens
