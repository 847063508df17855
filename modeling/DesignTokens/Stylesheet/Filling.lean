import DesignTokens.Resolution.Basic
import DesignTokens.Stylesheet.VariableSet

/-!
# Filling a variable set

The leaves of a group are resolved one after the other, depth first, and written under the
names of their paths; a leaf that does not resolve is recorded and left out. What does not
depend on the theme, the brand palette and the scales, goes into the light set alone.
-/

namespace DesignTokens

/-- Why a variable set cannot take what is to be written. -/
inductive FillingError where
  /-- The set belongs to another theme. -/
  | otherTheme (held wanted : Theme)
  /-- What does not depend on the theme was to go into the dark set. -/
  | notLight
deriving Repr, DecidableEq

/-- The wording of a refusal. -/
def FillingError.message : FillingError → String
  | otherTheme held wanted => s!"Sink holds '{held.name}' variables, not '{wanted.name}'"
  | notLight => "Theme-independent tokens belong in the light collection"

namespace Resolver

/-- Writes one leaf, or records that it does not resolve. -/
def emit (resolver : Resolver) (sink : VariableSet) (leaf : List String × Leaf) : VariableSet :=
  match (resolver.resolve (.segments leaf.1) sink.theme).unwrap with
  | .ok value => sink.set (variableName leaf.1) value
  | .error error => sink.skip (joinDotted leaf.1) error.message

/-- What is told of one leaf. -/
def leafNotices (resolver : Resolver) (theme : Theme) (leaf : List String × Leaf) :
    List Notice :=
  let result := resolver.resolve (.segments leaf.1) theme
  match result.unwrap with
  | .ok _ => []
  | .error error =>
      let dotted := joinDotted leaf.1
      result.notices ++ [
        if leaf.2.isVariant then
          ⟨.warning, s!"Failed to resolve semantic token: {dotted} ({theme.name}): " ++
            error.message⟩
        else ⟨.debug, s!"Skipping non-semantic token: {dotted}"⟩]

/-- Resolves every leaf below the children of a group that lies at `path` into the set. -/
def traverse (resolver : Resolver) (children : List (String × Node)) (path : List String)
    (theme : Theme) (sink : VariableSet) : Except FillingError VariableSet :=
  if sink.theme = theme then .ok ((Node.leavesOf path children).foldl resolver.emit sink)
  else .error (.otherTheme sink.theme theme)

/-- What is told of the leaves below the children of a group that lies at `path`. -/
def traverseNotices (resolver : Resolver) (children : List (String × Node))
    (path : List String) (theme : Theme) : List Notice :=
  (Node.leavesOf path children).flatMap (resolver.leafNotices theme)

end Resolver

namespace VariableSet

/-- Writes pairs of names and values one after the other. -/
def setAll (sink : VariableSet) (pairs : List (String × String)) : VariableSet :=
  pairs.foldl (fun acc pair => acc.set pair.1 pair.2) sink

/-- The variables of a scale. -/
def scaleVariables (category : String) (scale : Entries String) : List (String × String) :=
  scale.map fun entry => (variableName [category, entry.1], entry.2)

/-- The variables of a brand palette. -/
def brandVariables (palette : Palette) : List (String × String) :=
  palette.flatMap fun family =>
    family.2.map fun shade => (variableName [brandCategory, family.1, shade.1], shade.2)

/-- Only the light set takes what does not depend on the theme. -/
def setShared (sink : VariableSet) (pairs : List (String × String)) :
    Except FillingError VariableSet :=
  if sink.theme = .light then .ok (sink.setAll pairs) else .error .notLight

/-- One variable for each entry of a scale. -/
def flattenScale (sink : VariableSet) (category : String) (scale : Entries String) :
    Except FillingError VariableSet := sink.setShared (scaleVariables category scale)

/-- One variable for each entry of every scale of a store. -/
def flattenScales (sink : VariableSet) (store : TokenStore) : Except FillingError VariableSet :=
  store.staticScales.foldlM (fun acc scale => acc.flattenScale scale.1 scale.2) sink

/-- One variable for each color of a brand palette. -/
def flattenBrand (sink : VariableSet) (palette : Palette) : Except FillingError VariableSet :=
  sink.setShared (brandVariables palette)

end VariableSet

end DesignTokens
