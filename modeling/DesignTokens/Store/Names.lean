import DesignTokens.Store.Basic

/-!
# The custom properties of a store

Every brand color, scale entry and token of a store gives a custom property. `nameSources`
lists them in the order brand, scales, tree; `checkSources` goes through the list and stops
at the first name that is not well formed or that an earlier entry has taken.
-/

namespace DesignTokens

/-- The entry of a store that a custom property comes from. -/
inductive NameSource where
  | brandColor (family shade : String)
  | scaleEntry (kind : ScaleKind) (key : String)
  | token (path : List String)
deriving Repr, DecidableEq

namespace NameSource

/-- How an entry is called in messages. -/
def describe : NameSource → String
  | brandColor family shade => s!"Brand color '{family}.{shade}'"
  | scaleEntry kind key => s!"Scale entry '{kind.fieldName}.{key}'"
  | token path => s!"Token '{joinDotted path}'"

/-- The custom property of an entry. -/
def property : NameSource → String
  | brandColor family shade => variableName [brandCategory, family, shade]
  | scaleEntry kind key => variableName [kind.category, key]
  | token path => variableName path

end NameSource

/-- Why the names of a store cannot stand beside each other. -/
inductive NameError where
  /-- The custom property of an entry is not well formed. -/
  | invalid (source : NameSource)
  /-- Two entries have the same custom property. -/
  | taken (first second : NameSource)
deriving Repr, DecidableEq

/-- The wording of a name error. -/
def NameError.message : NameError → String
  | invalid source => s!"{source.describe} yields invalid variable name '{source.property}'"
  | taken first second =>
      s!"{first.describe} and {second.describe} both map to '{second.property}'"

/-- The entries of a palette. -/
def paletteEntries (palette : Palette) : List (String × String × String) :=
  palette.flatMap fun family => family.2.map fun shade => (family.1, shade.1, shade.2)

/-- The entries of a store in the order in which they take their names. -/
def TokenStore.nameSources (store : TokenStore) : List NameSource :=
  (paletteEntries store.brand).map (fun entry => .brandColor entry.1 entry.2.1) ++
    ScaleKind.all.flatMap (fun kind =>
      (store.scales.get kind).map fun entry => .scaleEntry kind entry.1) ++
    store.leaves.map fun leaf => .token leaf.1

/-- Goes through entries, given the names that have been taken and by which entry. -/
def checkSources (taken : Entries NameSource) : List NameSource → Except NameError Unit
  | [] => .ok ()
  | source :: rest =>
      let name := source.property
      if !isVariableName name then .error (.invalid source)
      else match Entries.get? taken name with
        | some first => .error (.taken first source)
        | none => checkSources ((name, source) :: taken) rest

/-- Every custom property of the store is well formed and none occurs twice. -/
def TokenStore.checkNames (store : TokenStore) : Except NameError Unit :=
  checkSources [] store.nameSources

end DesignTokens
