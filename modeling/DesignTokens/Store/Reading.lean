import DesignTokens.Source.Checked
import DesignTokens.Store.Names

/-!
# Reading a store

The fields of a store are read from a mapping. The semantic tree is classified; palettes
and scales have their numbers written as text. Only when every field is good are the custom
properties checked, up to the first that clashes.
-/

namespace DesignTokens

/-- A rule of a store that a source breaks. -/
inductive StoreRule where
  | treeNotMapping
  | treeIsLeaf
  | node (error : NodeError)
  | names (error : NameError)
deriving Repr, DecidableEq

/-- The wording of a broken rule. -/
def StoreRule.message : StoreRule → String
  | treeNotMapping => "The semantic tree must be a mapping"
  | treeIsLeaf => "The semantic tree root must be a group, not a leaf"
  | node error => error.message
  | names error => error.message

/-- What is wrong with the source of a store. -/
abbrev StoreIssues := List (Issue StoreRule)

/-- One line for each issue. -/
def StoreIssues.lines (issues : StoreIssues) : String := issueLines StoreRule.message issues

/-- How many issues there are. -/
def StoreIssues.count (issues : StoreIssues) : String := issueCount "TokenStore" issues

namespace TokenStore

/-- The semantic tree of a field's value. -/
def readTree (location : List String) : Datum → Checked StoreRule (List (String × Node))
  | .scalar .null => .ok []
  | .node (.group children) => .ok children
  | .map entries =>
      match Node.build [] (.map entries) with
      | .ok (.group children) => .ok children
      | .ok (.leaf _) => .fail location (.rejected .treeIsLeaf)
      | .error (.unwritable reason) => .fail location (.unwritable reason)
      | .error error => .fail location (.rejected (.node error))
  | .endless => .fail location (.unwritable .endless)
  | _ => .fail location (.rejected .treeNotMapping)

/-- The semantic tree of a source. -/
def treeField (entries : List (Scalar × Datum)) : Checked StoreRule (List (String × Node)) :=
  match Datum.lookup "semantic" entries with
  | some value => readTree ["semantic"] value
  | none => .ok []

/-- The palette of a field. -/
def paletteField (entries : List (Scalar × Datum)) (name : String) :
    Checked StoreRule Palette :=
  optionalField readPalette entries name name

/-- The scale of a source. -/
def scaleField (entries : List (Scalar × Datum)) (kind : ScaleKind) :
    Checked StoreRule (Entries String) :=
  optionalField readTexts entries kind.sourceName kind.fieldName

/-- The eight scales of a source. -/
def scaleFields (entries : List (Scalar × Datum)) : Checked StoreRule Scales :=
  let scale := scaleField entries
  ((((((((Checked.and (.done Scales.mk) (scale .spacing)).and (scale .radii)).and
    (scale .shadows)).and (scale .fontFamilies)).and (scale .fontSizes)).and
    (scale .fontWeights)).and (scale .lineHeights)).and (scale .letterSpacings))

/-- The fields of a store, each one checked for itself. -/
def readFields (entries : List (Scalar × Datum)) : Checked StoreRule TokenStore :=
  (((((((Checked.done fun _ => TokenStore.mk).and (formatField entries schema)).and
    (textField entries "name" defaultStoreName)).and (textField entries "description" "")).and
    (paletteField entries "colors")).and (paletteField entries "brand")).and
    (treeField entries)).and (scaleFields entries)

/-- The store of a source. -/
def ofSource (entries : List (Scalar × Datum)) : Except StoreIssues TokenStore :=
  match readFields entries with
  | .error issues => .error issues
  | .ok store =>
      match store.checkNames with
      | .ok () => .ok store
      | .error error => .error [⟨[], .rejected (.names error)⟩]

/-- The store whose semantic tree is the given one and whose other fields are read from a
source. -/
def ofTree (tree : List (String × Node)) (fields : List (Scalar × Datum)) :
    Except StoreIssues TokenStore :=
  ofSource ((.text "semantic", .node (.group tree)) :: fields)

/-- A store that is accepted has custom properties that do not clash. -/
theorem checkNames_of_ofSource {entries : List (Scalar × Datum)} {store : TokenStore}
    (h : ofSource entries = .ok store) :
    readFields entries = .ok store ∧ store.checkNames = .ok () := by
  unfold ofSource at h
  split at h
  · cases h
  · rename_i read hr
    split at h
    · rename_i hc
      cases h
      exact ⟨hr, hc⟩
    · cases h

end TokenStore

end DesignTokens
