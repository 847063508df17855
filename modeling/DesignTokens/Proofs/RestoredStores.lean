import DesignTokens.Proofs.AcceptedStores
import DesignTokens.Proofs.ReadMappings
import DesignTokens.Proofs.RestoredTrees

/-!
# Stores that come back from their data

A store is written as nested data and read from nested data. A store that was read from raw
data, and one that takes the tree of such a store and other fields, is the store that is read
from what it is written as: the same tree with the same kinds of nodes, the same palettes and
scales, the same name and description.
-/

namespace DesignTokens

namespace TokenStore

/-! ## Fields -/

/-- The scales are read when each of them is. -/
theorem scaleFields_eq_ok_iff {entries : List (Scalar × Datum)} {scales : Scales} :
    scaleFields entries = .ok scales ↔
      ∀ kind, scaleField entries kind = .ok (scales.get kind) := by
  constructor
  · intro h kind
    unfold scaleFields at h
    dsimp only at h
    obtain ⟨f7, spacings, h, hspacings, h8⟩ := Checked.and_eq_ok_iff.mp h
    obtain ⟨f6, heights, h, hheights, h7⟩ := Checked.and_eq_ok_iff.mp h
    obtain ⟨f5, weights, h, hweights, h6⟩ := Checked.and_eq_ok_iff.mp h
    obtain ⟨f4, sizes, h, hsizes, h5⟩ := Checked.and_eq_ok_iff.mp h
    obtain ⟨f3, families, h, hfamilies, h4⟩ := Checked.and_eq_ok_iff.mp h
    obtain ⟨f2, shadows, h, hshadows, h3⟩ := Checked.and_eq_ok_iff.mp h
    obtain ⟨f1, radii, h, hradii, h2⟩ := Checked.and_eq_ok_iff.mp h
    obtain ⟨f0, spacing, h, hspacing, h1⟩ := Checked.and_eq_ok_iff.mp h
    cases h
    subst h1 h2 h3 h4 h5 h6 h7 h8
    cases kind <;> assumption
  · intro h
    have hspacing := h .spacing
    have hradii := h .radii
    have hshadows := h .shadows
    have hfamilies := h .fontFamilies
    have hsizes := h .fontSizes
    have hweights := h .fontWeights
    have hheights := h .lineHeights
    have hspacings := h .letterSpacings
    simp only [scaleFields, hspacing, hradii, hshadows, hfamilies, hsizes, hweights, hheights,
      hspacings]
    rfl

/-- A store is read when each of its fields is. -/
theorem readFields_of_fields {entries : List (Scalar × Datum)} {store : TokenStore}
    (hformat : formatField (R := StoreRule) entries schema = .ok ())
    (hname : textField (R := StoreRule) entries "name" defaultStoreName = .ok store.name)
    (hdescription : textField (R := StoreRule) entries "description" "" =
      .ok store.description)
    (hcolors : paletteField entries "colors" = .ok store.colors)
    (hbrand : paletteField entries "brand" = .ok store.brand)
    (htree : treeField entries = .ok store.semantic)
    (hscales : scaleFields entries = .ok store.scales) :
    readFields entries = .ok store := by
  rw [readFields, hformat, hname, hdescription, hcolors, hbrand, htree, hscales]
  rfl

/-- The palettes and scales of a store that is read have each name once. -/
theorem distinct_of_readFields {entries : List (Scalar × Datum)} {store : TokenStore}
    (h : readFields entries = .ok store) :
    DistinctPalette store.colors ∧ DistinctPalette store.brand ∧
      ∀ kind, Entries.Distinct (store.scales.get kind) := by
  obtain ⟨-, -, hcolors, hbrand, -, hscales⟩ := fields_of_readFields h
  exact ⟨distinctPalette_of_optionalField hcolors, distinctPalette_of_optionalField hbrand,
    fun kind => distinct_of_optionalField (scaleFields_eq_ok_iff.mp hscales kind)⟩

/-! ## Restorable stores -/

/-- A store that is read from what it is written as. -/
structure IsRestorable (store : TokenStore) : Prop where
  /-- The data of the tree are classified as the tree. -/
  tree : store.root.IsRestorable
  /-- The raw palettes have each name once. -/
  colors : DistinctPalette store.colors
  /-- The brand palette has each name once. -/
  brand : DistinctPalette store.brand
  /-- Each scale has each name once. -/
  scales : ∀ kind, Entries.Distinct (store.scales.get kind)
  /-- The custom properties do not clash. -/
  names : store.checkNames = .ok ()

/-- The entries that a store is written as. -/
def written (store : TokenStore) : List (Scalar × Datum) := Datum.textEntries store.toEntries

theorem toDatum_eq (store : TokenStore) : store.toDatum = .map store.written := rfl

theorem lookup_written_scale (store : TokenStore) (kind : ScaleKind) :
    Datum.lookup kind.sourceName store.written = some (textsDatum (store.scales.get kind)) := by
  cases kind <;> rfl

/-- What a restorable store is written as is read as the store. -/
theorem ofSource_written {store : TokenStore} (h : store.IsRestorable) :
    ofSource store.written = .ok store := by
  have htree : treeField store.written = .ok store.semantic := by
    have hlookup : Datum.lookup "semantic" store.written = some store.root.toDatum := rfl
    have hbuild := Node.build_toDatum h.tree []
    rw [root, Node.toDatum] at hlookup hbuild
    rw [treeField, hlookup]
    simp only [Datum.ofEntries_eq] at hbuild ⊢
    rw [readTree, hbuild]
  have hread : readFields store.written = .ok store := by
    apply readFields_of_fields
    · rfl
    · rfl
    · rfl
    · exact optionalField_paletteDatum rfl h.colors
    · exact optionalField_paletteDatum rfl h.brand
    · exact htree
    · rw [scaleFields_eq_ok_iff]
      intro kind
      exact optionalField_textsDatum (store.lookup_written_scale kind) (h.scales kind)
  rw [ofSource, hread]
  simp only [h.names]

/-! ## Stores from data -/

/-- A store that is read from raw data, or from the tree of such a store and other fields. -/
inductive IsFromData : TokenStore → Prop
  /-- All fields are read from raw data. -/
  | source {entries : List (Scalar × Datum)} {store : TokenStore}
      (hraw : Datum.EntriesRaw entries) (h : ofSource entries = .ok store) : IsFromData store
  /-- The tree is that of a store from data, the other fields are read anew. -/
  | tree {first store : TokenStore} {fields : List (Scalar × Datum)}
      (hfirst : IsFromData first) (h : ofTree first.semantic fields = .ok store) :
      IsFromData store

/-- A store that is read is restorable when its tree is. -/
theorem isRestorable_of_ofSource {entries : List (Scalar × Datum)} {store : TokenStore}
    (h : ofSource entries = .ok store) (htree : store.root.IsRestorable) :
    store.IsRestorable := by
  obtain ⟨hread, hnames⟩ := checkNames_of_ofSource h
  obtain ⟨hcolors, hbrand, hscales⟩ := distinct_of_readFields hread
  exact ⟨htree, hcolors, hbrand, hscales, hnames⟩

/-- A tree that is read from raw data is restorable. -/
theorem isRestorable_of_readTree {location : List String} {datum : Datum}
    {children : List (String × Node)} (hraw : datum.IsRaw)
    (h : readTree location datum = .ok children) : (Node.group children).IsRestorable := by
  unfold readTree at h
  split at h
  · cases h
    exact Node.isRestorable_empty
  · exact hraw.elim
  · split at h
    · rename_i hbuild
      cases h
      exact Node.isRestorable_of_build hraw hbuild
    all_goals cases h
  · cases h
  · cases h

/-- Every store from data is restorable. -/
theorem IsFromData.isRestorable {store : TokenStore} (h : store.IsFromData) :
    store.IsRestorable := by
  induction h with
  | source hraw h =>
      apply isRestorable_of_ofSource h
      obtain ⟨-, -, -, -, htree, -⟩ := fields_of_readFields (checkNames_of_ofSource h).1
      unfold treeField at htree
      split at htree
      · rename_i value hlookup
        exact isRestorable_of_readTree
          (Datum.isRaw_of_mem hraw (Datum.mem_of_lookup hlookup)) htree
      · rw [root, ← Except.ok.inj htree]
        exact Node.isRestorable_empty
  | @tree first store fields hfirst h ih =>
      apply isRestorable_of_ofSource h
      obtain ⟨-, -, -, -, htree, -⟩ := fields_of_readFields (checkNames_of_ofSource h).1
      have hsame : first.semantic = store.semantic := Except.ok.inj htree
      rw [root, ← hsame]
      exact ih.tree

/-- What a store from data is written as is read as the same store. In particular every node
of its tree, a token with a text for each theme as well as a group with children that are
named like the themes, is classified from its own data as the node that it is. -/
theorem ofSource_toDatum {store : TokenStore} (h : store.IsFromData) :
    (∃ entries, store.toDatum = .map entries ∧ ofSource entries = .ok store) ∧
      ∀ path node place, store.find? path = some node →
        Node.build place node.toDatum = .ok node := by
  have hstore := h.isRestorable
  refine ⟨⟨store.written, store.toDatum_eq, ofSource_written hstore⟩, ?_⟩
  intro path node place hfind
  unfold find? at hfind
  split at hfind
  · cases hfind
  · exact Node.build_toDatum (Node.isRestorable_of_find? hstore.tree hfind) place

end TokenStore

namespace Sample

/-- Data with a group whose children are named like the themes, a token for one theme, and a
scale of numbers. -/
def modeEntries : List (Scalar × Datum) :=
  [(.text "semantic", .map [
      (.text "mode", .map [
        (.text "light", .map [(.text "page", .text "#ffffff")]),
        (.text "dark", .text "#000000")]),
      (.text "link", .map [(.text "light", .text "mode.dark")])]),
    (.text "spacing", .map [(.int 4, .scalar (.int 16))])]

/-- The store of these data. -/
def modeStore : TokenStore where
  semantic := [
    ("mode", .group [
      ("light", .group [("page", .leaf (.plain "#ffffff"))]),
      ("dark", .leaf (.plain "#000000"))]),
    ("link", .leaf (.variant (some "mode.dark") none))]
  scales := { spacing := [("4", "16")] }

end Sample

/-- The store with such a group is read again from what it is written as, and the group stays
a group. -/
theorem TokenStore.ofSource_toDatum_mode :
    Datum.EntriesRaw Sample.modeEntries ∧ ofSource Sample.modeEntries = .ok Sample.modeStore ∧
      (∃ entries, Sample.modeStore.toDatum = .map entries ∧
        ofSource entries = .ok Sample.modeStore) ∧
      Node.build [] (.map [
          (.text "light", .map [(.text "page", .text "#ffffff")]),
          (.text "dark", .text "#000000")]) =
        .ok (.group [
          ("light", .group [("page", .leaf (.plain "#ffffff"))]),
          ("dark", .leaf (.plain "#000000"))]) := by
  have hraw : Datum.EntriesRaw Sample.modeEntries := by
    simp [Sample.modeEntries, Datum.EntriesRaw, Datum.IsRaw, Datum.text, Datum.sameKey_text]
  have hread : ofSource Sample.modeEntries = .ok Sample.modeStore :=
    Sample.eq_ok_of_toOption (by decide +kernel)
  obtain ⟨hstore, hnodes⟩ := ofSource_toDatum (.source hraw hread)
  have hfind : Sample.modeStore.find? ["mode"] = some (.group [
      ("light", .group [("page", .leaf (.plain "#ffffff"))]),
      ("dark", .leaf (.plain "#000000"))]) := by decide +kernel
  exact ⟨hraw, hread, hstore, hnodes ["mode"] _ [] hfind⟩

end DesignTokens
