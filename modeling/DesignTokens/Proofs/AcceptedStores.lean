import DesignTokens.Proofs.OrderedEntries
import DesignTokens.Proofs.RawData
import DesignTokens.Proofs.TreeLeaves
import DesignTokens.Store.Brand
import DesignTokens.Store.Reading

/-!
# Accepted stores

A store is accepted when it is read from a source without an issue. What reading grants and
later stages rely on is stated here: no group of the semantic tree has two children of one
name, every custom property is well formed, and no two entries share one.
-/

namespace DesignTokens

/-! ## The semantic tree -/

namespace Datum

mutual

/-- Every subtree that is handed over classified is well named. A group is a mapping and
has each name once, so this holds of every datum that a caller can build. -/
def TreesWellNamed : Datum → Prop
  | node tree => tree.WellNamed
  | map entries => EntriesWellNamed entries
  | scalar _ => True
  | list _ => True
  | set _ => True
  | endless => True

/-- The same for the values of a mapping. -/
def EntriesWellNamed : List (Scalar × Datum) → Prop
  | [] => True
  | (_, value) :: rest => TreesWellNamed value ∧ EntriesWellNamed rest

end

/-- Every value of a mapping is one of which the same holds. -/
theorem treesWellNamed_of_mem {entries : List (Scalar × Datum)} (h : EntriesWellNamed entries)
    {entry : Scalar × Datum} (hmem : entry ∈ entries) : entry.2.TreesWellNamed := by
  induction entries with
  | nil => cases hmem
  | cons first rest ih =>
      rw [EntriesWellNamed] at h
      rcases List.mem_cons.mp hmem with rfl | hrest
      · exact h.1
      · exact ih h.2 hrest

end Datum

namespace Node

/-- Children that are written into a group keep being well named. -/
theorem wellNamed_group_ofList {children : List (String × Node)}
    (h : ∀ entry ∈ children, entry.2.WellNamed) :
    (group (Entries.ofList children)).WellNamed := by
  rw [WellNamed, childrenWellNamed_iff]
  refine ⟨Entries.distinct_ofList children, ?_⟩
  intro entry hmem
  rcases Entries.mem_putAll hmem with hnil | hmem
  · cases hnil
  · exact h entry hmem

mutual

/-- The tree of a datum is well named. -/
theorem wellNamed_of_build {path : List String} {datum : Datum} {node : Node}
    (hd : datum.TreesWellNamed) (h : build path datum = .ok node) : node.WellNamed := by
  cases datum with
  | node tree =>
      rw [build] at h
      cases h
      rwa [Datum.TreesWellNamed] at hd
  | scalar value =>
      rw [build] at h
      split at h
      · split at h
        · cases h
        · split at h
          · cases h
          · cases h
            exact True.intro
      · cases h
  | map entries =>
      rw [build] at h
      split at h
      · cases h
      · split at h
        · cases hv : buildVariant path entries with
          | error error => rw [hv] at h; cases h
          | ok value =>
              rw [hv] at h
              cases h
              exact True.intro
        · cases hc : buildChildren path entries with
          | error error => rw [hc] at h; cases h
          | ok children =>
              rw [hc] at h
              cases h
              rw [Datum.TreesWellNamed] at hd
              exact wellNamed_group_ofList (wellNamed_of_buildChildren hd hc)
  | list items => rw [build] at h; cases h
  | set members => rw [build] at h; cases h
  | endless => rw [build] at h; cases h

/-- The trees of the entries of a mapping are well named. -/
theorem wellNamed_of_buildChildren {path : List String} {entries : List (Scalar × Datum)}
    {children : List (String × Node)} (hd : Datum.EntriesWellNamed entries)
    (h : buildChildren path entries = .ok children) :
    ∀ entry ∈ children, entry.2.WellNamed := by
  cases entries with
  | nil =>
      rw [buildChildren] at h
      cases h
      simp
  | cons entry rest =>
      obtain ⟨key, value⟩ := entry
      rw [Datum.EntriesWellNamed] at hd
      rw [buildChildren] at h
      split at h
      · cases h
      · rename_i child hchild
        split at h
        · cases h
        · rename_i others hothers
          cases h
          rw [List.forall_mem_cons]
          exact ⟨wellNamed_of_build hd.1 hchild, wellNamed_of_buildChildren hd.2 hothers⟩

end

end Node

namespace TokenStore

/-- A tree that is read from a field is well named. -/
theorem wellNamed_of_readTree {location : List String} {datum : Datum}
    {children : List (String × Node)} (hd : datum.TreesWellNamed)
    (h : readTree location datum = .ok children) : (Node.group children).WellNamed := by
  unfold readTree at h
  split at h
  · cases h
    exact ⟨by simp [Entries.Distinct], True.intro⟩
  · cases h
    rwa [Datum.TreesWellNamed] at hd
  · split at h
    · rename_i hb
      cases h
      exact Node.wellNamed_of_build hd hb
    all_goals cases h
  · cases h
  · cases h

/-- Every field of a store that is read is what its own check gave. -/
theorem fields_of_readFields {entries : List (Scalar × Datum)} {store : TokenStore}
    (h : readFields entries = .ok store) :
    textField (R := StoreRule) entries "name" defaultStoreName = .ok store.name ∧
      textField (R := StoreRule) entries "description" "" = .ok store.description ∧
      paletteField entries "colors" = .ok store.colors ∧
      paletteField entries "brand" = .ok store.brand ∧
      treeField entries = .ok store.semantic ∧
      scaleFields entries = .ok store.scales := by
  unfold readFields at h
  obtain ⟨withTree, scales, h, hscales, hstore⟩ := Checked.and_eq_ok_iff.mp h
  obtain ⟨withBrand, tree, h, htree, htreeEq⟩ := Checked.and_eq_ok_iff.mp h
  obtain ⟨withColors, brand, h, hbrand, hbrandEq⟩ := Checked.and_eq_ok_iff.mp h
  obtain ⟨withDescription, colors, h, hcolors, hcolorsEq⟩ := Checked.and_eq_ok_iff.mp h
  obtain ⟨withName, description, h, hdescription, hdescriptionEq⟩ := Checked.and_eq_ok_iff.mp h
  obtain ⟨withFormat, name, h, hname, hnameEq⟩ := Checked.and_eq_ok_iff.mp h
  obtain ⟨start, format, h, -, hformatEq⟩ := Checked.and_eq_ok_iff.mp h
  cases h
  subst hformatEq hnameEq hdescriptionEq hcolorsEq hbrandEq htreeEq hstore
  exact ⟨hname, hdescription, hcolors, hbrand, htree, hscales⟩

/-- The format tag of a store that is read is the right one, or left out. -/
theorem formatField_of_readFields {entries : List (Scalar × Datum)} {store : TokenStore}
    (h : readFields entries = .ok store) :
    formatField (R := StoreRule) entries schema = .ok () := by
  unfold readFields at h
  obtain ⟨_, _, h, -, -⟩ := Checked.and_eq_ok_iff.mp h
  obtain ⟨_, _, h, -, -⟩ := Checked.and_eq_ok_iff.mp h
  obtain ⟨_, _, h, -, -⟩ := Checked.and_eq_ok_iff.mp h
  obtain ⟨_, _, h, -, -⟩ := Checked.and_eq_ok_iff.mp h
  obtain ⟨_, _, h, -, -⟩ := Checked.and_eq_ok_iff.mp h
  obtain ⟨_, _, h, -, -⟩ := Checked.and_eq_ok_iff.mp h
  obtain ⟨_, _, -, hformat, -⟩ := Checked.and_eq_ok_iff.mp h
  exact hformat

/-- The tree of a store that is read is well named. -/
theorem wellNamed_root_of_readFields {entries : List (Scalar × Datum)} {store : TokenStore}
    (hwell : Datum.EntriesWellNamed entries) (h : readFields entries = .ok store) :
    store.root.WellNamed := by
  obtain ⟨-, -, -, -, htree, -⟩ := fields_of_readFields h
  rw [root]
  unfold treeField at htree
  split at htree
  · rename_i value hlookup
    have hvalue := Datum.treesWellNamed_of_mem hwell (Datum.mem_of_lookup hlookup)
    exact wellNamed_of_readTree hvalue htree
  · rw [← Except.ok.inj htree]
    exact ⟨by simp [Entries.Distinct], True.intro⟩

end TokenStore

/-! ## The custom properties -/

/-- The walk through the entries accepts exactly well-formed names that are new and do not
repeat. -/
theorem checkSources_eq_ok_iff {taken : Entries NameSource} {sources : List NameSource} :
    checkSources taken sources = .ok () ↔
      (∀ source ∈ sources, isVariableName source.property = true ∧
        source.property ∉ Entries.keys taken) ∧
      (sources.map NameSource.property).Nodup := by
  induction sources generalizing taken with
  | nil => simp [checkSources]
  | cons source rest ih =>
      rw [List.forall_mem_cons, List.map_cons, List.nodup_cons]
      by_cases hv : isVariableName source.property = true
      · cases ht : Entries.get? taken source.property with
        | some first =>
            have hmem : source.property ∈ Entries.keys taken :=
              Entries.get?_isSome_iff.mp (by simp [ht])
            simp [checkSources, hv, ht, hmem]
        | none =>
            have hnew : source.property ∉ Entries.keys taken := Entries.get?_eq_none_iff.mp ht
            have hstep : checkSources taken (source :: rest) =
                checkSources ((source.property, source) :: taken) rest := by
              simp [checkSources, hv, ht]
            rw [hstep, ih]
            simp only [Entries.keys_cons, List.mem_cons, List.mem_map]
            grind
      · simp [checkSources, hv]

/-- What the stages behind reading rely on. -/
structure TokenStore.WellFormed (store : TokenStore) : Prop where
  /-- No group has two children of one name. -/
  tree : store.root.WellNamed
  /-- Every custom property is well formed. -/
  valid : ∀ source ∈ store.nameSources, isVariableName source.property = true
  /-- No custom property is that of two entries. -/
  distinct : (store.nameSources.map NameSource.property).Nodup

/-- A store that is read from a source without an issue. -/
def TokenStore.IsAccepted (store : TokenStore) : Prop :=
  ∃ entries, Datum.EntriesWellNamed entries ∧ ofSource entries = .ok store

/-- Reading grants what the later stages rely on. -/
theorem TokenStore.IsAccepted.wellFormed {store : TokenStore} (h : store.IsAccepted) :
    store.WellFormed := by
  obtain ⟨entries, hwell, hsource⟩ := h
  obtain ⟨hread, hnames⟩ := checkNames_of_ofSource hsource
  obtain ⟨hvalid, hdistinct⟩ := checkSources_eq_ok_iff.mp hnames
  exact ⟨wellNamed_root_of_readFields hwell hread, fun source hs => (hvalid source hs).1,
    hdistinct⟩

/-! ## A small store

A brand color, a scale, a token that follows the brand color in one theme only, a gradient,
and two tokens whose dotted texts lead to the same place. -/

namespace Sample

/-- The source of the small store. -/
def entries : List (Scalar × Datum) :=
  [(.text "brand", .map [(.text "primary", .map [(.text "500", .text "#0ea5e9")])]),
    (.text "semantic", .map [
      (.text "a", .map [
        (.text "b", .text "#111111"),
        (.text "", .map [(.text "b", .text "#222222")])]),
      (.text "link", .map [(.text "light", .text "brand.primary.500")]),
      (.text "fade", .text "linear-gradient(link.x, a.b)")]),
    (.text "spacing", .map [(.text "4", .text "1rem")])]

/-- The small store. -/
def store : TokenStore where
  brand := [("primary", [("500", "#0ea5e9")])]
  semantic := [
    ("a", .group [("b", .leaf (.plain "#111111")), ("", .group [("b", .leaf (.plain "#222222"))])]),
    ("link", .leaf (.variant (some "brand.primary.500") none)),
    ("fade", .leaf (.plain "linear-gradient(link.x, a.b)"))]
  scales := { spacing := [("4", "1rem")] }

/-- A brand theme that changes the brand color of the small store. -/
def brand : BrandTheme where
  id := "acme"
  name := "Acme"
  brand := [("primary", [("500", "#e11d48")])]

/-- Outcomes are compared as options, where equality is decidable. -/
theorem eq_ok_of_toOption {ε α : Type} {outcome : Except ε α} {value : α}
    (h : outcome.toOption = some value) : outcome = .ok value := by
  cases outcome with
  | error reason => cases h
  | ok found => rw [Option.some.inj h]

theorem store_isAccepted : store.IsAccepted := by
  refine ⟨entries, ?_, eq_ok_of_toOption ?_⟩
  · simp [entries, Datum.EntriesWellNamed, Datum.TreesWellNamed, Datum.text]
  · decide +kernel

end Sample

end DesignTokens
