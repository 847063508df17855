import DesignTokens.Proofs.AcceptedBrands
import DesignTokens.Proofs.BuildContents

/-!
# Names that a brand theme adds

The custom properties of a store are checked when the store is read, those that a brand theme
adds are not checked at all. They can be ill formed, and they can be those of other entries:
a leaf or a scale entry with the name of a brand color replaces it in the light set. What the
check would have refused is stated as `AddedNamesFit`; exactly with it the names of a build
are as good as those of the store alone.
-/

namespace DesignTokens

namespace StylesheetSource

variable {source : StylesheetSource}

/-- The brand palette that is written is the one that references are resolved against. -/
theorem paletteColor?_brandPalette
    (hbrand : ∀ brand ∈ source.brand, DistinctPalette brand.brand) (family shade : String) :
    TokenStore.paletteColor? source.brandPalette family shade =
      source.resolver.brandColor? family shade := by
  unfold brandPalette Resolver.brandColor? resolver
  cases hb : source.brand with
  | none => rfl
  | some brand => exact paletteColor?_mergePalettes (hbrand brand hb) _ family shade

/-- The merged palette has each family once and each shade of it. -/
theorem distinctPalette_brandPalette (hstore : DistinctPalette source.store.brand) :
    DistinctPalette source.brandPalette := by
  unfold brandPalette
  cases source.brand with
  | none => exact hstore
  | some brand => exact distinctPalette_mergePalettes hstore brand.brand

/-- The families and shades of the merged palette that the store does not have. -/
def addedShades (source : StylesheetSource) : List (String × String) :=
  (shadeNames source.brandPalette).filter fun entry =>
    (TokenStore.paletteColor? source.store.brand entry.1 entry.2).isNone

/-- The names of the variables that the brand theme adds. -/
def addedNames (source : StylesheetSource) : List String :=
  source.addedShades.map fun entry => variableName [brandCategory, entry.1, entry.2]

/-- The store with the merged palette as its own brand palette. -/
def mergedStore (source : StylesheetSource) : TokenStore :=
  { source.store with brand := source.brandPalette }

/-- The names that a brand theme adds are well formed, they are not names of the store, and
no two of them are the same. -/
structure AddedNamesFit (source : StylesheetSource) : Prop where
  /-- Every added name is well formed. -/
  valid : ∀ name ∈ source.addedNames, isVariableName name = true
  /-- No added name is that of an entry of the store. -/
  fresh : ∀ name ∈ source.addedNames, name ∉ source.store.nameSources.map NameSource.property
  /-- No two added names are the same. -/
  distinct : source.addedNames.Nodup

/-- The merged palette has the shades of the store and the added ones. -/
theorem shadeNames_brandPalette_perm (hstore : DistinctPalette source.store.brand)
    (hbrand : ∀ brand ∈ source.brand, DistinctPalette brand.brand) :
    (shadeNames source.brandPalette).Perm
      (shadeNames source.store.brand ++ source.addedShades) := by
  have hmerged : DistinctPalette source.brandPalette := distinctPalette_brandPalette hstore
  have hadded {entry : String × String} : entry ∈ source.addedShades ↔
      entry ∈ shadeNames source.brandPalette ∧ entry ∉ shadeNames source.store.brand := by
    rw [addedShades, List.mem_filter, mem_shadeNames_iff hstore, Option.isNone_iff_eq_none,
      Option.not_isSome_iff_eq_none]
  have hkept {entry : String × String} (h : entry ∈ shadeNames source.store.brand) :
      entry ∈ shadeNames source.brandPalette := by
    rw [mem_shadeNames_iff hstore] at h
    rw [mem_shadeNames_iff hmerged, paletteColor?_brandPalette hbrand, Resolver.brandColor?,
      Option.isSome_or, Bool.or_eq_true]
    exact Or.inr h
  have hboth : (shadeNames source.store.brand ++ source.addedShades).Nodup := by
    rw [List.nodup_append]
    refine ⟨nodup_shadeNames hstore, (nodup_shadeNames hmerged).filter _, ?_⟩
    rintro entry hold _ hnew rfl
    exact (hadded.mp hnew).2 hold
  rw [List.perm_ext_iff_of_nodup (nodup_shadeNames hmerged) hboth]
  intro entry
  rw [List.mem_append, hadded]
  constructor
  · intro h
    by_cases hold : entry ∈ shadeNames source.store.brand
    · exact Or.inl hold
    · exact Or.inr ⟨h, hold⟩
  · rintro (hold | hnew)
    · exact hkept hold
    · exact hnew.1

/-- The names of a build are those of the store and the added ones. -/
theorem map_property_mergedStore_perm (hstore : DistinctPalette source.store.brand)
    (hbrand : ∀ brand ∈ source.brand, DistinctPalette brand.brand) :
    (source.mergedStore.nameSources.map NameSource.property).Perm
      (source.addedNames ++ source.store.nameSources.map NameSource.property) := by
  have hshades := (shadeNames_brandPalette_perm hstore hbrand).map
    fun entry => variableName [brandCategory, entry.1, entry.2]
  rw [List.map_append, ← keys_brandVariables, ← keys_brandVariables] at hshades
  rw [TokenStore.map_property_nameSources, TokenStore.map_property_nameSources,
    List.append_assoc, List.append_assoc, ← List.append_assoc source.addedNames]
  exact (hshades.trans List.perm_append_comm).append_right _

/-- The names of a build are well formed and distinct exactly when the added names fit. -/
theorem names_mergedStore_iff (hstore : source.store.WellFormed)
    (hpalette : DistinctPalette source.store.brand)
    (hbrand : ∀ brand ∈ source.brand, DistinctPalette brand.brand) :
    ((∀ entry ∈ source.mergedStore.nameSources, isVariableName entry.property = true) ∧
      (source.mergedStore.nameSources.map NameSource.property).Nodup) ↔
        source.AddedNamesFit := by
  have hperm := map_property_mergedStore_perm hpalette hbrand
  have hvalid := hstore.valid
  rw [← List.forall_mem_map (P := fun name => isVariableName name = true)] at hvalid ⊢
  rw [hperm.nodup_iff, List.nodup_append]
  constructor
  · rintro ⟨hall, hdistinct, -, hdisjoint⟩
    refine ⟨fun name hname => hall name (hperm.mem_iff.mpr (List.mem_append_left _ hname)),
      ?_, hdistinct⟩
    intro name hname hold
    exact hdisjoint name hname name hold rfl
  · intro hfit
    refine ⟨?_, hfit.distinct, hstore.distinct, ?_⟩
    · intro name hname
      rcases List.mem_append.mp (hperm.mem_iff.mp hname) with hadded | hold
      · exact hfit.valid name hadded
      · exact hvalid name hold
    · rintro name hadded _ hold rfl
      exact hfit.fresh name hadded hold

/-- An added name is written for a brand color. -/
theorem addedNames_subset : source.addedNames ⊆
    Entries.keys (VariableSet.brandVariables source.brandPalette) := by
  rw [keys_brandVariables]
  exact List.map_subset _ (List.filter_subset_self _)

/-- The leaves and the scales write each name once. -/
theorem distinct_behindBrand (hstore : source.store.WellFormed) :
    Entries.Distinct
      (source.resolver.emitted .light source.store.leaves ++ source.store.scaleVariables) := by
  have hbehind := (List.nodup_append.mp hstore.nodup_names).2.1
  have hleaves := source.resolver.keys_emitted_sublist .light source.store.leaves
  rw [Entries.Distinct, Entries.keys_append]
  exact hbehind.sublist (hleaves.append (List.Sublist.refl _))

/-- Names of the light set are names of the merged store. -/
theorem mem_names_of_mem_light {sets : VariableSets} (hbuild : source.build = .ok sets)
    {name : String} (h : name ∈ Entries.keys sets.light.entries) :
    name ∈ source.mergedStore.nameSources.map NameSource.property := by
  rw [build_eq] at hbuild
  cases hbuild
  rw [Entries.mem_keys_putAll, Entries.keys_append, Entries.keys_append, List.mem_append,
    List.mem_append] at h
  rw [TokenStore.map_property_nameSources, List.mem_append, List.mem_append]
  rcases h with hnil | (hbrand | hleaf) | hscale
  · cases hnil
  · exact Or.inl (Or.inl hbrand)
  · exact Or.inr ((source.resolver.keys_emitted_sublist .light _).subset hleaf)
  · exact Or.inl (Or.inr hscale)

/-- Where the names of the merged store are distinct, the light set is the list of its
writes. -/
theorem entries_light_of_wellFormed (hmerged : source.mergedStore.WellFormed)
    {sets : VariableSets} (hbuild : source.build = .ok sets) :
    sets.light.entries = VariableSet.brandVariables source.brandPalette ++
      source.resolver.emitted .light source.store.leaves ++ source.store.scaleVariables ∧
    Entries.Distinct sets.light.entries := by
  have hwrites := nodup_keys_lightWrites hmerged.nodup_names
  have hentries := Entries.putAll_of_fresh (m := []) hwrites (by simp)
  rw [build_eq] at hbuild
  cases hbuild
  rw [List.nil_append] at hentries
  refine ⟨hentries, ?_⟩
  rw [hentries]
  exact hwrites

/-- The names of the light set are well formed exactly when the added ones are. -/
theorem forall_mem_light_isVariableName_iff (hstore : source.store.WellFormed)
    (hpalette : DistinctPalette source.store.brand)
    (hbrand : ∀ brand ∈ source.brand, DistinctPalette brand.brand) {sets : VariableSets}
    (hbuild : source.build = .ok sets) :
    (∀ name ∈ Entries.keys sets.light.entries, isVariableName name = true) ↔
      ∀ name ∈ source.addedNames, isVariableName name = true := by
  have hperm := map_property_mergedStore_perm hpalette hbrand
  constructor
  · intro hall name hadded
    apply hall
    rw [build_eq] at hbuild
    cases hbuild
    rw [Entries.mem_keys_putAll, Entries.keys_append, Entries.keys_append]
    exact Or.inr (List.mem_append_left _ (List.mem_append_left _ (addedNames_subset hadded)))
  · intro hadded name hname
    have hmerged := mem_names_of_mem_light hbuild hname
    rcases List.mem_append.mp (hperm.mem_iff.mp hmerged) with hnew | hold
    · exact hadded name hnew
    · obtain ⟨entry, hentry, rfl⟩ := List.mem_map.mp hold
      exact hstore.valid entry hentry

/-- Where the names of the merged store are distinct, the name of a brand color stands for the
color. -/
theorem get?_light_of_mem_paletteEntries (hmerged : source.mergedStore.WellFormed)
    {sets : VariableSets} (hbuild : source.build = .ok sets) {entry : String × String × String}
    (hentry : entry ∈ paletteEntries source.brandPalette) :
    sets.light.get? (variableName [brandCategory, entry.1, entry.2.1]) = some entry.2.2 := by
  obtain ⟨hentries, hlight⟩ := entries_light_of_wellFormed hmerged hbuild
  apply Entries.get?_of_mem hlight
  rw [hentries, VariableSet.brandVariables_eq_map]
  apply List.mem_append_left
  apply List.mem_append_left
  exact List.mem_map.mpr ⟨entry, hentry, rfl⟩

/-- In the light set leaves and scale entries go before the brand palette. -/
theorem get?_light_eq_or (hstore : source.store.WellFormed) {sets : VariableSets}
    (hbuild : source.build = .ok sets) (name : String) :
    sets.light.get? name =
      (Entries.get? (source.resolver.emitted .light source.store.leaves ++
        source.store.scaleVariables) name).or
      (Entries.get? (Entries.ofList (VariableSet.brandVariables source.brandPalette)) name) := by
  rw [build_eq] at hbuild
  cases hbuild
  change Entries.get? (Entries.putAll [] _) name = _
  rw [List.append_assoc, Entries.putAll_append, Entries.get?_putAll (distinct_behindBrand hstore)]
  rfl

/-- The names of a build with a brand theme. They are well formed and distinct, no write of
the light set replaces another one, and the name of every brand color stands for the color
that references find, if the names that the brand theme adds fit; they are well formed and
distinct only then, which the check of a store with the merged palette would have told. In
any case a leaf or a scale entry with the name of a brand color goes before it. -/
theorem build_names_iff_addedNamesFit (source : StylesheetSource)
    (hstore : source.store.IsAccepted) (hbrand : ∀ brand ∈ source.brand, brand.IsAccepted) :
    ∃ sets, source.build = .ok sets ∧
      (((∀ entry ∈ source.mergedStore.nameSources, isVariableName entry.property = true) ∧
        (source.mergedStore.nameSources.map NameSource.property).Nodup) ↔
          source.AddedNamesFit) ∧
      (source.mergedStore.checkNames = .ok () ↔ source.AddedNamesFit) ∧
      ((∀ name ∈ Entries.keys sets.light.entries, isVariableName name = true) ↔
        ∀ name ∈ source.addedNames, isVariableName name = true) ∧
      (source.AddedNamesFit →
        sets.light.entries = VariableSet.brandVariables source.brandPalette ++
          source.resolver.emitted .light source.store.leaves ++ source.store.scaleVariables ∧
        ∀ entry ∈ paletteEntries source.brandPalette,
          source.resolver.brandColor? entry.1 entry.2.1 = some entry.2.2 ∧
          sets.light.get? (variableName [brandCategory, entry.1, entry.2.1]) =
            some entry.2.2) ∧
      ∀ name, sets.light.get? name =
        (Entries.get? (source.resolver.emitted .light source.store.leaves ++
          source.store.scaleVariables) name).or
        (Entries.get? (Entries.ofList (VariableSet.brandVariables source.brandPalette)) name) := by
  have hwell := hstore.wellFormed
  have hpalette := hstore.distinctPalette
  have hpalettes : ∀ brand ∈ source.brand, DistinctPalette brand.brand :=
    fun brand h => (hbrand brand h).distinctPalette
  have hnames := names_mergedStore_iff hwell hpalette hpalettes
  have hbuild := source.build_eq
  refine ⟨_, hbuild, hnames, ?_,
    forall_mem_light_isVariableName_iff hwell hpalette hpalettes hbuild, ?_,
    get?_light_eq_or hwell hbuild⟩
  · rw [TokenStore.checkNames, checkSources_eq_ok_iff, ← hnames]
    simp only [Entries.keys_nil, List.not_mem_nil, not_false_eq_true, and_true]
  · intro hfit
    obtain ⟨hvalid, hdistinct⟩ := hnames.mpr hfit
    have hmerged : source.mergedStore.WellFormed := ⟨hwell.tree, hvalid, hdistinct⟩
    refine ⟨(entries_light_of_wellFormed hmerged hbuild).1, ?_⟩
    intro entry hentry
    refine ⟨?_, get?_light_of_mem_paletteEntries hmerged hbuild hentry⟩
    rw [← paletteColor?_brandPalette hpalettes]
    exact (mem_paletteEntries_iff (distinctPalette_brandPalette hpalette)).mp hentry

end StylesheetSource

/-! ## A taken name -/

namespace Sample

/-- A store with a token under the name of a brand color. -/
def takenStore : TokenStore where
  semantic := [("color", .group [("brand", .group [("accent", .group [
    ("500", .leaf (.plain "#111111"))])])])]

/-- A brand theme with this color. -/
def takingBrand : BrandTheme where
  id := "acme"
  name := "Acme"
  brand := [("accent", [("500", "#e11d48")])]

/-- The store with the brand theme. -/
def takenSource : StylesheetSource where
  store := takenStore
  brand := some takingBrand

theorem takenStore_isAccepted : takenStore.IsAccepted := by
  refine ⟨[(.text "semantic", .map [(.text "color", .map [(.text "brand", .map [
    (.text "accent", .map [(.text "500", .text "#111111")])])])])], ?_, eq_ok_of_toOption ?_⟩
  · simp [Datum.EntriesWellNamed, Datum.TreesWellNamed, Datum.text]
  · decide +kernel

theorem takingBrand_isAccepted : takingBrand.IsAccepted := by
  refine ⟨.map [(.text "id", .text "acme"), (.text "name", .text "Acme"),
    (.text "brand", .map [(.text "accent", .map [(.text "500", .text "#e11d48")])])],
    eq_ok_of_toOption ?_⟩
  decide +kernel

end Sample

namespace StylesheetSource

/-- Store and brand theme are accepted, the added name is well formed, and the merged palette
has the color of the brand theme. But the name is that of the token, so the check of the merged
store fails and the light set has the value of the token. -/
theorem build_names_taken :
    Sample.takenSource.store.IsAccepted ∧
      (∀ brand ∈ Sample.takenSource.brand, brand.IsAccepted) ∧
      Sample.takenSource.addedNames = ["--mond-color-brand-accent-500"] ∧
      Sample.takenSource.resolver.brandColor? "accent" "500" = some "#e11d48" ∧
      ¬ Sample.takenSource.AddedNamesFit ∧
      Sample.takenSource.mergedStore.checkNames ≠ .ok () ∧
      ∃ sets, Sample.takenSource.build = .ok sets ∧
        (∀ name ∈ Entries.keys sets.light.entries, isVariableName name = true) ∧
        sets.light.get? "--mond-color-brand-accent-500" = some "#111111" := by
  have hbrand : ∀ brand ∈ Sample.takenSource.brand, brand.IsAccepted := by
    intro brand h
    rw [Sample.takenSource, Option.mem_some_iff] at h
    exact h ▸ Sample.takingBrand_isAccepted
  have hadded : Sample.takenSource.addedNames = ["--mond-color-brand-accent-500"] := by
    decide +kernel
  have hheld : "--mond-color-brand-accent-500" ∈
      Sample.takenSource.store.nameSources.map NameSource.property := by
    decide +kernel
  have hfit : ¬ Sample.takenSource.AddedNamesFit := by
    intro hfit
    exact hfit.fresh _ (by rw [hadded]; exact List.mem_singleton_self _) hheld
  obtain ⟨sets, hbuild, -, hcheck, hvalid, -, hget⟩ :=
    build_names_iff_addedNamesFit Sample.takenSource Sample.takenStore_isAccepted hbrand
  refine ⟨Sample.takenStore_isAccepted, hbrand, hadded, by decide +kernel, hfit,
    fun hok => hfit (hcheck.mp hok), sets, hbuild, hvalid.mpr ?_, ?_⟩
  · rw [hadded]
    decide +kernel
  · rw [hget]
    decide +kernel

end StylesheetSource

end DesignTokens
