import DesignTokens.Proofs.AcceptedStores
import DesignTokens.Proofs.FilledSets
import DesignTokens.Proofs.MergedPalettes

/-!
# The contents of a build

The custom properties of an accepted store are distinct, and a brand theme that only changes
colors of the store adds none. So no write of a build replaces another one: each set is the
list of what was written, and what is not written is recorded.
-/

namespace DesignTokens

/-! ## Distinct names -/

/-- The names of a brand palette depend on its families and shades only. -/
theorem keys_brandVariables (palette : Palette) :
    Entries.keys (VariableSet.brandVariables palette) =
      (shadeNames palette).map fun entry =>
        variableName [brandCategory, entry.1, entry.2] := by
  simp [VariableSet.brandVariables, shadeNames, Entries.keys, List.map_flatMap,
    Function.comp_def]

/-- The custom properties of a store are those of its brand colors, scales and leaves. -/
theorem TokenStore.map_property_nameSources (store : TokenStore) :
    store.nameSources.map NameSource.property =
      Entries.keys (VariableSet.brandVariables store.brand) ++
        Entries.keys store.scaleVariables ++
        store.leaves.map fun leaf => variableName leaf.1 := by
  rw [nameSources, List.map_append, List.map_append, keys_brandVariables,
    ← map_paletteEntries]
  simp [scaleVariables, staticScales, VariableSet.scaleVariables, Entries.keys,
    List.map_flatMap, List.flatMap_map, Function.comp_def, NameSource.property]

/-- In the order in which they are written, the names of a store are distinct. -/
theorem TokenStore.WellFormed.nodup_names {store : TokenStore} (h : store.WellFormed) :
    (Entries.keys (VariableSet.brandVariables store.brand) ++
      ((store.leaves.map fun leaf => variableName leaf.1) ++
        Entries.keys store.scaleVariables)).Nodup := by
  have hall := h.distinct
  rw [map_property_nameSources, List.append_assoc] at hall
  exact (List.perm_append_comm.append_left _).nodup_iff.mp hall

/-- No two leaves of a store have the same name. -/
theorem TokenStore.WellFormed.nodup_leafNames {store : TokenStore} (h : store.WellFormed) :
    (store.leaves.map fun leaf => variableName leaf.1).Nodup := by
  have hbehind := (List.nodup_append.mp h.nodup_names).2.1
  exact (List.nodup_append.mp hbehind).1

/-- The names of the leaves that resolve are distinct. -/
theorem TokenStore.WellFormed.nodup_keys_emitted {store : TokenStore} (h : store.WellFormed)
    (resolver : Resolver) (theme : Theme) :
    (Entries.keys (resolver.emitted theme store.leaves)).Nodup :=
  h.nodup_leafNames.sublist (resolver.keys_emitted_sublist theme store.leaves)

namespace StylesheetSource

variable {source : StylesheetSource}

/-- A brand theme that only changes colors of the store, or none. -/
def ChangesColorsOnly (source : StylesheetSource) : Prop :=
  ∀ brand ∈ source.brand, ∀ entry ∈ paletteEntries brand.brand,
    (TokenStore.paletteColor? source.store.brand entry.1 entry.2.1).isSome = true

/-- Such a brand theme leaves the names of the brand palette as they are. -/
theorem shadeNames_brandPalette (h : source.ChangesColorsOnly) :
    shadeNames source.brandPalette = shadeNames source.store.brand := by
  unfold brandPalette
  cases hb : source.brand with
  | none => rfl
  | some brand => exact shadeNames_mergePalettes (h brand hb)

/-- The names that are written into the light set are distinct when those of the merged
palette, of all leaves and of the scales are. -/
theorem nodup_keys_lightWrites
    (h : (Entries.keys (VariableSet.brandVariables source.brandPalette) ++
      ((source.store.leaves.map fun leaf => variableName leaf.1) ++
        Entries.keys source.store.scaleVariables)).Nodup) :
    (Entries.keys (VariableSet.brandVariables source.brandPalette ++
      source.resolver.emitted .light source.store.leaves ++
      source.store.scaleVariables)).Nodup := by
  have hleaves := source.resolver.keys_emitted_sublist .light source.store.leaves
  rw [Entries.keys_append, Entries.keys_append, List.append_assoc]
  exact h.sublist ((List.Sublist.refl _).append (hleaves.append (List.Sublist.refl _)))

/-- The names that are written into the light set are distinct. -/
theorem nodup_lightNames (hstore : source.store.WellFormed) (h : source.ChangesColorsOnly) :
    (Entries.keys (VariableSet.brandVariables source.brandPalette ++
      source.resolver.emitted .light source.store.leaves ++
      source.store.scaleVariables)).Nodup := by
  apply nodup_keys_lightWrites
  rw [keys_brandVariables, shadeNames_brandPalette h, ← keys_brandVariables]
  exact hstore.nodup_names

end StylesheetSource

/-! ## Sizes -/

/-- The number of tokens that a listing tells is that of the leaves. -/
theorem StoreMetadata.semanticTokens_ofStore (store : TokenStore) :
    (StoreMetadata.ofStore store).semanticTokens = store.leaves.length := by
  simp [ofStore, TokenStore.semanticPaths]

/-- The number of scale entries that a listing tells is that of their variables. -/
theorem StoreMetadata.scaleTokens_ofStore (store : TokenStore) :
    (StoreMetadata.ofStore store).scaleTokens = store.scaleVariables.length := by
  have hcount (scales : List (String × Entries String)) (start : Nat) :
      scales.foldl (fun count scale => count + scale.2.length) start =
        start + (scales.flatMap fun scale =>
          VariableSet.scaleVariables scale.1 scale.2).length := by
    induction scales generalizing start with
    | nil => rfl
    | cons scale rest ih =>
        rw [List.foldl_cons, ih, List.flatMap_cons, List.length_append,
          VariableSet.scaleVariables, List.length_map, Nat.add_assoc]
  rw [ofStore, TokenStore.scaleVariables]
  simpa using hcount store.staticScales 0

/-- The variables of a palette, one for each entry. -/
theorem VariableSet.brandVariables_eq_map (palette : Palette) :
    brandVariables palette = (paletteEntries palette).map fun entry =>
      (variableName [brandCategory, entry.1, entry.2.1], entry.2.2) := by
  simp [brandVariables, paletteEntries, List.map_flatMap, Function.comp_def]

/-- The variables of the scales, one for each entry. -/
theorem TokenStore.scaleVariables_eq_flatMap (store : TokenStore) :
    store.scaleVariables = ScaleKind.all.flatMap fun kind =>
      (store.scales.get kind).map fun entry =>
        (variableName [kind.category, entry.1], entry.2) := by
  rw [scaleVariables, staticScales, List.flatMap_map]
  rfl

namespace StylesheetSource

/-- Where all names are distinct, a build leaves both sets as the lists of their writes. -/
theorem build_eq_of_wellFormed {source : StylesheetSource} (hstore : source.store.WellFormed)
    (hbrand : source.ChangesColorsOnly) :
    source.build = .ok
      { light :=
          { theme := .light
            entries := VariableSet.brandVariables source.brandPalette ++
              source.resolver.emitted .light source.store.leaves ++ source.store.scaleVariables
            skipped := source.resolver.leftOut .light source.store.leaves }
        dark :=
          { theme := .dark
            entries := source.resolver.emitted .dark source.store.leaves
            skipped := source.resolver.leftOut .dark source.store.leaves } } := by
  have hlight := Entries.putAll_of_fresh (m := []) (nodup_lightNames hstore hbrand) (by simp)
  have hdark := Entries.putAll_of_fresh (m := []) (hstore.nodup_keys_emitted source.resolver .dark)
    (by simp)
  rw [build_eq, hlight, hdark, List.nil_append, List.nil_append]

/-- With an accepted store and a brand theme that only changes colors of it, both sets hold
exactly what was written: the light one the entries of the merged brand palette, the leaves
that resolve and the entries of the scales, the dark one the leaves that resolve. No name
occurs twice, the records are those of the other leaves in their order, and nothing is lost
in the counts. -/
theorem build_contents (source : StylesheetSource) (hstore : source.store.IsAccepted)
    (hbrand : source.ChangesColorsOnly) :
    ∃ sets, source.build = .ok sets ∧
      sets.light.entries =
        (paletteEntries source.brandPalette).map (fun entry =>
          (variableName [brandCategory, entry.1, entry.2.1], entry.2.2)) ++
        source.resolver.emitted .light source.store.leaves ++
        ScaleKind.all.flatMap (fun kind => (source.store.scales.get kind).map fun entry =>
          (variableName [kind.category, entry.1], entry.2)) ∧
      sets.dark.entries = source.resolver.emitted .dark source.store.leaves ∧
      Entries.Distinct sets.light.entries ∧ Entries.Distinct sets.dark.entries ∧
      (∀ theme, (sets.forTheme theme).skipped =
        source.resolver.leftOut theme source.store.leaves) ∧
      sets.light.size + sets.light.skipped.length =
        (paletteEntries source.brandPalette).length +
          (StoreMetadata.ofStore source.store).semanticTokens +
          (StoreMetadata.ofStore source.store).scaleTokens ∧
      sets.dark.size + sets.dark.skipped.length =
        (StoreMetadata.ofStore source.store).semanticTokens ∧
      (StoreMetadata.ofStore source.store).semanticTokens = source.store.leaves.length := by
  have hwell := hstore.wellFormed
  have hlight := source.resolver.length_emitted_add_leftOut .light source.store.leaves
  have hdark := source.resolver.length_emitted_add_leftOut .dark source.store.leaves
  have htokens := StoreMetadata.semanticTokens_ofStore source.store
  refine ⟨_, build_eq_of_wellFormed hwell hbrand, ?_, rfl, nodup_lightNames hwell hbrand,
    hwell.nodup_keys_emitted source.resolver .dark, ?_, ?_, ?_, htokens⟩
  · rw [VariableSet.brandVariables_eq_map, TokenStore.scaleVariables_eq_flatMap]
  · intro theme
    cases theme <;> rfl
  · rw [htokens, StoreMetadata.scaleTokens_ofStore]
    simp only [VariableSet.size, List.length_append, VariableSet.brandVariables_eq_map,
      List.length_map]
    omega
  · rw [htokens]
    exact hdark

end StylesheetSource

/-- The small store with its brand color changed. -/
def Sample.source : StylesheetSource where
  store := Sample.store
  brand := some Sample.brand

/-- The light set of the small store has five variables, with the changed brand color, and
the dark set two; one token is left out of the light set and two of the dark one. -/
theorem StylesheetSource.build_contents_small :
    Sample.source.store.IsAccepted ∧ Sample.source.ChangesColorsOnly ∧
      ∃ sets, Sample.source.build = .ok sets ∧
        sets.light.entries =
          [("--mond-color-brand-primary-500", "#e11d48"), ("--mond-a-b", "#111111"),
            ("--mond-a--b", "#111111"), ("--mond-link", "#e11d48"),
            ("--mond-spacing-4", "1rem")] ∧
        sets.dark.entries = [("--mond-a-b", "#111111"), ("--mond-a--b", "#111111")] ∧
        (∀ theme, (sets.forTheme theme).skipped =
          Sample.source.resolver.leftOut theme Sample.store.leaves) ∧
        sets.light.size + sets.light.skipped.length = 1 + 4 + 1 ∧
        sets.dark.size + sets.dark.skipped.length = 4 := by
  have hcolors : Sample.source.ChangesColorsOnly := by
    intro brand hbrand entry hentry
    rw [Sample.source, Option.mem_some_iff] at hbrand
    subst hbrand
    revert entry
    decide +kernel
  obtain ⟨sets, hbuild, hlight, hdark, -, -, hskipped, hlightCount, hdarkCount, -⟩ :=
    build_contents Sample.source Sample.store_isAccepted hcolors
  refine ⟨Sample.store_isAccepted, hcolors, sets, hbuild, ?_, ?_, hskipped, ?_, ?_⟩
  · rw [hlight]
    decide +kernel
  · rw [hdark]
    decide +kernel
  · rw [hlightCount]
    decide +kernel
  · rw [hdarkCount]
    decide +kernel

end DesignTokens
