import DesignTokens.Proofs.RestoredStores
import DesignTokens.Proofs.RuleBlocks
import DesignTokens.Proofs.SortedNames

/-!
# What a stylesheet declares

With a brand theme that adds no name, a build declares a variable for each color of the merged
palette, for each entry of a scale and for each token that resolves, and no other. The text of
a stylesheet depends on nothing else but its header: not on the order in which the sets were
filled.
-/

namespace DesignTokens

/-- Each scale of an accepted store has each name once. -/
theorem TokenStore.IsAccepted.distinctScale {store : TokenStore} (h : store.IsAccepted)
    (kind : ScaleKind) : Entries.Distinct (store.scales.get kind) := by
  obtain ⟨entries, -, hsource⟩ := h
  exact (distinct_of_readFields (checkNames_of_ofSource hsource).1).2.2 kind

namespace StylesheetSource

/-- A theme has a variable with a value, and where it comes from. What does not depend on the
theme is declared for the light one. -/
inductive Declares (source : StylesheetSource) : Theme → String → String → Prop
  | brandColor {family shade color : String}
      (h : source.resolver.brandColor? family shade = some color) :
      Declares source .light (variableName [brandCategory, family, shade]) color
  | scaleEntry {kind : ScaleKind} {key value : String}
      (h : Entries.get? (source.store.scales.get kind) key = some value) :
      Declares source .light (variableName [kind.category, key]) value
  | token {theme : Theme} {path : List String} {leaf : Leaf} {value : String}
      (hleaf : source.store.find? path = some (.leaf leaf))
      (hvalue : (source.resolver.resolve (.segments path) theme).unwrap = .ok value) :
      Declares source theme (variableName path) value

variable {source : StylesheetSource}

/-- The variables of the leaves are those that the tokens declare. -/
theorem mem_emitted_iff (hstore : source.store.WellFormed) {theme : Theme} {name value : String} :
    (name, value) ∈ source.resolver.emitted theme source.store.leaves ↔
      ∃ path leaf, source.store.find? path = some (.leaf leaf) ∧
        (source.resolver.resolve (.segments path) theme).unwrap = .ok value ∧
        name = variableName path := by
  constructor
  · intro h
    obtain ⟨⟨path, leaf⟩, hleaf, hname, hvalue⟩ := source.resolver.exists_of_mem_emitted h
    exact ⟨path, leaf, TokenStore.find?_of_mem_leaves hstore.tree hleaf, hvalue, hname⟩
  · rintro ⟨path, leaf, hleaf, hvalue, rfl⟩
    exact source.resolver.mem_emitted (TokenStore.mem_leaves_of_find? hleaf) hvalue

/-- The variables of the brand palette are those that the brand colors declare. -/
theorem mem_brandVariables_iff (hstore : source.store.IsAccepted)
    (hbrand : ∀ brand ∈ source.brand, brand.IsAccepted) {name value : String} :
    (name, value) ∈ VariableSet.brandVariables source.brandPalette ↔
      ∃ family shade, source.resolver.brandColor? family shade = some value ∧
        name = variableName [brandCategory, family, shade] := by
  have hpalette : DistinctPalette source.brandPalette :=
    distinctPalette_brandPalette hstore.distinctPalette
  have hcolor := paletteColor?_brandPalette fun brand hb => (hbrand brand hb).distinctPalette
  rw [VariableSet.brandVariables_eq_map, List.mem_map]
  constructor
  · rintro ⟨⟨family, shade, color⟩, hmem, heq⟩
    rw [mem_paletteEntries_iff hpalette, hcolor] at hmem
    cases heq
    exact ⟨family, shade, hmem, rfl⟩
  · rintro ⟨family, shade, hfound, rfl⟩
    rw [← hcolor, ← mem_paletteEntries_iff hpalette] at hfound
    exact ⟨_, hfound, rfl⟩

/-- The variables of the scales are those that the scale entries declare. -/
theorem mem_scaleVariables_iff (hstore : source.store.IsAccepted) {name value : String} :
    (name, value) ∈ source.store.scaleVariables ↔
      ∃ kind key, Entries.get? (source.store.scales.get kind) key = some value ∧
        name = variableName [kind.category, key] := by
  rw [TokenStore.scaleVariables_eq_flatMap, List.mem_flatMap]
  constructor
  · rintro ⟨kind, -, hmem⟩
    obtain ⟨⟨key, held⟩, hentry, heq⟩ := List.mem_map.mp hmem
    cases heq
    exact ⟨kind, key, Entries.get?_of_mem (hstore.distinctScale kind) hentry, rfl⟩
  · rintro ⟨kind, key, hfound, rfl⟩
    exact ⟨kind, ScaleKind.mem_all kind,
      List.mem_map.mpr ⟨(key, value), Entries.mem_of_get? hfound, rfl⟩⟩

/-- A set of a build has exactly the variables that are declared for its theme. -/
theorem get?_build_iff_declares (hstore : source.store.IsAccepted)
    (hbrand : ∀ brand ∈ source.brand, brand.IsAccepted) (hcolors : source.ChangesColorsOnly)
    {sets : VariableSets} (hbuild : source.build = .ok sets) {theme : Theme}
    {name value : String} :
    (sets.forTheme theme).get? name = some value ↔ source.Declares theme name value := by
  have hwell := hstore.wellFormed
  have hdistinct := distinct_build hbuild theme
  have hmem : (sets.forTheme theme).get? name = some value ↔
      (name, value) ∈ (sets.forTheme theme).entries :=
    ⟨Entries.mem_of_get?, Entries.get?_of_mem hdistinct⟩
  rw [build_eq_of_wellFormed hwell hcolors] at hbuild
  cases hbuild
  rw [hmem]
  cases theme with
  | light =>
      simp only [VariableSets.forTheme, List.mem_append, mem_brandVariables_iff hstore hbrand,
        mem_emitted_iff hwell, mem_scaleVariables_iff hstore]
      constructor
      · rintro ((⟨family, shade, hcolor, rfl⟩ | ⟨path, leaf, hleaf, hvalue, rfl⟩) |
          ⟨kind, key, hentry, rfl⟩)
        · exact .brandColor hcolor
        · exact .token hleaf hvalue
        · exact .scaleEntry hentry
      · intro h
        cases h with
        | brandColor hcolor => exact Or.inl (Or.inl ⟨_, _, hcolor, rfl⟩)
        | scaleEntry hentry => exact Or.inr ⟨_, _, hentry, rfl⟩
        | token hleaf hvalue => exact Or.inl (Or.inr ⟨_, _, hleaf, hvalue, rfl⟩)
  | dark =>
      simp only [VariableSets.forTheme, mem_emitted_iff hwell]
      constructor
      · rintro ⟨path, leaf, hleaf, hvalue, rfl⟩
        exact .token hleaf hvalue
      · intro h
        cases h with
        | token hleaf hvalue => exact ⟨_, _, hleaf, hvalue, rfl⟩

end StylesheetSource

/-! ## One text for one content -/

/-- Distinct mappings in which every name stands for the same have the same declarations in
the same order. -/
theorem declarationLines_congr {m n : Entries String} (hm : Entries.Distinct m)
    (hn : Entries.Distinct n) (h : ∀ name, Entries.get? m name = Entries.get? n name)
    (indent : String) : declarationLines m indent = declarationLines n indent := by
  have hnames : sortNames (Entries.keys m) = sortNames (Entries.keys n) :=
    sortNames_eq_of_perm (Entries.keys_perm_of_get?_eq hm hn h)
  rw [declarationLines, declarationLines, hnames]
  simp only [h]

namespace StylesheetSource

/-- Builds that declare the same have stylesheets with the same text, if they have the same
header. -/
theorem generate_congr {first second : StylesheetSource}
    (hfirst : first.store.IsAccepted) (hsecond : second.store.IsAccepted)
    (hfirstBrand : ∀ brand ∈ first.brand, brand.IsAccepted)
    (hsecondBrand : ∀ brand ∈ second.brand, brand.IsAccepted)
    (hfirstColors : first.ChangesColorsOnly) (hsecondColors : second.ChangesColorsOnly)
    (hname : first.brand.map BrandTheme.name = second.brand.map BrandTheme.name)
    (hindent : first.indent = second.indent)
    (hdeclares : ∀ theme name value,
      first.Declares theme name value ↔ second.Declares theme name value)
    (generatedAt : Moment) :
    ∃ text, first.generate generatedAt = .ok text ∧ second.generate generatedAt = .ok text := by
  obtain ⟨sets, hbuild⟩ : ∃ sets, first.build = .ok sets := ⟨_, first.build_eq⟩
  obtain ⟨others, hother⟩ : ∃ sets, second.build = .ok sets := ⟨_, second.build_eq⟩
  have hget (theme : Theme) (name : String) :
      (sets.forTheme theme).get? name = (others.forTheme theme).get? name := by
    apply Option.ext
    intro value
    rw [get?_build_iff_declares hfirst hfirstBrand hfirstColors hbuild,
      get?_build_iff_declares hsecond hsecondBrand hsecondColors hother, hdeclares]
  have hblock (theme : Theme) : first.blockText sets theme = second.blockText others theme := by
    rw [blockText, blockText, blockBody, blockBody, hindent,
      declarationLines_congr (distinct_build hbuild theme) (distinct_build hother theme)
        (hget theme)]
  have hheader : first.headerText generatedAt = second.headerText generatedAt := by
    rw [headerText, headerText, hname]
  refine ⟨_, generate_eq hbuild hfirstBrand generatedAt, ?_⟩
  rw [generate_eq hother hsecondBrand, hheader, hblock, hblock]

end StylesheetSource

end DesignTokens
