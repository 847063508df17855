import DesignTokens.Proofs.AgreeingResolvers
import DesignTokens.Proofs.BrandNames

/-!
# A brand theme as a merged palette

That a brand theme goes before the store is stated twice: a build merges both palettes
beforehand, and a resolution asks one after the other whenever a reference names a brand
color. Main statement: either way gives what the store with the merged palette gives without
a brand theme, every outcome of a resolution and both sets of a build.
-/

namespace DesignTokens

namespace Resolver

variable {first second : Resolver}

/-- Two resolvers whose references have the same targets. They may take their brand colors
from different places. -/
structure Agree (first second : Resolver) : Prop where
  /-- The tokens are the same. -/
  semantic : first.store.semantic = second.store.semantic
  /-- The raw palettes are the same. -/
  colors : first.store.colors = second.store.colors
  /-- Each family and shade has the same brand color, or none. -/
  brandColor : ∀ family shade, first.brandColor? family shade = second.brandColor? family shade
  /-- Equally many references may be followed. -/
  maxDepth : first.maxDepth = second.maxDepth

namespace Agree

/-- Resolvers with the same tokens and the same colors agree in every theme. -/
theorem agreeIn (h : Agree first second) (theme : Theme) : AgreeIn theme first second := by
  have hfind (path : List String) : first.store.find? path = second.store.find? path := by
    rw [TokenStore.find?, TokenStore.find?, TokenStore.root, TokenStore.root, h.semantic]
  refine ⟨fun path => ?_, fun path => ?_, fun _ _ => ?_, h.brandColor, h.maxDepth⟩
  · rw [textAt, textAt, hfind]
  · rw [hfind]
  · rw [h.colors]

/-- A path has the same outcome, also where it fails. -/
theorem resolve_eq (h : Agree first second) (path : TokenPath) (theme : Theme) :
    first.resolve path theme = second.resolve path theme :=
  (h.agreeIn theme).resolve_eq path

theorem emitted_eq (h : Agree first second) (theme : Theme)
    (leaves : List (List String × Leaf)) :
    first.emitted theme leaves = second.emitted theme leaves :=
  (h.agreeIn theme).emitted_eq rfl

theorem leftOut_eq (h : Agree first second) (theme : Theme)
    (leaves : List (List String × Leaf)) :
    first.leftOut theme leaves = second.leftOut theme leaves :=
  (h.agreeIn theme).leftOut_eq rfl

end Agree

end Resolver

namespace StylesheetSource

variable {source : StylesheetSource}

/-- The store with the merged palette and no brand theme. -/
def merged (source : StylesheetSource) : StylesheetSource :=
  { source with store := source.mergedStore, brand := none }

/-- A resolver of the merged store agrees with one of the store and the brand theme. -/
theorem agree_mergedStore (hbrand : ∀ brand ∈ source.brand, DistinctPalette brand.brand)
    (maxDepth : Int) :
    Resolver.Agree { store := source.store, brand := source.brand, maxDepth }
      { store := source.mergedStore, maxDepth } where
  semantic := rfl
  colors := rfl
  brandColor family shade := (paletteColor?_brandPalette hbrand family shade).symm
  maxDepth := rfl

/-- A brand theme does what a merged palette does. Every path has the same outcome at every
bound, value or failure, and a build fills the same sets and leaves out the same tokens. In
particular the merged palette has for each family and shade the color that references find,
and none where they find none. -/
theorem resolve_and_build_merged (source : StylesheetSource)
    (hbrand : ∀ brand ∈ source.brand, brand.IsAccepted) :
    (∀ (path : TokenPath) (theme : Theme) (maxDepth : Int),
      Resolver.resolve { store := source.store, brand := source.brand, maxDepth } path theme =
        Resolver.resolve { store := source.mergedStore, maxDepth } path theme) ∧
    (∃ sets, source.build = .ok sets ∧ source.merged.build = .ok sets) ∧
    ∀ family shade, TokenStore.paletteColor? source.brandPalette family shade =
      source.resolver.brandColor? family shade := by
  have hpalettes : ∀ brand ∈ source.brand, DistinctPalette brand.brand :=
    fun brand h => (hbrand brand h).distinctPalette
  have hagree := agree_mergedStore hpalettes
  refine ⟨?_, ⟨_, source.build_eq, ?_⟩, paletteColor?_brandPalette hpalettes⟩
  · intro path theme maxDepth
    exact (hagree maxDepth).resolve_eq path theme
  · have hresolver : Resolver.Agree source.resolver source.merged.resolver := hagree maxAliasDepth
    have hleaves : source.merged.store.leaves = source.store.leaves := rfl
    rw [build_eq, hleaves]
    simp only [hresolver.emitted_eq, hresolver.leftOut_eq]
    rfl

end StylesheetSource

/-! ## A chain through both palettes -/

namespace Sample

/-- A store with two brand colors, one of which refers to a family that the store does not
have, and a token that follows it. -/
def chainStore : TokenStore where
  brand := [("primary", [("500", "brand.accent.500"), ("600", "#0284c7")])]
  semantic := [("link", .leaf (.plain "brand.primary.500"))]

/-- A brand theme that adds the family and refers back to the store. -/
def chainBrand : BrandTheme where
  id := "acme"
  name := "Acme"
  brand := [("accent", [("500", "brand.primary.600")])]

/-- The store with the brand theme. -/
def chainSource : StylesheetSource where
  store := chainStore
  brand := some chainBrand

theorem chainBrand_isAccepted : chainBrand.IsAccepted := by
  refine ⟨.map [(.text "id", .text "acme"), (.text "name", .text "Acme"),
    (.text "brand", .map [(.text "accent", .map [(.text "500", .text "brand.primary.600")])])],
    eq_ok_of_toOption ?_⟩
  decide +kernel

end Sample

namespace StylesheetSource

/-- The link goes from the store to the brand theme and back to the store. With the merged
palette it has the same value at the same bound, and both sets are the same. -/
theorem resolve_and_build_merged_chain :
    let resolver : Resolver :=
      { store := Sample.chainStore, brand := some Sample.chainBrand, maxDepth := 3 }
    let merged : Resolver := { store := Sample.chainSource.mergedStore, maxDepth := 3 }
    (∀ brand ∈ Sample.chainSource.brand, brand.IsAccepted) ∧
      merged.store.brand =
        [("primary", [("500", "brand.accent.500"), ("600", "#0284c7")]),
          ("accent", [("500", "brand.primary.600")])] ∧
      (merged.resolve "link" .light).unwrap = .ok "#0284c7" ∧
      (resolver.resolve "link" .light).unwrap = .ok "#0284c7" ∧
      ∃ sets, Sample.chainSource.build = .ok sets ∧
        Sample.chainSource.merged.build = .ok sets := by
  intro resolver merged
  have hbrand : ∀ brand ∈ Sample.chainSource.brand, brand.IsAccepted := by
    intro brand h
    rw [Sample.chainSource, Option.mem_some_iff] at h
    exact h ▸ Sample.chainBrand_isAccepted
  have hmerged : (merged.resolve "link" .light).unwrap = .ok "#0284c7" :=
    Sample.eq_ok_of_toOption (by decide +kernel)
  obtain ⟨hresolve, hbuild, -⟩ := resolve_and_build_merged Sample.chainSource hbrand
  have hsame : resolver.resolve "link" .light = merged.resolve "link" .light :=
    hresolve "link" .light 3
  exact ⟨hbrand, by decide +kernel, hmerged, hsame ▸ hmerged, hbuild⟩

end StylesheetSource

end DesignTokens
