import DesignTokens.Proofs.AgreeingResolvers
import DesignTokens.Proofs.DeclaredVariables

/-!
# Stores with more tokens

A store is extended by one with the same palettes and scales that has every token of it at its
path, and more tokens besides. A new token takes no reference away from the palettes or from an
old token, and no variable, since the names of an accepted store are distinct. Main statement:
what resolves in a store resolves to the same value in every extension of it, and a build of
the extension keeps every variable.
-/

namespace DesignTokens

namespace Resolver

/-- A second resolver that has every token of the first one, and the same colors. -/
structure ExtendedBy (first second : Resolver) : Prop where
  /-- Every token is there at its path. -/
  tokens : ∀ path leaf, first.store.find? path = some (.leaf leaf) →
    second.store.find? path = some (.leaf leaf)
  /-- Each family and shade has the same raw color, or none. -/
  rawColor : ∀ family shade, TokenStore.paletteColor? first.store.colors family shade =
    TokenStore.paletteColor? second.store.colors family shade
  /-- Each family and shade has the same brand color, or none. -/
  brandColor : ∀ family shade, first.brandColor? family shade = second.brandColor? family shade
  /-- Equally many references may be followed. -/
  maxDepth : first.maxDepth = second.maxDepth

namespace ExtendedBy

variable {first second : Resolver} {theme : Theme}

/-- A path that has a text keeps it. -/
theorem textAt_ok (h : ExtendedBy first second) {path text : String}
    (ht : first.textAt theme path = .ok text) : second.textAt theme path = .ok text := by
  obtain ⟨leaf, hleaf, htext⟩ := textAt_eq_ok_iff.mp ht
  exact textAt_eq_ok_iff.mpr ⟨leaf, h.tokens _ leaf hleaf, htext⟩

/-- A reference that has a target keeps it: colors go before tokens in both stores, and where
no color has the name the old token is found. -/
theorem target_ok (h : ExtendedBy first second) {reference next : String}
    (ht : first.target theme reference = .ok next) :
    second.target theme reference = .ok next := by
  have hcolor := colorTarget?_congr h.rawColor h.brandColor reference
  unfold target at ht ⊢
  rw [hcolor] at ht
  cases hfound : second.colorTarget? reference with
  | some color => rwa [hfound] at ht
  | none =>
      simp only [hfound] at ht ⊢
      split at ht
      · obtain ⟨leaf, hleaf, -⟩ := textAt_eq_ok_iff.mp ht
        rw [h.tokens _ leaf hleaf, Option.isSome_some, if_pos rfl]
        exact h.textAt_ok ht
      · cases ht

/-- A text that resolves within a number of steps keeps its value. Each reference in it leads
to the same text, so the induction is on the steps that are left. -/
theorem resolveText_ok (h : ExtendedBy first second) {steps : Nat} {raw value : String}
    (hv : first.resolveText theme steps raw = .ok value) :
    second.resolveText theme steps raw = .ok value := by
  induction steps generalizing raw value with
  | zero => cases hv
  | succ steps ih =>
      have hfollow {reference value : String}
          (hf : first.follow theme steps reference = .ok value) :
          second.follow theme steps reference = .ok value := by
        unfold follow at hf ⊢
        cases ht : first.target theme reference with
        | error cause => rw [ht] at hf; cases hf
        | ok next =>
            rw [ht] at hf
            rw [h.target_ok ht]
            exact ih hf
      rw [resolveText_succ] at hv ⊢
      split at hv
      · cases hv
      · rename_i hempty
        rw [if_neg hempty]
        split at hv
        · rename_i hgradient
          rw [if_pos hgradient]
          cases hout : expandPieces
              (fun name => first.follow theme steps (String.ofList name))
              (pieces (Text.strip raw).toList) with
          | error cause => rw [hout] at hv; cases hv
          | ok out =>
              rw [hout] at hv
              obtain ⟨found, hfound, hfill⟩ := eq_fill_of_expandPieces hout
              rw [expandPieces_eq_fill fun name hname => hfollow (hfound name hname), ← hfill]
              exact hv
        · rename_i hgradient
          rw [if_neg hgradient]
          split at hv
          · rename_i hreference
            rw [if_pos hreference]
            exact hfollow hv
          · rename_i hreference
            rw [if_neg hreference]
            exact hv

/-- A path that resolves keeps its value. -/
theorem unwrap_resolve_ok (h : ExtendedBy first second) {path : TokenPath} {value : String}
    (hv : (first.resolve path theme).unwrap = .ok value) :
    (second.resolve path theme).unwrap = .ok value := by
  have hsteps : first.steps = second.steps := by rw [steps, steps, h.maxDepth]
  rw [unwrap_resolve_eq_ok_iff, resolvePath_eq_ok_iff] at hv ⊢
  obtain ⟨leaf, text, hleaf, htext, hvalue⟩ := hv
  rw [hsteps] at hvalue
  exact ⟨leaf, text, h.tokens _ leaf hleaf, htext, h.resolveText_ok hvalue⟩

end ExtendedBy

end Resolver

/-- A second store with the same palettes and scales that has every token of the first one at
its path. Groups may have more children, in any order. -/
structure TokenStore.ExtendedBy (small large : TokenStore) : Prop where
  /-- Each family and shade has the same raw color, or none. -/
  colors : ∀ family shade, paletteColor? small.colors family shade =
    paletteColor? large.colors family shade
  /-- Each family and shade has the same color in the brand palette, or none. -/
  brand : ∀ family shade, paletteColor? small.brand family shade =
    paletteColor? large.brand family shade
  /-- Each entry of a scale has the same value. -/
  scales : ∀ kind key, Entries.get? (small.scales.get kind) key =
    Entries.get? (large.scales.get kind) key
  /-- Every token is the same token at the same path. -/
  tokens : ∀ path leaf, small.find? path = some (.leaf leaf) →
    large.find? path = some (.leaf leaf)

namespace TokenStore.ExtendedBy

variable {small large : TokenStore}

/-- With brand themes of the same colors, a resolver of the extension extends one of the
store. -/
theorem resolver (h : small.ExtendedBy large) {brand other : Option BrandTheme}
    (hbrand : ∀ family shade,
      (brand.bind fun active => paletteColor? active.brand family shade) =
        other.bind fun active => paletteColor? active.brand family shade)
    (maxDepth : Int) :
    Resolver.ExtendedBy { store := small, brand, maxDepth }
      { store := large, brand := other, maxDepth } where
  tokens := h.tokens
  rawColor := h.colors
  brandColor family shade := by
    rw [Resolver.brandColor?, Resolver.brandColor?, hbrand, h.brand]
  maxDepth := rfl

end TokenStore.ExtendedBy

namespace StylesheetSource

/-- What is declared stays declared in an extension, with brand themes of the same colors. -/
theorem Declares.extendedBy {first second : StylesheetSource} {theme : Theme}
    {name value : String} (hd : first.Declares theme name value)
    (h : first.store.ExtendedBy second.store)
    (hbrand : ∀ family shade,
      (first.brand.bind fun active => TokenStore.paletteColor? active.brand family shade) =
        second.brand.bind fun active => TokenStore.paletteColor? active.brand family shade) :
    second.Declares theme name value := by
  have hresolver : Resolver.ExtendedBy first.resolver second.resolver :=
    h.resolver hbrand maxAliasDepth
  cases hd with
  | brandColor hcolor =>
      apply Declares.brandColor
      rwa [← hresolver.brandColor]
  | scaleEntry hentry =>
      apply Declares.scaleEntry
      rwa [← h.scales]
  | token hleaf hvalue =>
      apply Declares.token (h.tokens _ _ hleaf)
      exact hresolver.unwrap_resolve_ok hvalue

/-- Tokens that are added change nothing of what is there. Every path that resolves in a store
resolves to the same value in an extension of it, in either theme, with every brand theme and
at every bound; and without a brand theme each set of a build of the extension has every
variable of the set that the store gives, with the same value. -/
theorem resolve_and_build_extended {small large : TokenStore} (hsmall : small.IsAccepted)
    (hlarge : large.IsAccepted) (h : small.ExtendedBy large) :
    (∀ (brand : Option BrandTheme) (maxDepth : Int) (path : TokenPath) (theme : Theme)
      (value : String),
      (Resolver.resolve { store := small, brand, maxDepth } path theme).unwrap = .ok value →
      (Resolver.resolve { store := large, brand, maxDepth } path theme).unwrap = .ok value) ∧
    ∃ sets more, build { store := small } = .ok sets ∧ build { store := large } = .ok more ∧
      ∀ theme name value, (sets.forTheme theme).get? name = some value →
        (more.forTheme theme).get? name = some value := by
  constructor
  · intro brand maxDepth path theme value hvalue
    exact (h.resolver (fun _ _ => rfl) maxDepth).unwrap_resolve_ok hvalue
  · have hbrand : ∀ brand ∈ (none : Option BrandTheme), brand.IsAccepted := by
      intro brand hmem
      cases hmem
    have hcolors (store : TokenStore) : ChangesColorsOnly { store } := by
      intro brand hmem
      cases hmem
    have hbuild := build_eq { store := small }
    have hmore := build_eq { store := large }
    refine ⟨_, _, hbuild, hmore, ?_⟩
    intro theme name value hget
    rw [get?_build_iff_declares hsmall hbrand (hcolors small) hbuild] at hget
    rw [get?_build_iff_declares hlarge hbrand (hcolors large) hmore]
    exact hget.extendedBy h fun _ _ => rfl

end StylesheetSource

/-! ## A token with the name of a color -/

namespace Sample

/-- A store with a token that follows a raw color, and one that follows the token. -/
def grayStore : TokenStore where
  colors := [("gray", [("500", "#6b7280")])]
  semantic := [
    ("text", .group [("muted", .leaf (.variant none (some "gray.500")))]),
    ("border", .leaf (.plain "text.muted"))]

/-- The store with more tokens: one at the path of the raw color, and one beside each token,
before it in the order. -/
def grayExtension : TokenStore where
  colors := [("gray", [("500", "#6b7280")])]
  semantic := [
    ("gray", .group [("500", .leaf (.plain "#ffffff"))]),
    ("border", .leaf (.plain "text.muted")),
    ("text", .group [
      ("primary", .leaf (.plain "gray.900")),
      ("muted", .leaf (.variant none (some "gray.500")))])]

theorem grayStore_isAccepted : grayStore.IsAccepted := by
  refine ⟨[(.text "colors", .map [(.text "gray", .map [(.text "500", .text "#6b7280")])]),
    (.text "semantic", .map [
      (.text "text", .map [(.text "muted", .map [(.text "dark", .text "gray.500")])]),
      (.text "border", .text "text.muted")])], ?_, eq_ok_of_toOption ?_⟩
  · simp [Datum.EntriesWellNamed, Datum.TreesWellNamed, Datum.text]
  · decide +kernel

theorem grayExtension_isAccepted : grayExtension.IsAccepted := by
  refine ⟨[(.text "colors", .map [(.text "gray", .map [(.text "500", .text "#6b7280")])]),
    (.text "semantic", .map [
      (.text "gray", .map [(.text "500", .text "#ffffff")]),
      (.text "border", .text "text.muted"),
      (.text "text", .map [
        (.text "primary", .text "gray.900"),
        (.text "muted", .map [(.text "dark", .text "gray.500")])])])], ?_, eq_ok_of_toOption ?_⟩
  · simp [Datum.EntriesWellNamed, Datum.TreesWellNamed, Datum.text]
  · decide +kernel

theorem grayStore_extendedBy : grayStore.ExtendedBy grayExtension where
  colors _ _ := rfl
  brand _ _ := rfl
  scales _ _ := rfl
  tokens := by
    have hall : ∀ found ∈ grayStore.leaves,
        grayExtension.find? found.1 = some (.leaf found.2) := by
      decide +kernel
    intro path leaf hfind
    exact hall (path, leaf) (TokenStore.mem_leaves_of_find? hfind)

end Sample

namespace StylesheetSource

/-- The border follows the raw color, also where a token has the path of the color, and its
variable keeps the value. -/
theorem resolve_and_build_extended_gray :
    Sample.grayStore.IsAccepted ∧ Sample.grayExtension.IsAccepted ∧
      Sample.grayStore.ExtendedBy Sample.grayExtension ∧
      (Resolver.resolve { store := Sample.grayStore } "border" .dark).unwrap = .ok "#6b7280" ∧
      (Resolver.resolve { store := Sample.grayExtension } "border" .dark).unwrap =
        .ok "#6b7280" ∧
      ∃ more, build { store := Sample.grayExtension } = .ok more ∧
        more.dark.get? "--mond-border" = some "#6b7280" := by
  have hok : (Resolver.resolve { store := Sample.grayStore } "border" .dark).unwrap =
      .ok "#6b7280" := Sample.eq_ok_of_toOption (by decide +kernel)
  obtain ⟨hresolve, sets, more, hbuild, hmore, hkept⟩ :=
    resolve_and_build_extended Sample.grayStore_isAccepted Sample.grayExtension_isAccepted
      Sample.grayStore_extendedBy
  have hvalue : (build { store := Sample.grayStore }).toOption.bind
      (fun sets => sets.dark.get? "--mond-border") = some "#6b7280" := by
    decide +kernel
  rw [hbuild] at hvalue
  exact ⟨Sample.grayStore_isAccepted, Sample.grayExtension_isAccepted,
    Sample.grayStore_extendedBy, hok, hresolve none maxAliasDepth "border" .dark _ hok, more,
    hmore, hkept .dark _ _ hvalue⟩

end StylesheetSource

end DesignTokens
