import DesignTokens.Proofs.BrandNames
import DesignTokens.Proofs.EmbeddedReferences
import DesignTokens.Proofs.RuleBlocks

/-!
# Settled values

A value is settled when something is left of it after stripping and this is no reference.
Whatever a token resolves to is settled, so the dark set holds settled values only. Colors of
the brand palette and scale entries are written into the light set as the store has them, and
they are not checked: they may be blank, or refer to a color that nobody looks up. The main
statement says exactly when both sets are settled.
-/

namespace DesignTokens

/-- The value is not blank and does not refer to anything. -/
def IsSettled (value : String) : Prop :=
  Text.strip value ≠ "" ∧ isReference (Text.strip value) = false

instance : DecidablePred IsSettled := fun _ => inferInstanceAs (Decidable (_ ∧ _))

/-! ## Stripped texts -/

namespace Text

/-- A stripped text does not start with a blank. -/
theorem isBlank_of_mem_head?_stripChars {s : List Char} {c : Char}
    (h : c ∈ (stripChars s).head?) : isBlank c = false := by
  have hprefix : stripChars s <+: dropBlanks s := by
    have hsuffix : dropBlanks (dropBlanks s).reverse <:+ (dropBlanks s).reverse :=
      List.dropWhile_suffix _
    rwa [← List.reverse_prefix, List.reverse_reverse] at hsuffix
  obtain ⟨rest, hrest⟩ := hprefix
  cases hs : stripChars s with
  | nil => rw [hs] at h; cases h
  | cons d more =>
      rw [hs, List.head?_cons, Option.mem_some_iff] at h
      subst h
      rw [hs, List.cons_append] at hrest
      exact isBlank_head_dropBlanks hrest.symm

/-- A stripped text does not end with a blank. -/
theorem isBlank_of_mem_getLast?_stripChars {s : List Char} {c : Char}
    (h : c ∈ (stripChars s).getLast?) : isBlank c = false := by
  rw [stripChars, List.getLast?_reverse] at h
  cases hs : dropBlanks (dropBlanks s).reverse with
  | nil => rw [hs] at h; cases h
  | cons d more =>
      rw [hs, List.head?_cons, Option.mem_some_iff] at h
      exact h ▸ isBlank_head_dropBlanks hs

/-- Stripping again changes nothing. -/
theorem strip_strip (s : String) : strip (strip s) = strip s := by
  have hchars : (strip s).toList = stripChars s.toList := String.toList_ofList
  apply strip_eq_self
  · intro c hc
    exact isBlank_of_mem_head?_stripChars (hchars ▸ hc)
  · intro c hc
    exact isBlank_of_mem_getLast?_stripChars (hchars ▸ hc)

/-- A start without blanks at its ends stays in front of what is stripped. -/
theorem prefix_stripChars {start s : List Char} (h : start <+: s)
    (hfirst : ∀ c ∈ start.head?, isBlank c = false)
    (hlast : ∀ c ∈ start.getLast?, isBlank c = false) : start <+: stripChars s := by
  obtain ⟨rest, rfl⟩ := h
  cases start with
  | nil => exact List.nil_prefix
  | cons d more =>
      have hfront : dropBlanks (d :: more ++ rest) = d :: more ++ rest := dropBlanks_eq_self hfirst
      have hback : dropBlanks (d :: more).reverse = (d :: more).reverse := by
        apply dropBlanks_eq_self
        rwa [List.head?_reverse]
      rw [stripChars, hfront, List.reverse_append, dropBlanks, List.dropWhile_append]
      split
      · change _ <+: (dropBlanks (d :: more).reverse).reverse
        rewrite [hback, List.reverse_reverse]
        exact List.prefix_rfl
      · rw [List.reverse_append, List.reverse_reverse]
        exact List.prefix_append _ _

end Text

/-! ## Gradients -/

/-- A gradient starts in one of the given ways. -/
theorem isGradient_iff {value : String} :
    isGradient value = true ↔ ∃ start ∈ gradientStarts, start.toList <+: value.toList := by
  simp only [isGradient, startsWithAny, List.any_eq_true, List.isPrefixOf_iff_prefix]

/-- No start of a gradient has a blank at one of its ends. -/
theorem isBlank_ends_gradientStart {start : String} (h : start ∈ gradientStarts) :
    (∀ c ∈ start.toList.head?, Text.isBlank c = false) ∧
      ∀ c ∈ start.toList.getLast?, Text.isBlank c = false := by
  have hends : ∀ start ∈ gradientStarts,
      start.toList.head?.all (fun c => !Text.isBlank c) = true ∧
        start.toList.getLast?.all (fun c => !Text.isBlank c) = true := by
    decide +kernel
  simpa only [Option.all_eq_true, Option.mem_def, Bool.not_eq_true'] using hends start h

/-- A stripped gradient is a gradient. -/
theorem isGradient_strip {value : String} (h : isGradient value = true) :
    isGradient (Text.strip value) = true := by
  obtain ⟨start, hstart, hprefix⟩ := isGradient_iff.mp h
  obtain ⟨hfirst, hlast⟩ := isBlank_ends_gradientStart hstart
  refine isGradient_iff.mpr ⟨start, hstart, ?_⟩
  rw [Text.strip, String.toList_ofList]
  exact Text.prefix_stripChars hprefix hfirst hlast

/-- A gradient is settled. -/
theorem isSettled_of_isGradient {value : String} (h : isGradient value = true) :
    IsSettled value := by
  have hstrip := isGradient_strip h
  have hliteral : isLiteral (Text.strip value) = true := by
    have hstarts : startsWithAny gradientStarts (Text.strip value).toList = true := hstrip
    simp only [isLiteral, hstarts, Bool.or_true, Bool.true_or]
  refine ⟨?_, by rw [isReference, hliteral]; rfl⟩
  intro hempty
  rw [hempty] at hstrip
  revert hstrip
  decide

/-- A gradient keeps its start when its references are replaced. -/
theorem prefix_fill {start : String} (hstart : start ∈ gradientStarts) {s : List Char}
    (h : start.toList <+: s) (value : List Char → String) :
    start.toList <+: fill value (pieces s) := by
  -- The parenthesis at the end of a start is a boundary, and no reference is before it.
  have hcut : ∀ start ∈ gradientStarts, start.toList = start.toList.dropLast ++ ['('] ∧
      pieces start.toList.dropLast = start.toList.dropLast.map Piece.char := by
    decide +kernel
  obtain ⟨rest, hrest⟩ := h
  obtain ⟨hopen, hname⟩ := hcut start hstart
  generalize start.toList.dropLast = name at hopen hname
  have hchars : fill value (name.map Piece.char) = name := by
    simp [fill, List.flatMap_map]
  have hpieces : pieces s = name.map Piece.char ++ .char '(' :: pieces rest := by
    rw [← hrest, hopen, List.append_assoc, List.singleton_append,
      pieces_append_boundary (by decide), hname]
  have hfill : fill value (pieces s) = start.toList ++ fill value (pieces rest) := by
    rw [hpieces, fill, List.flatMap_append]
    change fill value (name.map Piece.char) ++ ('(' :: fill value (pieces rest)) = _
    rw [hchars, hopen, List.append_assoc, List.singleton_append]
  rw [hfill]
  exact List.prefix_append _ _

/-- A gradient stays one when its references are replaced. -/
theorem isGradient_fill {raw : String} (h : isGradient raw = true)
    (value : List Char → String) :
    isGradient (String.ofList (fill value (pieces raw.toList))) = true := by
  obtain ⟨start, hstart, hprefix⟩ := isGradient_iff.mp h
  refine isGradient_iff.mpr ⟨start, hstart, ?_⟩
  rw [String.toList_ofList]
  exact prefix_fill hstart hprefix value

/-! ## Resolved values -/

/-- Whatever a text stands for is settled. -/
theorem isSettled_of_denotes {store : TokenStore} {brand : Option BrandTheme} {theme : Theme}
    {raw value : String} {height : Nat} (h : Denotes store brand theme raw value height) :
    IsSettled value := by
  induction h with
  | literal hne hgradient hreference =>
      rw [IsSettled, Text.strip_strip]
      exact ⟨hne, hreference⟩
  | reference hgradient hreference hnext hvalue ih => exact ih
  | gradient hgradient hnext hvalue ih =>
      exact isSettled_of_isGradient (isGradient_fill hgradient _)

namespace StylesheetSource

variable {source : StylesheetSource}

/-- What is written for the leaves is settled. -/
theorem isSettled_of_mem_emitted {theme : Theme} {entry : String × String}
    (h : entry ∈ source.resolver.emitted theme source.store.leaves) : IsSettled entry.2 := by
  obtain ⟨leaf, -, -, hvalue⟩ := source.resolver.exists_of_mem_emitted h
  rw [Resolver.unwrap_resolve_eq_ok_iff, Resolver.resolvePath_eq_ok_iff] at hvalue
  obtain ⟨_, text, -, -, htext⟩ := hvalue
  obtain ⟨height, hdenotes, -⟩ := Resolver.resolveText_eq_ok_iff.mp htext
  exact isSettled_of_denotes hdenotes

/-- The name of a scale entry stands for its value in the light set. -/
theorem get?_light_of_mem_scale (hstore : source.store.WellFormed) {sets : VariableSets}
    (hbuild : source.build = .ok sets) {kind : ScaleKind} {entry : String × String}
    (h : entry ∈ source.store.scales.get kind) :
    sets.light.get? (variableName [kind.category, entry.1]) = some entry.2 := by
  have hscale : (variableName [kind.category, entry.1], entry.2) ∈ source.store.scaleVariables := by
    rw [TokenStore.scaleVariables_eq_flatMap]
    exact List.mem_flatMap.mpr ⟨kind, ScaleKind.mem_all kind, List.mem_map.mpr ⟨entry, h, rfl⟩⟩
  rw [get?_light_eq_or hstore hbuild,
    Entries.get?_of_mem (distinct_behindBrand hstore) (List.mem_append_right _ hscale),
    Option.some_or]

/-- A variable of the light set is a color of the merged palette, the value of a leaf, or a
scale entry. -/
theorem mem_light_cases {sets : VariableSets} (hbuild : source.build = .ok sets)
    {entry : String × String} (h : entry ∈ sets.light.entries) :
    (∃ color ∈ paletteEntries source.brandPalette,
      entry = (variableName [brandCategory, color.1, color.2.1], color.2.2)) ∨
    entry ∈ source.resolver.emitted .light source.store.leaves ∨
    ∃ kind, ∃ scale ∈ source.store.scales.get kind,
      entry = (variableName [kind.category, scale.1], scale.2) := by
  rw [build_eq] at hbuild
  cases hbuild
  rcases Entries.mem_putAll h with hnil | hwritten
  · cases hnil
  rcases List.mem_append.mp hwritten with hfront | hscale
  · rcases List.mem_append.mp hfront with hcolor | hleaf
    · rw [VariableSet.brandVariables_eq_map] at hcolor
      obtain ⟨color, hmem, rfl⟩ := List.mem_map.mp hcolor
      exact Or.inl ⟨color, hmem, rfl⟩
    · exact Or.inr (Or.inl hleaf)
  · rw [TokenStore.scaleVariables_eq_flatMap] at hscale
    obtain ⟨kind, -, hkind⟩ := List.mem_flatMap.mp hscale
    obtain ⟨scale, hmem, rfl⟩ := List.mem_map.mp hkind
    exact Or.inr (Or.inr ⟨kind, scale, hmem, rfl⟩)

/-- The name of a color stands for the color in the light set. -/
def Stands (source : StylesheetSource) (sets : VariableSets)
    (color : String × String × String) : Prop :=
  color ∈ paletteEntries source.brandPalette ∧
    sets.light.get? (variableName [brandCategory, color.1, color.2.1]) = some color.2.2

/-- A variable of the dark set is the value of a leaf. -/
theorem mem_emitted_of_mem_dark {sets : VariableSets} (hbuild : source.build = .ok sets)
    {entry : String × String} (h : entry ∈ sets.dark.entries) :
    entry ∈ source.resolver.emitted .dark source.store.leaves := by
  rw [build_eq] at hbuild
  cases hbuild
  rcases Entries.mem_putAll h with hnil | hleaf
  · cases hnil
  · exact hleaf

/-- The dark set holds settled values only. -/
theorem isSettled_of_mem_dark {sets : VariableSets} (hbuild : source.build = .ok sets)
    {entry : String × String} (h : entry ∈ sets.dark.entries) : IsSettled entry.2 :=
  isSettled_of_mem_emitted (mem_emitted_of_mem_dark hbuild h)

/-- Both sets are settled exactly when the scale entries are and the colors that their names
stand for. -/
theorem forall_isSettled_iff (hstore : source.store.WellFormed) {sets : VariableSets}
    (hbuild : source.build = .ok sets) :
    (∀ theme, ∀ entry ∈ (sets.forTheme theme).entries, IsSettled entry.2) ↔
      (∀ kind, ∀ entry ∈ source.store.scales.get kind, IsSettled entry.2) ∧
        ∀ color, source.Stands sets color → IsSettled color.2.2 := by
  constructor
  · intro hall
    have hget {name value : String} (h : sets.light.get? name = some value) : IsSettled value :=
      hall .light (name, value) (Entries.mem_of_get? h)
    constructor
    · intro kind entry h
      exact hget (get?_light_of_mem_scale hstore hbuild h)
    · intro color h
      exact hget h.2
  · rintro ⟨hscales, hcolors⟩ theme entry hentry
    cases theme with
    | dark => exact isSettled_of_mem_dark hbuild hentry
    | light =>
        have hlight : Entries.Distinct sets.light.entries := distinct_build hbuild .light
        rcases mem_light_cases hbuild hentry with
          ⟨color, hmem, rfl⟩ | hleaf | ⟨kind, scale, hmem, rfl⟩
        · exact hcolors color ⟨hmem, Entries.get?_of_mem hlight hentry⟩
        · exact isSettled_of_mem_emitted hleaf
        · exact hscales kind scale hmem

/-- The values of a build. Those of the dark set, and in both sets those of tokens, are
settled. All values are settled exactly when the scale entries are and the brand colors that
their names stand for. Where the names that the brand theme adds fit, these are all colors of
the merged palette. -/
theorem build_isSettled_iff (source : StylesheetSource) (hstore : source.store.IsAccepted)
    (hbrand : ∀ brand ∈ source.brand, brand.IsAccepted) :
    ∃ sets, source.build = .ok sets ∧
      (∀ entry ∈ sets.dark.entries, IsSettled entry.2) ∧
      (∀ theme, ∀ entry ∈ source.resolver.emitted theme source.store.leaves,
        IsSettled entry.2) ∧
      ((∀ theme, ∀ entry ∈ (sets.forTheme theme).entries, IsSettled entry.2) ↔
        (∀ kind, ∀ entry ∈ source.store.scales.get kind, IsSettled entry.2) ∧
          ∀ color, source.Stands sets color → IsSettled color.2.2) ∧
      (source.AddedNamesFit →
        ∀ color ∈ paletteEntries source.brandPalette, source.Stands sets color) := by
  have hwell := hstore.wellFormed
  obtain ⟨sets, hbuild⟩ : ∃ sets, source.build = .ok sets := ⟨_, source.build_eq⟩
  refine ⟨sets, hbuild, ?_, ?_, forall_isSettled_iff hwell hbuild, ?_⟩
  · intro entry hentry
    exact isSettled_of_mem_dark hbuild hentry
  · intro theme entry hentry
    exact isSettled_of_mem_emitted hentry
  · intro hfit color hmem
    have hpalettes : ∀ brand ∈ source.brand, DistinctPalette brand.brand := by
      intro brand h
      exact (hbrand brand h).distinctPalette
    obtain ⟨hvalid, hdistinct⟩ :=
      (names_mergedStore_iff hwell hstore.distinctPalette hpalettes).mpr hfit
    exact ⟨hmem, get?_light_of_mem_paletteEntries ⟨hwell.tree, hvalid, hdistinct⟩ hbuild hmem⟩

end StylesheetSource

/-! ## A color that refers to another one -/

namespace Sample

/-- A store with a brand color that refers to a raw color, and a token that follows it. -/
def referringStore : TokenStore where
  colors := [("blue", [("500", "#0ea5e9")])]
  brand := [("primary", [("500", "blue.500")])]
  semantic := [("accent", .leaf (.plain "brand.primary.500"))]

/-- The stylesheet of the store. -/
def referringSource : StylesheetSource where
  store := referringStore

theorem referringStore_isAccepted : referringStore.IsAccepted := by
  refine ⟨[(.text "colors", .map [(.text "blue", .map [(.text "500", .text "#0ea5e9")])]),
    (.text "brand", .map [(.text "primary", .map [(.text "500", .text "blue.500")])]),
    (.text "semantic", .map [(.text "accent", .text "brand.primary.500")])], ?_,
    eq_ok_of_toOption ?_⟩
  · simp [Datum.EntriesWellNamed, Datum.TreesWellNamed, Datum.text]
  · decide +kernel

end Sample

namespace StylesheetSource

/-- The store is accepted. The token resolves to the raw color, but the brand color that it
follows is written as the reference that it is, so not all values are settled. -/
theorem build_isSettled_referring :
    Sample.referringSource.store.IsAccepted ∧
      (∀ brand ∈ Sample.referringSource.brand, brand.IsAccepted) ∧
      ¬ IsSettled "blue.500" ∧
      ∃ sets, Sample.referringSource.build = .ok sets ∧
        sets.light.get? "--mond-accent" = some "#0ea5e9" ∧
        Sample.referringSource.Stands sets ("primary", "500", "blue.500") ∧
        (∀ entry ∈ sets.dark.entries, IsSettled entry.2) ∧
        ¬ ∀ theme, ∀ entry ∈ (sets.forTheme theme).entries, IsSettled entry.2 := by
  have hbrand : ∀ brand ∈ Sample.referringSource.brand, brand.IsAccepted := by
    intro brand h
    cases h
  have hunsettled : ¬ IsSettled "blue.500" := by decide +kernel
  obtain ⟨sets, hbuild, hdark, -, hiff, -⟩ :=
    build_isSettled_iff Sample.referringSource Sample.referringStore_isAccepted hbrand
  have hvalues : Sample.referringSource.build.toOption.map (fun sets =>
      (sets.light.get? "--mond-accent",
        sets.light.get? "--mond-color-brand-primary-500")) =
      some (some "#0ea5e9", some "blue.500") := by
    decide +kernel
  rw [hbuild] at hvalues
  obtain ⟨haccent, hcolor⟩ := Prod.mk.inj (Option.some.inj hvalues)
  have hname : variableName [brandCategory, "primary", "500"] =
      "--mond-color-brand-primary-500" := by
    decide +kernel
  have hstands : Sample.referringSource.Stands sets ("primary", "500", "blue.500") := by
    refine ⟨by decide +kernel, ?_⟩
    rw [hname]
    exact hcolor
  refine ⟨Sample.referringStore_isAccepted, hbrand, hunsettled, sets, hbuild, haccent, hstands,
    hdark, ?_⟩
  intro hall
  exact hunsettled ((hiff.mp hall).2 ("primary", "500", "blue.500") hstands)

end StylesheetSource

end DesignTokens
