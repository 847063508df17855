import DesignTokens.Proofs.ExtendedStores
import DesignTokens.Proofs.ReorderedFields
import DesignTokens.Proofs.ReorderedTrees

/-!
# Stores in another order

Data without a repeated name are read as a store in every order or in none, and the stores have
the same palettes, scales and tokens up to their order. Acceptance does not depend on it, since
the names of a store are checked against each other; neither does a lookup, since each name is
there once. Main statement: the stylesheets of such stores, without a brand theme or with brand
themes that are read from reordered data, have the same text.
-/

namespace DesignTokens

open Datum (Reordered)

/-! ## Lookups in permuted mappings -/

/-- In distinct palettes with the same entries each family and shade has the same color. -/
theorem paletteColor?_eq_of_perm {first second : Palette} (hfirst : DistinctPalette first)
    (hsecond : DistinctPalette second) (h : (paletteEntries first).Perm (paletteEntries second))
    (family shade : String) :
    TokenStore.paletteColor? first family shade =
      TokenStore.paletteColor? second family shade := by
  apply Option.ext
  intro color
  rw [← mem_paletteEntries_iff hfirst, ← mem_paletteEntries_iff hsecond, h.mem_iff]

namespace TokenStore

/-! ## The same store in another order -/

/-- Two stores with the same palettes, scales and tokens up to their order. -/
structure SameUpToOrder (first second : TokenStore) : Prop where
  colors : (paletteEntries first.colors).Perm (paletteEntries second.colors)
  brand : (paletteEntries first.brand).Perm (paletteEntries second.brand)
  scales : ∀ kind, (first.scales.get kind).Perm (second.scales.get kind)
  leaves : first.leaves.Perm second.leaves

namespace SameUpToOrder

variable {first second : TokenStore}

theorem symm (h : SameUpToOrder first second) : SameUpToOrder second first where
  colors := h.colors.symm
  brand := h.brand.symm
  scales kind := (h.scales kind).symm
  leaves := h.leaves.symm

/-- The entries that take names are the same up to their order. -/
theorem nameSources_perm (h : SameUpToOrder first second) :
    first.nameSources.Perm second.nameSources := by
  have hscales := List.Perm.flatMap_left ScaleKind.all fun kind _ =>
    (h.scales kind).map fun entry => NameSource.scaleEntry kind entry.1
  exact ((h.brand.map _).append hscales).append (h.leaves.map _)

/-- The first of two entries with one name takes it, but that there are two does not depend on
the order. -/
theorem checkNames (h : SameUpToOrder first second) (hok : first.checkNames = .ok ()) :
    second.checkNames = .ok () := by
  have hperm := h.nameSources_perm
  unfold TokenStore.checkNames at hok ⊢
  rw [checkSources_eq_ok_iff] at hok ⊢
  constructor
  · intro source hmem
    exact hok.1 source (hperm.mem_iff.mpr hmem)
  · exact (hperm.map _).nodup_iff.mp hok.2

/-- Accepted stores with the same contents extend each other. -/
theorem extendedBy (h : SameUpToOrder first second) (hfirst : first.IsAccepted)
    (hsecond : second.IsAccepted) : first.ExtendedBy second where
  colors := paletteColor?_eq_of_perm hfirst.distinctColors hsecond.distinctColors h.colors
  brand := paletteColor?_eq_of_perm hfirst.distinctPalette hsecond.distinctPalette h.brand
  scales kind := Entries.get?_eq_of_perm (hfirst.distinctScale kind) (hsecond.distinctScale kind)
    (h.scales kind)
  tokens path leaf hfind := by
    have hmem := h.leaves.mem_iff.mp (mem_leaves_of_find? hfind)
    exact find?_of_mem_leaves hsecond.wellFormed.tree hmem

end SameUpToOrder

/-! ## Reading in another order -/

variable {entries others : List (Scalar × Datum)}

theorem readTree_map_eq_ok_iff {location : List String} {children : List (String × Node)} :
    readTree location (.map entries) = .ok children ↔
      Node.build [] (.map entries) = .ok (.group children) := by
  rw [readTree]
  cases Node.build [] (.map entries) with
  | ok node => cases node <;> simp [Checked.fail]
  | error error => cases error <;> simp [Checked.fail]

/-- The semantic tree is read in another order with the same tokens. -/
theorem exists_readTree {location : List String} {first second : Datum}
    {children : List (String × Node)} (h : Reordered first second) (hd : first.NamesDistinct)
    (hok : readTree location first = .ok children) :
    ∃ permuted, readTree location second = .ok permuted ∧
      (Node.leavesOf [] children).Perm (Node.leavesOf [] permuted) := by
  cases h with
  | same => exact ⟨children, hok, .refl _⟩
  | list => cases hok
  | map hkeys hvalues hperm =>
      rw [readTree_map_eq_ok_iff] at hok
      obtain ⟨other, hother, hsame⟩ :=
        Node.builtAlike_of_reordered (.map hkeys hvalues hperm) hd _ _ hok
      obtain ⟨permuted, rfl⟩ := hsame.exists_group
      have hleaves := hsame []
      rw [Node.leavesFrom_group, Node.leavesFrom_group] at hleaves
      exact ⟨permuted, readTree_map_eq_ok_iff.mpr hother, hleaves⟩

theorem exists_treeField (h : Reordered (.map entries) (.map others))
    (hd : (Datum.map entries).NamesDistinct) {children : List (String × Node)}
    (hok : treeField entries = .ok children) :
    ∃ permuted, treeField others = .ok permuted ∧
      (Node.leavesOf [] children).Perm (Node.leavesOf [] permuted) := by
  unfold treeField at hok ⊢
  cases hlookup : Datum.lookup "semantic" entries with
  | none =>
      rw [hlookup] at hok
      rw [h.lookup_eq_none hd hlookup]
      exact ⟨children, hok, .refl _⟩
  | some value =>
      rw [hlookup] at hok
      obtain ⟨other, hother, hvalue⟩ := h.exists_lookup hd hlookup
      rw [hother]
      exact exists_readTree hvalue (hd.of_mem (Datum.mem_of_lookup hlookup)) hok

/-- Palettes are read in another order with the same colors. -/
theorem exists_paletteField {R : Type} (h : Reordered (.map entries) (.map others))
    (hd : (Datum.map entries).NamesDistinct) {name other : String} {palette : Palette}
    (hok : optionalField (R := R) readPalette entries name other = .ok palette) :
    ∃ permuted, optionalField (R := R) readPalette others name other = .ok permuted ∧
      (paletteEntries palette).Perm (paletteEntries permuted) :=
  exists_optionalField h hd hok (.refl _) fun _ _ _ _ hvalue => exists_readPalette hvalue

/-- Scales are read in another order with the same entries. -/
theorem exists_scaleFields (h : Reordered (.map entries) (.map others))
    (hd : (Datum.map entries).NamesDistinct) {scales : Scales}
    (hok : scaleFields entries = .ok scales) :
    ∃ permuted, scaleFields others = .ok permuted ∧
      ∀ kind, (scales.get kind).Perm (permuted.get kind) := by
  have heach (kind : ScaleKind) : ∃ scale, scaleField others kind = .ok scale ∧
      (scales.get kind).Perm scale :=
    exists_optionalField h hd (scaleFields_eq_ok_iff.mp hok kind) (.refl _)
      fun _ _ _ _ hvalue => exists_readTexts hvalue
  choose scale hscale hperm using heach
  let permuted : Scales :=
    ⟨scale .spacing, scale .radii, scale .shadows, scale .fontFamilies, scale .fontSizes,
      scale .fontWeights, scale .lineHeights, scale .letterSpacings⟩
  have hget (kind : ScaleKind) : permuted.get kind = scale kind := by cases kind <;> rfl
  refine ⟨permuted, scaleFields_eq_ok_iff.mpr ?_, ?_⟩
  · intro kind
    rw [hget, hscale]
  · intro kind
    rw [hget]
    exact hperm kind

/-- The fields of a store are read in another order with the same contents. -/
theorem exists_readFields (h : Reordered (.map entries) (.map others))
    (hd : (Datum.map entries).NamesDistinct) {store : TokenStore}
    (hok : readFields entries = .ok store) :
    ∃ other, readFields others = .ok other ∧ store.SameUpToOrder other := by
  obtain ⟨hname, hdescription, hcolors, hbrand, htree, hscales⟩ := fields_of_readFields hok
  obtain ⟨colors, hcolorsOther, hcolorsPerm⟩ := exists_paletteField h hd hcolors
  obtain ⟨brand, hbrandOther, hbrandPerm⟩ := exists_paletteField h hd hbrand
  obtain ⟨semantic, htreeOther, hleaves⟩ := exists_treeField h hd htree
  obtain ⟨scales, hscalesOther, hscalesPerm⟩ := exists_scaleFields h hd hscales
  let other : TokenStore :=
    { name := store.name, description := store.description, colors, brand, semantic, scales }
  refine ⟨other, ?_, ⟨hcolorsPerm, hbrandPerm, hscalesPerm, hleaves⟩⟩
  apply readFields_of_fields
  · exact formatField_of_reordered h hd (formatField_of_readFields hok)
  · exact textField_of_reordered h hd hname
  · exact textField_of_reordered h hd hdescription
  · exact hcolorsOther
  · exact hbrandOther
  · exact htreeOther
  · exact hscalesOther

/-- A store is accepted in another order with the same contents. -/
theorem exists_ofSource (h : Reordered (.map entries) (.map others))
    (hd : (Datum.map entries).NamesDistinct) {store : TokenStore}
    (hok : ofSource entries = .ok store) :
    ∃ other, ofSource others = .ok other ∧ store.SameUpToOrder other := by
  obtain ⟨hread, hnames⟩ := checkNames_of_ofSource hok
  obtain ⟨other, hother, hsame⟩ := exists_readFields h hd hread
  refine ⟨other, ?_, hsame⟩
  rw [ofSource, hother]
  simp only [hsame.checkNames hnames]

/-- A store that is read from data without a repeated name is accepted. -/
theorem isAccepted_of_ofSource (hd : (Datum.map entries).NamesDistinct) {store : TokenStore}
    (hok : ofSource entries = .ok store) : store.IsAccepted := by
  have hwell := hd.treesWellNamed
  rw [Datum.TreesWellNamed] at hwell
  exact ⟨entries, hwell, hok⟩

end TokenStore

/-! ## Brand themes in another order -/

namespace BrandTheme

/-- No brand theme in both places, or two that are read from data that differ only in the order
of the entries of their mappings. -/
inductive ReadFromReordered : Option BrandTheme → Option BrandTheme → Prop
  | none : ReadFromReordered none none
  | some {first second : Datum} {brand other : BrandTheme} (h : Reordered first second)
      (hd : first.NamesDistinct) (hbrand : ofDatum first = .ok brand)
      (hother : ofDatum second = .ok other) : ReadFromReordered (some brand) (some other)

theorem requiredText_of_nameField {entries : List (Scalar × Datum)} {name : String}
    (h : nameField entries = .ok name) :
    requiredText (R := BrandRule) entries "name" = .ok name := by
  unfold nameField at h
  split at h
  · rename_i text htext
    split at h
    · cases h
      exact htext
    · cases h
  · cases h

/-- Brand themes that are read from reordered data have the same display name, and the same
colors in another order. -/
theorem name_eq_and_palette_perm {first second : Datum} {brand other : BrandTheme}
    (h : Reordered first second) (hd : first.NamesDistinct) (hbrand : ofDatum first = .ok brand)
    (hother : ofDatum second = .ok other) :
    brand.name = other.name ∧ (paletteEntries brand.brand).Perm (paletteEntries other.brand) := by
  cases first with
  | map entries =>
      cases second with
      | map others =>
          obtain ⟨-, hname, -, hpalette⟩ := fields_of_ofSource hbrand
          obtain ⟨-, hnameOther, -, hpaletteOther⟩ := fields_of_ofSource hother
          have hsame := requiredText_of_reordered h hd (requiredText_of_nameField hname)
          rw [requiredText_of_nameField hnameOther] at hsame
          obtain ⟨permuted, hpermuted, hperm⟩ := TokenStore.exists_paletteField h hd hpalette
          rw [hpaletteOther] at hpermuted
          cases hpermuted
          exact ⟨(Except.ok.inj hsame).symm, hperm⟩
      | _ => cases hother
  | _ => cases hbrand

namespace ReadFromReordered

variable {brand other : Option BrandTheme}

theorem symm (h : ReadFromReordered brand other) : ReadFromReordered other brand := by
  cases h with
  | none => exact .none
  | some h hd hbrand hother => exact .some h.symm (h.namesDistinct hd) hother hbrand

theorem isAccepted (h : ReadFromReordered brand other) : ∀ active ∈ brand, active.IsAccepted := by
  intro active hactive
  cases h with
  | none => cases hactive
  | some _ _ hbrand _ =>
      cases Option.mem_some_iff.mp hactive
      exact ⟨_, hbrand⟩

theorem name_eq (h : ReadFromReordered brand other) :
    brand.map BrandTheme.name = other.map BrandTheme.name := by
  cases h with
  | none => rfl
  | some h hd hbrand hother =>
      rw [Option.map_some, Option.map_some, (name_eq_and_palette_perm h hd hbrand hother).1]

/-- Each family and shade has the same color, or none. -/
theorem paletteColor?_eq (h : ReadFromReordered brand other) (family shade : String) :
    (brand.bind fun active => TokenStore.paletteColor? active.brand family shade) =
      other.bind fun active => TokenStore.paletteColor? active.brand family shade := by
  cases h with
  | none => rfl
  | some h hd hbrand hother =>
      exact paletteColor?_eq_of_perm (IsAccepted.distinctPalette ⟨_, hbrand⟩)
        (IsAccepted.distinctPalette ⟨_, hother⟩)
        (name_eq_and_palette_perm h hd hbrand hother).2 family shade

/-- A brand theme that only changes colors of a store does so in another order, with a store of
the same colors. -/
theorem changesColorsOnly (h : ReadFromReordered brand other) {first second : TokenStore}
    (hcolors : ∀ family shade, TokenStore.paletteColor? first.brand family shade =
      TokenStore.paletteColor? second.brand family shade) {indent : String}
    (honly : StylesheetSource.ChangesColorsOnly { store := first, brand, indent }) :
    StylesheetSource.ChangesColorsOnly { store := second, brand := other, indent } := by
  intro active hactive entry hentry
  cases h with
  | none => cases hactive
  | some h hd hbrand hother =>
      cases Option.mem_some_iff.mp hactive
      have hback := (name_eq_and_palette_perm h hd hbrand hother).2.mem_iff.mpr hentry
      rw [← hcolors]
      exact honly _ rfl entry hback

end ReadFromReordered

end BrandTheme

/-! ## Stylesheets -/

namespace StylesheetSource

variable {entries others : List (Scalar × Datum)}

/-- What is declared is declared by a store with the same contents as well, with brand themes
that are read from reordered data. -/
theorem declares_iff {first second : StylesheetSource}
    (hstore : first.store.SameUpToOrder second.store) (hfirst : first.store.IsAccepted)
    (hsecond : second.store.IsAccepted)
    (hbrand : BrandTheme.ReadFromReordered first.brand second.brand) {theme : Theme}
    {name value : String} :
    first.Declares theme name value ↔ second.Declares theme name value := by
  constructor
  · intro h
    exact h.extendedBy (hstore.extendedBy hfirst hsecond) hbrand.paletteColor?_eq
  · intro h
    exact h.extendedBy (hstore.symm.extendedBy hsecond hfirst) hbrand.symm.paletteColor?_eq

/-- The order of the entries does not matter. Data in which no mapping has two keys that are
written alike are accepted as a store in every order or in none. Without a brand theme, or with
brand themes that are read from reordered data and only change colors of the store, a
stylesheet is made in both orders, and it has the same text. -/
theorem ofSource_and_generate_reordered (h : Reordered (.map entries) (.map others))
    (hd : (Datum.map entries).NamesDistinct) :
    ((∃ store, TokenStore.ofSource entries = .ok store) ↔
      ∃ store, TokenStore.ofSource others = .ok store) ∧
    ∀ store other, TokenStore.ofSource entries = .ok store →
      TokenStore.ofSource others = .ok other →
      ∀ brand otherBrand, BrandTheme.ReadFromReordered brand otherBrand →
      ∀ indent, ChangesColorsOnly { store, brand, indent } → ∀ generatedAt,
        ∃ text, generate { store, brand, indent } generatedAt = .ok text ∧
          generate { store := other, brand := otherBrand, indent } generatedAt = .ok text := by
  have hdOthers := h.namesDistinct hd
  constructor
  · constructor
    · rintro ⟨store, hstore⟩
      obtain ⟨other, hother, -⟩ := TokenStore.exists_ofSource h hd hstore
      exact ⟨other, hother⟩
    · rintro ⟨other, hother⟩
      obtain ⟨store, hstore, -⟩ := TokenStore.exists_ofSource h.symm hdOthers hother
      exact ⟨store, hstore⟩
  · intro store other hstore hother brand otherBrand hbrand indent honly generatedAt
    have hfirst := TokenStore.isAccepted_of_ofSource hd hstore
    have hsecond := TokenStore.isAccepted_of_ofSource hdOthers hother
    have hsame : store.SameUpToOrder other := by
      obtain ⟨found, hfound, hsame⟩ := TokenStore.exists_ofSource h hd hstore
      rw [hother] at hfound
      cases hfound
      exact hsame
    have honlyOther := hbrand.changesColorsOnly (hsame.extendedBy hfirst hsecond).brand honly
    apply generate_congr hfirst hsecond hbrand.isAccepted hbrand.symm.isAccepted honly honlyOther
      hbrand.name_eq rfl
    intro theme name value
    exact declares_iff hsame hfirst hsecond hbrand

end StylesheetSource

/-! ## Data from back to front -/

namespace Sample

mutual

/-- The data with the entries of each mapping from back to front. -/
def backward : Datum → Datum
  | .map entries => .map (backwardValues entries).reverse
  | datum => datum

/-- The entries in their places, with their values from back to front. -/
def backwardValues : List (Scalar × Datum) → List (Scalar × Datum)
  | [] => []
  | (key, value) :: rest => (key, backward value) :: backwardValues rest

end

mutual

theorem reordered_backward (datum : Datum) : Reordered datum (backward datum) := by
  cases datum with
  | map entries =>
      rw [backward]
      exact .of_aligned (alignedBy_backwardValues entries) (List.reverse_perm _).symm
  | scalar value => exact .same _
  | list items => exact .same _
  | set members => exact .same _
  | node tree => exact .same _
  | endless => exact .same _

theorem alignedBy_backwardValues (entries : List (Scalar × Datum)) :
    Datum.AlignedBy Reordered entries (backwardValues entries) := by
  cases entries with
  | nil =>
      rw [backwardValues]
      exact .nil
  | cons entry rest =>
      rw [backwardValues]
      exact .cons ⟨rfl, reordered_backward entry.2⟩ (alignedBy_backwardValues rest)

end

/-- Data with two entries in most of their mappings. -/
def frontEntries : List (Scalar × Datum) :=
  [(.text "brand", .map [(.text "primary", .map [
      (.int 500, .text "#0ea5e9"), (.int 600, .text "#0284c7")])]),
    (.text "semantic", .map [
      (.text "link", .map [
        (.text "light", .text "text.hover"), (.text "dark", .text "brand.primary.500")]),
      (.text "text", .map [
        (.text "hover", .text "brand.primary.600"), (.text "page", .text "#111827")])]),
    (.text "spacing", .map [(.int 4, .text "1rem"), (.int 8, .text "2rem")])]

/-- The store of these data. -/
def frontStore : TokenStore where
  brand := [("primary", [("500", "#0ea5e9"), ("600", "#0284c7")])]
  semantic := [
    ("link", .leaf (.variant (some "text.hover") (some "brand.primary.500"))),
    ("text", .group [
      ("hover", .leaf (.plain "brand.primary.600")), ("page", .leaf (.plain "#111827"))])]
  scales := { spacing := [("4", "1rem"), ("8", "2rem")] }

/-- The store of the same data from back to front. -/
def backStore : TokenStore where
  brand := [("primary", [("600", "#0284c7"), ("500", "#0ea5e9")])]
  semantic := [
    ("text", .group [
      ("page", .leaf (.plain "#111827")), ("hover", .leaf (.plain "brand.primary.600"))]),
    ("link", .leaf (.variant (some "text.hover") (some "brand.primary.500")))]
  scales := { spacing := [("8", "2rem"), ("4", "1rem")] }

/-- The data of a brand theme that changes both colors. -/
def frontBrandDatum : Datum :=
  .map [(.text "id", .text "acme"), (.text "name", .text "Acme"),
    (.text "brand", .map [(.text "primary", .map [
      (.int 500, .text "#e11d48"), (.int 600, .text "#be123c")])])]

/-- The brand theme of these data. -/
def frontBrand : BrandTheme where
  id := "acme"
  name := "Acme"
  brand := [("primary", [("500", "#e11d48"), ("600", "#be123c")])]

/-- The brand theme of the same data from back to front. -/
def backBrand : BrandTheme where
  id := "acme"
  name := "Acme"
  brand := [("primary", [("600", "#be123c"), ("500", "#e11d48")])]

theorem readFromReordered_brand :
    BrandTheme.ReadFromReordered (some frontBrand) (some backBrand) := by
  refine .some (reordered_backward frontBrandDatum) ?_ (eq_ok_of_toOption (by decide +kernel))
    (eq_ok_of_toOption (by decide +kernel))
  simp only [frontBrandDatum, Datum.NamesDistinct, Datum.ValuesNamesDistinct, Datum.text,
    List.map_cons, List.map_nil, and_true]
  decide +kernel

end Sample

namespace StylesheetSource

/-- The stores of the data from front to back and from back to front differ, and so do the brand
themes, but their stylesheets have the same text. -/
theorem ofSource_and_generate_reordered_backward :
    Reordered (.map Sample.frontEntries) (Sample.backward (.map Sample.frontEntries)) ∧
      (Datum.map Sample.frontEntries).NamesDistinct ∧
      BrandTheme.ReadFromReordered (some Sample.frontBrand) (some Sample.backBrand) ∧
      TokenStore.ofSource Sample.frontEntries = .ok Sample.frontStore ∧
      TokenStore.ofSource (Sample.backwardValues Sample.frontEntries).reverse =
        .ok Sample.backStore ∧
      Sample.frontStore ≠ Sample.backStore ∧ Sample.frontBrand ≠ Sample.backBrand ∧
      ∃ text,
        generate { store := Sample.frontStore, brand := some Sample.frontBrand } Sample.noon =
          .ok text ∧
        generate { store := Sample.backStore, brand := some Sample.backBrand } Sample.noon =
          .ok text := by
  have hreordered := Sample.reordered_backward (.map Sample.frontEntries)
  have hentries := hreordered
  rw [Sample.backward] at hentries
  have hdistinct : (Datum.map Sample.frontEntries).NamesDistinct := by
    simp only [Sample.frontEntries, Datum.NamesDistinct, Datum.ValuesNamesDistinct, Datum.text,
      List.map_cons, List.map_nil, and_true]
    decide +kernel
  have hfront : TokenStore.ofSource Sample.frontEntries = .ok Sample.frontStore :=
    Sample.eq_ok_of_toOption (by decide +kernel)
  have hback : TokenStore.ofSource (Sample.backwardValues Sample.frontEntries).reverse =
      .ok Sample.backStore :=
    Sample.eq_ok_of_toOption (by decide +kernel)
  have honly : ChangesColorsOnly
      { store := Sample.frontStore, brand := some Sample.frontBrand } := by
    intro brand hbrand entry hentry
    cases Option.mem_some_iff.mp hbrand
    revert entry
    decide +kernel
  obtain ⟨-, hsame⟩ := ofSource_and_generate_reordered hentries hdistinct
  exact ⟨hreordered, hdistinct, Sample.readFromReordered_brand, hfront, hback,
    by decide +kernel, by decide +kernel, hsame _ _ hfront hback _ _
      Sample.readFromReordered_brand defaultIndent honly Sample.noon⟩

end StylesheetSource

end DesignTokens
