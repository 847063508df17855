import DesignTokens.Proofs.OrderedEntries
import DesignTokens.Proofs.ReadMappings
import DesignTokens.Store.Names
import DesignTokens.Stylesheet.Build
import Mathlib.Data.List.Nodup

/-!
# Merged palettes

A palette that is written over another one goes before it, color by color. With distinct
families and shades the entries of a palette are what the pairs of family and shade stand
for, and the merged palette has the pairs of the palette below and those that are added.
-/

namespace DesignTokens

/-- The families and shades of a palette. -/
def shadeNames (palette : Palette) : List (String × String) :=
  palette.flatMap fun family => (Entries.keys family.2).map fun shade => (family.1, shade)

theorem map_paletteEntries (palette : Palette) :
    (paletteEntries palette).map (fun entry => (entry.1, entry.2.1)) = shadeNames palette := by
  simp [paletteEntries, shadeNames, Entries.keys, List.map_flatMap, Function.comp_def]

/-- A family that is written with the shades it had changes no name. -/
theorem shadeNames_put {palette : Palette} {family : String} {shades : Entries String}
    (h : Entries.keys shades = Entries.keys ((Entries.get? palette family).getD [])) :
    shadeNames (palette.put family shades) = shadeNames palette := by
  induction palette with
  | nil =>
      have hnone : Entries.keys shades = [] := by simpa using h
      simp [Entries.put, shadeNames, hnone]
  | cons first rest ih =>
      obtain ⟨name, held⟩ := first
      by_cases hname : name = family
      · have hkeys : Entries.keys shades = Entries.keys held := by
          simpa [Entries.get?, hname] using h
        simp [Entries.put, shadeNames, hname, hkeys]
      · have hrest := ih (by simpa [Entries.get?, hname] using h)
        simp only [Entries.put, if_neg hname, shadeNames, List.flatMap_cons] at hrest ⊢
        rw [hrest]

/-- A shade has a color exactly when it is a name of its family. -/
theorem paletteColor?_isSome_iff {palette : Palette} {family shade : String} :
    (TokenStore.paletteColor? palette family shade).isSome = true ↔
      shade ∈ Entries.keys ((Entries.get? palette family).getD []) := by
  unfold TokenStore.paletteColor?
  cases Entries.get? palette family with
  | none => simp
  | some shades => exact Entries.get?_isSome_iff

/-- Colors that are all there are merged without a new name. -/
theorem shadeNames_mergePalettes {base added : Palette}
    (h : ∀ entry ∈ paletteEntries added,
      (TokenStore.paletteColor? base entry.1 entry.2.1).isSome = true) :
    shadeNames (mergePalettes base added) = shadeNames base := by
  induction added generalizing base with
  | nil => rfl
  | cons family rest ih =>
      let held := (Entries.get? base family.1).getD []
      let merged := base.put family.1 (held.putAll family.2)
      have hshades : ∀ shade ∈ Entries.keys family.2, shade ∈ Entries.keys held := by
        intro shade hs
        obtain ⟨entry, hentry, rfl⟩ := List.mem_map.mp hs
        exact paletteColor?_isSome_iff.mp (h (family.1, entry.1, entry.2)
          (List.mem_flatMap.mpr ⟨family, by simp, List.mem_map.mpr ⟨entry, hentry, rfl⟩⟩))
      have hkeys : Entries.keys (held.putAll family.2) = Entries.keys held :=
        Entries.keys_putAll_of_subset hshades
      have hrest : shadeNames (mergePalettes merged rest) = shadeNames merged := by
        apply ih
        intro entry hentry
        have hall : entry ∈ paletteEntries (family :: rest) := by
          rw [paletteEntries, List.flatMap_cons]
          exact List.mem_append_right _ hentry
        have hbase := paletteColor?_isSome_iff.mp (h entry hall)
        rw [paletteColor?_isSome_iff, Entries.get?_put]
        by_cases hf : family.1 = entry.1
        · rw [if_pos hf, Option.getD_some, hkeys]
          simpa only [held, hf] using hbase
        · rw [if_neg hf]
          exact hbase
      calc
        shadeNames (mergePalettes base (family :: rest)) =
            shadeNames (mergePalettes merged rest) := rfl
        _ = shadeNames merged := hrest
        _ = shadeNames base := shadeNames_put hkeys

/-! ## Distinct palettes -/

/-- A color that is found is that of an entry. -/
theorem mem_paletteEntries_of_paletteColor? {palette : Palette} {family shade color : String}
    (h : TokenStore.paletteColor? palette family shade = some color) :
    (family, shade, color) ∈ paletteEntries palette := by
  obtain ⟨shades, hfamily, hshade⟩ := Option.bind_eq_some_iff.mp h
  exact List.mem_flatMap.mpr ⟨(family, shades), Entries.mem_of_get? hfamily,
    List.mem_map.mpr ⟨(shade, color), Entries.mem_of_get? hshade, rfl⟩⟩

/-- With distinct families and shades, an entry is what its family and shade stand for. -/
theorem mem_paletteEntries_iff {palette : Palette} (hd : DistinctPalette palette)
    {family shade color : String} :
    (family, shade, color) ∈ paletteEntries palette ↔
      TokenStore.paletteColor? palette family shade = some color := by
  refine ⟨?_, mem_paletteEntries_of_paletteColor?⟩
  intro h
  obtain ⟨⟨name, shades⟩, hfamily, hshade⟩ := List.mem_flatMap.mp h
  obtain ⟨⟨key, value⟩, hmem, heq⟩ := List.mem_map.mp hshade
  cases heq
  exact Option.bind_eq_some_iff.mpr ⟨shades, Entries.get?_of_mem hd.1 hfamily,
    Entries.get?_of_mem (hd.2 _ hfamily) hmem⟩

/-- With distinct families and shades, a pair is listed exactly when it has a color. -/
theorem mem_shadeNames_iff {palette : Palette} (hd : DistinctPalette palette)
    {family shade : String} :
    (family, shade) ∈ shadeNames palette ↔
      (TokenStore.paletteColor? palette family shade).isSome = true := by
  rw [← map_paletteEntries, List.mem_map, Option.isSome_iff_exists]
  constructor
  · rintro ⟨⟨_, _, color⟩, hmem, heq⟩
    cases heq
    exact ⟨color, (mem_paletteEntries_iff hd).mp hmem⟩
  · rintro ⟨color, hcolor⟩
    exact ⟨(family, shade, color), (mem_paletteEntries_iff hd).mpr hcolor, rfl⟩

/-- With distinct families and shades, no pair is listed twice. -/
theorem nodup_shadeNames {palette : Palette} (hd : DistinctPalette palette) :
    (shadeNames palette).Nodup := by
  rw [shadeNames, List.nodup_flatMap]
  constructor
  · intro family hmem
    exact (hd.2 family hmem).map fun first second heq => (Prod.mk.inj heq).2
  · have hnames : palette.Pairwise fun first second => first.1 ≠ second.1 :=
      List.pairwise_map.mp hd.1
    refine hnames.imp ?_
    intro first second hne pair hfirst hsecond
    obtain ⟨_, -, rfl⟩ := List.mem_map.mp hfirst
    obtain ⟨_, -, heq⟩ := List.mem_map.mp hsecond
    exact hne (Prod.mk.inj heq).1.symm

theorem distinctPalette_put {palette : Palette} (hd : DistinctPalette palette)
    {shades : Entries String} (hshades : Entries.Distinct shades) (family : String) :
    DistinctPalette (palette.put family shades) := by
  refine ⟨Entries.distinct_put hd.1 family shades, ?_⟩
  intro entry hmem
  rcases Entries.mem_put hmem with hold | rfl
  · exact hd.2 entry hold
  · exact hshades

/-- The shades of a family that is in the palette or missing are distinct. -/
theorem distinct_getD_get? {palette : Palette} (hd : DistinctPalette palette)
    (family : String) : Entries.Distinct ((Entries.get? palette family).getD []) := by
  cases hget : Entries.get? palette family with
  | none => exact List.nodup_nil
  | some shades => exact hd.2 _ (Entries.mem_of_get? hget)

/-- Writing over a palette keeps its families and shades distinct. -/
theorem distinctPalette_mergePalettes {base : Palette} (hd : DistinctPalette base)
    (added : Palette) : DistinctPalette (mergePalettes base added) := by
  induction added generalizing base with
  | nil => exact hd
  | cons family rest ih =>
      exact ih (distinctPalette_put hd
        (Entries.distinct_putAll (distinct_getD_get? hd family.1) family.2) family.1)

theorem paletteColor?_cons (first : String × Entries String) (rest : Palette)
    (family shade : String) :
    TokenStore.paletteColor? (first :: rest) family shade =
      if first.1 = family then Entries.get? first.2 shade
      else TokenStore.paletteColor? rest family shade := by
  rw [TokenStore.paletteColor?, Entries.get?]
  split
  · rfl
  · rfl

theorem paletteColor?_put (palette : Palette) (name : String) (shades : Entries String)
    (family shade : String) :
    TokenStore.paletteColor? (palette.put name shades) family shade =
      if name = family then Entries.get? shades shade
      else TokenStore.paletteColor? palette family shade := by
  rw [TokenStore.paletteColor?, Entries.get?_put]
  split
  · rfl
  · rfl

/-- A family that is not in a palette has no color there. -/
theorem paletteColor?_of_not_mem {palette : Palette} {family : String}
    (h : family ∉ Entries.keys palette) (shade : String) :
    TokenStore.paletteColor? palette family shade = none := by
  rw [TokenStore.paletteColor?, Entries.get?_eq_none_iff.mpr h, Option.bind_none]

/-- Written over another palette, a palette goes before it. -/
theorem paletteColor?_mergePalettes {added : Palette} (hd : DistinctPalette added)
    (base : Palette) (family shade : String) :
    TokenStore.paletteColor? (mergePalettes base added) family shade =
      (TokenStore.paletteColor? added family shade).or
        (TokenStore.paletteColor? base family shade) := by
  induction added generalizing base with
  | nil => rfl
  | cons first rest ih =>
      have hnames := List.nodup_cons.mp hd.1
      have hshades : Entries.Distinct first.2 := hd.2 first (by simp)
      have hrest : DistinctPalette rest :=
        ⟨hnames.2, fun entry hmem => hd.2 entry (List.mem_cons_of_mem _ hmem)⟩
      change TokenStore.paletteColor? (mergePalettes (base.put first.1 _) rest) family shade = _
      rw [ih hrest, paletteColor?_put, paletteColor?_cons]
      by_cases hfamily : first.1 = family
      · subst hfamily
        rw [if_pos rfl, if_pos rfl, paletteColor?_of_not_mem hnames.1, Option.none_or,
          Entries.get?_putAll hshades, TokenStore.paletteColor?]
        cases Entries.get? base first.1 <;> rfl
      · rw [if_neg hfamily, if_neg hfamily]

end DesignTokens
