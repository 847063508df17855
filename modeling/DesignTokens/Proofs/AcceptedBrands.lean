import DesignTokens.Proofs.AcceptedStores
import DesignTokens.Proofs.ReadMappings

/-!
# Accepted brand themes

A brand theme is accepted when it is read from a datum without an issue. What reading grants
is stated here: the display name can stand in the header of a stylesheet, and the palette has
each family once and each shade of it. The names of the variables that the palette gives are
not checked.
-/

namespace DesignTokens

namespace BrandTheme

/-- A brand theme that is read from a datum without an issue. -/
def IsAccepted (brand : BrandTheme) : Prop := ∃ datum, ofDatum datum = .ok brand

/-- Every field of a brand theme that is read is what its own check gave. -/
theorem fields_of_ofSource {entries : List (Scalar × Datum)} {brand : BrandTheme}
    (h : ofSource entries = .ok brand) :
    idField entries = .ok brand.id ∧ nameField entries = .ok brand.name ∧
      textField (R := BrandRule) entries "description" "" = .ok brand.description ∧
      optionalField (R := BrandRule) readPalette entries "brand" "brand" = .ok brand.brand := by
  unfold ofSource at h
  obtain ⟨withDescription, palette, h, hpalette, hbrand⟩ := Checked.and_eq_ok_iff.mp h
  obtain ⟨withName, description, h, hdescription, hdescriptionEq⟩ := Checked.and_eq_ok_iff.mp h
  obtain ⟨withId, name, h, hname, hnameEq⟩ := Checked.and_eq_ok_iff.mp h
  obtain ⟨withFormat, id, h, hid, hidEq⟩ := Checked.and_eq_ok_iff.mp h
  obtain ⟨start, format, h, -, hformatEq⟩ := Checked.and_eq_ok_iff.mp h
  cases h
  subst hformatEq hidEq hnameEq hdescriptionEq hbrand
  exact ⟨hid, hname, hdescription, hpalette⟩

/-- A display name that is read can stand in the header. -/
theorem isHeaderSafe_of_nameField {entries : List (Scalar × Datum)} {name : String}
    (h : nameField entries = .ok name) : isHeaderSafe name = true := by
  unfold nameField at h
  split at h
  · split at h
    · rename_i hsafe
      cases h
      exact hsafe
    · cases h
  · cases h

namespace IsAccepted

variable {brand : BrandTheme}

/-- An accepted brand theme is read from the entries of a mapping. -/
theorem exists_ofSource (h : brand.IsAccepted) : ∃ entries, ofSource entries = .ok brand := by
  obtain ⟨datum, hdatum⟩ := h
  cases datum with
  | map entries => exact ⟨entries, hdatum⟩
  | _ => cases hdatum

/-- The display name of an accepted brand theme can stand in the header. -/
theorem isHeaderSafe (h : brand.IsAccepted) : isHeaderSafe brand.name = true := by
  obtain ⟨entries, hsource⟩ := h.exists_ofSource
  exact isHeaderSafe_of_nameField (fields_of_ofSource hsource).2.1

/-- The palette of an accepted brand theme has each family once and each shade of it. -/
theorem distinctPalette (h : brand.IsAccepted) : DistinctPalette brand.brand := by
  obtain ⟨entries, hsource⟩ := h.exists_ofSource
  exact distinctPalette_of_optionalField (fields_of_ofSource hsource).2.2.2

end IsAccepted

end BrandTheme

/-- The brand palette of an accepted store has each family once and each shade of it. -/
theorem TokenStore.IsAccepted.distinctPalette {store : TokenStore} (h : store.IsAccepted) :
    DistinctPalette store.brand := by
  obtain ⟨entries, -, hsource⟩ := h
  obtain ⟨-, -, -, hbrand, -, -⟩ := fields_of_readFields (checkNames_of_ofSource hsource).1
  exact distinctPalette_of_optionalField hbrand

/-- The raw palettes of an accepted store have each family once and each shade of it. -/
theorem TokenStore.IsAccepted.distinctColors {store : TokenStore} (h : store.IsAccepted) :
    DistinctPalette store.colors := by
  obtain ⟨entries, -, hsource⟩ := h
  obtain ⟨-, -, hcolors, -, -, -⟩ := fields_of_readFields (checkNames_of_ofSource hsource).1
  exact distinctPalette_of_optionalField hcolors

end DesignTokens
