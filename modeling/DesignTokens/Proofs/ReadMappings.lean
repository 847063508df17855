import DesignTokens.Proofs.OrderedEntries
import DesignTokens.Proofs.RawData
import DesignTokens.Source.Checked
import DesignTokens.Store.Basic

/-!
# Palettes and scales that are read

The names of a palette or a scale are written as text before it is checked, so a field that
is read has each name once. What is written of such a field reads as the same field again.
-/

namespace DesignTokens

variable {R : Type} {α : Type}

/-! ## Entries that are checked one by one -/

namespace Checked

/-- Entries are good when the first one and the others are. -/
theorem entries_cons_eq_ok_iff {check : String → Datum → Checked R α} {entry : String × Datum}
    {rest : Entries Datum} {out : Entries α} :
    entries check (entry :: rest) = .ok out ↔
      ∃ value others, check entry.1 entry.2 = .ok value ∧ entries check rest = .ok others ∧
        out = (entry.1, value) :: others := by
  rw [entries, and_eq_ok_iff]
  constructor
  · rintro ⟨join, others, hjoin, hothers, rfl⟩
    obtain ⟨start, value, hstart, hvalue, rfl⟩ := and_eq_ok_iff.mp hjoin
    cases hstart
    exact ⟨value, others, hvalue, hothers, rfl⟩
  · rintro ⟨value, others, hvalue, hothers, rfl⟩
    exact ⟨_, others, and_eq_ok_iff.mpr ⟨_, value, rfl, hvalue, rfl⟩, hothers, rfl⟩

/-- Checking keeps the names. -/
theorem keys_of_entries {check : String → Datum → Checked R α} {m : Entries Datum}
    {out : Entries α} (h : entries check m = .ok out) : Entries.keys out = Entries.keys m := by
  induction m generalizing out with
  | nil =>
      cases h
      rfl
  | cons entry rest ih =>
      obtain ⟨value, others, -, hothers, rfl⟩ := entries_cons_eq_ok_iff.mp h
      rw [Entries.keys_cons, Entries.keys_cons, ih hothers]

/-- Every value that is kept was checked. -/
theorem exists_of_mem_entries {check : String → Datum → Checked R α} {m : Entries Datum}
    {out : Entries α} (h : entries check m = .ok out) {found : String × α}
    (hmem : found ∈ out) :
    ∃ datum, (found.1, datum) ∈ m ∧ check found.1 datum = .ok found.2 := by
  induction m generalizing out with
  | nil =>
      cases h
      cases hmem
  | cons entry rest ih =>
      obtain ⟨value, others, hvalue, hothers, rfl⟩ := entries_cons_eq_ok_iff.mp h
      rcases List.mem_cons.mp hmem with rfl | hrest
      · exact ⟨entry.2, List.mem_cons_self, hvalue⟩
      · obtain ⟨datum, hdatum, hcheck⟩ := ih hothers hrest
        exact ⟨datum, List.mem_cons_of_mem _ hdatum, hcheck⟩

/-- Values whose data are read as the values are kept as they are. -/
theorem entries_mapValues {check : String → Datum → Checked R α} {write : α → Datum}
    {m : Entries α} (h : ∀ entry ∈ m, check entry.1 (write entry.2) = .ok entry.2) :
    entries check (m.mapValues write) = .ok m := by
  induction m with
  | nil => rfl
  | cons entry rest ih =>
      rw [List.forall_mem_cons] at h
      exact entries_cons_eq_ok_iff.mpr ⟨entry.2, rest, h.1, ih h.2, rfl⟩

end Checked

/-! ## Names and numbers as text -/

namespace Datum

theorem stringifyEntries_eq_map (entries : List (Scalar × Datum)) :
    stringifyEntries entries = entries.map fun entry => (entry.1.nameText, entry.2.stringify) := by
  induction entries with
  | nil => rw [stringifyEntries, List.map_nil]
  | cons entry rest ih => rw [stringifyEntries, ih, List.map_cons]

/-- A mapping with distinct texts as keys and values that are text already is left as it is. -/
theorem stringify_ofEntries {entries : Entries Datum} (hd : Entries.Distinct entries)
    (h : ∀ entry ∈ entries, entry.2.stringify = entry.2) :
    (ofEntries entries).stringify = ofEntries entries := by
  have hsame : stringifyEntries (textEntries entries) = entries := by
    rw [stringifyEntries_eq_map, textEntries, List.map_map]
    refine (List.map_congr_left ?_).trans (List.map_id entries)
    intro entry hmem
    exact Prod.ext rfl (h entry hmem)
  rw [ofEntries_eq, stringify, hsame, Entries.ofList_of_distinct hd]
  rfl

/-- A mapping whose names and numbers are text has distinct texts as keys and values of which
the same holds. -/
theorem exists_of_stringify_eq_map {value : Datum} {entries : List (Scalar × Datum)}
    (h : value.stringify = .map entries) :
    ∃ written, .map entries = ofEntries written ∧ Entries.Distinct written ∧
      ∀ entry ∈ written, ∃ source : Datum, entry.2 = source.stringify := by
  cases value with
  | map source =>
      rw [stringify] at h
      refine ⟨Entries.ofList (stringifyEntries source), h.symm, Entries.distinct_ofList _, ?_⟩
      intro entry hmem
      rcases Entries.mem_putAll hmem with hnil | hmem
      · cases hnil
      · rw [stringifyEntries_eq_map] at hmem
        obtain ⟨held, -, rfl⟩ := List.mem_map.mp hmem
        exact ⟨held.2, rfl⟩
  | scalar value => cases value <;> simp [stringify, text] at h
  | list items => simp [stringify] at h
  | set members => simp [stringify] at h
  | node tree => simp [stringify] at h
  | endless => simp [stringify] at h

/-- A mapping with texts as keys can be written when its values can. -/
theorem unwritable?_ofEntries {entries : Entries Datum}
    (h : ∀ entry ∈ entries, entry.2.unwritable? = none) :
    (ofEntries entries).unwritable? = none := by
  rw [ofEntries_eq, unwritable?]
  induction entries with
  | nil => rw [textEntries, List.map_nil, unwritableIn?]
  | cons entry rest ih =>
      rw [List.forall_mem_cons] at h
      have hkey : unwritableScalar? (.text entry.1) = none := rfl
      rw [textEntries, List.map_cons, unwritableIn?, hkey, h.1]
      exact ih h.2

end Datum

/-! ## Fields -/

theorem readTexts_ofEntries (location : List String) (entries : Entries Datum) :
    readTexts (R := R) location (.ofEntries entries) =
      Checked.entries (fun name part => readText (location ++ [name]) part) entries := by
  rw [Datum.ofEntries_eq, readTexts, Datum.nameText_textEntries]

theorem readPalette_ofEntries (location : List String) (entries : Entries Datum) :
    readPalette (R := R) location (.ofEntries entries) =
      Checked.entries (fun name part => readTexts (location ++ [name]) part) entries := by
  rw [Datum.ofEntries_eq, readPalette, Datum.nameText_textEntries]

/-- Texts that are read have each name once. -/
theorem distinct_of_readTexts {location : List String} {value : Datum} {m : Entries String}
    (h : readTexts (R := R) location value.stringify = .ok m) : Entries.Distinct m := by
  cases hvalue : value.stringify with
  | map entries =>
      obtain ⟨written, heq, hdistinct, -⟩ := Datum.exists_of_stringify_eq_map hvalue
      rw [hvalue, heq, readTexts_ofEntries] at h
      rw [Entries.Distinct, Checked.keys_of_entries h]
      exact hdistinct
  | _ => rw [hvalue] at h; cases h

/-- No family of the palette occurs twice, and in no family a shade. -/
def DistinctPalette (palette : Palette) : Prop :=
  Entries.Distinct palette ∧ ∀ family ∈ palette, Entries.Distinct family.2

/-- A palette that is read has each family once and each shade of it. -/
theorem distinctPalette_of_readPalette {location : List String} {value : Datum}
    {palette : Palette} (h : readPalette (R := R) location value.stringify = .ok palette) :
    DistinctPalette palette := by
  cases hvalue : value.stringify with
  | map entries =>
      obtain ⟨written, heq, hdistinct, hinner⟩ := Datum.exists_of_stringify_eq_map hvalue
      rw [hvalue, heq, readPalette_ofEntries] at h
      constructor
      · rw [Entries.Distinct, Checked.keys_of_entries h]
        exact hdistinct
      · intro family hmem
        obtain ⟨datum, hdatum, hread⟩ := Checked.exists_of_mem_entries h hmem
        obtain ⟨source, rfl⟩ : ∃ source : Datum, datum = source.stringify := hinner _ hdatum
        exact distinct_of_readTexts hread
  | _ => rw [hvalue] at h; cases h

/-- A field that is read is empty, or it is read from its value with all names and numbers as
text. -/
theorem exists_of_optionalField {read : List String → Datum → Checked R (Entries α)}
    {entries : List (Scalar × Datum)} {name other : String} {m : Entries α}
    (h : optionalField read entries name other = .ok m) :
    m = [] ∨ ∃ location value, read location (Datum.stringify value) = .ok m := by
  unfold optionalField at h
  split at h
  · cases h
    exact Or.inl rfl
  · cases h
    exact Or.inl rfl
  · split at h
    · cases h
    · exact Or.inr ⟨_, _, h⟩

/-- A field with a palette has each family once and each shade of it. -/
theorem distinctPalette_of_optionalField {entries : List (Scalar × Datum)}
    {name other : String} {palette : Palette}
    (h : optionalField (R := R) readPalette entries name other = .ok palette) :
    DistinctPalette palette := by
  rcases exists_of_optionalField h with rfl | ⟨location, value, hread⟩
  · exact ⟨List.nodup_nil, by simp⟩
  · exact distinctPalette_of_readPalette hread

/-- A field with texts has each name once. -/
theorem distinct_of_optionalField {entries : List (Scalar × Datum)} {name other : String}
    {m : Entries String} (h : optionalField (R := R) readTexts entries name other = .ok m) :
    Entries.Distinct m := by
  rcases exists_of_optionalField h with rfl | ⟨location, value, hread⟩
  · exact List.nodup_nil
  · exact distinct_of_readTexts hread

/-! ## What is written is read again -/

/-- Texts as nested data. -/
def textsDatum (m : Entries String) : Datum := .ofEntries (m.mapValues Datum.text)

theorem paletteDatum_eq (palette : Palette) :
    TokenStore.paletteDatum palette = .ofEntries (palette.mapValues textsDatum) := rfl

theorem stringify_textsDatum {m : Entries String} (h : Entries.Distinct m) :
    (textsDatum m).stringify = textsDatum m := by
  apply Datum.stringify_ofEntries
  · rw [Entries.Distinct, Entries.keys_mapValues]
    exact h
  · intro entry hmem
    obtain ⟨source, -, rfl⟩ := List.mem_map.mp hmem
    simp [Datum.text, Datum.stringify]

theorem unwritable?_textsDatum (m : Entries String) : (textsDatum m).unwritable? = none := by
  apply Datum.unwritable?_ofEntries
  intro entry hmem
  obtain ⟨source, -, rfl⟩ := List.mem_map.mp hmem
  rw [Datum.text, Datum.unwritable?]
  rfl

theorem readTexts_textsDatum (location : List String) (m : Entries String) :
    readTexts (R := R) location (textsDatum m) = .ok m := by
  rw [textsDatum, readTexts_ofEntries]
  exact Checked.entries_mapValues fun entry _ => rfl

theorem stringify_paletteDatum {palette : Palette} (h : DistinctPalette palette) :
    (TokenStore.paletteDatum palette).stringify = TokenStore.paletteDatum palette := by
  rw [paletteDatum_eq]
  apply Datum.stringify_ofEntries
  · rw [Entries.Distinct, Entries.keys_mapValues]
    exact h.1
  · intro entry hmem
    obtain ⟨family, hfamily, rfl⟩ := List.mem_map.mp hmem
    exact stringify_textsDatum (h.2 family hfamily)

theorem unwritable?_paletteDatum (palette : Palette) :
    (TokenStore.paletteDatum palette).unwritable? = none := by
  rw [paletteDatum_eq]
  apply Datum.unwritable?_ofEntries
  intro entry hmem
  obtain ⟨family, -, rfl⟩ := List.mem_map.mp hmem
  exact unwritable?_textsDatum family.2

theorem readPalette_paletteDatum (location : List String) (palette : Palette) :
    readPalette (R := R) location (TokenStore.paletteDatum palette) = .ok palette := by
  rw [paletteDatum_eq, readPalette_ofEntries]
  exact Checked.entries_mapValues fun family _ => readTexts_textsDatum _ family.2

/-- A field with a mapping that can be written and is text already is read from it. -/
theorem optionalField_of_lookup {read : List String → Datum → Checked R (Entries α)}
    {entries : List (Scalar × Datum)} {name other : String} {written : Entries Datum}
    (hlookup : Datum.lookup name entries = some (.ofEntries written))
    (hwritable : (Datum.ofEntries written).unwritable? = none)
    (htext : (Datum.ofEntries written).stringify = .ofEntries written) :
    optionalField read entries name other = read [name] (.ofEntries written) := by
  rw [optionalField, fieldOf, hlookup]
  simp only [Datum.ofEntries_eq] at hwritable htext ⊢
  rw [hwritable]
  simp only [htext]

/-- A field that holds written texts is read as them. -/
theorem optionalField_textsDatum {entries : List (Scalar × Datum)} {name other : String}
    {m : Entries String} (hlookup : Datum.lookup name entries = some (textsDatum m))
    (hd : Entries.Distinct m) :
    optionalField (R := R) readTexts entries name other = .ok m := by
  rw [optionalField_of_lookup hlookup (unwritable?_textsDatum m) (stringify_textsDatum hd)]
  exact readTexts_textsDatum _ m

/-- A field that holds a written palette is read as the palette. -/
theorem optionalField_paletteDatum {entries : List (Scalar × Datum)} {name other : String}
    {palette : Palette}
    (hlookup : Datum.lookup name entries = some (TokenStore.paletteDatum palette))
    (hd : DistinctPalette palette) :
    optionalField (R := R) readPalette entries name other = .ok palette := by
  rw [optionalField_of_lookup hlookup (unwritable?_paletteDatum palette)
    (stringify_paletteDatum hd)]
  exact readPalette_paletteDatum _ palette

end DesignTokens
