import DesignTokens.Proofs.ReorderedData

/-!
# Fields in another order

The fields of a record are looked up by name, and the entries of a palette or a scale are
checked one by one, so reordered data are accepted alike. A text field has the same text; a
palette and a scale have the same entries in another order.
-/

namespace DesignTokens

open Datum (Reordered)

variable {R : Type} {α : Type} {entries others : List (Scalar × Datum)}

/-! ## Texts -/

/-- A text is the same in any order: it has no parts. -/
theorem readText_of_reordered {location : List String} {first second : Datum} {text : String}
    (h : Reordered first second) (hok : readText (R := R) location first = .ok text) :
    readText (R := R) location second = .ok text := by
  cases h with
  | same => exact hok
  | list => cases hok
  | map => cases hok

/-- A text that is looked up is the same in another order, also where it is missing. -/
theorem elim_lookup_of_reordered (h : Reordered (.map entries) (.map others))
    (hd : (Datum.map entries).NamesDistinct) {name text : String} {missing : Checked R String}
    (hok : (Datum.lookup name entries).elim missing (readText [name]) = .ok text) :
    (Datum.lookup name others).elim missing (readText [name]) = .ok text := by
  cases hlookup : Datum.lookup name entries with
  | none =>
      rw [hlookup] at hok
      rw [h.lookup_eq_none hd hlookup]
      exact hok
  | some value =>
      rw [hlookup] at hok
      obtain ⟨other, hother, hvalue⟩ := h.exists_lookup hd hlookup
      rw [hother]
      exact readText_of_reordered hvalue hok

theorem textField_of_reordered (h : Reordered (.map entries) (.map others))
    (hd : (Datum.map entries).NamesDistinct) {name default text : String}
    (hok : textField (R := R) entries name default = .ok text) :
    textField (R := R) others name default = .ok text := by
  have helim (source : List (Scalar × Datum)) : textField (R := R) source name default =
      (Datum.lookup name source).elim (.ok default) (readText [name]) := by
    unfold textField
    cases Datum.lookup name source <;> rfl
  rw [helim] at hok ⊢
  exact elim_lookup_of_reordered h hd hok

theorem requiredText_of_reordered (h : Reordered (.map entries) (.map others))
    (hd : (Datum.map entries).NamesDistinct) {name text : String}
    (hok : requiredText (R := R) entries name = .ok text) :
    requiredText (R := R) others name = .ok text := by
  have helim (source : List (Scalar × Datum)) : requiredText (R := R) source name =
      (Datum.lookup name source).elim (.fail [name] .missing) (readText [name]) := by
    unfold requiredText
    cases Datum.lookup name source <;> rfl
  rw [helim] at hok ⊢
  exact elim_lookup_of_reordered h hd hok

/-! ## Fields with two names -/

/-- A field is found under the same name, with its value in another order. -/
theorem exists_fieldOf (h : Reordered (.map entries) (.map others))
    (hd : (Datum.map entries).NamesDistinct) {name other used : String} {value : Datum}
    (hfield : fieldOf entries name other = some (used, value)) :
    ∃ found, fieldOf others name other = some (used, found) ∧ Reordered value found := by
  unfold fieldOf at hfield ⊢
  cases hfirst : Datum.lookup name entries with
  | some held =>
      rw [hfirst] at hfield
      cases hfield
      obtain ⟨found, hfound, hvalue⟩ := h.exists_lookup hd hfirst
      exact ⟨found, by rw [hfound], hvalue⟩
  | none =>
      rw [hfirst] at hfield
      obtain ⟨held, hsecond, heq⟩ := Option.map_eq_some_iff.mp hfield
      cases heq
      obtain ⟨found, hfound, hvalue⟩ := h.exists_lookup hd hsecond
      exact ⟨found, by rw [h.lookup_eq_none hd hfirst, hfound]; rfl, hvalue⟩

/-- The value of a field has no repeated name when the record has none. -/
theorem namesDistinct_of_fieldOf (hd : (Datum.map entries).NamesDistinct)
    {name other used : String} {value : Datum}
    (hfield : fieldOf entries name other = some (used, value)) : value.NamesDistinct := by
  unfold fieldOf at hfield
  split at hfield
  · rename_i held hlookup
    cases hfield
    exact hd.of_mem (Datum.mem_of_lookup hlookup)
  · obtain ⟨held, hlookup, heq⟩ := Option.map_eq_some_iff.mp hfield
    cases heq
    exact hd.of_mem (Datum.mem_of_lookup hlookup)

/-- A field that is left out is left out in another order. -/
theorem fieldOf_eq_none (h : Reordered (.map entries) (.map others))
    (hd : (Datum.map entries).NamesDistinct) {name other : String}
    (hfield : fieldOf entries name other = none) : fieldOf others name other = none := by
  cases hfound : fieldOf others name other with
  | none => rfl
  | some found =>
      obtain ⟨value, hvalue, -⟩ := exists_fieldOf h.symm (h.namesDistinct hd) hfound
      rw [hfield] at hvalue
      cases hvalue

theorem formatField_of_reordered (h : Reordered (.map entries) (.map others))
    (hd : (Datum.map entries).NamesDistinct) {expected : String}
    (hok : formatField (R := R) entries expected = .ok ()) :
    formatField (R := R) others expected = .ok () := by
  unfold formatField at hok ⊢
  cases hfield : fieldOf entries "schema" "schema_version" with
  | none => rw [fieldOf_eq_none h hd hfield]
  | some found =>
      rw [hfield] at hok
      obtain ⟨used, value⟩ := found
      obtain ⟨other, hother, hvalue⟩ := exists_fieldOf h hd hfield
      rw [hother]
      cases hvalue with
      | same => exact hok
      | list => cases hok
      | map => cases hok

/-! ## Palettes and scales -/

/-- Entries are kept as what their values are read as, each in its place. -/
theorem Checked.entries_eq_ok_iff {check : String → Datum → Checked R α} {out : Entries α} :
    Checked.entries check (entries.map fun entry => (entry.1.nameText, entry.2)) = .ok out ↔
      List.Forall₂ (fun entry kept =>
        kept.1 = entry.1.nameText ∧ check entry.1.nameText entry.2 = .ok kept.2) entries out := by
  induction entries generalizing out with
  | nil =>
      rw [List.forall₂_nil_left_iff]
      constructor
      · intro h
        cases h
        rfl
      · rintro rfl
        rfl
  | cons entry rest ih =>
      rw [List.map_cons, entries_cons_eq_ok_iff, List.forall₂_cons_left_iff]
      constructor
      · rintro ⟨value, kept, hvalue, hkept, rfl⟩
        exact ⟨_, kept, ⟨rfl, hvalue⟩, ih.mp hkept, rfl⟩
      · rintro ⟨⟨name, value⟩, kept, ⟨rfl, hvalue⟩, hkept, rfl⟩
        exact ⟨value, kept, hvalue, ih.mpr hkept, rfl⟩

/-- Entries that are good are good in another order; what is kept of them is related in its
places and then permuted. -/
theorem Checked.exists_entries_of_reordered {check : String → Datum → Checked R α}
    {T : α → α → Prop} {out : Entries α} (h : Reordered (.map entries) (.map others))
    (hok : Checked.entries check (entries.map fun entry => (entry.1.nameText, entry.2)) = .ok out)
    (hcheck : ∀ name first second value, Reordered first second →
      check name first = .ok value → ∃ other, check name second = .ok other ∧ T value other) :
    ∃ matched permuted, List.Forall₂ (fun kept found => kept.1 = found.1 ∧ T kept.2 found.2)
        out matched ∧ matched.Perm permuted ∧
      Checked.entries check (others.map fun entry => (entry.1.nameText, entry.2)) =
        .ok permuted := by
  obtain ⟨aligned, haligned, hperm⟩ := h.exists_aligned
  simp only [entries_eq_ok_iff] at hok ⊢
  apply haligned.exists_perm hperm hok
  rintro key first second ⟨name, value⟩ hvalue ⟨rfl, hfirst⟩
  obtain ⟨other, hother, hrelated⟩ := hcheck _ first second value hvalue hfirst
  exact ⟨(key.nameText, other), ⟨rfl, hother⟩, rfl, hrelated⟩

/-- Texts are read from a reordered mapping in another order. -/
theorem exists_readTexts {location : List String} {first second : Datum} {m : Entries String}
    (h : Reordered first second) (hok : readTexts (R := R) location first = .ok m) :
    ∃ n, readTexts (R := R) location second = .ok n ∧ m.Perm n := by
  cases first with
  | map entries =>
      obtain ⟨others, rfl⟩ := h.exists_map
      obtain ⟨matched, permuted, hmatched, hperm, hothers⟩ :=
        Checked.exists_entries_of_reordered (T := Eq) h hok
          fun _ _ _ value hvalue hfirst => ⟨value, readText_of_reordered hvalue hfirst, rfl⟩
      have hsame : m = matched := by
        rw [← List.forall₂_eq_eq_eq]
        exact hmatched.imp fun _ _ hentry => Prod.ext hentry.1 hentry.2
      subst hsame
      exact ⟨permuted, hothers, hperm⟩
  | _ => cases hok

/-- Families with permuted shades have the same colors in another order. -/
theorem paletteEntries_perm {first second : Palette}
    (h : List.Forall₂ (fun family other => family.1 = other.1 ∧ family.2.Perm other.2)
      first second) : (paletteEntries first).Perm (paletteEntries second) := by
  induction h with
  | nil => exact .refl _
  | @cons family other rest behind hfamily _ ih =>
      rw [paletteEntries, paletteEntries, List.flatMap_cons, List.flatMap_cons, hfamily.1]
      exact (hfamily.2.map _).append ih

/-- A palette is read from a reordered mapping with the same colors in another order. -/
theorem exists_readPalette {location : List String} {first second : Datum} {palette : Palette}
    (h : Reordered first second) (hok : readPalette (R := R) location first = .ok palette) :
    ∃ other, readPalette (R := R) location second = .ok other ∧
      (paletteEntries palette).Perm (paletteEntries other) := by
  cases first with
  | map entries =>
      obtain ⟨others, rfl⟩ := h.exists_map
      obtain ⟨matched, permuted, hmatched, hperm, hothers⟩ :=
        Checked.exists_entries_of_reordered h hok fun _ _ _ _ hvalue => exists_readTexts hvalue
      exact ⟨permuted, hothers, (paletteEntries_perm hmatched).trans (hperm.flatMap_right _)⟩
  | _ => cases hok

/-! ## Fields that may be left out -/

/-- A field that may be left out gives nothing when it is, or is empty, and otherwise what is
read from its value with all names and numbers as text. -/
theorem optionalField_eq_ok_iff {read : List String → Datum → Checked R (Entries α)}
    {name other : String} {m : Entries α} :
    optionalField read entries name other = .ok m ↔
      (m = [] ∧ ∀ held ∈ fieldOf entries name other, held.2 = .scalar .null) ∨
      ∃ used value, fieldOf entries name other = some (used, value) ∧ value ≠ .scalar .null ∧
        value.unwritable? = none ∧ read [used] value.stringify = .ok m := by
  unfold optionalField
  split
  · rename_i hfield
    simp [hfield, eq_comm]
  · rename_i used hfield
    simp [hfield, eq_comm]
  · rename_i used value hnull hfield
    have hne : value ≠ .scalar .null := hnull
    cases hwritable : value.unwritable? with
    | some reason => simp [hfield, hne, hwritable, Checked.fail]
    | none => simp [hfield, hne, hwritable]

/-- A value that is empty is empty in another order. -/
theorem Datum.Reordered.eq_null {first second : Datum} (h : Reordered first second)
    (hsecond : second = .scalar .null) : first = .scalar .null := by
  cases h with
  | same => exact hsecond
  | list => cases hsecond
  | map => cases hsecond

/-- A field that may be left out is read alike in another order, when what it is read with
does so. -/
theorem exists_optionalField {read : List String → Datum → Checked R (Entries α)}
    {Same : Entries α → Entries α → Prop} {name other : String} {m : Entries α}
    (h : Reordered (.map entries) (.map others)) (hd : (Datum.map entries).NamesDistinct)
    (hok : optionalField read entries name other = .ok m) (hempty : Same [] [])
    (hread : ∀ location first second m, Reordered first second → read location first = .ok m →
      ∃ n, read location second = .ok n ∧ Same m n) :
    ∃ n, optionalField read others name other = .ok n ∧ Same m n := by
  have hdOthers := h.namesDistinct hd
  rcases optionalField_eq_ok_iff.mp hok with
    ⟨rfl, hnull⟩ | ⟨used, value, hfield, hnull, hwritable, hvalue⟩
  · refine ⟨[], optionalField_eq_ok_iff.mpr (Or.inl ⟨rfl, ?_⟩), hempty⟩
    rintro ⟨used, found⟩ hfound
    obtain ⟨value, hvalue, hback⟩ := exists_fieldOf h.symm hdOthers hfound
    exact hback.eq_null (hnull _ hvalue)
  · obtain ⟨found, hfound, hback⟩ := exists_fieldOf h hd hfield
    obtain ⟨n, hn, hsame⟩ :=
      hread _ _ _ m (hback.stringify (namesDistinct_of_fieldOf hd hfield)) hvalue
    refine ⟨n, optionalField_eq_ok_iff.mpr (Or.inr ⟨used, found, hfound, ?_, ?_, hn⟩), hsame⟩
    · exact fun heq => hnull (hback.eq_null heq)
    · exact hback.unwritable?_eq_none hwritable

end DesignTokens
