import DesignTokens.Proofs.NumeralTexts
import DesignTokens.Source.Datum

/-!
# Raw data

Data as a source gives them hold no part that has been classified, and none of their mappings
has one key twice. A text then stands for one entry, and a theme for the entry whose key is
its name, since no other scalar is named so.
-/

namespace DesignTokens

/-! ## Names of scalars -/

namespace Scalar

/-- Only the text itself is named like a theme; no number, date or other scalar is. -/
theorem nameText_eq_themeName_iff {key : Scalar} {theme : Theme} :
    key.nameText = theme.name ↔ key = .text theme.name := by
  constructor
  · intro h
    -- The name of a theme holds a letter that numbers and moments are written without.
    have hnumeral : ¬ ∀ c ∈ key.nameText.toList, Number.isNumeralChar c = true := by
      rw [h]
      intro hall
      cases theme with
      | light => exact absurd (hall 'l' (by decide)) (by decide)
      | dark => exact absurd (hall 'd' (by decide)) (by decide)
    have hmoment : ¬ ∀ c ∈ key.nameText.toList, c ∈ " ".toList ∨ isMomentChar c = true := by
      rw [h]
      intro hall
      cases theme with
      | light => exact absurd (hall 'l' (by decide)) (by decide)
      | dark => exact absurd (hall 'd' (by decide)) (by decide)
    cases key with
    | null => cases theme <;> exact absurd h (by decide)
    | bool value => cases value <;> cases theme <;> exact absurd h (by decide)
    | int value => exact absurd (Number.isNumeralChar_of_mem_intText value) hnumeral
    | float value => exact absurd (Number.isNumeralChar_of_mem_floatText value) hnumeral
    | noNumber => cases theme <;> exact absurd h (by decide)
    | text value => exact congrArg Scalar.text h
    | bytes data =>
        have hhead := congrArg (fun name => name.toList.head?) h
        rw [nameText, String.toList_ofList] at hhead
        cases theme <;> cases hhead
    | date value =>
        exact absurd (fun c hc => Or.inr (isMomentChar_of_mem_dateIso value c hc)) hmoment
    | moment value => exact absurd (isMomentChar_of_mem_isoWith value " ") hmoment
  · rintro rfl
    rfl

end Scalar

/-! ## Raw data -/

namespace Datum

mutual

/-- Data as a source gives them: nothing in them is classified yet, and no mapping has the
same key twice. -/
def IsRaw : Datum → Prop
  | map entries => EntriesRaw entries
  | node _ => False
  | scalar _ => True
  | list _ => True
  | set _ => True
  | endless => True

/-- The same for the entries of a mapping. -/
def EntriesRaw : List (Scalar × Datum) → Prop
  | [] => True
  | (key, value) :: rest =>
      (∀ other ∈ rest, key.sameKey other.1 = false) ∧ IsRaw value ∧ EntriesRaw rest

end

theorem sameKey_text (first second : String) :
    Scalar.sameKey (.text first) (.text second) = (first == second) := rfl

/-- The values of a raw mapping are raw. -/
theorem isRaw_of_mem {entries : List (Scalar × Datum)} (h : EntriesRaw entries)
    {entry : Scalar × Datum} (hmem : entry ∈ entries) : entry.2.IsRaw := by
  induction entries with
  | nil => cases hmem
  | cons first rest ih =>
      rw [EntriesRaw] at h
      rcases List.mem_cons.mp hmem with rfl | hrest
      · exact h.2.1
      · exact ih h.2.2 hrest

/-- In a raw mapping an entry with a text as its key is what the text stands for. -/
theorem lookup_of_mem {entries : List (Scalar × Datum)} (h : EntriesRaw entries)
    {name : String} {value : Datum} (hmem : (.text name, value) ∈ entries) :
    lookup name entries = some value := by
  fun_induction lookup name entries with
  | case1 => cases hmem
  | case2 held rest =>
      rw [EntriesRaw] at h
      rcases List.mem_cons.mp hmem with heq | hrest
      · cases heq
        rfl
      · have hother := h.1 _ hrest
        simp [sameKey_text] at hother
  | case3 key held rest hne ih =>
      rw [EntriesRaw] at h
      rcases List.mem_cons.mp hmem with heq | hrest
      · cases heq
        exact absurd rfl hne
      · exact ih h.2.2 hrest
  | case4 first rest hkey ih =>
      rw [EntriesRaw] at h
      rcases List.mem_cons.mp hmem with heq | hrest
      · exact absurd heq.symm (hkey name value)
      · exact ih h.2.2 hrest

/-- What a text stands for is an entry with the text as its key. -/
theorem mem_of_lookup {entries : List (Scalar × Datum)} {name : String} {value : Datum}
    (h : lookup name entries = some value) : (.text name, value) ∈ entries := by
  fun_induction lookup name entries with
  | case1 => cases h
  | case2 held rest =>
      cases h
      exact List.mem_cons_self
  | case3 key held rest hne ih => exact List.mem_cons_of_mem _ (ih h)
  | case4 first rest hkey ih => exact List.mem_cons_of_mem _ (ih h)

/-! ## Texts as keys -/

/-- The entries of a mapping whose keys are texts. -/
def textEntries (entries : Entries Datum) : List (Scalar × Datum) :=
  entries.map fun entry => (.text entry.1, entry.2)

theorem ofEntries_eq (entries : Entries Datum) : ofEntries entries = map (textEntries entries) :=
  rfl

theorem nameText_textEntries (entries : Entries Datum) :
    (textEntries entries).map (fun entry => (entry.1.nameText, entry.2)) = entries := by
  rw [textEntries, List.map_map]
  exact List.map_id _

/-- Among keys that are texts, a text stands for what it does in the written mapping. -/
theorem lookup_textEntries (entries : Entries Datum) (name : String) :
    lookup name (textEntries entries) = Entries.get? entries name := by
  induction entries with
  | nil => rfl
  | cons entry rest ih =>
      by_cases h : entry.1 = name
      · simp [textEntries, lookup, Entries.get?, h]
      · simpa [textEntries, lookup, Entries.get?, h] using ih

end Datum

end DesignTokens
