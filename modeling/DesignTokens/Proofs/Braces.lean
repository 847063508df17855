import DesignTokens.Proofs.AliasSemantics
import DesignTokens.Proofs.KebabNames
import DesignTokens.Proofs.NumeralTexts
import DesignTokens.Proofs.Occurrences

/-!
# Texts without braces

A brace opens or closes a rule block. Names that are checked, moments and display names that
can stand in the header have none; putting a name into kebab case, removing blanks at the
ends, and filling a gradient bring in none.
-/

namespace DesignTokens

open Text

/-- A character that opens or closes a rule block. -/
def isBrace (c : Char) : Bool := c == '\x7b' || c == '\x7d'

/-- No character of the text opens or closes a rule block. -/
def IsBraceFree (s : String) : Prop := ∀ c ∈ s.toList, isBrace c = false

instance (s : String) : Decidable (IsBraceFree s) :=
  decidable_of_iff (s.toList.all (fun c => !isBrace c) = true) (by simp [IsBraceFree])

theorem isBraceFree_append {s t : String} :
    IsBraceFree (s ++ t) ↔ IsBraceFree s ∧ IsBraceFree t := forall_mem_append_toList

/-- What holds of no brace and holds of a character tells that it is none. -/
theorem isBrace_eq_false_of {p : Char → Bool} (hopen : p '\x7b' = false)
    (hclose : p '\x7d' = false) {c : Char} (h : p c = true) : isBrace c = false := by
  rw [isBrace, Bool.or_eq_false_iff, beq_eq_false_iff_ne, beq_eq_false_iff_ne]
  constructor
  · rintro rfl
    rw [hopen] at h
    cases h
  · rintro rfl
    rw [hclose] at h
    cases h

theorem ne_of_isBrace {c d : Char} (hd : isBrace d = true) (hc : isBrace c = false) : d ≠ c := by
  rintro rfl
  rw [hd] at hc
  cases hc

/-- A text is free of braces when those of its characters that are braces come from texts that
are. -/
theorem isBraceFree_of_forall_mem {s : String}
    (h : ∀ c ∈ s.toList, isBrace c = true → ∃ t, IsBraceFree t ∧ c ∈ t.toList) :
    IsBraceFree s := by
  intro c hc
  by_contra hbrace
  rw [Bool.not_eq_false] at hbrace
  obtain ⟨t, ht, hmem⟩ := h c hc hbrace
  rw [ht c hmem] at hbrace
  cases hbrace

/-- Both braces occur exactly as often as in no text when there are none. -/
theorem isBraceFree_iff_count {s : String} :
    IsBraceFree s ↔ s.toList.count '\x7b' = 0 ∧ s.toList.count '\x7d' = 0 := by
  rw [List.count_eq_zero, List.count_eq_zero]
  constructor
  · intro h
    constructor
    · intro hmem
      exact ne_of_isBrace (by decide) (h _ hmem) rfl
    · intro hmem
      exact ne_of_isBrace (by decide) (h _ hmem) rfl
  · rintro ⟨hopen, hclose⟩ c hc
    rw [isBrace, Bool.or_eq_false_iff, beq_eq_false_iff_ne, beq_eq_false_iff_ne]
    constructor
    · rintro rfl
      exact hopen hc
    · rintro rfl
      exact hclose hc

/-- Texts that are joined behind each other bring in no brace. -/
theorem isBraceFree_intercalate {separator : String} (hseparator : IsBraceFree separator)
    {parts : List String} (h : ∀ part ∈ parts, IsBraceFree part) :
    IsBraceFree (separator.intercalate parts) := by
  induction parts with
  | nil =>
      intro c hc
      simp at hc
  | cons first rest ih =>
      rw [List.forall_mem_cons] at h
      cases rest with
      | nil =>
          rw [String.intercalate_singleton]
          exact h.1
      | cons second others =>
          rw [String.intercalate_cons_cons, isBraceFree_append, isBraceFree_append]
          exact ⟨⟨h.1, hseparator⟩, ih h.2⟩

/-- A text is free of braces when a text that has its characters is. -/
theorem isBraceFree_of_subset {s t : String} (hsubset : s.toList ⊆ t.toList)
    (h : IsBraceFree t) : IsBraceFree s := fun c hc => h c (hsubset hc)

/-! ## Names -/

/-- A brace is an ASCII character, and no letter or hyphen. -/
theorem ascii_of_isBrace {c : Char} (h : isBrace c = true) :
    c.toNat < 0x80 ∧ isAsciiLower c = false ∧ c ≠ '-' := by
  rw [isBrace, Bool.or_eq_true, beq_iff_eq, beq_iff_eq] at h
  rcases h with rfl | rfl
  · decide
  · decide

/-- A segment without braces has none in kebab case. -/
theorem isBraceFree_toKebab {segment : String} (h : IsBraceFree segment) :
    IsBraceFree (toKebab segment) := by
  apply isBraceFree_of_forall_mem
  intro c hc hbrace
  rw [toKebab, String.toList_ofList, kebabChars, lowerChars] at hc
  obtain ⟨hascii, hlower, hhyphen⟩ := ascii_of_isBrace hbrace
  exact ⟨segment, h, mem_of_mem_breakCamel hhyphen
    (mem_of_mem_joinSeparators hhyphen (mem_of_mem_lowerFrom hascii hlower hc))⟩

/-- A path without braces has none in the name of its custom property. -/
theorem isBraceFree_variableName {segments : List String}
    (h : ∀ segment ∈ segments, IsBraceFree segment) : IsBraceFree (variableName segments) := by
  rw [variableName, isBraceFree_append]
  refine ⟨by decide, isBraceFree_intercalate (by decide) ?_⟩
  intro part hpart
  obtain ⟨segment, hsegment, rfl⟩ := List.mem_map.mp hpart
  exact isBraceFree_toKebab (h segment hsegment)

/-- A well-formed custom property has no brace. -/
theorem isBraceFree_of_isVariableName {name : String} (h : isVariableName name = true) :
    IsBraceFree name := by
  intro c hc
  exact isBrace_eq_false_of (by decide) (by decide) (isNameChar_of_isVariableName h c hc)

/-! ## The header -/

/-- A display name that can stand in the header has no brace. -/
theorem isBraceFree_of_isHeaderSafe {name : String} (h : isHeaderSafe name = true) :
    IsBraceFree name := by
  have hmarkers := isHeaderSafe_iff.mp h
  have hopen : occursIn ['\x7b'] name.toList = false := hmarkers "\x7b" (by decide)
  have hclose : occursIn ['\x7d'] name.toList = false := hmarkers "\x7d" (by decide)
  rw [← Bool.not_eq_true, occursIn_singleton] at hopen hclose
  rw [isBraceFree_iff_count, List.count_eq_zero, List.count_eq_zero]
  exact ⟨hopen, hclose⟩

/-- A moment is written without braces. -/
theorem isBraceFree_iso (moment : Moment) : IsBraceFree moment.iso := by
  intro c hc
  rcases isMomentChar_of_mem_isoWith moment "T" c hc with hmark | hc
  · have hfree : IsBraceFree "T" := by decide
    exact hfree c hmark
  · exact isBrace_eq_false_of (by decide) (by decide) hc

/-! ## Values -/

/-- Every character of a stripped text is one of the text. -/
theorem toList_strip_subset (s : String) : (strip s).toList ⊆ s.toList := by
  intro c hc
  rw [strip, String.toList_ofList, stripChars, List.mem_reverse] at hc
  have hback := (List.dropWhile_sublist isBlank).subset hc
  rw [List.mem_reverse] at hback
  exact (List.dropWhile_sublist isBlank).subset hback

/-- Every character of a filled gradient is one of the gradient or of a value in it. -/
theorem mem_fill {value : List Char → String} {parts : List Piece} {c : Char}
    (h : c ∈ fill value parts) :
    c ∈ parts.flatMap Piece.text ∨ ∃ name ∈ references parts, c ∈ (value name).toList := by
  induction parts with
  | nil => cases h
  | cons part rest ih =>
      cases part with
      | char d =>
          rw [fill_char] at h
          rw [references_char, List.flatMap_cons, Piece.text]
          rcases List.mem_cons.mp h with rfl | hrest
          · exact Or.inl List.mem_cons_self
          · exact (ih hrest).imp_left (List.mem_cons_of_mem d)
      | reference name =>
          rw [fill_reference, List.mem_append] at h
          rw [references_reference, List.flatMap_cons]
          rcases h with hvalue | hrest
          · exact Or.inr ⟨name, List.mem_cons_self, hvalue⟩
          · rcases ih hrest with hchar | ⟨other, hother, hvalue⟩
            · exact Or.inl (List.mem_append_right _ hchar)
            · exact Or.inr ⟨other, List.mem_cons_of_mem _ hother, hvalue⟩

end DesignTokens
