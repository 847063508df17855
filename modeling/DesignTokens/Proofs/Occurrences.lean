import DesignTokens.Store.Brand

/-!
# Occurrences of a mark

A mark stands at a place of a text when it is a prefix of what is left there. A character that
the mark does not have divides its occurrences: none of them reaches across it, so the mark
occurs in lines with such a character between each two exactly when it occurs in one of them.
-/

namespace DesignTokens

/-- The mark stands in the text at the place. -/
def OccursAt (mark text : List Char) (place : Nat) : Prop := mark <+: text.drop place

instance (mark text : List Char) : DecidablePred (OccursAt mark text) := fun _ =>
  inferInstanceAs (Decidable (_ <+: _))

variable {mark : List Char}

/-! ## Places -/

/-- A mark occurs in a text exactly when it stands at some place. -/
theorem occursIn_iff_exists {s : List Char} :
    occursIn mark s = true ↔ ∃ place, OccursAt mark s place := by
  induction s with
  | nil => simp [occursIn, OccursAt]
  | cons c rest ih =>
      rw [occursIn, Bool.or_eq_true, List.isPrefixOf_iff_prefix, ih]
      constructor
      · rintro (hhere | ⟨place, hplace⟩)
        · exact ⟨0, hhere⟩
        · exact ⟨place + 1, hplace⟩
      · rintro ⟨place, hplace⟩
        cases place with
        | zero => exact Or.inl hplace
        | succ place => exact Or.inr ⟨place, hplace⟩

/-- A mark of one character occurs in a text exactly when the text has the character. -/
theorem occursIn_singleton {c : Char} {s : List Char} : occursIn [c] s = true ↔ c ∈ s := by
  induction s with
  | nil => simp [occursIn]
  | cons d rest ih =>
      rw [occursIn, Bool.or_eq_true, ih, List.mem_cons, List.isPrefixOf_iff_prefix,
        List.cons_prefix_cons]
      simp

/-- A mark does not occur in a text that lacks one of its characters. -/
theorem occursIn_eq_false_of_not_mem {c : Char} (hc : c ∈ mark) {s : List Char} (h : c ∉ s) :
    occursIn mark s = false := by
  rw [← Bool.not_eq_true, occursIn_iff_exists]
  rintro ⟨place, hplace⟩
  exact h (List.mem_of_mem_drop (hplace.subset hc))

/-- A mark at the front of a text that does not occur behind the first character stands there
only. -/
theorem occursAt_iff_eq_zero {c : Char} {s : List Char} (hfront : mark <+: c :: s)
    (hbehind : occursIn mark s = false) {place : Nat} :
    OccursAt mark (c :: s) place ↔ place = 0 := by
  constructor
  · intro h
    cases place with
    | zero => rfl
    | succ place =>
        rw [occursIn_iff_exists.mpr ⟨place, h⟩] at hbehind
        cases hbehind
  · rintro rfl
    exact hfront

/-- A mark at the end of a text that does not occur before the last character stands there
only. -/
theorem occursAt_iff_eq_end {c : Char} {s : List Char} (hend : mark <:+ s ++ [c])
    (hne : mark ≠ []) (hbefore : occursIn mark s = false) {place : Nat} :
    OccursAt mark (s ++ [c]) place ↔ place + mark.length = (s ++ [c]).length := by
  constructor
  · intro h
    have hfits : mark.length ≤ s.length + 1 - place := by
      simpa [OccursAt] using h.length_le
    have hpositive := List.length_pos_iff.mpr hne
    rw [List.length_append, List.length_singleton]
    rcases Nat.lt_or_ge (place + mark.length) (s.length + 1) with hlt | hge
    · -- An occurrence that ends before the last character lies in the text before it.
      have hinside : mark.length ≤ (s.drop place).length := by
        rw [List.length_drop]
        omega
      rw [OccursAt, List.drop_append_of_le_length (by omega)] at h
      have hearlier := List.prefix_of_prefix_length_le h (List.prefix_append _ _) hinside
      rw [occursIn_iff_exists.mpr ⟨place, hearlier⟩] at hbefore
      cases hbefore
    · omega
  · intro hplace
    obtain ⟨front, hfront⟩ := hend
    have hlength : front.length = place := by
      have hsum := congrArg List.length hfront
      rw [List.length_append] at hsum
      omega
    have hdrop : (s ++ [c]).drop place = mark := by
      rw [← hfront, ← hlength, List.drop_left]
    exact ⟨[], by rw [List.append_nil, hdrop]⟩

/-- A display name can stand in the header exactly when none of the marks occurs in it. -/
theorem isHeaderSafe_iff {name : String} :
    isHeaderSafe name = true ↔
      ∀ marker ∈ headerUnsafeMarkers, occursIn marker.toList name.toList = false := by
  simp [isHeaderSafe]

/-! ## Dividers -/

/-- A mark is not cut by a character that it does not have. -/
theorem prefix_append_cons_iff {c : Char} (hc : c ∉ mark) {s t : List Char} :
    mark <+: s ++ c :: t ↔ mark <+: s := by
  constructor
  · rintro ⟨rest, hrest⟩
    rcases List.append_eq_append_iff.mp hrest with ⟨behind, rfl, -⟩ | ⟨behind, hmark, hbehind⟩
    · exact List.prefix_append mark behind
    · cases behind with
      | nil =>
          have hsame : mark = s := hmark.trans (List.append_nil s)
          exact hsame ▸ List.prefix_rfl
      | cons d more =>
          have hd : c = d := (List.cons.inj hbehind).1
          rw [hmark, hd] at hc
          exact absurd (List.mem_append_right s List.mem_cons_self) hc
  · intro h
    exact h.trans (List.prefix_append s (c :: t))

/-- A character that a mark does not have divides the occurrences between both sides. -/
theorem occursIn_append_cons (hne : mark ≠ []) {c : Char} (hc : c ∉ mark) (s t : List Char) :
    occursIn mark (s ++ c :: t) = (occursIn mark s || occursIn mark t) := by
  have hprefix (s : List Char) : mark.isPrefixOf (s ++ c :: t) = mark.isPrefixOf s := by
    rw [Bool.eq_iff_iff, List.isPrefixOf_iff_prefix, List.isPrefixOf_iff_prefix,
      prefix_append_cons_iff hc]
  induction s with
  | nil =>
      have hempty : occursIn mark [] = false := List.isEmpty_eq_false_iff.mpr hne
      have hhere : mark.isPrefixOf (c :: t) = false := by
        have hnil := hprefix []
        rw [List.nil_append] at hnil
        rw [hnil, ← Bool.not_eq_true, List.isPrefixOf_iff_prefix, List.prefix_nil]
        exact hne
      rw [List.nil_append, hempty, occursIn, hhere]
  | cons d rest ih =>
      have hhere := hprefix (d :: rest)
      rw [List.cons_append] at hhere
      rw [List.cons_append, occursIn, occursIn, hhere, ih, Bool.or_assoc]

/-- A mark occurs in lines with such a character between each two when it occurs in one. -/
theorem occursIn_intercalate (hne : mark ≠ []) {c : Char} (hc : c ∉ mark)
    (lines : List (List Char)) :
    occursIn mark ([c].intercalate lines) = lines.any (occursIn mark) := by
  induction lines with
  | nil =>
      rw [List.intercalate_nil, List.any_nil]
      exact List.isEmpty_eq_false_iff.mpr hne
  | cons first rest ih =>
      cases rest with
      | nil => simp
      | cons second others =>
          rw [List.intercalate_cons_cons, List.append_assoc, List.singleton_append,
            occursIn_append_cons hne hc, ih, List.any_cons (l := second :: others)]

end DesignTokens
