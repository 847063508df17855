import DesignTokens.Proofs.KebabNames

/-!
# Kebab case as a normal form

An ASCII text is in kebab case when it has no capital and no character that separates words.
Putting ASCII text into kebab case gives such a text, and exactly these texts stay as they are.
So a custom property does not depend on whether its segments have been put into kebab case
before. It is well formed exactly when something stands behind the fixed start and the segments
hold nothing but letters, digits, hyphens and separators.
-/

namespace DesignTokens

open Text

/-! ## Characters -/

/-- A text of ASCII characters only. -/
def IsAscii (s : List Char) : Prop := ∀ c ∈ s, c.toNat < 0x80

instance : DecidablePred IsAscii := List.decidableBAll fun c : Char => c.toNat < 0x80

/-- What holds of the ASCII codes holds of the ASCII characters. -/
theorem forall_ascii {p : Char → Prop} (h : ∀ code < 0x80, p (Char.ofNat code)) {c : Char}
    (hc : c.toNat < 0x80) : p c := by
  have hcode := h c.toNat hc
  rwa [Char.ofNat_toNat] at hcode

/-- The lower case of an ASCII character is an ASCII character and no capital, and it separates
words exactly if the character does. -/
theorem lowerAscii_of_ascii {c : Char} (hc : c.toNat < 0x80) :
    (lowerAscii c).toNat < 0x80 ∧ isAsciiUpper (lowerAscii c) = false ∧
      isSegmentSeparator (lowerAscii c) = isSegmentSeparator c := by
  revert c
  exact @forall_ascii _ (by decide +kernel)

/-- A character that custom properties may hold, once it is in lower case, is a letter, a digit
or a hyphen. -/
theorem isNameChar_lowerAscii {c : Char} (hc : c.toNat < 0x80) :
    isNameChar (lowerAscii c) = (isAsciiLetter c || isAsciiDigit c || c == '-') := by
  revert c
  exact @forall_ascii _ (by decide +kernel)

/-- Only capitals have another lower case. -/
theorem lowerAscii_eq_self {c : Char} (h : isAsciiUpper c = false) : lowerAscii c = c := by
  rw [lowerAscii, h, if_neg Bool.false_ne_true]

/-! ## Words -/

/-- Hyphens before capitals leave every character in its text. -/
theorem mem_breakCamel_of_mem {s : List Char} {c : Char} (h : c ∈ s) : c ∈ breakCamel s := by
  induction s with
  | nil => cases h
  | cons d rest ih =>
      cases rest with
      | nil => exact h
      | cons next others =>
          rw [breakCamel]
          split
          · simp only [List.mem_cons] at h ih ⊢
            exact h.imp_right fun hrest => Or.inr (ih hrest)
          · simp only [List.mem_cons] at h ih ⊢
            exact h.imp_right ih

/-- Hyphens for separators leave no separator. -/
theorem isSegmentSeparator_of_mem_joinSeparators {inRun : Bool} {s : List Char} {c : Char}
    (h : c ∈ joinSeparators inRun s) : isSegmentSeparator c = false := by
  induction s generalizing inRun with
  | nil => cases h
  | cons d rest ih =>
      rw [joinSeparators] at h
      split at h
      · split at h
        · exact ih h
        · rcases List.mem_cons.mp h with rfl | hrest
          · decide
          · exact ih hrest
      · rename_i hd
        rcases List.mem_cons.mp h with rfl | hrest
        · exact Bool.eq_false_iff.mpr hd
        · exact ih hrest

/-- Hyphens for separators leave all other characters. -/
theorem mem_joinSeparators_of_mem {inRun : Bool} {s : List Char} {c : Char}
    (hc : isSegmentSeparator c = false) (h : c ∈ s) : c ∈ joinSeparators inRun s := by
  induction s generalizing inRun with
  | nil => cases h
  | cons d rest ih =>
      rw [joinSeparators]
      rcases List.mem_cons.mp h with rfl | hrest
      · rw [hc, if_neg Bool.false_ne_true]
        exact List.mem_cons_self
      · split
        · split
          · exact ih hrest
          · exact List.mem_cons_of_mem _ (ih hrest)
        · exact List.mem_cons_of_mem _ (ih hrest)

/-- But for hyphens, the words of a text have its characters that are no separators. -/
theorem mem_hyphenated_iff {s : List Char} {c : Char} (hc : c ≠ '-') :
    c ∈ hyphenated s ↔ c ∈ s ∧ isSegmentSeparator c = false := by
  constructor
  · intro h
    exact ⟨mem_of_mem_breakCamel hc (mem_of_mem_joinSeparators hc h),
      isSegmentSeparator_of_mem_joinSeparators h⟩
  · rintro ⟨h, hkept⟩
    exact mem_joinSeparators_of_mem hkept (mem_breakCamel_of_mem h)

theorem breakCamel_eq_self {s : List Char} (h : ∀ c ∈ s, isAsciiUpper c = false) :
    breakCamel s = s := by
  induction s with
  | nil => rfl
  | cons c rest ih =>
      rw [List.forall_mem_cons] at h
      cases rest with
      | nil => rfl
      | cons d others =>
          rw [breakCamel, ih h.2, h.2 d List.mem_cons_self, Bool.and_false,
            if_neg Bool.false_ne_true]

theorem joinSeparators_eq_self {inRun : Bool} {s : List Char}
    (h : ∀ c ∈ s, isSegmentSeparator c = false) : joinSeparators inRun s = s := by
  induction s generalizing inRun with
  | nil => rfl
  | cons c rest ih =>
      rw [List.forall_mem_cons] at h
      rw [joinSeparators, h.1, if_neg Bool.false_ne_true, ih h.2]

/-! ## The normal form -/

/-- A text in kebab case: ASCII characters without capitals and without separators. -/
structure IsKebab (s : List Char) : Prop where
  ascii : IsAscii s
  noCapital : ∀ c ∈ s, isAsciiUpper c = false
  noSeparator : ∀ c ∈ s, isSegmentSeparator c = false

/-- The words of an ASCII text are ASCII texts. -/
theorem isAscii_hyphenated {s : List Char} (h : IsAscii s) : IsAscii (hyphenated s) := by
  intro c hc
  by_cases hhyphen : c = '-'
  · subst hhyphen
    decide
  · exact h c ((mem_hyphenated_iff hhyphen).mp hc).1

/-- The kebab case of an ASCII text is its words, each character in lower case. -/
theorem kebabChars_of_ascii {s : List Char} (h : IsAscii s) :
    kebabChars s = (hyphenated s).map lowerAscii :=
  lowerChars_of_ascii (isAscii_hyphenated h)

/-- An ASCII text that is put into kebab case is in kebab case. -/
theorem isKebab_kebabChars {s : List Char} (h : IsAscii s) : IsKebab (kebabChars s) := by
  have hwords := isAscii_hyphenated h
  rw [kebabChars_of_ascii h]
  refine ⟨?_, ?_, ?_⟩
  · exact List.forall_mem_map.mpr fun c hc => (lowerAscii_of_ascii (hwords c hc)).1
  · exact List.forall_mem_map.mpr fun c hc => (lowerAscii_of_ascii (hwords c hc)).2.1
  · refine List.forall_mem_map.mpr fun c hc => ?_
    rw [(lowerAscii_of_ascii (hwords c hc)).2.2]
    exact isSegmentSeparator_of_mem_joinSeparators hc

/-- A text in kebab case stays as it is. -/
theorem IsKebab.kebabChars_eq_self {s : List Char} (h : IsKebab s) : kebabChars s = s := by
  have hwords : hyphenated s = s := by
    rw [hyphenated, breakCamel_eq_self h.noCapital, joinSeparators_eq_self h.noSeparator]
  have hlower : s.map lowerAscii = s.map id :=
    List.map_congr_left fun c hc => lowerAscii_eq_self (h.noCapital c hc)
  rw [kebabChars_of_ascii h.ascii, hwords, hlower, List.map_id]

/-- Exactly the ASCII texts in kebab case stay as they are. -/
theorem toKebab_eq_self_iff {segment : String} (h : IsAscii segment.toList) :
    toKebab segment = segment ↔ IsKebab segment.toList := by
  have htext : toKebab segment = segment ↔ kebabChars segment.toList = segment.toList := by
    rw [toKebab, ← String.toList_inj, String.toList_ofList]
  rw [htext]
  exact ⟨fun hsame => hsame ▸ isKebab_kebabChars h, IsKebab.kebabChars_eq_self⟩

/-- A second time, kebab case changes nothing. -/
theorem toKebab_toKebab {segment : String} (h : IsAscii segment.toList) :
    toKebab (toKebab segment) = toKebab segment := by
  have hkebab : IsKebab (toKebab segment).toList := by
    rw [toKebab, String.toList_ofList]
    exact isKebab_kebabChars h
  exact (toKebab_eq_self_iff hkebab.ascii).mpr hkebab

/-! ## Custom properties -/

/-- The segments of a custom property may be put into kebab case before. -/
theorem variableName_map_toKebab {segments : List String}
    (h : ∀ segment ∈ segments, IsAscii segment.toList) :
    variableName (segments.map toKebab) = variableName segments := by
  rw [variableName, variableName, List.map_map]
  have hsame : segments.map (toKebab ∘ toKebab) = segments.map toKebab :=
    List.map_congr_left fun segment hsegment => toKebab_toKebab (h segment hsegment)
  rw [hsame]

/-- The characters of a text that is joined by hyphens are those of its parts and hyphens. -/
theorem forall_mem_intercalate_hyphen {p : Char → Prop} (hp : p '-') {parts : List (List Char)} :
    (∀ c ∈ ['-'].intercalate parts, p c) ↔ ∀ part ∈ parts, ∀ c ∈ part, p c := by
  induction parts with
  | nil => simp
  | cons first rest ih =>
      cases rest with
      | nil => simp
      | cons second others =>
          rw [List.intercalate_cons_cons, List.forall_mem_append, List.forall_mem_append, ih,
            List.forall_mem_singleton, List.forall_mem_cons (l := second :: others)]
          simp only [hp, and_true]

/-- The start and some text behind it are well formed together when the text is not empty and
holds nothing but lower-case letters, digits and hyphens. -/
theorem isVariableName_append_iff {rest : String} :
    isVariableName (variablePrefix ++ rest) = true ↔
      rest ≠ "" ∧ ∀ c ∈ rest.toList, isNameChar c = true := by
  have hempty : rest.toList = [] ↔ rest = "" := by
    rw [← String.toList_inj, String.toList_empty]
  simp [isVariableName, String.toList_append, hempty]

/-- An ASCII segment gives nothing but name characters exactly when it holds nothing but letters,
digits, hyphens and separators. -/
theorem forall_mem_kebabChars_iff {s : List Char} (h : IsAscii s) :
    (∀ c ∈ kebabChars s, isNameChar c = true) ↔
      ∀ c ∈ s, isAsciiLetter c = true ∨ isAsciiDigit c = true ∨ c = '-' ∨
        isSegmentSeparator c = true := by
  have hwords := isAscii_hyphenated h
  rw [kebabChars_of_ascii h, List.forall_mem_map]
  constructor
  · intro hall c hc
    by_cases hhyphen : c = '-'
    · exact Or.inr (Or.inr (Or.inl hhyphen))
    · cases hseparator : isSegmentSeparator c with
      | true => exact Or.inr (Or.inr (Or.inr rfl))
      | false =>
          have hname := hall c ((mem_hyphenated_iff hhyphen).mpr ⟨hc, hseparator⟩)
          rw [isNameChar_lowerAscii (h c hc)] at hname
          simpa [hhyphen] using hname
  · intro hall c hc
    rw [isNameChar_lowerAscii (hwords c hc)]
    by_cases hhyphen : c = '-'
    · simp [hhyphen]
    · obtain ⟨hmem, hseparator⟩ := (mem_hyphenated_iff hhyphen).mp hc
      simpa [hseparator, or_assoc] using hall c hmem

/-- A custom property of ASCII segments is well formed exactly when something stands behind the
fixed start and its segments hold nothing but letters, digits, hyphens and separators. -/
theorem isVariableName_variableName_iff {segments : List String}
    (h : ∀ segment ∈ segments, IsAscii segment.toList) :
    isVariableName (variableName segments) = true ↔
      "-".intercalate (segments.map toKebab) ≠ "" ∧
        ∀ segment ∈ segments, ∀ c ∈ segment.toList,
          isAsciiLetter c = true ∨ isAsciiDigit c = true ∨ c = '-' ∨
            isSegmentSeparator c = true := by
  rw [variableName, isVariableName_append_iff, toList_intercalate_toKebab,
    forall_mem_intercalate_hyphen (p := fun c => isNameChar c = true) (by decide),
    List.forall_mem_map]
  refine and_congr_right fun _ => forall₂_congr fun segment hsegment => ?_
  exact forall_mem_kebabChars_iff (h segment hsegment)

/-- Kebab case is a normal form of ASCII segments. It has no capital, no dot, no underscore and
no blank, a second time it changes nothing, and the segments that stay as they are are those in
kebab case. So segments in kebab case give the custom property that they give without it. This is
well formed exactly when it goes on behind the fixed start and every character of a segment is a
letter, a digit, a hyphen, a dot, an underscore or blank. -/
theorem toKebab_normalForm :
    (∀ segment : String, IsAscii segment.toList →
      (∀ c ∈ (toKebab segment).toList,
        isAsciiUpper c = false ∧ c ≠ '.' ∧ c ≠ '_' ∧ isBlank c = false) ∧
      toKebab (toKebab segment) = toKebab segment ∧
      (toKebab segment = segment ↔ IsKebab segment.toList)) ∧
    ∀ segments : List String, (∀ segment ∈ segments, IsAscii segment.toList) →
      variableName (segments.map toKebab) = variableName segments ∧
      (isVariableName (variableName segments) = true ↔
        "-".intercalate (segments.map toKebab) ≠ "" ∧
          ∀ segment ∈ segments, ∀ c ∈ segment.toList,
            isAsciiLetter c = true ∨ isAsciiDigit c = true ∨ c = '-' ∨ c = '.' ∨ c = '_' ∨
              isBlank c = true) := by
  refine ⟨fun segment h => ⟨?_, toKebab_toKebab h, toKebab_eq_self_iff h⟩,
    fun segments h => ⟨variableName_map_toKebab h, ?_⟩⟩
  · intro c hc
    rw [toKebab, String.toList_ofList] at hc
    have hseparator := (isKebab_kebabChars h).noSeparator c hc
    simp only [isSegmentSeparator, Bool.or_eq_false_iff, beq_eq_false_iff_ne] at hseparator
    exact ⟨(isKebab_kebabChars h).noCapital c hc, hseparator.1.1, hseparator.1.2, hseparator.2⟩
  · simpa only [isSegmentSeparator, Bool.or_eq_true, beq_iff_eq, or_assoc] using
      isVariableName_variableName_iff h

/-- Capitals behind small letters, runs of separators and a hyphen, and a segment with a character
that no custom property may hold. -/
theorem toKebab_normalForm_background :
    let good := ["backgroundHover", "Top._Left-2\t"]
    (∀ segment ∈ good ++ ["accent!"], IsAscii segment.toList) ∧
      variableName good = "--mond-background-hover-top-left-2-" ∧
      variableName (good.map toKebab) = variableName good ∧
      isVariableName (variableName good) = true ∧
      isVariableName (variableName (good ++ ["accent!"])) = false ∧
      toKebab (toKebab "backgroundHover") = toKebab "backgroundHover" ∧
      ¬ IsKebab "backgroundHover".toList := by
  intro good
  have hall : ∀ segment ∈ good ++ ["accent!"], IsAscii segment.toList := by
    decide +kernel
  have hgood : ∀ segment ∈ good, IsAscii segment.toList :=
    (List.forall_mem_append.mp hall).1
  have hchars : good.all (fun segment => segment.toList.all fun c => isAsciiLetter c ||
      isAsciiDigit c || c == '-' || c == '.' || c == '_' || isBlank c) = true := by
    decide +kernel
  obtain ⟨hsegment, hname⟩ := toKebab_normalForm
  obtain ⟨-, htwice, hkebab⟩ := hsegment "backgroundHover" (hgood _ List.mem_cons_self)
  refine ⟨hall, by decide +kernel, (hname good hgood).1,
    (hname good hgood).2.mpr ⟨by decide +kernel, ?_⟩, ?_, htwice,
    fun hnormal => absurd (hkebab.mpr hnormal) (by decide +kernel)⟩
  · simpa only [List.all_eq_true, Bool.or_eq_true, beq_iff_eq, or_assoc] using hchars
  · rw [← Bool.not_eq_true, (hname _ hall).2]
    rintro ⟨-, hallowed⟩
    exact absurd (hallowed "accent!" (by simp) '!' (by decide)) (by decide)

end DesignTokens
