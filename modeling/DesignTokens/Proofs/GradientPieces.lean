import DesignTokens.Proofs.DottedPaths
import DesignTokens.Token.Value
import Mathlib.Tactic.Common

/-!
# Where a gradient is cut

No reference goes past a character that is neither part of a word nor a dot, so a gradient is
cut between such characters part by part. A reference that makes up such a part is cut out as
a whole exactly when it is embeddable: an embedded reference has a narrower form than one
that stands alone, with ASCII letters in its first segment, the first of them in lower case,
and ASCII letters and digits in the others.
-/

namespace DesignTokens

open Text

/-! ## Cutting at a boundary -/

/-- A character that ends every word and every embedded reference. -/
def isBoundary (c : Char) : Bool := !isWordChar c && !isEmbeddedChar c

theorem isBoundary_iff {c : Char} :
    isBoundary c = true ↔ isWordChar c = false ∧ isEmbeddedChar c = false := by
  rw [isBoundary, Bool.and_eq_true, Bool.not_eq_true', Bool.not_eq_true']

/-- An ASCII letter can stand in an embedded reference. -/
theorem isEmbeddedChar_of_isAsciiLetter {c : Char} (h : isAsciiLetter c = true) :
    isEmbeddedChar c = true := by
  rw [isEmbeddedChar, isAsciiAlphanumeric, h, Bool.true_or, Bool.true_or]

section Boundary

variable {c : Char} (hc : isBoundary c = true) (s t : List Char)

include hc

theorem isAsciiLetter_of_isBoundary : isAsciiLetter c = false := by
  by_contra h
  rw [Bool.not_eq_false] at h
  have hembedded := (isBoundary_iff.mp hc).2
  rw [isEmbeddedChar_of_isAsciiLetter h] at hembedded
  cases hembedded

/-- A boundary ends a word like the end of the text. -/
theorem endsWord_append_boundary : endsWord (s ++ c :: t) = endsWord s := by
  cases s with
  | nil =>
      simp only [List.nil_append, endsWord, (isBoundary_iff.mp hc).1, Bool.not_false]
  | cons d rest => rfl

/-- The tail of a reference does not go past a boundary. -/
theorem embeddedTail_append_boundary : embeddedTail (s ++ c :: t) = embeddedTail s := by
  induction s with
  | nil =>
      simp only [List.nil_append, embeddedTail, (isBoundary_iff.mp hc).2, Bool.false_eq_true,
        if_false]
  | cons d rest ih =>
      rw [List.cons_append, embeddedTail, embeddedTail, ih, endsWord_append_boundary hc]

/-- No reference starts with a boundary. -/
theorem embeddedReference?_boundary : embeddedReference? (c :: t) = none := by
  have hlower : isAsciiLower c = false := (Bool.or_eq_false_iff.mp
    (isAsciiLetter_of_isBoundary hc)).1
  rw [embeddedReference?, hlower]
  rfl

/-- The word of letters at the front of a text does not go past a boundary. -/
theorem takeWhile_append_boundary :
    (s ++ c :: t).takeWhile isAsciiLetter = s.takeWhile isAsciiLetter := by
  have hletter := isAsciiLetter_of_isBoundary hc
  induction s with
  | nil => rw [List.nil_append, List.takeWhile_cons_of_neg (by simp [hletter]), List.takeWhile_nil]
  | cons d rest ih => rw [List.cons_append, List.takeWhile_cons, List.takeWhile_cons, ih]

/-- What is behind the word of letters goes on up to the boundary and past it. -/
theorem dropWhile_append_boundary :
    (s ++ c :: t).dropWhile isAsciiLetter = s.dropWhile isAsciiLetter ++ c :: t := by
  have hletter := isAsciiLetter_of_isBoundary hc
  induction s with
  | nil =>
      rw [List.nil_append, List.dropWhile_cons_of_neg (by simp [hletter]), List.dropWhile_nil,
        List.nil_append]
  | cons d rest ih =>
      rw [List.cons_append, List.dropWhile_cons, List.dropWhile_cons, ih]
      split
      · rfl
      · rfl

/-- A reference does not go past a boundary. -/
theorem embeddedReference?_append_boundary (hne : s ≠ []) :
    embeddedReference? (s ++ c :: t) = embeddedReference? s := by
  have hdot : c ≠ '.' := by
    rintro rfl
    revert hc
    decide
  have htake := takeWhile_append_boundary hc s t
  have hdrop := dropWhile_append_boundary hc s t
  cases s with
  | nil => exact absurd rfl hne
  | cons d rest =>
      rw [List.cons_append] at hdrop htake ⊢
      simp only [embeddedReference?, hdrop, htake]
      split
      · cases (d :: rest).dropWhile isAsciiLetter with
        | nil =>
            -- A word of letters up to the boundary is not followed by a dot.
            split
            · rename_i heq
              exact absurd (List.cons.inj heq).1 hdot
            · rfl
        | cons e behind =>
            by_cases he : e = '.'
            · subst he
              simp only [List.cons_append, embeddedTail_append_boundary hc]
            · split
              · rename_i heq
                exact absurd (List.cons.inj heq).1 he
              · split
                · rename_i heq
                  exact absurd (List.cons.inj heq).1 he
                · rfl
      · rfl

/-- A text is cut at a boundary like its two sides. -/
theorem cutPieces_append_boundary {skip : Nat} (inWord : Bool) (hskip : skip ≤ s.length) :
    cutPieces skip inWord (s ++ c :: t) =
      cutPieces skip inWord s ++ .char c :: cutPieces 0 false t := by
  have hword := (isBoundary_iff.mp hc).1
  induction s generalizing skip inWord with
  | nil =>
      obtain rfl := Nat.le_zero.mp hskip
      simp only [List.nil_append, cutPieces, embeddedReference?_boundary hc, hword, ite_self]
  | cons d rest ih =>
      cases skip with
      | succ left =>
          simp only [List.cons_append, cutPieces]
          exact ih _ (Nat.le_of_succ_le_succ hskip)
      | zero =>
          have hhere := embeddedReference?_append_boundary hc (d :: rest) t (by simp)
          rw [List.cons_append] at hhere ⊢
          simp only [cutPieces, hhere]
          split
          · rename_i name hname
            have hlength : name.length - 1 ≤ rest.length := by
              split at hname
              · cases hname
              · have hprefix := (prefix_of_embeddedReference hname).1.length_le
                rw [List.length_cons] at hprefix
                omega
            rw [ih _ hlength, List.cons_append]
          · rw [ih _ (Nat.zero_le _), List.cons_append]

/-- A text is cut at a boundary like its two sides. -/
theorem pieces_append_boundary : pieces (s ++ c :: t) = pieces s ++ .char c :: pieces t :=
  cutPieces_append_boundary hc s t false (Nat.zero_le _)

end Boundary

/-- What stands between two parts of a gradient. -/
def partSeparator : List Char := [',', ' ']

/-- Parts with a comma and a blank between them are cut part by part. -/
theorem pieces_intercalate (parts : List (List Char)) :
    pieces (partSeparator.intercalate parts) =
      (partSeparator.map Piece.char).intercalate (parts.map pieces) := by
  induction parts with
  | nil => rfl
  | cons first rest ih =>
      cases rest with
      | nil => simp
      | cons second others =>
          have hcomma := pieces_append_boundary (c := ',') (by decide) first
            (' ' :: partSeparator.intercalate (second :: others))
          have hblank := pieces_append_boundary (c := ' ') (by decide) []
            (partSeparator.intercalate (second :: others))
          rw [List.nil_append] at hblank
          rw [List.intercalate_cons_cons, List.append_assoc]
          change pieces (first ++ ',' :: ' ' :: partSeparator.intercalate (second :: others)) = _
          rw [hcomma, hblank, ih]
          simp [partSeparator, pieces, cutPieces]

/-- A gradient of the given parts. -/
def gradientOf (parts : List String) : String :=
  "linear-gradient(" ++ ", ".intercalate parts ++ ")"

theorem toList_gradientOf (parts : List String) :
    (gradientOf parts).toList = "linear-gradient(".toList ++
      partSeparator.intercalate (parts.map String.toList) ++ [')'] := by
  have hclosing : ")".toList = [')'] := by decide
  have hbetween : ", ".toList = partSeparator := by decide
  change ("linear-gradient(" ++ ", ".intercalate parts ++ ")").toList = _
  rw [String.toList_append, String.toList_append, String.toList_intercalate, hclosing, hbetween]

/-- A gradient is cut within each of its parts by itself. -/
theorem pieces_gradientOf (parts : List String) :
    pieces (gradientOf parts).toList =
      "linear-gradient(".toList.map Piece.char ++
        (partSeparator.map Piece.char).intercalate (parts.map fun part => pieces part.toList) ++
        [.char ')'] := by
  let inner := partSeparator.intercalate (parts.map String.toList)
  have hopening : "linear-gradient(".toList = "linear-gradient".toList ++ ['('] := by decide
  have hstart : pieces "linear-gradient".toList = "linear-gradient".toList.map Piece.char := by
    decide +kernel
  have hinner : pieces inner = (partSeparator.map Piece.char).intercalate
      (parts.map fun part => pieces part.toList) := by
    rw [pieces_intercalate, List.map_map]
    rfl
  have hopen := pieces_append_boundary (c := '(') (by decide) "linear-gradient".toList
    (inner ++ ')' :: [])
  have hclose := pieces_append_boundary (c := ')') (by decide) inner []
  have hend : pieces [] = [] := rfl
  have htext : (gradientOf parts).toList =
      "linear-gradient".toList ++ '(' :: (inner ++ ')' :: []) := by
    rw [toList_gradientOf, hopening, List.append_assoc, List.append_assoc, List.singleton_append]
  rw [htext, hopen, hclose, hinner, hstart, hend, hopening, List.map_append, List.append_assoc,
    List.append_assoc]
  exact congrArg _ (List.singleton_append.symm)

/-! ## References that are cut out as a whole -/

/-- A reference of the narrower form: ASCII letters, digits and dots only, the segment before
the first dot of letters that start in lower case. -/
def IsEmbeddable (reference : String) : Prop :=
  (reference.toList.head?.any isAsciiLower &&
    (reference.toList.takeWhile fun c => c != '.').all isAsciiLetter &&
    reference.toList.all isEmbeddedChar) = true

instance : DecidablePred IsEmbeddable := fun _ => inferInstanceAs (Decidable (_ = true))

theorem isEmbeddable_iff {reference : String} :
    IsEmbeddable reference ↔
      reference.toList.head?.any isAsciiLower = true ∧
      (∀ c ∈ reference.toList.takeWhile fun c => c != '.', isAsciiLetter c = true) ∧
      ∀ c ∈ reference.toList, isEmbeddedChar c = true := by
  rw [IsEmbeddable, Bool.and_eq_true, Bool.and_eq_true, List.all_eq_true, List.all_eq_true,
    and_assoc]

/-- Letters, digits and dots that end in a letter or digit are the tail of a reference. -/
theorem embeddedTail_of_forall {body : List Char} {last : Char}
    (h : ∀ c ∈ body, isEmbeddedChar c = true) (hlast : isAsciiAlphanumeric last = true) :
    embeddedTail (body ++ [last]) = some (body ++ [last]) := by
  induction body with
  | nil =>
      have hembedded : isEmbeddedChar last = true := by
        rw [isEmbeddedChar, hlast, Bool.true_or]
      simp [embeddedTail, hembedded, hlast, endsWord]
  | cons c rest ih =>
      rw [List.forall_mem_cons] at h
      have hrest := ih h.2
      rw [List.cons_append]
      simp only [embeddedTail, h.1, if_true, hrest]

/-- The tail of a reference has letters, digits and dots only. -/
theorem isEmbeddedChar_of_mem_embeddedTail {s tail : List Char} (h : embeddedTail s = some tail) :
    ∀ c ∈ tail, isEmbeddedChar c = true := by
  induction s generalizing tail with
  | nil => simp [embeddedTail] at h
  | cons c rest ih =>
      simp only [embeddedTail] at h
      split at h
      · rename_i hc
        split at h
        · rename_i behind hbehind
          cases h
          rw [List.forall_mem_cons]
          exact ⟨hc, ih hbehind⟩
        · split at h
          · cases h
            rw [List.forall_mem_singleton]
            exact hc
          · cases h
      · cases h

/-- Characters that belong to a reference that has been cut give no part. -/
theorem cutPieces_length (s : List Char) (inWord : Bool) : cutPieces s.length inWord s = [] := by
  induction s generalizing inWord with
  | nil => rfl
  | cons c rest ih => exact ih (isWordChar c)

/-- A text that is a reference from its first character to its last is cut out as a whole. -/
theorem pieces_eq_reference_iff {s : List Char} :
    pieces s = [.reference s] ↔ embeddedReference? s = some s := by
  cases s with
  | nil => simp [pieces, cutPieces, embeddedReference?]
  | cons c rest =>
      simp only [pieces, cutPieces, Bool.false_eq_true, if_false]
      constructor
      · intro h
        split at h
        · rename_i name hname
          have hsame := Piece.reference.inj (List.cons.inj h).1
          rw [hname, hsame]
        · cases (List.cons.inj h).1
      · intro h
        rw [h]
        simp only [List.length_cons, Nat.add_sub_cancel, cutPieces_length]

/-- Pieces without the separator that are joined end in another character. -/
theorem exists_last_joinWith {separator : Char} {parts : List (List Char)} (hne : parts ≠ [])
    (h : ∀ part ∈ parts, part ≠ [] ∧ separator ∉ part) :
    ∃ body last, joinWith separator parts = body ++ [last] ∧ last ≠ separator := by
  induction parts with
  | nil => exact absurd rfl hne
  | cons first rest ih =>
      rw [List.forall_mem_cons] at h
      cases rest with
      | nil =>
          obtain ⟨hfirst, hmem⟩ := h.1
          refine ⟨first.dropLast, first.getLast hfirst,
            (List.dropLast_concat_getLast hfirst).symm, ?_⟩
          intro heq
          exact hmem (heq ▸ List.getLast_mem hfirst)
      | cons second others =>
          obtain ⟨body, last, hjoin, hlast⟩ := ih (by simp) h.2
          refine ⟨first ++ separator :: body, last, ?_, hlast⟩
          rw [joinWith, hjoin, List.append_assoc, List.cons_append]
          simp

/-- A reference has a first segment, a dot behind it, and ends in no dot. -/
theorem exists_of_isReferenceName {s : List Char} (h : isReferenceName s = true) :
    ∃ c first body last, s = (c :: first) ++ '.' :: (body ++ [last]) ∧
      '.' ∉ c :: first ∧ last ≠ '.' := by
  have hjoin := joinWith_splitAt '.' s
  have hdots : ∀ part ∈ splitAt '.' s, '.' ∉ part := fun part => not_mem_of_mem_splitAt
  unfold isReferenceName at h
  split at h
  · rename_i c first second others hsplit
    rw [Bool.and_eq_true, Bool.and_eq_true, List.all_eq_true (l := second :: others)] at h
    rw [hsplit] at hjoin hdots
    rw [List.forall_mem_cons] at hdots
    have hparts : ∀ part ∈ second :: others, part ≠ [] ∧ '.' ∉ part := by
      intro part hpart
      have hname := h.2 part hpart
      refine ⟨?_, hdots.2 part hpart⟩
      rintro rfl
      simp at hname
    obtain ⟨body, last, hlast, hdot⟩ := exists_last_joinWith (by simp) hparts
    refine ⟨c, first, body, last, ?_, hdots.1, hdot⟩
    rw [← hjoin, joinWith, hlast]
    simp
  · cases h

/-- A text up to its first dot. -/
theorem takeWhile_ne_dot {first : List Char} (h : '.' ∉ first) (behind : List Char) :
    (first ++ '.' :: behind).takeWhile (fun c => c != '.') = first := by
  have hkeep : ∀ c ∈ first, (c != '.') = true := by
    intro c hc
    rw [bne_iff_ne]
    rintro rfl
    exact h hc
  rw [List.takeWhile_append_of_pos hkeep, List.takeWhile_cons_of_neg (by simp),
    List.append_nil]

/-- A text with a first segment that is an embedded reference as a whole has letters in this
segment, the first one in lower case, and letters, digits and dots behind it. -/
theorem forall_of_embeddedReference?_eq_self {c : Char} {first behind : List Char}
    (hfirst : '.' ∉ c :: first)
    (h : embeddedReference? (c :: (first ++ '.' :: behind)) =
      some (c :: (first ++ '.' :: behind))) :
    isAsciiLower c = true ∧ (∀ d ∈ c :: first, isAsciiLetter d = true) ∧
      ∀ d ∈ behind, isEmbeddedChar d = true := by
  have hdot : isAsciiLetter '.' = false := by decide
  simp only [embeddedReference?] at h
  split at h
  · rename_i hlower
    split at h
    · obtain ⟨tail, htail, hsame⟩ := Option.map_eq_some_iff.mp h
      generalize hword : (c :: (first ++ '.' :: behind)).takeWhile isAsciiLetter = word at hsame
      have hletters : ∀ d ∈ word, isAsciiLetter d = true := by
        intro d hd
        rw [← hword] at hd
        exact List.all_eq_true.mp List.all_takeWhile d hd
      have hwordDot : '.' ∉ word := by
        intro hmem
        rw [hletters '.' hmem] at hdot
        cases hdot
      -- The word of letters goes up to the first dot, so it is the first segment.
      have hfirstWord : word = c :: first := by
        rw [← takeWhile_ne_dot hwordDot tail, hsame, ← List.cons_append,
          takeWhile_ne_dot hfirst]
      rw [hfirstWord] at hletters hsame
      have htailSame : tail = behind := by simpa using hsame
      rw [← htailSame]
      exact ⟨hlower, hletters, isEmbeddedChar_of_mem_embeddedTail htail⟩
    · cases h
  · cases h

/-- A first segment of letters, the first one in lower case, with letters, digits and dots
behind it and a letter or digit at the end is an embedded reference as a whole. -/
theorem embeddedReference?_of_forall {c last : Char} {first body : List Char}
    (hlower : isAsciiLower c = true) (hletters : ∀ d ∈ c :: first, isAsciiLetter d = true)
    (hbody : ∀ d ∈ body, isEmbeddedChar d = true) (hlast : isAsciiAlphanumeric last = true) :
    embeddedReference? (c :: (first ++ '.' :: (body ++ [last]))) =
      some (c :: (first ++ '.' :: (body ++ [last]))) := by
  have hstop : ¬ isAsciiLetter '.' = true := by decide
  have hdrop : (c :: (first ++ '.' :: (body ++ [last]))).dropWhile isAsciiLetter =
      '.' :: (body ++ [last]) := by
    rw [← List.cons_append, List.dropWhile_append_of_pos hletters,
      List.dropWhile_cons_of_neg hstop]
  have htake : (c :: (first ++ '.' :: (body ++ [last]))).takeWhile isAsciiLetter =
      c :: first := by
    rw [← List.cons_append, List.takeWhile_append_of_pos hletters,
      List.takeWhile_cons_of_neg hstop, List.append_nil]
  simp only [embeddedReference?, hlower, if_true, hdrop, htake,
    embeddedTail_of_forall hbody hlast, Option.map_some, List.cons_append]

/-- A reference is an embedded one from its first character to its last exactly when it has
the narrower form. -/
theorem embeddedReference?_eq_self_iff {reference : String}
    (hname : isReferenceName reference.toList = true) :
    embeddedReference? reference.toList = some reference.toList ↔ IsEmbeddable reference := by
  obtain ⟨c, first, body, last, htext, hfirst, hlast⟩ := exists_of_isReferenceName hname
  rw [isEmbeddable_iff, htext, takeWhile_ne_dot hfirst _, List.cons_append, List.head?_cons,
    Option.any_some]
  constructor
  · intro h
    obtain ⟨hlower, hletters, hbehind⟩ := forall_of_embeddedReference?_eq_self hfirst h
    refine ⟨hlower, hletters, ?_⟩
    rw [← List.cons_append, List.forall_mem_append]
    refine ⟨fun d hd => isEmbeddedChar_of_isAsciiLetter (hletters d hd), ?_⟩
    rw [List.forall_mem_cons]
    exact ⟨by decide, hbehind⟩
  · rintro ⟨hlower, hletters, hall⟩
    rw [← List.cons_append, List.forall_mem_append] at hall
    have hbehind := hall.2
    rw [List.forall_mem_cons, List.forall_mem_append, List.forall_mem_singleton] at hbehind
    obtain ⟨-, hbody, hlastEmbedded⟩ := hbehind
    rw [isEmbeddedChar, Bool.or_eq_true, beq_iff_eq] at hlastEmbedded
    exact embeddedReference?_of_forall hlower hletters hbody (hlastEmbedded.resolve_right hlast)

/-- Every part of a text has characters. -/
theorem text_ne_nil_of_mem_cutPieces {skip : Nat} {inWord : Bool} {s : List Char} {part : Piece}
    (h : part ∈ cutPieces skip inWord s) : part.text ≠ [] := by
  induction s generalizing skip inWord with
  | nil => cases h
  | cons c rest ih =>
      cases skip with
      | succ left => exact ih h
      | zero =>
          simp only [cutPieces] at h
          split at h
          · rename_i name hname
            rcases List.mem_cons.mp h with rfl | hrest
            · split at hname
              · cases hname
              · exact (prefix_of_embeddedReference hname).2
            · exact ih hrest
          · rcases List.mem_cons.mp h with rfl | hrest
            · exact List.cons_ne_nil c []
            · exact ih hrest

/-- A text that is one of its own parts is the only one. -/
theorem pieces_eq_of_mem {s : List Char} (h : Piece.reference s ∈ pieces s) :
    pieces s = [.reference s] := by
  obtain ⟨before, after, hsplit⟩ := List.append_of_mem h
  have hflat := flatten_pieces s
  rw [hsplit, List.flatMap_append, List.flatMap_cons] at hflat
  have hlength := congrArg List.length hflat
  simp only [Piece.text, List.length_append] at hlength
  have hempty (parts : List Piece) (hsub : parts ⊆ pieces s)
      (hzero : (parts.flatMap Piece.text).length = 0) : parts = [] := by
    cases parts with
    | nil => rfl
    | cons part rest =>
        have hpart := text_ne_nil_of_mem_cutPieces (hsub List.mem_cons_self)
        rw [List.flatMap_cons, List.length_append] at hzero
        exact absurd (List.eq_nil_of_length_eq_zero (by omega)) hpart
  have hbefore : before = [] := by
    apply hempty before _ (by omega)
    rw [hsplit]
    exact List.subset_append_left _ _
  have hafter : after = [] := by
    apply hempty after _ (by omega)
    rw [hsplit]
    exact fun part hpart => List.mem_append_right _ (List.mem_cons_of_mem _ hpart)
  rw [hsplit, hbefore, hafter, List.nil_append]

end DesignTokens
