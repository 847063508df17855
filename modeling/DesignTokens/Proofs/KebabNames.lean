import DesignTokens.Proofs.DottedPaths
import DesignTokens.Token.Variable
import Mathlib.Data.List.Chain

/-!
# Segments in kebab case

Kebab case keeps hyphens, and the only ASCII characters that it brings in are hyphens and
lower-case letters. At a dot that stands between characters which do not separate words, it
goes through both sides by themselves. Separators around a dot become one hyphen with it, and
then there are fewer hyphens than both sides and the dot have. So a segment that is cut at its
dots has the pieces' kebab cases, joined by hyphens, exactly when all its dots stand alone.
-/

namespace DesignTokens

open Text

/-! ## Lower case -/

/-- The lower case of a capital behind ASCII is a character that lies behind ASCII too, or an
ASCII letter in lower case. -/
theorem caseRuns_ascii : ∀ run ∈ caseRuns,
    (0x80 ≤ run.first + run.shift ∨
      (0x61 ≤ run.first + run.shift ∧ run.last + run.shift ≤ 0x7a)) ∧
    (run.last + run.shift < 0xd800 ∨
      (0xdfff < run.first + run.shift ∧ run.last + run.shift < 0x110000)) := by
  decide +kernel

theorem isAsciiLower_iff {c : Char} :
    isAsciiLower c = true ↔ 0x61 ≤ c.toNat ∧ c.toNat ≤ 0x7a := by
  simp only [isAsciiLower, Bool.and_eq_true, decide_eq_true_eq, Char.le_def,
    UInt32.le_iff_toNat_le, Char.toNat]
  exact Iff.rfl

theorem isAsciiUpper_iff {c : Char} :
    isAsciiUpper c = true ↔ 0x41 ≤ c.toNat ∧ c.toNat ≤ 0x5a := by
  simp only [isAsciiUpper, Bool.and_eq_true, decide_eq_true_eq, Char.le_def,
    UInt32.le_iff_toNat_le, Char.toNat]
  exact Iff.rfl

theorem toNat_ofNat_of_isValidChar {n : Nat} (h : n.isValidChar) : (Char.ofNat n).toNat = n := by
  rw [Char.ofNat, dif_pos h]
  rfl

/-- An ASCII character that is no lower-case letter is the lower case of nothing but itself. -/
theorem eq_of_mem_lowerChar {c d : Char} (hascii : d.toNat < 0x80)
    (hlower : isAsciiLower d = false) (h : d ∈ lowerChar c) : d = c := by
  have hcode : ¬ (0x61 ≤ d.toNat ∧ d.toNat ≤ 0x7a) := by
    rw [← isAsciiLower_iff, hlower]
    exact Bool.false_ne_true
  unfold lowerChar at h
  split at h
  · rw [List.mem_singleton, lowerAscii] at h
    split at h
    · rename_i hupper
      have hrange := isAsciiUpper_iff.mp hupper
      have hvalid : (c.toNat + 32).isValidChar := by
        left
        omega
      rw [h, toNat_ofNat_of_isValidChar hvalid] at hcode
      omega
    · exact h
  · split at h
    · exfalso
      rw [List.mem_cons, List.mem_singleton] at h
      rcases h with rfl | rfl
      · exact absurd hlower (by decide)
      · exact absurd hascii (by decide)
    · split at h
      · rename_i run hrun
        exfalso
        rw [List.mem_singleton] at h
        have hholds := List.find?_some hrun
        simp only [CaseRun.holds, Bool.and_eq_true, decide_eq_true_eq] at hholds
        obtain ⟨hfar, hrange⟩ := caseRuns_ascii run (List.mem_of_find?_eq_some hrun)
        have hvalid : (c.toNat + run.shift).toNat.isValidChar := by
          rcases hrange with hsmall | hgreat
          · left
            omega
          · right
            omega
        rw [h, toNat_ofNat_of_isValidChar hvalid] at hcode hascii
        omega
      · exact List.mem_singleton.mp h

/-- A character with its neighbours gives way to an ASCII character only when this is a
lower-case letter or the character itself. -/
theorem eq_of_mem_lowerHere {before rest : List Char} {c d : Char} (hascii : d.toNat < 0x80)
    (hlower : isAsciiLower d = false)
    (h : d ∈ if c == 'Σ' then
        if nextIsCased before && !nextIsCased rest then ['ς'] else ['σ']
      else lowerChar c) : d = c := by
  split at h
  · exfalso
    split at h
    · exact absurd hascii (List.mem_singleton.mp h ▸ by decide)
    · exact absurd hascii (List.mem_singleton.mp h ▸ by decide)
  · exact eq_of_mem_lowerChar hascii hlower h

/-- Lower case brings in no ASCII character but lower-case letters. -/
theorem mem_of_mem_lowerFrom {before s : List Char} {d : Char} (hascii : d.toNat < 0x80)
    (hlower : isAsciiLower d = false) (h : d ∈ lowerFrom before s) : d ∈ s := by
  induction s generalizing before with
  | nil => cases h
  | cons c rest ih =>
      rw [lowerFrom, List.mem_append] at h
      rcases h with hhere | hrest
      · rw [eq_of_mem_lowerHere hascii hlower hhere]
        exact List.mem_cons_self
      · exact List.mem_cons_of_mem c (ih hrest)

/-- A hyphen is its own lower case. -/
theorem lowerFrom_hyphen_cons (before s : List Char) :
    lowerFrom before ('-' :: s) = '-' :: lowerFrom ('-' :: before) s := by
  have hhyphen : lowerChar '-' = ['-'] := by decide
  rw [lowerFrom, if_neg (by decide), hhyphen, List.singleton_append]

/-- Lower case keeps the number of hyphens. -/
theorem count_lowerFrom (before s : List Char) :
    (lowerFrom before s).count '-' = s.count '-' := by
  induction s generalizing before with
  | nil => rfl
  | cons c rest ih =>
      by_cases hc : c = '-'
      · subst hc
        rw [lowerFrom_hyphen_cons, List.count_cons_self, List.count_cons_self, ih]
      · rw [lowerFrom, List.count_append, ih, List.count_cons_of_ne hc]
        rw [List.count_eq_zero_of_not_mem, Nat.zero_add]
        intro hmem
        exact hc (eq_of_mem_lowerHere (by decide) (by decide) hmem).symm

/-- Lower case does not look past a hyphen. -/
theorem nextIsCased_append_hyphen (s t : List Char) :
    nextIsCased (s ++ '-' :: t) = nextIsCased s := by
  induction s with
  | nil =>
      have hkept : isCaseIgnorable '-' = false := by decide
      have huncased : isCased '-' = false := by decide
      simp [nextIsCased, hkept, huncased]
  | cons c rest ih =>
      rw [List.cons_append, nextIsCased, nextIsCased, List.dropWhile_cons, List.dropWhile_cons]
      by_cases hc : isCaseIgnorable c = true
      · rw [if_pos hc, if_pos hc]
        exact ih
      · rw [if_neg hc, if_neg hc]

/-- What has been passed before a hyphen makes no difference behind it. -/
theorem lowerFrom_append_hyphen_left (near far s : List Char) :
    lowerFrom (near ++ '-' :: far) s = lowerFrom near s := by
  induction s generalizing near with
  | nil => rfl
  | cons c rest ih =>
      have hrest := ih (c :: near)
      rw [List.cons_append] at hrest
      rw [lowerFrom, lowerFrom, nextIsCased_append_hyphen, hrest]

/-- Lower case goes through both sides of a hyphen by themselves. -/
theorem lowerFrom_append_hyphen (before s t : List Char) :
    lowerFrom before (s ++ '-' :: t) = lowerFrom before s ++ '-' :: lowerFrom [] t := by
  induction s generalizing before with
  | nil =>
      have hbehind := lowerFrom_append_hyphen_left [] before t
      rw [List.nil_append] at hbehind
      rw [List.nil_append, lowerFrom_hyphen_cons, hbehind]
      rfl
  | cons c rest ih =>
      rw [List.cons_append, lowerFrom, lowerFrom, nextIsCased_append_hyphen, ih,
        List.append_assoc]

/-! ## Words -/

/-- Hyphens before capitals bring in nothing else. -/
theorem mem_of_mem_breakCamel {s : List Char} {d : Char} (hd : d ≠ '-')
    (h : d ∈ breakCamel s) : d ∈ s := by
  induction s with
  | nil => cases h
  | cons c rest ih =>
      cases rest with
      | nil => exact h
      | cons next others =>
          rw [breakCamel] at h
          split at h
          · simp only [List.mem_cons, hd, false_or] at h ih ⊢
            exact h.imp_right ih
          · simp only [List.mem_cons] at h ih ⊢
            exact h.imp_right ih

/-- Hyphens for separators bring in nothing else. -/
theorem mem_of_mem_joinSeparators {inRun : Bool} {s : List Char} {d : Char} (hd : d ≠ '-')
    (h : d ∈ joinSeparators inRun s) : d ∈ s := by
  induction s generalizing inRun with
  | nil => cases h
  | cons c rest ih =>
      rw [joinSeparators] at h
      split at h
      · split at h
        · exact List.mem_cons_of_mem c (ih h)
        · rcases List.mem_cons.mp h with heq | hrest
          · exact absurd heq hd
          · exact List.mem_cons_of_mem c (ih hrest)
      · rcases List.mem_cons.mp h with rfl | hrest
        · exact List.mem_cons_self
        · exact List.mem_cons_of_mem c (ih hrest)

/-- The words of a segment with hyphens between them, not yet in lower case. -/
def hyphenated (s : List Char) : List Char := joinSeparators false (breakCamel s)

/-- No hyphen comes next to a dot for a capital. -/
theorem breakCamel_append_dot (s t : List Char) :
    breakCamel (s ++ '.' :: t) = breakCamel s ++ '.' :: breakCamel t := by
  have hlower : (isAsciiLower '.' || isAsciiDigit '.') = false := by decide
  have hupper : isAsciiUpper '.' = false := by decide
  induction s with
  | nil => cases t <;> simp [breakCamel, hlower]
  | cons c rest ih =>
      cases rest with
      | nil =>
          rw [List.nil_append] at ih
          simp [breakCamel, hupper, ih]
      | cons d more =>
          simp only [List.cons_append] at ih ⊢
          rw [breakCamel, breakCamel, ih]
          split
          · rfl
          · rfl

theorem head?_breakCamel (s : List Char) : (breakCamel s).head? = s.head? := by
  cases s with
  | nil => rfl
  | cons c rest =>
      cases rest with
      | nil => rfl
      | cons d more =>
          rw [breakCamel]
          split
          · rfl
          · rfl

theorem getLast?_breakCamel (s : List Char) : (breakCamel s).getLast? = s.getLast? := by
  induction s with
  | nil => rfl
  | cons c rest ih =>
      cases rest with
      | nil => rfl
      | cons d more =>
          rw [breakCamel, List.getLast?_cons_cons, ← ih]
          split
          · simp only [List.getLast?_cons, Option.getD_some, ih]
          · simp only [List.getLast?_cons, ih, Option.getD_some]

/-- A text starts with a character that separates words. -/
def startsInRun (s : List Char) : Bool := s.head?.any isSegmentSeparator

/-- A text ends with a character that separates words. -/
def endsInRun (s : List Char) : Bool := s.getLast?.any isSegmentSeparator

theorem endsInRun_cons_cons (c d : Char) (s : List Char) :
    endsInRun (c :: d :: s) = endsInRun (d :: s) := by
  rw [endsInRun, endsInRun, List.getLast?_cons_cons]

/-- What follows a text is joined as behind its last character. -/
theorem joinSeparators_append {s : List Char} (hs : s ≠ []) (inRun : Bool) (t : List Char) :
    joinSeparators inRun (s ++ t) =
      joinSeparators inRun s ++ joinSeparators (endsInRun s) t := by
  induction s generalizing inRun with
  | nil => exact absurd rfl hs
  | cons c rest ih =>
      cases rest with
      | nil =>
          cases hc : isSegmentSeparator c with
          | false => simp [joinSeparators, endsInRun, hc]
          | true => cases inRun <;> simp [joinSeparators, endsInRun, hc]
      | cons d more =>
          have hrest := ih (List.cons_ne_nil d more)
          rw [List.cons_append, joinSeparators, joinSeparators, endsInRun_cons_cons, hrest, hrest]
          split
          · split
            · rfl
            · rfl
          · rfl

/-- Whether a run goes on makes a difference only in front of a separator. -/
theorem joinSeparators_eq_ite (s : List Char) :
    joinSeparators false s =
      if startsInRun s then '-' :: joinSeparators true s else joinSeparators true s := by
  cases s with
  | nil => rfl
  | cons c rest =>
      rw [joinSeparators, joinSeparators, startsInRun, List.head?_cons, Option.any_some]
      split
      · rfl
      · rfl

/-- Behind a segment, a dot is one more hyphen unless the segment ends in a separator. -/
theorem hyphenated_append_dot (s t : List Char) :
    hyphenated (s ++ '.' :: t) =
      hyphenated s ++ if endsInRun s then joinSeparators true (breakCamel t)
        else '-' :: joinSeparators true (breakCamel t) := by
  have hdot : isSegmentSeparator '.' = true := by decide
  have hends : endsInRun (breakCamel s) = endsInRun s := by
    rw [endsInRun, endsInRun, getLast?_breakCamel]
  rw [hyphenated, breakCamel_append_dot, hyphenated, ← hends]
  cases hs : breakCamel s with
  | nil => simp [joinSeparators, endsInRun, hdot]
  | cons c rest =>
      rw [joinSeparators_append (List.cons_ne_nil c rest)]
      cases endsInRun (c :: rest) <;> simp [joinSeparators, hdot]

theorem hyphenated_eq_ite (s : List Char) :
    hyphenated s =
      if startsInRun s then '-' :: joinSeparators true (breakCamel s)
      else joinSeparators true (breakCamel s) := by
  have hstarts : startsInRun (breakCamel s) = startsInRun s := by
    rw [startsInRun, startsInRun, head?_breakCamel]
  rw [hyphenated, joinSeparators_eq_ite, hstarts]

/-! ## Dots within a segment -/

theorem kebabChars_eq (s : List Char) : kebabChars s = lowerFrom [] (hyphenated s) := rfl

theorem count_kebabChars (s : List Char) : (kebabChars s).count '-' = (hyphenated s).count '-' :=
  count_lowerFrom [] _

/-- Kebab case goes through both sides of a dot by themselves when the dot is not next to a
separator. -/
theorem kebabChars_append_dot {s t : List Char} (hs : endsInRun s = false)
    (ht : startsInRun t = false) :
    kebabChars (s ++ '.' :: t) = kebabChars s ++ '-' :: kebabChars t := by
  have hbehind := hyphenated_eq_ite t
  rw [ht, if_neg Bool.false_ne_true] at hbehind
  rw [kebabChars_eq, hyphenated_append_dot, hs, if_neg Bool.false_ne_true, ← hbehind,
    lowerFrom_append_hyphen]
  rfl

/-- Each side of a dot on which there is a separator takes one hyphen away. -/
theorem count_kebabChars_append_dot (s t : List Char) :
    (kebabChars (s ++ '.' :: t)).count '-' + (endsInRun s).toNat + (startsInRun t).toNat =
      (kebabChars s).count '-' + 1 + (kebabChars t).count '-' := by
  rw [count_kebabChars, count_kebabChars, count_kebabChars, hyphenated_append_dot,
    hyphenated_eq_ite t, List.count_append]
  cases endsInRun s <;> cases startsInRun t <;> simp <;> omega

/-- No dot of a segment stands next to another dot, an underscore or a blank. -/
def HasLoneDots (s : List Char) : Prop :=
  s.IsChain fun c d =>
    ¬ (isSegmentSeparator c = true ∧ d = '.' ∨ c = '.' ∧ isSegmentSeparator d = true)

instance : DecidablePred HasLoneDots := fun s =>
  inferInstanceAs (Decidable (List.IsChain _ s))

theorem hasLoneDots_of_not_mem {s : List Char} (h : '.' ∉ s) : HasLoneDots s := by
  have hpairs : s.Pairwise fun c d =>
      ¬ (isSegmentSeparator c = true ∧ d = '.' ∨ c = '.' ∧ isSegmentSeparator d = true) := by
    refine List.pairwise_of_forall_mem_list ?_
    rintro c hc d hd (⟨-, rfl⟩ | ⟨rfl, -⟩)
    · exact h hd
    · exact h hc
  exact hpairs.isChain

/-- Behind its first piece, the dots of a segment stand alone exactly when the first one does
and those behind it do. -/
theorem hasLoneDots_append_dot {s t : List Char} (hs : '.' ∉ s) :
    HasLoneDots (s ++ '.' :: t) ↔
      endsInRun s = false ∧ startsInRun t = false ∧ HasLoneDots t := by
  have hdot : isSegmentSeparator '.' = true := by decide
  have hends : (∀ c ∈ s.getLast?, ∀ d ∈ ('.' :: t).head?,
      ¬ (isSegmentSeparator c = true ∧ d = '.' ∨ c = '.' ∧ isSegmentSeparator d = true)) ↔
      endsInRun s = false := by
    rw [endsInRun]
    cases s.getLast? with
    | none => simp
    | some c =>
        by_cases hc : c = '.'
        · simp [hc, hdot]
        · simp [hc]
  have hstarts : (∀ d ∈ t.head?,
      ¬ (isSegmentSeparator '.' = true ∧ d = '.' ∨ '.' = '.' ∧ isSegmentSeparator d = true)) ↔
      startsInRun t = false := by
    rw [startsInRun]
    cases t.head? with
    | none => simp
    | some d =>
        by_cases hd : d = '.'
        · simp [hd, hdot]
        · simp [hd]
  rw [HasLoneDots, List.isChain_append, List.isChain_cons, hends, hstarts]
  constructor
  · rintro ⟨-, ⟨hnext, hrest⟩, hlast⟩
    exact ⟨hlast, hnext, hrest⟩
  · rintro ⟨hlast, hnext, hrest⟩
    exact ⟨hasLoneDots_of_not_mem hs, ⟨hnext, hrest⟩, hlast⟩

/-- Two pieces and more have the separator behind the first one. -/
theorem joinWith_cons_cons (sep : Char) (first second : List Char) (others : List (List Char)) :
    joinWith sep (first :: second :: others) = first ++ sep :: joinWith sep (second :: others) :=
  rfl

section Pieces

/-! A segment that consists of pieces without dots, with dots between them. -/

variable {pieces : List (List Char)} (hne : pieces ≠ []) (hdots : ∀ piece ∈ pieces, '.' ∉ piece)

include hne hdots

/-- With dots that stand alone, the pieces are put into kebab case by themselves. -/
theorem kebabChars_joinWith (hlone : HasLoneDots (joinWith '.' pieces)) :
    kebabChars (joinWith '.' pieces) = ['-'].intercalate (pieces.map kebabChars) := by
  induction pieces with
  | nil => exact absurd rfl hne
  | cons first rest ih =>
      rw [List.forall_mem_cons] at hdots
      cases rest with
      | nil => rw [joinWith, List.map_singleton, List.intercalate_singleton]
      | cons second others =>
          rw [joinWith_cons_cons, hasLoneDots_append_dot hdots.1] at hlone
          obtain ⟨hends, hstarts, hrest⟩ := hlone
          have hsame := ih (List.cons_ne_nil second others) hdots.2 hrest
          rw [List.map_cons] at hsame
          rw [joinWith_cons_cons, kebabChars_append_dot hends hstarts, hsame, List.map_cons,
            List.map_cons, List.intercalate_cons_cons, List.append_assoc, List.singleton_append]

/-- The segment has at most the hyphens of its pieces and those between them, and as many only
when its dots stand alone. -/
theorem count_kebabChars_joinWith :
    (kebabChars (joinWith '.' pieces)).count '-' ≤
        (['-'].intercalate (pieces.map kebabChars)).count '-' ∧
      ((kebabChars (joinWith '.' pieces)).count '-' =
          (['-'].intercalate (pieces.map kebabChars)).count '-' →
        HasLoneDots (joinWith '.' pieces)) := by
  induction pieces with
  | nil => exact absurd rfl hne
  | cons first rest ih =>
      rw [List.forall_mem_cons] at hdots
      cases rest with
      | nil =>
          rw [joinWith, List.map_singleton, List.intercalate_singleton]
          exact ⟨Nat.le_refl _, fun _ => hasLoneDots_of_not_mem hdots.1⟩
      | cons second others =>
          obtain ⟨hle, hlone⟩ := ih (List.cons_ne_nil second others) hdots.2
          have hcount := count_kebabChars_append_dot first (joinWith '.' (second :: others))
          have hjoined :
              (['-'].intercalate ((first :: second :: others).map kebabChars)).count '-' =
                (kebabChars first).count '-' + 1 +
                (['-'].intercalate ((second :: others).map kebabChars)).count '-' := by
            simp only [List.map_cons, List.intercalate_cons_cons, List.count_append,
              List.count_singleton_self]
          rw [hjoined, joinWith_cons_cons, hasLoneDots_append_dot hdots.1]
          refine ⟨by omega, ?_⟩
          intro heq
          have hends : (endsInRun first).toNat = 0 := by omega
          have hstarts : (startsInRun (joinWith '.' (second :: others))).toNat = 0 := by omega
          rw [Bool.toNat_eq_zero] at hends hstarts
          exact ⟨hends, hstarts, hlone (by omega)⟩

end Pieces

/-- The characters of segments that are put into kebab case and joined by hyphens. -/
theorem toList_intercalate_toKebab (segments : List String) :
    ("-".intercalate (segments.map toKebab)).toList =
      ['-'].intercalate (segments.map fun segment => kebabChars segment.toList) := by
  have hhyphen : "-".toList = ['-'] := by decide
  rw [String.toList_intercalate, hhyphen, List.map_map]
  refine congrArg _ (List.map_congr_left fun segment _ => ?_)
  simp only [Function.comp_apply, toKebab, String.toList_ofList]

/-- A segment that is cut at its dots, with the kebab case of each piece, joined by hyphens. -/
def kebabOfPieces (segment : String) : String :=
  "-".intercalate ((splitText '.' segment).map toKebab)

theorem toList_kebabOfPieces (segment : String) :
    (kebabOfPieces segment).toList =
      ['-'].intercalate ((splitAt '.' segment.toList).map kebabChars) := by
  rw [kebabOfPieces, toList_intercalate_toKebab, splitText, List.map_map]
  simp only [Function.comp_def, String.toList_ofList]

/-- The kebab case of a segment has fewer hyphens than its pieces unless all its dots stand
alone. -/
theorem count_toKebab_lt {segment : String} (h : ¬ HasLoneDots segment.toList) :
    (toKebab segment).toList.count '-' < (kebabOfPieces segment).toList.count '-' := by
  obtain ⟨hle, hlone⟩ := count_kebabChars_joinWith (splitAt_ne_nil '.' segment.toList)
    fun piece hpiece => not_mem_of_mem_splitAt hpiece
  rw [joinWith_splitAt, ← toList_kebabOfPieces] at hle hlone
  rw [toKebab, String.toList_ofList]
  exact Nat.lt_of_le_of_ne hle fun heq => h (hlone heq)

/-- The kebab case of a segment is that of its pieces, joined by hyphens, exactly when all its
dots stand alone. -/
theorem toKebab_eq_kebabOfPieces_iff {segment : String} :
    toKebab segment = kebabOfPieces segment ↔ HasLoneDots segment.toList := by
  constructor
  · intro h
    by_contra hnot
    have hlt := count_toKebab_lt hnot
    rw [h] at hlt
    exact Nat.lt_irrefl _ hlt
  · intro h
    rw [← joinWith_splitAt '.' segment.toList] at h
    have hsame := kebabChars_joinWith (splitAt_ne_nil '.' segment.toList)
      (fun piece hpiece => not_mem_of_mem_splitAt hpiece) h
    rw [joinWith_splitAt, ← toList_kebabOfPieces] at hsame
    rw [toKebab, hsame, String.ofList_toList]

/-! ## Well-formed names -/

/-- Every character of a well-formed custom property may stand in one. -/
theorem isNameChar_of_isVariableName {name : String} (h : isVariableName name = true) :
    ∀ c ∈ name.toList, isNameChar c = true := by
  simp only [isVariableName, Bool.and_eq_true, List.isPrefixOf_iff_prefix, List.all_eq_true] at h
  obtain ⟨⟨⟨rest, hrest⟩, -⟩, hall⟩ := h
  rw [← hrest, List.drop_left] at hall
  have hstart : ∀ c ∈ variablePrefix.toList, isNameChar c = true :=
    List.all_eq_true.mp (by decide)
  rw [← hrest, List.forall_mem_append]
  exact ⟨hstart, hall⟩

end DesignTokens
