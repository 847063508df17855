import DesignTokens.Calendar
import DesignTokens.Number.Text
import DesignTokens.Text.Letter

/-!
# Characters of written numbers

Numbers and moments are written with digits and a few marks, so what is written is neither
the name of a theme nor holds a brace.
-/

namespace DesignTokens

open Text

/-- Every character of a joined text has a property exactly when those of both parts have. -/
theorem forall_mem_append_toList {p : Char → Prop} {s t : String} :
    (∀ c ∈ (s ++ t).toList, p c) ↔ (∀ c ∈ s.toList, p c) ∧ ∀ c ∈ t.toList, p c := by
  rw [String.toList_append, List.forall_mem_append]

/-- A natural number is written with digits. -/
theorem isAsciiDigit_of_mem_toString {n : Nat} :
    ∀ c ∈ (toString n).toList, isAsciiDigit c = true := by
  intro c h
  rw [Nat.toString_eq_repr, Nat.repr_eq_ofList_toDigits, String.toList_ofList] at h
  have hdigit : c.isDigit = true := Nat.isDigit_of_mem_toDigits (by decide) (Nat.le_refl _) h
  rw [Char.isDigit, Bool.and_eq_true, decide_eq_true_eq, decide_eq_true_eq] at hdigit
  rw [isAsciiDigit, Bool.and_eq_true, decide_eq_true_eq, decide_eq_true_eq]
  exact hdigit

theorem isAsciiDigit_of_mem_padded {width n : Nat} :
    ∀ c ∈ (padded width n).toList, isAsciiDigit c = true := by
  rw [padded, forall_mem_append_toList, String.toList_ofList]
  refine ⟨?_, isAsciiDigit_of_mem_toString⟩
  intro c h
  rw [(List.mem_replicate.mp h).2]
  decide

/-! ## Numbers -/

namespace Number

/-- A character that numbers are written with. -/
def isNumeralChar (c : Char) : Bool :=
  isAsciiDigit c || ['-', '+', '.', 'e', 'i', 'n', 'f', 'a'].contains c

theorem isNumeralChar_of_isAsciiDigit {c : Char} (h : isAsciiDigit c = true) :
    isNumeralChar c = true := by
  rw [isNumeralChar, h, Bool.true_or]

theorem isNumeralChar_of_mem_toString {n : Nat} :
    ∀ c ∈ (toString n).toList, isNumeralChar c = true :=
  fun c h => isNumeralChar_of_isAsciiDigit (isAsciiDigit_of_mem_toString c h)

theorem isNumeralChar_of_mem_zeros {n : Nat} :
    ∀ c ∈ List.replicate n '0', isNumeralChar c = true := by
  intro c h
  rw [(List.mem_replicate.mp h).2]
  decide

/-- An integer is written with digits and a sign. -/
theorem isNumeralChar_of_mem_intText (n : Int) :
    ∀ c ∈ (intText n).toList, isNumeralChar c = true := by
  unfold intText
  split
  · rw [forall_mem_append_toList]
    exact ⟨List.all_eq_true.mp (by decide), isNumeralChar_of_mem_toString⟩
  · exact isNumeralChar_of_mem_toString

/-- A decimal is written with digits, a point, and the sign and mark of an exponent. -/
theorem isNumeralChar_of_mem_render (format : DecimalFormat) (n : Nat) (e : Int) :
    ∀ c ∈ (format.render n e).toList, isNumeralChar c = true := by
  have hdigits : ∀ c ∈ (toString n).toList, isNumeralChar c = true :=
    isNumeralChar_of_mem_toString
  unfold DecimalFormat.render
  generalize (toString n).toList = digits at hdigits ⊢
  dsimp only
  split
  · split
    · rw [forall_mem_append_toList]
      refine ⟨List.all_eq_true.mp (by decide), ?_⟩
      rw [String.toList_ofList, List.forall_mem_append]
      exact ⟨isNumeralChar_of_mem_zeros, hdigits⟩
    · rw [forall_mem_append_toList, forall_mem_append_toList, String.toList_ofList,
        List.forall_mem_append]
      refine ⟨⟨⟨?_, isNumeralChar_of_mem_zeros⟩, List.all_eq_true.mp (by decide)⟩, ?_⟩
      · exact fun c h => hdigits c (List.mem_of_mem_take h)
      · split
        · exact List.all_eq_true.mp (by decide)
        · rw [String.toList_ofList]
          exact fun c h => hdigits c (List.mem_of_mem_drop h)
  · simp only [forall_mem_append_toList, String.toList_ofList]
    refine ⟨⟨⟨⟨?_, List.all_eq_true.mp (by decide)⟩, ?_⟩, isNumeralChar_of_mem_zeros⟩,
      isNumeralChar_of_mem_toString⟩
    · split
      · rw [String.toList_ofList]
        rw [List.forall_mem_cons] at hdigits ⊢
        rw [List.forall_mem_cons]
        exact ⟨hdigits.1, by decide, hdigits.2⟩
      · rw [String.toList_ofList]
        exact hdigits
    · split <;> exact List.all_eq_true.mp (by decide)

/-- A float is written with the characters of numbers. -/
theorem isNumeralChar_of_mem_floatText (x : Float) :
    ∀ c ∈ (floatText x).toList, isNumeralChar c = true := by
  unfold floatText
  split
  · exact List.all_eq_true.mp (by decide)
  · rw [forall_mem_append_toList]
    constructor
    · split <;> exact List.all_eq_true.mp (by decide)
    · split
      · exact List.all_eq_true.mp (by decide)
      · split
        · exact List.all_eq_true.mp (by decide)
        · exact isNumeralChar_of_mem_render _ _ _

end Number

/-! ## Moments -/

/-- A character that moments are written with, apart from what stands between date and time. -/
def isMomentChar (c : Char) : Bool := isAsciiDigit c || ['-', '+', '.', ':'].contains c

theorem isMomentChar_of_mem_padded {width n : Nat} :
    ∀ c ∈ (padded width n).toList, isMomentChar c = true := by
  intro c h
  rw [isMomentChar, isAsciiDigit_of_mem_padded c h, Bool.true_or]

/-- A date is written with digits and hyphens. -/
theorem isMomentChar_of_mem_dateIso (date : Date) :
    ∀ c ∈ date.iso.toList, isMomentChar c = true := by
  unfold Date.iso
  simp only [forall_mem_append_toList]
  have hhyphen : ∀ c ∈ "-".toList, isMomentChar c = true := List.all_eq_true.mp (by decide)
  exact ⟨⟨⟨⟨isMomentChar_of_mem_padded, hhyphen⟩, isMomentChar_of_mem_padded⟩, hhyphen⟩,
    isMomentChar_of_mem_padded⟩

/-- A fraction is written with a point and digits. -/
theorem isMomentChar_of_mem_fractionIso (microseconds : Nat) :
    ∀ c ∈ (fractionIso microseconds).toList, isMomentChar c = true := by
  unfold fractionIso
  split
  · exact List.all_eq_true.mp (by decide)
  · rw [forall_mem_append_toList]
    exact ⟨List.all_eq_true.mp (by decide), isMomentChar_of_mem_padded⟩

/-- An offset is written with a sign, digits, colons and a point. -/
theorem isMomentChar_of_mem_offsetIso (microseconds : Int) :
    ∀ c ∈ (offsetIso microseconds).toList, isMomentChar c = true := by
  have hcolon : ∀ c ∈ ":".toList, isMomentChar c = true := List.all_eq_true.mp (by decide)
  unfold offsetIso
  simp only [forall_mem_append_toList]
  refine ⟨⟨⟨⟨?_, isMomentChar_of_mem_padded⟩, hcolon⟩, isMomentChar_of_mem_padded⟩, ?_⟩
  · split <;> exact List.all_eq_true.mp (by decide)
  · split
    · exact List.all_eq_true.mp (by decide)
    · simp only [forall_mem_append_toList]
      exact ⟨⟨hcolon, isMomentChar_of_mem_padded⟩, isMomentChar_of_mem_fractionIso _⟩

/-- A moment is written with digits, hyphens, colons, a point, a sign and what stands between
date and time. -/
theorem isMomentChar_of_mem_isoWith (moment : Moment) (separator : String) :
    ∀ c ∈ (moment.isoWith separator).toList,
      c ∈ separator.toList ∨ isMomentChar c = true := by
  have hmarks {s : String} (h : ∀ c ∈ s.toList, isMomentChar c = true) :
      ∀ c ∈ s.toList, c ∈ separator.toList ∨ isMomentChar c = true :=
    fun c hc => Or.inr (h c hc)
  have hpadded {width n : Nat} : ∀ c ∈ (padded width n).toList,
      c ∈ separator.toList ∨ isMomentChar c = true := hmarks isMomentChar_of_mem_padded
  have hcolon : ∀ c ∈ ":".toList, c ∈ separator.toList ∨ isMomentChar c = true :=
    hmarks (List.all_eq_true.mp (by decide))
  unfold Moment.isoWith
  simp only [forall_mem_append_toList]
  refine ⟨⟨⟨⟨hmarks (isMomentChar_of_mem_dateIso _), fun c hc => Or.inl hc⟩,
    ⟨⟨⟨⟨hpadded, hcolon⟩, hpadded⟩, hcolon⟩, hpadded⟩⟩,
    hmarks (isMomentChar_of_mem_fractionIso _)⟩, ?_⟩
  split
  · exact hmarks (List.all_eq_true.mp (by decide))
  · exact hmarks (isMomentChar_of_mem_offsetIso _)

end DesignTokens
