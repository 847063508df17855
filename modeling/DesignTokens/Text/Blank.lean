/-!
# Blank characters

A character is blank when it only separates: the ASCII controls from tab to carriage
return, the four information separators, the space, and the Unicode separators.
`strip` removes the blanks at both ends of a text and nothing inside it.
-/

namespace DesignTokens.Text

/-- The twenty-nine characters that count as white space. -/
def isBlank (c : Char) : Bool :=
  let n := c.toNat
  (9 ≤ n && n ≤ 13) || (28 ≤ n && n ≤ 32) || n == 0x85 || n == 0xa0 || n == 0x1680 ||
    (0x2000 ≤ n && n ≤ 0x200a) || n == 0x2028 || n == 0x2029 || n == 0x202f ||
    n == 0x205f || n == 0x3000

/-- The code points of the blank characters. -/
def blankCodes : List Nat :=
  [9, 10, 11, 12, 13, 28, 29, 30, 31, 32, 0x85, 0xa0, 0x1680, 0x2000, 0x2001, 0x2002, 0x2003,
    0x2004, 0x2005, 0x2006, 0x2007, 0x2008, 0x2009, 0x200a, 0x2028, 0x2029, 0x202f, 0x205f, 0x3000]

theorem isBlank_iff {c : Char} : isBlank c = true ↔ c.toNat ∈ blankCodes := by
  simp only [isBlank, Bool.or_eq_true, Bool.and_eq_true, decide_eq_true_eq, beq_iff_eq,
    blankCodes, List.mem_cons, List.not_mem_nil, or_false]
  omega

/-- A character with a property that no blank character has is not blank. -/
theorem isBlank_eq_false_of {p : Char → Bool}
    (hnone : ∀ code ∈ blankCodes, p (Char.ofNat code) = false) {c : Char} (h : p c = true) :
    isBlank c = false := by
  rw [← Bool.not_eq_true, isBlank_iff]
  intro hcode
  have hc := hnone c.toNat hcode
  rw [Char.ofNat_toNat, h] at hc
  cases hc

/-- Drops the blanks at the front of a text. -/
def dropBlanks (s : List Char) : List Char := s.dropWhile isBlank

/-- Drops the blanks at both ends of a text. -/
def stripChars (s : List Char) : List Char := (dropBlanks (dropBlanks s).reverse).reverse

/-- Drops the blanks at both ends of a text. -/
def strip (s : String) : String := String.ofList (stripChars s.toList)

/-- A text is blank when it has no character that is not. -/
def isBlankText (s : String) : Bool := s.toList.all isBlank

/-- What is left after dropping starts with a character that is not blank. -/
theorem isBlank_head_dropBlanks {s rest : List Char} {c : Char}
    (h : dropBlanks s = c :: rest) : isBlank c = false := by
  induction s with
  | nil => simp [dropBlanks] at h
  | cons d tail ih =>
      cases hd : isBlank d with
      | true => exact ih (by simpa [dropBlanks, List.dropWhile_cons, hd] using h)
      | false =>
          simp only [dropBlanks, List.dropWhile_cons, hd] at h
          simp only [Bool.false_eq_true, ↓reduceIte, List.cons.injEq] at h
          exact h.1 ▸ hd

end DesignTokens.Text
