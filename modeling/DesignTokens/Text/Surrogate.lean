/-!
# Lone surrogates

A text that was written with escapes may hold one half of a surrogate pair alone. A half is
no character of its own; a text of this library holds it as a character of a plane to which
no character is assigned, and messages name it by its code point. The code points U+DD800 to
U+DDFFF of that plane are taken up by the halves: they have no text of their own here, and a
text that holds one of them is read as one that holds the half. UTF-8 has no form for a half,
so a text that holds one cannot be written to a file. Main statement: a half can be read off
the character that holds it.
-/

namespace DesignTokens.Text

/-- The code points of the halves of surrogate pairs. -/
def isSurrogate (n : Nat) : Bool := 0xd800 ≤ n && n ≤ 0xdfff

/-- The distance between a half and the character that holds it. -/
def surrogateShift : Nat := 0xd0000

/-- The character that holds a half. -/
def surrogateChar (n : Nat) : Char := Char.ofNat (surrogateShift + n)

/-- The half that a character holds. -/
def surrogate? (c : Char) : Option Nat :=
  let n := c.toNat - surrogateShift
  if surrogateShift ≤ c.toNat && isSurrogate n then some n else none

/-- The code point that a character stands for. -/
def codePoint (c : Char) : Nat := (surrogate? c).getD c.toNat

/-- The code points of a text. -/
def codePoints (s : String) : List Nat := s.toList.map codePoint

theorem surrogate?_surrogateChar {n : Nat} (h : isSurrogate n = true) :
    surrogate? (surrogateChar n) = some n := by
  have hr : 0xd800 ≤ n ∧ n ≤ 0xdfff := by simpa [isSurrogate] using h
  have hv : (surrogateShift + n).isValidChar := by
    right
    simp only [surrogateShift]
    omega
  have ho : surrogateChar n = Char.ofNatAux (surrogateShift + n) hv := dif_pos hv
  have hc : (surrogateChar n).toNat = surrogateShift + n := by
    rw [ho]
    rfl
  simp [surrogate?, hc, h]

/-- The halves that stand for a byte of their own in the name of a file. -/
def isByteHalf (n : Nat) : Bool := 0xdc80 ≤ n && n ≤ 0xdcff

/-- The number of bytes of a text that is the name of a file. -/
def nameSize (s : String) : Nat :=
  s.toList.foldl (fun size c => size + if (surrogate? c).isSome then 1 else c.utf8Size) 0

/-- Halves that stand in a row in a text that is to be written. -/
structure SurrogateRun where
  /-- The first half. -/
  first : Nat
  /-- The number of characters before it. -/
  position : Nat
  count : Nat
deriving Repr, DecidableEq

/-- The first half of a text that is not of the kind that may be there, with those behind it. -/
def surrogateRun? (allowed : Nat → Bool) (s : List Char) : Option SurrogateRun :=
  let before := s.takeWhile fun c => (surrogate? c).all allowed
  let halves := (s.drop before.length).takeWhile fun c => (surrogate? c).isSome
  match halves.head?.bind surrogate? with
  | some first => some ⟨first, before.length, halves.length⟩
  | none => none

end DesignTokens.Text
