import DesignTokens.Text.Blank
import DesignTokens.Text.Letter
import DesignTokens.Text.Split

/-!
# Literals and references

The text of a token is a terminal value of the stylesheet or points at another token. It
is terminal when it starts like a color or a gradient, holds a blank, is one of a few
keywords, a number with or without a unit, or stands between quotes. Any other text of the
form `name.name…` is a reference. A gradient is terminal but may have references inside:
`pieces` cuts a gradient into single characters and the references between them, and
`flatten_pieces` says that nothing is lost by the cut.
-/

namespace DesignTokens

open Text

/-- How a color or a variable starts. -/
def colorStarts : List String := ["#", "rgb(", "rgba(", "hsl(", "hsla(", "var("]

/-- How a gradient starts. -/
def gradientStarts : List String := ["linear-gradient(", "radial-gradient("]

/-- The keywords that are terminal. -/
def keywords : List String :=
  ["none", "transparent", "currentColor", "inherit", "initial", "unset", "auto"]

/-- The units that may follow a number. -/
def units : List String := ["px", "rem", "em", "%", "vh", "vw", "s", "ms", "deg", "fr"]

/-- The text starts in one of the given ways. -/
def startsWithAny (starts : List String) (s : List Char) : Bool :=
  starts.any fun start => start.toList.isPrefixOf s

/-- The text is a gradient. -/
def isGradient (value : String) : Bool := startsWithAny gradientStarts value.toList

/-- Nothing, or one of the units. -/
def isUnit (s : List Char) : Bool := s.isEmpty || units.any fun name => name.toList == s

/-- A number with an optional sign, fraction and unit. -/
def isNumeric (s : List Char) : Bool :=
  let body := match s with
    | '-' :: rest => rest
    | _ => s
  let rest := body.dropWhile isDecimalDigit
  !(body.takeWhile isDecimalDigit).isEmpty &&
    (isUnit rest || match rest with
      | '.' :: places =>
          !(places.takeWhile isDecimalDigit).isEmpty && isUnit (places.dropWhile isDecimalDigit)
      | _ => false)

/-- At least two characters, the first and the last one the same quote. -/
def isBetweenQuotes (s : List Char) : Bool :=
  match s with
  | c :: _ :: _ => (c == '\'' || c == '"') && s.getLast? == some c
  | _ => false

/-- The text is terminal. -/
def isLiteral (value : String) : Bool :=
  let s := value.toList
  startsWithAny colorStarts s || startsWithAny gradientStarts s || s.any isBlank ||
    keywords.contains value || isNumeric s || isBetweenQuotes s

/-- A character of a segment of a reference. -/
def isReferenceChar (c : Char) : Bool := isWordChar c || c == '-'

/-- Two or more segments joined by dots, none of them empty, the first one starting with an
ASCII letter. -/
def isReferenceName (s : List Char) : Bool :=
  match splitAt '.' s with
  | (c :: first) :: segment :: segments =>
      isAsciiLetter c && (c :: first).all isReferenceChar &&
        (segment :: segments).all fun name => !name.isEmpty && name.all isReferenceChar
  | _ => false

/-- The text points at another token. -/
def isReference (value : String) : Bool :=
  !isLiteral value && isReferenceName value.toList

/-! ## References inside a gradient -/

/-- A character behind the first dot of an embedded reference. -/
def isEmbeddedChar (c : Char) : Bool := isAsciiAlphanumeric c || c == '.'

/-- No word goes on at the front of the text. -/
def endsWord (s : List Char) : Bool :=
  match s with
  | [] => true
  | c :: _ => !isWordChar c

/-- The longest start of the text, of letters, digits and dots only, that ends in a letter
or digit where a word ends. -/
def embeddedTail : List Char → Option (List Char)
  | [] => none
  | c :: rest =>
      if isEmbeddedChar c then
        match embeddedTail rest with
        | some tail => some (c :: tail)
        | none => if isAsciiAlphanumeric c && endsWord rest then some [c] else none
      else none

/-- The reference at the front of the text: a word of ASCII letters that starts in lower
case, a dot, and the longest tail. -/
def embeddedReference? (s : List Char) : Option (List Char) :=
  match s with
  | [] => none
  | c :: _ =>
      if isAsciiLower c then
        match s.dropWhile isAsciiLetter with
        | '.' :: rest => (embeddedTail rest).map fun tail =>
            s.takeWhile isAsciiLetter ++ '.' :: tail
        | _ => none
      else none

/-- A part of a gradient. -/
inductive Piece where
  /-- A character that stays as it is. -/
  | char (c : Char)
  /-- A reference that gives way to what it refers to. -/
  | reference (name : List Char)
deriving Repr, DecidableEq

/-- The text that a part was cut from. -/
def Piece.text : Piece → List Char
  | char c => [c]
  | reference name => name

/-- Cuts a text from the left. `skip` characters belong to a reference that has been cut
already, and `inWord` tells that the character before is a word character. -/
def cutPieces (skip : Nat) (inWord : Bool) : List Char → List Piece
  | [] => []
  | c :: rest =>
      match skip with
      | left + 1 => cutPieces left (isWordChar c) rest
      | 0 =>
          match if inWord then none else embeddedReference? (c :: rest) with
          | some name => .reference name :: cutPieces (name.length - 1) (isWordChar c) rest
          | none => .char c :: cutPieces 0 (isWordChar c) rest

/-- The characters and references of a gradient. -/
def pieces (s : List Char) : List Piece := cutPieces 0 false s

theorem prefix_of_embeddedTail {s tail : List Char} (h : embeddedTail s = some tail) :
    tail <+: s := by
  induction s generalizing tail with
  | nil => simp [embeddedTail] at h
  | cons c rest ih =>
      simp only [embeddedTail] at h
      split at h
      · split at h
        · rename_i tail' ht
          cases h
          exact (List.cons_prefix_cons).mpr ⟨rfl, ih ht⟩
        · split at h
          · cases h
            exact (List.cons_prefix_cons).mpr ⟨rfl, List.nil_prefix⟩
          · cases h
      · cases h

theorem prefix_of_embeddedReference {s name : List Char}
    (h : embeddedReference? s = some name) : name <+: s ∧ name ≠ [] := by
  cases s with
  | nil => simp [embeddedReference?] at h
  | cons c rest =>
      simp only [embeddedReference?] at h
      split at h
      · split at h
        · rename_i tail hd
          obtain ⟨t, ht, rfl⟩ := Option.map_eq_some_iff.mp h
          refine ⟨?_, by simp⟩
          have happ := List.takeWhile_append_dropWhile (p := isAsciiLetter) (l := c :: rest)
          rw [hd] at happ
          calc (c :: rest).takeWhile isAsciiLetter ++ '.' :: t
              <+: (c :: rest).takeWhile isAsciiLetter ++ '.' :: tail :=
                (List.prefix_append_right_inj _).mpr
                  ((List.cons_prefix_cons).mpr ⟨rfl, prefix_of_embeddedTail ht⟩)
            _ = c :: rest := happ
        · cases h
      · cases h

/-- The parts in a row are the text behind what has been skipped. -/
theorem flatten_cutPieces (skip : Nat) (inWord : Bool) (s : List Char) :
    (cutPieces skip inWord s).flatMap Piece.text = s.drop skip := by
  induction s generalizing skip inWord with
  | nil => simp [cutPieces]
  | cons c rest ih =>
      cases skip with
      | succ left => simp [cutPieces, ih]
      | zero =>
          simp only [cutPieces]
          split
          · rename_i name hname
            split at hname
            · cases hname
            · obtain ⟨⟨tail, htail⟩, hne⟩ := prefix_of_embeddedReference hname
              cases name with
              | nil => exact absurd rfl hne
              | cons d more =>
                  simp only [List.cons_append, List.cons.injEq] at htail
                  obtain ⟨rfl, rfl⟩ := htail
                  simp [List.flatMap_cons, Piece.text, ih]
          · simp [List.flatMap_cons, Piece.text, ih]

/-- The parts in a row are the text itself. -/
theorem flatten_pieces (s : List Char) : (pieces s).flatMap Piece.text = s := by
  simp [pieces, flatten_cutPieces]

end DesignTokens
