import DesignTokens.Source.Datum
import DesignTokens.Text.Surrogate
import DesignTokens.Yaml.Cursor

/-!
# Data that have been written

A text with line breaks is written between single quotes, which fold its lines, unless it
needs escapes. Folding writes a line feed at the start of a run of breaks twice, and reading
makes one break of two. A next line is not written twice: alone it is read as a space, and in
a run of breaks the first one is lost and any other is read as a line feed. Main statement: a
text without a next line is read as it was.
-/

namespace DesignTokens.Yaml

/-- The break that folding does not keep. -/
def nextLine : Char := '\x85'

/-- A character that a written text holds as it is; any other needs an escape. -/
def isVerbatim (c : Char) : Bool :=
  isAllowed c && c != '\t' && c != '\x0d' && c != byteOrderMark && c.toNat != 0x10ffff &&
    (Text.surrogate? c).isNone

/-- A space stands beside a break, which single quotes would swallow. -/
def hasSpaceAtBreak : List Char → Bool
  | c :: d :: rest =>
      (c == ' ' && isBreak d) || (isBreak c && d == ' ') || hasSpaceAtBreak (d :: rest)
  | _ => false

/-- A text that can be written between single quotes. -/
def isFoldable (s : List Char) : Bool := s.all isVerbatim && !hasSpaceAtBreak s

/-- What a folded text is read as, behind a break or not. -/
def refold (behindBreak : Bool) : List Char → List Char
  | [] => []
  | c :: rest =>
      if c = nextLine then
        if behindBreak then '\n' :: refold true rest
        else if rest.head?.any isBreak then refold true rest
        else ' ' :: refold false rest
      else c :: refold (isBreak c) rest

/-- What a written text is read as. -/
def rereadText (s : String) : String :=
  if isFoldable s.toList then String.ofList (refold false s.toList) else s

/-- What a written scalar is read as. -/
def rereadScalar : Scalar → Scalar
  | .text s => .text (rereadText s)
  | value => value

mutual

/-- What a written datum is read as. Where two names become the same, the first place and
the last value are kept. -/
def reread : Datum → Datum
  | .scalar value => .scalar (rereadScalar value)
  | .map entries => .ofPairs (rereadEntries entries)
  | datum => datum

/-- What the entries of a written mapping are read as. -/
def rereadEntries : List (Scalar × Datum) → List (Scalar × Datum)
  | [] => []
  | (key, value) :: rest => (rereadScalar key, reread value) :: rereadEntries rest

end

theorem refold_eq_self {s : List Char} (h : nextLine ∉ s) (behindBreak : Bool) :
    refold behindBreak s = s := by
  induction s generalizing behindBreak with
  | nil => rfl
  | cons c rest ih =>
      have hc : c ≠ nextLine := fun hc => h (by simp [hc])
      have hr : nextLine ∉ rest := fun hr => h (by simp [hr])
      simp [refold, hc, ih hr]

/-- A text without a next line is read as it was written. -/
theorem rereadText_eq_self {s : String} (h : nextLine ∉ s.toList) : rereadText s = s := by
  simp [rereadText, refold_eq_self h]

end DesignTokens.Yaml
