/-!
# Ranges of code points

A character property of the Unicode standard is kept as the list of its ranges, first and
last code point of each, in ascending order. The tables of this library start behind
ASCII, where each property is a short test of its own.
-/

namespace DesignTokens.Text

/-- Ranges of code points, both ends included. -/
abbrev Ranges := List (Nat × Nat)

/-- A code point lies in one of the ranges. -/
def Ranges.holds (ranges : Ranges) (n : Nat) : Bool :=
  ranges.any fun range => range.1 ≤ n && n ≤ range.2

/-- The first range that holds a code point. -/
def Ranges.find? (ranges : Ranges) (n : Nat) : Option (Nat × Nat) :=
  List.find? (fun range => range.1 ≤ n && n ≤ range.2) ranges

theorem Ranges.holds_iff {ranges : Ranges} {n : Nat} :
    ranges.holds n = true ↔ ∃ range ∈ ranges, range.1 ≤ n ∧ n ≤ range.2 := by
  simp [Ranges.holds]

end DesignTokens.Text
