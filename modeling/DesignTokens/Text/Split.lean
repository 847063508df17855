/-!
# Splitting at a character

`splitAt sep s` cuts a text at every separator and keeps the empty pieces; `joinWith sep`
puts the pieces together again. Main statements: joining what was cut gives the text back,
and no piece holds the separator.
-/

namespace DesignTokens.Text

/-- The pieces between the separators, at least one. -/
def splitAt (sep : Char) : List Char → List (List Char)
  | [] => [[]]
  | c :: rest =>
      if c = sep then [] :: splitAt sep rest
      else match splitAt sep rest with
        | [] => [[c]]
        | piece :: pieces => (c :: piece) :: pieces

/-- The pieces in a row with one separator between each two. -/
def joinWith (sep : Char) : List (List Char) → List Char
  | [] => []
  | [piece] => piece
  | piece :: pieces => piece ++ sep :: joinWith sep pieces

theorem splitAt_ne_nil (sep : Char) (s : List Char) : splitAt sep s ≠ [] := by
  cases s with
  | nil => simp [splitAt]
  | cons c rest =>
      by_cases h : c = sep
      · simp [splitAt, h]
      · simp only [splitAt, h, if_false]
        split <;> simp

/-- Joining the pieces of a text gives the text back. -/
theorem joinWith_splitAt (sep : Char) (s : List Char) : joinWith sep (splitAt sep s) = s := by
  induction s with
  | nil => rfl
  | cons c rest ih =>
      have hne := splitAt_ne_nil sep rest
      by_cases h : c = sep
      · subst h
        cases hs : splitAt c rest with
        | nil => exact absurd hs hne
        | cons piece pieces =>
            rw [hs] at ih
            simp [splitAt, hs, joinWith, ih]
      · cases hs : splitAt sep rest with
        | nil => exact absurd hs hne
        | cons piece pieces =>
            rw [hs] at ih
            cases pieces with
            | nil => simpa [splitAt, h, hs, joinWith] using ih
            | cons next others => simpa [splitAt, h, hs, joinWith] using ih

/-- No piece holds the separator. -/
theorem not_mem_of_mem_splitAt {sep : Char} {s piece : List Char}
    (h : piece ∈ splitAt sep s) : sep ∉ piece := by
  induction s generalizing piece with
  | nil => simp_all [splitAt]
  | cons c rest ih =>
      by_cases hc : c = sep
      · simp only [splitAt, hc, if_true, List.mem_cons] at h
        rcases h with rfl | h
        · simp
        · exact ih h
      · cases hs : splitAt sep rest with
        | nil => exact absurd hs (splitAt_ne_nil sep rest)
        | cons first pieces =>
            simp only [splitAt, hc, if_false, hs, List.mem_cons] at h
            rcases h with rfl | h
            · have hfirst : first ∈ splitAt sep rest := by simp [hs]
              simp [ih hfirst, Ne.symm hc]
            · exact ih (by simp [hs, h])

/-- A text without the separator is one piece. -/
theorem splitAt_of_not_mem {sep : Char} {s : List Char} (h : sep ∉ s) :
    splitAt sep s = [s] := by
  induction s with
  | nil => rfl
  | cons c rest ih =>
      simp only [List.mem_cons, not_or] at h
      simp [splitAt, Ne.symm h.1, ih h.2]

/-- A text cut at every separator. -/
def splitText (sep : Char) (s : String) : List String :=
  (splitAt sep s.toList).map String.ofList

end DesignTokens.Text
