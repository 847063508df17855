import DesignTokens.Token.Path

/-!
# Dotted texts of paths

A path is looked up under its dotted text, which is cut again at the dots. The cut goes
through every segment by itself, so a path comes back from its dotted text exactly when no
segment is empty or holds a dot.
-/

namespace DesignTokens

/-- Cutting at a separator is the library's split. -/
theorem Text.splitAt_eq_splitOn (sep : Char) (s : List Char) :
    Text.splitAt sep s = s.splitOn sep := by
  induction s with
  | nil => rfl
  | cons c rest ih =>
      rw [List.splitOn_cons_eq_if_modifyHead, ← ih]
      by_cases h : c = sep
      · simp [Text.splitAt, h]
      · cases hs : Text.splitAt sep rest with
        | nil => exact absurd hs (Text.splitAt_ne_nil sep rest)
        | cons piece pieces => simp [Text.splitAt, h, hs]

/-- The split of joined lists splits each of them. -/
theorem splitOn_intercalate_eq_flatMap (sep : Char) {lists : List (List Char)}
    (h : lists ≠ []) :
    ([sep].intercalate lists).splitOn sep = lists.flatMap (List.splitOn sep) := by
  induction lists with
  | nil => exact absurd rfl h
  | cons first rest ih =>
      cases rest with
      | nil => simp
      | cons next others =>
          have htail := ih (by simp)
          rw [List.intercalate_cons_cons, List.append_assoc, List.singleton_append,
            List.splitOn_append_cons_self, htail, List.flatMap_cons, List.flatMap_cons,
            List.flatMap_cons]

/-- The pieces of a text are those of the library's split. -/
theorem Text.splitText_eq (sep : Char) (s : String) :
    Text.splitText sep s = (s.toList.splitOn sep).map String.ofList := by
  rw [Text.splitText, Text.splitAt_eq_splitOn]

/-- The segments of a dotted text, cut by the library's split. -/
theorem splitDotted_eq (text : String) :
    splitDotted text =
      ((text.toList.splitOn '.').map String.ofList).filter fun segment => segment != "" := by
  rw [splitDotted, Text.splitText_eq]

/-- The pieces of the dotted text of a path are those of its segments. -/
theorem splitText_joinDotted {path : List String} (h : path ≠ []) :
    Text.splitText '.' (joinDotted path) = path.flatMap (Text.splitText '.') := by
  have hdot : ".".toList = ['.'] := by decide
  have hcut : (joinDotted path).toList.splitOn '.' =
      (path.map String.toList).flatMap (List.splitOn '.') := by
    rw [joinDotted, String.toList_intercalate, hdot]
    exact splitOn_intercalate_eq_flatMap '.' (mt List.map_eq_nil_iff.mp h)
  rw [Text.splitText_eq, hcut, List.flatMap_map, List.map_flatMap]
  exact congrArg (fun f => path.flatMap f)
    (funext fun segment => (Text.splitText_eq '.' segment).symm)

/-- The dotted text of a path is cut within each segment by itself. -/
theorem splitDotted_joinDotted (path : List String) :
    splitDotted (joinDotted path) = path.flatMap splitDotted := by
  cases path with
  | nil => rfl
  | cons first rest =>
      rw [splitDotted, splitText_joinDotted (List.cons_ne_nil first rest), List.filter_flatMap]
      rfl

/-- A segment that stands for itself in a dotted text. -/
def IsPlainSegment (segment : String) : Prop := segment ≠ "" ∧ '.' ∉ segment.toList

instance : DecidablePred IsPlainSegment := fun _ => inferInstanceAs (Decidable (_ ∧ _))

/-- A path that its dotted text leads back to. -/
def IsAddressable (path : List String) : Prop := ∀ segment ∈ path, IsPlainSegment segment

instance : DecidablePred IsAddressable := fun path =>
  inferInstanceAs (Decidable (∀ segment ∈ path, IsPlainSegment segment))

/-- A plain segment is its own cut. -/
theorem splitDotted_of_isPlainSegment {segment : String} (h : IsPlainSegment segment) :
    splitDotted segment = [segment] := by
  rw [splitDotted_eq, List.splitOn_eq_singleton h.2]
  simp [h.1]

/-- Every segment of a dotted text is plain. -/
theorem isAddressable_splitDotted (text : String) : IsAddressable (splitDotted text) := by
  intro segment hs
  obtain ⟨hmem, hne⟩ := List.mem_filter.mp hs
  obtain ⟨piece, hpiece, rfl⟩ := List.mem_map.mp hmem
  refine ⟨by simpa using hne, ?_⟩
  simpa using Text.not_mem_of_mem_splitAt hpiece

/-- The cut of an addressable path within its segments changes nothing. -/
theorem flatMap_splitDotted {path : List String} (h : IsAddressable path) :
    path.flatMap splitDotted = path := by
  induction path with
  | nil => rfl
  | cons segment rest ih =>
      have hs := splitDotted_of_isPlainSegment (h segment (by simp))
      have hr := ih fun other ho => h other (by simp [ho])
      rw [List.flatMap_cons, hs, hr, List.singleton_append]

/-- A path comes back from its dotted text exactly when it is addressable. -/
theorem splitDotted_joinDotted_eq_self_iff {path : List String} :
    splitDotted (joinDotted path) = path ↔ IsAddressable path := by
  constructor
  · intro h
    rw [← h]
    exact isAddressable_splitDotted _
  · intro h
    rw [splitDotted_joinDotted, flatMap_splitDotted h]

/-- The dotted text of the segments of a text leads to the same segments. -/
theorem splitDotted_joinDotted_splitDotted (text : String) :
    splitDotted (joinDotted (splitDotted text)) = splitDotted text :=
  splitDotted_joinDotted_eq_self_iff.mpr (isAddressable_splitDotted text)

/-- Addressable paths with the same dotted text are the same. -/
theorem eq_of_joinDotted_eq {p q : List String} (hp : IsAddressable p) (hq : IsAddressable q)
    (h : joinDotted p = joinDotted q) : p = q := by
  rw [← splitDotted_joinDotted_eq_self_iff.mpr hp, h,
    splitDotted_joinDotted_eq_self_iff.mpr hq]

/-- The segments under which a path is looked up. -/
def TokenPath.address (path : TokenPath) : List String := splitDotted path.key

end DesignTokens
