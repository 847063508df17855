import DesignTokens.Proofs.OrderedEntries
import DesignTokens.Stylesheet.Build

/-!
# What the stages write into a variable set

Every stage of a build writes pairs of names and values one after the other, and a walk
through the leaves also records those that do not resolve. Each stage is stated here as one
list of writes; `build_eq` puts them together.
-/

namespace DesignTokens

namespace Resolver

/-- The variables of the leaves that resolve. -/
def emitted (resolver : Resolver) (theme : Theme) (leaves : List (List String × Leaf)) :
    Entries String :=
  leaves.filterMap fun leaf =>
    match (resolver.resolve (.segments leaf.1) theme).unwrap with
    | .ok value => some (variableName leaf.1, value)
    | .error _ => none

/-- The records of the leaves that do not resolve. -/
def leftOut (resolver : Resolver) (theme : Theme) (leaves : List (List String × Leaf)) :
    List SkippedToken :=
  leaves.filterMap fun leaf =>
    match (resolver.resolve (.segments leaf.1) theme).unwrap with
    | .ok _ => none
    | .error error => some ⟨joinDotted leaf.1, theme, error.message⟩

variable (resolver : Resolver)

/-- What is written for two rows of leaves. -/
theorem emitted_append (theme : Theme) (leaves more : List (List String × Leaf)) :
    resolver.emitted theme (leaves ++ more) =
      resolver.emitted theme leaves ++ resolver.emitted theme more :=
  List.filterMap_append

/-- What is recorded for two rows of leaves. -/
theorem leftOut_append (theme : Theme) (leaves more : List (List String × Leaf)) :
    resolver.leftOut theme (leaves ++ more) =
      resolver.leftOut theme leaves ++ resolver.leftOut theme more :=
  List.filterMap_append

/-- A leaf is written if it resolves, and recorded otherwise. -/
theorem emit_eq (sink : VariableSet) (leaf : List String × Leaf) :
    resolver.emit sink leaf =
      { theme := sink.theme
        entries := sink.entries.putAll (resolver.emitted sink.theme [leaf])
        skipped := sink.skipped ++ resolver.leftOut sink.theme [leaf] } := by
  unfold emit emitted leftOut
  cases h : (resolver.resolve (.segments leaf.1) sink.theme).unwrap with
  | ok value => simp [h, VariableSet.set, Entries.putAll]
  | error error => simp [h, VariableSet.skip, Entries.putAll]

/-- A walk through leaves writes those that resolve and records the others, in order. -/
theorem foldl_emit (leaves : List (List String × Leaf)) (sink : VariableSet) :
    leaves.foldl resolver.emit sink =
      { theme := sink.theme
        entries := sink.entries.putAll (resolver.emitted sink.theme leaves)
        skipped := sink.skipped ++ resolver.leftOut sink.theme leaves } := by
  induction leaves generalizing sink with
  | nil => simp [emitted, leftOut, Entries.putAll]
  | cons leaf rest ih =>
      have hwritten := resolver.emitted_append sink.theme [leaf] rest
      have hrecorded := resolver.leftOut_append sink.theme [leaf] rest
      rw [List.singleton_append] at hwritten hrecorded
      rw [List.foldl_cons, emit_eq, ih, hwritten, hrecorded, Entries.putAll_append,
        List.append_assoc]

/-- A traversal for the theme of its set succeeds with the writes and records of the leaves. -/
theorem traverse_eq (children : List (String × Node)) (path : List String)
    (sink : VariableSet) :
    resolver.traverse children path sink.theme sink =
      .ok { theme := sink.theme
            entries := sink.entries.putAll
              (resolver.emitted sink.theme (Node.leavesOf path children))
            skipped := sink.skipped ++
              resolver.leftOut sink.theme (Node.leavesOf path children) } := by
  rw [traverse, if_pos rfl, foldl_emit]

/-- A leaf is either written or recorded. -/
theorem length_emitted_add_leftOut (theme : Theme) (leaves : List (List String × Leaf)) :
    (resolver.emitted theme leaves).length + (resolver.leftOut theme leaves).length =
      leaves.length := by
  induction leaves with
  | nil => rfl
  | cons leaf rest ih =>
      simp only [emitted, leftOut, List.filterMap_cons, List.length_cons] at ih ⊢
      cases (resolver.resolve (.segments leaf.1) theme).unwrap with
      | ok value =>
          simp only [List.length_cons]
          omega
      | error error =>
          simp only [List.length_cons]
          omega

/-- The names that are written are names of leaves, in the order of the leaves. -/
theorem keys_emitted_sublist (theme : Theme) (leaves : List (List String × Leaf)) :
    (Entries.keys (resolver.emitted theme leaves)).Sublist
      (leaves.map fun leaf => variableName leaf.1) := by
  induction leaves with
  | nil => exact List.Sublist.refl _
  | cons leaf rest ih =>
      simp only [emitted, List.filterMap_cons, List.map_cons] at ih ⊢
      cases (resolver.resolve (.segments leaf.1) theme).unwrap with
      | ok value => exact ih.cons_cons _
      | error error => exact ih.cons _

/-- A leaf that resolves is written with its value. -/
theorem mem_emitted {theme : Theme} {leaves : List (List String × Leaf)}
    {leaf : List String × Leaf} (hleaf : leaf ∈ leaves) {value : String}
    (h : (resolver.resolve (.segments leaf.1) theme).unwrap = .ok value) :
    (variableName leaf.1, value) ∈ resolver.emitted theme leaves :=
  List.mem_filterMap.mpr ⟨leaf, hleaf, by simp only [h]⟩

/-- A leaf that does not resolve is recorded with its reason. -/
theorem mem_leftOut {theme : Theme} {leaves : List (List String × Leaf)}
    {leaf : List String × Leaf} (hleaf : leaf ∈ leaves) {error : ResolutionError}
    (h : (resolver.resolve (.segments leaf.1) theme).unwrap = .error error) :
    ⟨joinDotted leaf.1, theme, error.message⟩ ∈ resolver.leftOut theme leaves :=
  List.mem_filterMap.mpr ⟨leaf, hleaf, by simp only [h]⟩

/-- What is written for leaves is the value of one of them under its name. -/
theorem exists_of_mem_emitted {theme : Theme} {leaves : List (List String × Leaf)}
    {entry : String × String} (h : entry ∈ resolver.emitted theme leaves) :
    ∃ leaf ∈ leaves, entry.1 = variableName leaf.1 ∧
      (resolver.resolve (.segments leaf.1) theme).unwrap = .ok entry.2 := by
  obtain ⟨leaf, hleaf, hvalue⟩ := List.mem_filterMap.mp h
  split at hvalue
  · rename_i value hok
    cases hvalue
    exact ⟨leaf, hleaf, rfl, hok⟩
  · cases hvalue

end Resolver

namespace VariableSet

/-- Writing pairs changes nothing but the variables. -/
theorem setAll_eq (sink : VariableSet) (pairs : List (String × String)) :
    sink.setAll pairs = { sink with entries := sink.entries.putAll pairs } := by
  induction pairs generalizing sink with
  | nil => rfl
  | cons pair rest ih => exact ih (sink.set pair.1 pair.2)

/-- The light set takes what does not depend on the theme. -/
theorem setShared_eq {sink : VariableSet} (h : sink.theme = .light)
    (pairs : List (String × String)) :
    sink.setShared pairs = .ok { sink with entries := sink.entries.putAll pairs } := by
  rw [setShared, if_pos h, setAll_eq]

end VariableSet

/-- The variables of all scales of a store. -/
def TokenStore.scaleVariables (store : TokenStore) : Entries String :=
  store.staticScales.flatMap fun scale => VariableSet.scaleVariables scale.1 scale.2

/-- The light set takes all scales of a store. -/
theorem VariableSet.flattenScales_eq {sink : VariableSet} (h : sink.theme = .light)
    (store : TokenStore) :
    sink.flattenScales store =
      .ok { sink with entries := sink.entries.putAll store.scaleVariables } := by
  unfold flattenScales TokenStore.scaleVariables
  generalize store.staticScales = scales
  induction scales generalizing sink with
  | nil => rfl
  | cons scale rest ih =>
      rw [List.foldlM_cons, flattenScale, setShared_eq h, List.flatMap_cons,
        Entries.putAll_append]
      exact ih h

/-- A build always succeeds. The light set takes the brand palette, the leaves and the
scales, one after the other, the dark set the leaves alone. -/
theorem StylesheetSource.build_eq (source : StylesheetSource) :
    source.build = .ok
      { light :=
          { theme := .light
            entries := Entries.putAll [] (VariableSet.brandVariables source.brandPalette ++
              source.resolver.emitted .light source.store.leaves ++ source.store.scaleVariables)
            skipped := source.resolver.leftOut .light source.store.leaves }
        dark :=
          { theme := .dark
            entries := Entries.putAll [] (source.resolver.emitted .dark source.store.leaves)
            skipped := source.resolver.leftOut .dark source.store.leaves } } := by
  have hbrand : VariableSet.flattenBrand { theme := .light } source.brandPalette =
      .ok { theme := .light
            entries := Entries.putAll [] (VariableSet.brandVariables source.brandPalette) } :=
    VariableSet.setShared_eq rfl _
  have hlight := source.resolver.traverse_eq source.store.semantic []
    { theme := .light
      entries := Entries.putAll [] (VariableSet.brandVariables source.brandPalette) }
  have hdark := source.resolver.traverse_eq source.store.semantic [] { theme := .dark }
  rw [build, hbrand]
  simp only [bind, Except.bind, hlight, hdark]
  rw [VariableSet.flattenScales_eq rfl]
  simp only [pure, Except.pure, Entries.putAll_append, List.nil_append, TokenStore.leaves]

end DesignTokens
