import DesignTokens.Proofs.DottedPaths
import DesignTokens.Proofs.TreeLeaves
import DesignTokens.Resolution.Basic

/-!
# Outcomes of a resolution

A resolution looks a path up under its address, takes the text that the leaf there has for
the theme, and follows it. These are the equations of that lookup: later statements cite
them and do not open the resolver.
-/

namespace DesignTokens

/-- A leaf that a store finds is listed under its path. -/
theorem TokenStore.mem_leaves_of_find? {store : TokenStore} {path : List String} {leaf : Leaf}
    (h : store.find? path = some (.leaf leaf)) : (path, leaf) ∈ store.leaves := by
  unfold find? at h
  split at h
  · cases h
  · have hmem := Node.mem_leavesFrom_of_find? h
    rwa [root, Node.leavesFrom_group] at hmem

/-- In a well-named tree the path of a listed leaf finds it. -/
theorem TokenStore.find?_of_mem_leaves {store : TokenStore} (hroot : store.root.WellNamed)
    {path : List String} {leaf : Leaf} (h : (path, leaf) ∈ store.leaves) :
    store.find? path = some (.leaf leaf) := by
  have hmem : (path, leaf) ∈ Node.leavesFrom [] store.root := by
    rw [root, Node.leavesFrom_group]
    exact h
  have hfind := Node.find?_of_mem_leavesFrom hroot hmem
  have hne : path.isEmpty = false := by
    cases path with
    | nil => rw [root, Node.find?_nil, Option.some.injEq] at hfind; cases hfind
    | cons name rest => rfl
  rw [find?, hne]
  exact hfind

namespace Resolver

variable {resolver : Resolver} {theme : Theme}

/-- A resolution keeps what was found at the dotted text of its path. -/
theorem unwrap_resolve (path : TokenPath) :
    (resolver.resolve path theme).unwrap =
      (resolver.resolvePath theme path.key).mapError fun cause =>
        ⟨cause, path.key, some theme⟩ := by
  unfold resolve
  cases resolver.resolvePath theme path.key <;> rfl

/-- The outcome of a path that is told as `key` and leads to the given node, if to any. -/
def outcomeAt (resolver : Resolver) (theme : Theme) (key : String) :
    Option Node → Except ResolutionError String
  | none => .error ⟨.pathNotFound key, key, some theme⟩
  | some (.group _) => .error ⟨.notALeaf key, key, some theme⟩
  | some (.leaf leaf) =>
      match leaf.textFor theme with
      | none => .error ⟨.themeNotDefined theme key, key, some theme⟩
      | some text =>
          (resolver.resolveText theme resolver.steps text).mapError fun cause =>
            ⟨cause, key, some theme⟩

/-- The outcome of a path depends on its dotted text and on the node at its address only. -/
theorem unwrap_resolve_eq_outcomeAt (path : TokenPath) :
    (resolver.resolve path theme).unwrap =
      resolver.outcomeAt theme path.key (resolver.store.find? path.address) := by
  rw [unwrap_resolve, resolvePath, textAt, TokenPath.address]
  cases resolver.store.find? (splitDotted path.key) with
  | none => rfl
  | some node =>
      cases node with
      | group children => rfl
      | leaf leaf =>
          cases htext : leaf.textFor theme with
          | none =>
              simp only [outcomeAt, htext]
              rfl
          | some text => simp only [outcomeAt, htext]

/-- A resolution gives a value exactly when the lookup does. -/
theorem unwrap_resolve_eq_ok_iff {path : TokenPath} {value : String} :
    (resolver.resolve path theme).unwrap = .ok value ↔
      resolver.resolvePath theme path.key = .ok value := by
  rw [unwrap_resolve]
  cases resolver.resolvePath theme path.key with
  | error cause => constructor <;> intro h <;> cases h
  | ok found =>
      constructor
      · intro h
        cases h
        rfl
      · intro h
        cases h
        rfl

/-- A path has a text exactly when it leads to a leaf that has one for the theme. -/
theorem textAt_eq_ok_iff {path text : String} :
    resolver.textAt theme path = .ok text ↔
      ∃ leaf, resolver.store.find? (splitDotted path) = some (.leaf leaf) ∧
        leaf.textFor theme = some text := by
  unfold textAt
  cases resolver.store.find? (splitDotted path) with
  | none => simp
  | some node =>
      cases node with
      | group children => simp
      | leaf leaf => cases ht : leaf.textFor theme <;> simp [ht]

/-- A path resolves exactly when it leads to a leaf whose text resolves. -/
theorem resolvePath_eq_ok_iff {path value : String} :
    resolver.resolvePath theme path = .ok value ↔
      ∃ leaf text, resolver.store.find? (splitDotted path) = some (.leaf leaf) ∧
        leaf.textFor theme = some text ∧
        resolver.resolveText theme resolver.steps text = .ok value := by
  constructor
  · intro h
    unfold resolvePath at h
    cases ht : resolver.textAt theme path with
    | error cause => rw [ht] at h; cases h
    | ok text =>
        rw [ht] at h
        obtain ⟨leaf, hfind, htext⟩ := textAt_eq_ok_iff.mp ht
        exact ⟨leaf, text, hfind, htext, h⟩
  · rintro ⟨leaf, text, hfind, htext, hvalue⟩
    have ht : resolver.textAt theme path = .ok text :=
      textAt_eq_ok_iff.mpr ⟨leaf, hfind, htext⟩
    rw [resolvePath, ht]
    exact hvalue

end Resolver

end DesignTokens
