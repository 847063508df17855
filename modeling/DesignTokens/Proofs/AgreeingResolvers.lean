import DesignTokens.Proofs.AliasSemantics
import DesignTokens.Proofs.FilledSets

/-!
# Resolvers that agree in a theme

A resolution in one theme asks few things of a store: the text at a path, whether a path leads
anywhere, and the colors of the palettes. Two resolvers that answer them alike have the same
outcome for every path, values and failures, and fill a set with the same variables. What the
stores hold besides, and in what form they hold it, does not matter.
-/

namespace DesignTokens

namespace Resolver

/-- Two resolvers that give the same answers in a theme. -/
structure AgreeIn (theme : Theme) (first second : Resolver) : Prop where
  /-- A path has the same text, or none for the same reason. -/
  textAt : ∀ path, first.textAt theme path = second.textAt theme path
  /-- A path leads to a node of both stores or of neither. -/
  found : ∀ path, (first.store.find? path).isSome = (second.store.find? path).isSome
  /-- Each family and shade has the same raw color, or none. -/
  rawColor : ∀ family shade, TokenStore.paletteColor? first.store.colors family shade =
    TokenStore.paletteColor? second.store.colors family shade
  /-- Each family and shade has the same brand color, or none. -/
  brandColor : ∀ family shade, first.brandColor? family shade = second.brandColor? family shade
  /-- Equally many references may be followed. -/
  maxDepth : first.maxDepth = second.maxDepth

/-- Palettes with the same colors give a reference the same color. -/
theorem colorTarget?_congr {first second : Resolver}
    (hraw : ∀ family shade, TokenStore.paletteColor? first.store.colors family shade =
      TokenStore.paletteColor? second.store.colors family shade)
    (hbrand : ∀ family shade, first.brandColor? family shade = second.brandColor? family shade)
    (reference : String) : first.colorTarget? reference = second.colorTarget? reference := by
  unfold colorTarget?
  split
  · exact hbrand _ _
  · exact hraw _ _
  · rfl

/-- What is kept of leaves at the same paths is the same when it depends on the paths only. -/
theorem filterMap_eq_of_paths {α : Type} {keep other : List String × Leaf → Option α}
    {leaves others : List (List String × Leaf)}
    (hpaths : leaves.map Prod.fst = others.map Prod.fst)
    (h : ∀ leaf found, leaf.1 = found.1 → keep leaf = other found) :
    leaves.filterMap keep = others.filterMap other := by
  induction leaves generalizing others with
  | nil =>
      rw [List.map_nil, eq_comm, List.map_eq_nil_iff] at hpaths
      rw [hpaths]
      rfl
  | cons leaf rest ih =>
      cases others with
      | nil => cases hpaths
      | cons found behind =>
          rw [List.map_cons, List.map_cons, List.cons.injEq] at hpaths
          rw [List.filterMap_cons, List.filterMap_cons, h leaf found hpaths.1, ih hpaths.2]

namespace AgreeIn

variable {theme : Theme} {first second : Resolver}

theorem target_eq (h : AgreeIn theme first second) (reference : String) :
    first.target theme reference = second.target theme reference := by
  rw [target, target, colorTarget?_congr h.rawColor h.brandColor]
  simp only [h.found, h.textAt]

/-- With the same targets and the same number of steps left, a text has the same outcome. -/
theorem resolveText_eq (h : AgreeIn theme first second) (steps : Nat) (raw : String) :
    first.resolveText theme steps raw = second.resolveText theme steps raw := by
  induction steps generalizing raw with
  | zero => rw [resolveText, resolveText, h.maxDepth]
  | succ steps ih =>
      have hfollow : first.follow theme steps = second.follow theme steps := by
        funext reference
        rw [follow, follow, h.target_eq]
        cases second.target theme reference with
        | error cause => rfl
        | ok next => exact ih next
      rw [resolveText_succ, resolveText_succ, hfollow]

/-- A path has the same outcome, also where it fails. -/
theorem resolve_eq (h : AgreeIn theme first second) (path : TokenPath) :
    first.resolve path theme = second.resolve path theme := by
  have hsteps : first.steps = second.steps := by rw [steps, steps, h.maxDepth]
  have hpath : first.resolvePath theme path.key = second.resolvePath theme path.key := by
    rw [resolvePath, resolvePath, h.textAt, hsteps]
    cases second.textAt theme path.key with
    | error cause => rfl
    | ok text => exact h.resolveText_eq _ text
  rw [resolve, resolve, hpath]

/-- Leaves at the same paths are written alike. -/
theorem emitted_eq (h : AgreeIn theme first second) {leaves others : List (List String × Leaf)}
    (hpaths : leaves.map Prod.fst = others.map Prod.fst) :
    first.emitted theme leaves = second.emitted theme others := by
  apply filterMap_eq_of_paths hpaths
  intro leaf other hpath
  simp only [hpath, h.resolve_eq]

/-- Leaves at the same paths are left out alike, for the same reasons. -/
theorem leftOut_eq (h : AgreeIn theme first second) {leaves others : List (List String × Leaf)}
    (hpaths : leaves.map Prod.fst = others.map Prod.fst) :
    first.leftOut theme leaves = second.leftOut theme others := by
  apply filterMap_eq_of_paths hpaths
  intro leaf other hpath
  simp only [hpath, h.resolve_eq]

end AgreeIn

end Resolver

end DesignTokens
