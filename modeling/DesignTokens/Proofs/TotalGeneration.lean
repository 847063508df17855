import DesignTokens.Proofs.ReferenceCycles
import DesignTokens.Proofs.RuleBlocks
import DesignTokens.Proofs.RuntimeValues

/-!
# Stylesheets are always made

A stage of a generation refuses a set of another theme, a set that is not the light one, or a
display name that could end the header. None of them does so for an accepted store and an
accepted brand theme: each stage gets a set of the theme that it asks for, and the name was
checked when the brand theme was read. A token that does not resolve is recorded, whatever the
reason, and the walk goes on. Main statement: every stage of a generation succeeds, and every
token is written or recorded.
-/

namespace DesignTokens

namespace Resolver

variable (resolver : Resolver)

/-! ## One token -/

/-- A resolution has a value and no error, or an error and no value. What it is asked to give
is that value or that error: a resolution with neither does not arise. -/
theorem resolve_eq_or (path : TokenPath) (theme : Theme) :
    (∃ value, resolver.resolve path theme = { path := path.key, theme, value := some value } ∧
      (resolver.resolve path theme).unwrap = .ok value) ∨
    ∃ error, resolver.resolve path theme = { path := path.key, theme, error := some error } ∧
      (resolver.resolve path theme).unwrap = .error error := by
  unfold resolve
  cases resolver.resolvePath theme path.key with
  | ok value => exact Or.inl ⟨value, rfl, rfl⟩
  | error cause => exact Or.inr ⟨_, rfl, rfl⟩

/-! ## The walk through the tree -/

@[simp] theorem theme_emit (sink : VariableSet) (leaf : List String × Leaf) :
    (resolver.emit sink leaf).theme = sink.theme := by
  rw [emit_eq]

/-- A walk writes or records a leaf and goes on. -/
theorem traverse_cons_leaf (name : String) (value : Leaf) (rest : List (String × Node))
    (path : List String) (theme : Theme) (sink : VariableSet) :
    resolver.traverse ((name, .leaf value) :: rest) path theme sink =
      resolver.traverse rest path theme (resolver.emit sink (path ++ [name], value)) := by
  unfold traverse
  rw [theme_emit]
  simp

/-- A walk goes through the children of a group, which checks the theme again, and goes on. -/
theorem traverse_cons_group (name : String) (children rest : List (String × Node))
    (path : List String) (theme : Theme) (sink : VariableSet) :
    resolver.traverse ((name, .group children) :: rest) path theme sink =
      (resolver.traverse children (path ++ [name]) theme sink).bind fun filled =>
        resolver.traverse rest path theme filled := by
  by_cases h : sink.theme = theme
  · subst h
    rw [traverse_eq resolver children]
    change _ = resolver.traverse rest path sink.theme _
    simp only [traverse, if_true, Node.leavesOf_cons, Node.leavesFrom_group, List.foldl_append,
      foldl_emit]
  · rw [traverse, traverse, if_neg h, if_neg h]
    rfl

/-- A walk that starts with a set of its theme passes every check on its way, however deep the
tree is and whichever of its tokens fail: no step changes the theme of the set. -/
theorem exists_traverse_eq_ok (children : List (String × Node)) (path : List String)
    (sink : VariableSet) :
    ∃ filled, resolver.traverse children path sink.theme sink = .ok filled ∧
      filled.theme = sink.theme := by
  match children with
  | [] => exact ⟨sink, by simp [traverse], rfl⟩
  | (name, .leaf value) :: rest =>
      rw [traverse_cons_leaf]
      have hrest := exists_traverse_eq_ok rest path (resolver.emit sink (path ++ [name], value))
      rwa [theme_emit] at hrest
  | (name, .group inner) :: rest =>
      obtain ⟨filled, hinner, htheme⟩ := exists_traverse_eq_ok inner (path ++ [name]) sink
      have hrest := exists_traverse_eq_ok rest path filled
      rw [traverse_cons_group, hinner]
      rwa [htheme] at hrest

end Resolver

namespace StylesheetSource

variable {source : StylesheetSource}

/-! ## The stages -/

/-- Every stage of a generation succeeds, with the sets and the text that it ends in. -/
structure Succeeds (source : StylesheetSource) (generatedAt : Moment) (sets : VariableSets)
    (text : String) : Prop where
  /-- The light set takes the brand palette, the tokens and the scales. -/
  light : ∃ colored walked,
    VariableSet.flattenBrand { theme := .light } source.brandPalette = .ok colored ∧
    source.resolver.traverse source.store.semantic [] .light colored = .ok walked ∧
    walked.flattenScales source.store = .ok sets.light
  /-- The dark set takes the tokens. -/
  dark : source.resolver.traverse source.store.semantic [] .dark { theme := .dark } =
    .ok sets.dark
  /-- The walk below every group of the tree passes the check of the theme. -/
  groups : ∀ path children, source.store.find? path = some (.group children) →
    ∀ sink : VariableSet, ∃ filled,
      source.resolver.traverse children path sink.theme sink = .ok filled
  /-- The display name of the brand theme can stand in the header. -/
  header : ∃ header, formatHeader generatedAt (source.brand.map BrandTheme.name) = .ok header
  build : source.build = .ok sets
  generate : source.generate generatedAt = .ok text

/-- Every token has its value in a set, or its failure is recorded there. -/
def Accounts (source : StylesheetSource) (sets : VariableSets) : Prop :=
  ∀ theme, ∀ leaf ∈ source.store.leaves,
    (∃ value, (source.resolver.resolve (.segments leaf.1) theme).unwrap = .ok value ∧
      (sets.forTheme theme).get? (variableName leaf.1) = some value) ∨
    ∃ error, (source.resolver.resolve (.segments leaf.1) theme).error = some error ∧
      ⟨joinDotted leaf.1, theme, error.message⟩ ∈ (sets.forTheme theme).skipped

/-- A build of an accepted store accounts for every token. -/
theorem accounts_build (hstore : source.store.WellFormed) {sets : VariableSets}
    (hbuild : source.build = .ok sets) : source.Accounts sets := by
  intro theme leaf hleaf
  rcases source.resolver.resolve_eq_or (.segments leaf.1) theme with
    ⟨value, -, hvalue⟩ | ⟨error, hresolve, herror⟩
  · obtain ⟨found, hfound, hget⟩ :=
      get?_build_of_mem_emitted hstore (source.resolver.mem_emitted hleaf hvalue)
    rw [hbuild] at hfound
    cases hfound
    exact Or.inl ⟨value, hvalue, hget⟩
  · have hrecorded := source.resolver.mem_leftOut hleaf herror
    rw [build_eq] at hbuild
    cases hbuild
    refine Or.inr ⟨error, by rw [hresolve], ?_⟩
    cases theme with
    | light => exact hrecorded
    | dark => exact hrecorded

/-- A stylesheet is made for every accepted store, with every accepted brand theme and at every
moment, whichever tokens fail. No stage refuses what it is given, and every token that fails is
recorded in the set that lacks it. -/
theorem exists_generate_eq_ok (source : StylesheetSource) (hstore : source.store.IsAccepted)
    (hbrand : ∀ brand ∈ source.brand, brand.IsAccepted) (generatedAt : Moment) :
    ∃ sets text, source.Succeeds generatedAt sets text ∧ source.Accounts sets := by
  obtain ⟨sets, hbuild⟩ : ∃ sets, source.build = .ok sets := ⟨_, source.build_eq⟩
  have hgenerate := generate_eq hbuild hbrand generatedAt
  have hheader : formatHeader generatedAt (source.brand.map BrandTheme.name) =
      .ok (source.headerText generatedAt) := by
    rw [formatHeader, if_pos (isHeaderSafe_name hbrand)]
    rfl
  -- Each stage of the build hands a set of its own theme to the next one.
  obtain ⟨colored, hcolored, hcoloredTheme⟩ : ∃ colored,
      VariableSet.flattenBrand { theme := .light } source.brandPalette = .ok colored ∧
        colored.theme = .light :=
    ⟨_, VariableSet.setShared_eq rfl _, rfl⟩
  obtain ⟨walked, hwalked, hwalkedTheme⟩ :=
    source.resolver.exists_traverse_eq_ok source.store.semantic [] colored
  obtain ⟨dark, hdark, -⟩ :=
    source.resolver.exists_traverse_eq_ok source.store.semantic [] { theme := .dark }
  rw [hcoloredTheme] at hwalked hwalkedTheme
  obtain ⟨light, hlight⟩ : ∃ light, walked.flattenScales source.store = .ok light :=
    ⟨_, VariableSet.flattenScales_eq hwalkedTheme source.store⟩
  have hstages : source.build = .ok { light, dark } := by
    rw [build, hcolored]
    simp only [bind, Except.bind, hwalked, hdark, hlight]
    rfl
  rw [hbuild] at hstages
  cases hstages
  refine ⟨_, _, ⟨⟨colored, walked, hcolored, hwalked, hlight⟩, hdark, ?_, ⟨_, hheader⟩, hbuild,
    hgenerate⟩, accounts_build hstore.wellFormed hbuild⟩
  intro path children _ sink
  obtain ⟨filled, hfilled, -⟩ := source.resolver.exists_traverse_eq_ok children path sink
  exact ⟨filled, hfilled⟩

end StylesheetSource

/-! ## A store in which most tokens fail -/

namespace Sample

/-- A store with two tokens that refer to each other, one that refers to nothing, one for the
dark theme only, one that resolves, and a group without children. -/
def brokenStore : TokenStore where
  semantic := [
    ("a", .leaf (.plain "b.c")),
    ("b", .group [("c", .leaf (.variant (some "semantic.a") (some "#000000")))]),
    ("lost", .leaf (.plain "no.such.token")),
    ("none", .group []),
    ("deep", .group [("er", .group [("still", .group [
      ("night", .leaf (.variant none (some "#111111"))),
      ("text", .leaf (.plain "#222222"))])])])]

/-- The stylesheet of the store with a brand theme of one color more. -/
def brokenSource : StylesheetSource where
  store := brokenStore
  brand := some loopBrand

theorem brokenStore_isAccepted : brokenStore.IsAccepted := by
  refine ⟨[(.text "semantic", .map [
      (.text "a", .text "b.c"),
      (.text "b", .map [(.text "c", .map [(.text "light", .text "semantic.a"),
        (.text "dark", .text "#000000")])]),
      (.text "lost", .text "no.such.token"),
      (.text "none", .map []),
      (.text "deep", .map [(.text "er", .map [(.text "still", .map [
        (.text "night", .map [(.text "dark", .text "#111111")]),
        (.text "text", .text "#222222")])])])])], ?_, eq_ok_of_toOption ?_⟩
  · simp [Datum.EntriesWellNamed, Datum.TreesWellNamed, Datum.text]
  · decide +kernel

end Sample

namespace StylesheetSource

/-- The stylesheet of the store is made. The light set records both tokens of the cycle, the one
that refers to nothing and the one for the dark theme, and has the token behind them. -/
theorem exists_generate_eq_ok_broken :
    Sample.brokenSource.store.IsAccepted ∧
      (∀ brand ∈ Sample.brokenSource.brand, brand.IsAccepted) ∧
      ∃ sets text, Sample.brokenSource.Succeeds Sample.noon sets text ∧
        Sample.brokenSource.Accounts sets ∧
        sets.light.get? "--mond-deep-er-still-text" = some "#222222" ∧
        sets.light.skipped = [
          ⟨"a", .light, "Alias chain for 'a' exceeds 8 levels (cyclic reference?)."⟩,
          ⟨"b.c", .light, "Alias chain for 'b.c' exceeds 8 levels (cyclic reference?)."⟩,
          ⟨"lost", .light, "Reference 'no.such.token' not found (from token 'lost')."⟩,
          ⟨"deep.er.still.night", .light,
            "Theme 'light' not defined for token 'deep.er.still.night'."⟩] := by
  have hbrand : ∀ brand ∈ Sample.brokenSource.brand, brand.IsAccepted := by
    intro brand h
    cases Option.mem_some_iff.mp h
    exact Sample.loopBrand_isAccepted
  obtain ⟨sets, text, hsucceeds, haccounts⟩ :=
    exists_generate_eq_ok Sample.brokenSource Sample.brokenStore_isAccepted hbrand Sample.noon
  refine ⟨Sample.brokenStore_isAccepted, hbrand, sets, text, hsucceeds, haccounts, ?_, ?_⟩
  · have hvalue : Sample.brokenSource.build.toOption.bind
        (fun sets => sets.light.get? "--mond-deep-er-still-text") = some "#222222" := by
      decide +kernel
    rwa [hsucceeds.build] at hvalue
  · have hskipped : Sample.brokenSource.build.toOption.map (fun sets => sets.light.skipped) =
        some [
          ⟨"a", .light, "Alias chain for 'a' exceeds 8 levels (cyclic reference?)."⟩,
          ⟨"b.c", .light, "Alias chain for 'b.c' exceeds 8 levels (cyclic reference?)."⟩,
          ⟨"lost", .light, "Reference 'no.such.token' not found (from token 'lost')."⟩,
          ⟨"deep.er.still.night", .light,
            "Theme 'light' not defined for token 'deep.er.still.night'."⟩] := by
      decide +kernel
    rw [hsucceeds.build] at hskipped
    exact Option.some.inj hskipped

end StylesheetSource

end DesignTokens
