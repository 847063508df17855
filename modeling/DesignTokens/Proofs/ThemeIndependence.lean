import DesignTokens.Proofs.AgreeingResolvers
import DesignTokens.Proofs.AcceptedStores

/-!
# Independence of the themes

What a token has for one theme never shows in the other: not through references to tokens that
have a text for each theme, not inside gradients, not in the reason why a token is left out.
Two trees agree in a theme when they differ at most in the texts that their tokens have for the
other one. Main statement: the walk through either tree writes the same variables in the same
order and leaves out the same tokens for the same reasons.
-/

namespace DesignTokens

namespace Node

mutual

/-- Two trees of one shape whose tokens are of the same kind and have the same text in a theme,
or both none. -/
def AgreeIn (theme : Theme) : Node → Node → Prop
  | leaf first, leaf second =>
      first.isVariant = second.isVariant ∧ first.textFor theme = second.textFor theme
  | group children, group others => ChildrenAgreeIn theme children others
  | _, _ => False

/-- The same for the children of two groups, which have the same names in the same order. -/
def ChildrenAgreeIn (theme : Theme) : List (String × Node) → List (String × Node) → Prop
  | [], [] => True
  | (name, first) :: rest, (other, second) :: others =>
      name = other ∧ AgreeIn theme first second ∧ ChildrenAgreeIn theme rest others
  | _, _ => False

end

variable {theme : Theme}

/-- A name stands for children that agree, or for none in both groups. -/
theorem get?_agreeIn {children others : List (String × Node)}
    (h : ChildrenAgreeIn theme children others) (name : String) :
    (Entries.get? children name = none ∧ Entries.get? others name = none) ∨
      ∃ first second, Entries.get? children name = some first ∧
        Entries.get? others name = some second ∧ AgreeIn theme first second := by
  induction children generalizing others with
  | nil =>
      cases others with
      | nil => exact Or.inl ⟨rfl, rfl⟩
      | cons other rest => exact h.elim
  | cons first rest ih =>
      cases others with
      | nil => exact h.elim
      | cons other others =>
          rw [ChildrenAgreeIn] at h
          obtain ⟨hname, hnode, hrest⟩ := h
          rw [Entries.get?, Entries.get?, ← hname]
          split
          · exact Or.inr ⟨_, _, rfl, rfl, hnode⟩
          · exact ih hrest

/-- A path leads to nodes that agree, or nowhere in both trees. -/
theorem find?_agreeIn {first second : Node} (h : AgreeIn theme first second)
    (path : List String) :
    (first.find? path = none ∧ second.find? path = none) ∨
      ∃ found other, first.find? path = some found ∧ second.find? path = some other ∧
        AgreeIn theme found other := by
  induction path generalizing first second with
  | nil => exact Or.inr ⟨first, second, find?_nil first, find?_nil second, h⟩
  | cons name rest ih =>
      cases first with
      | leaf value =>
          cases second with
          | leaf other => exact Or.inl ⟨rfl, rfl⟩
          | group others => exact h.elim
      | group children =>
          cases second with
          | leaf other => exact h.elim
          | group others =>
              rw [AgreeIn] at h
              rw [find?_group_cons, find?_group_cons]
              rcases get?_agreeIn h name with ⟨hfirst, hsecond⟩ |
                ⟨child, other, hfirst, hsecond, hchild⟩
              · rw [hfirst, hsecond]
                exact Or.inl ⟨rfl, rfl⟩
              · rw [hfirst, hsecond, Option.bind_some, Option.bind_some]
                exact ih hchild

mutual

/-- The leaves of trees that agree lie at the same paths, in the same order. -/
theorem paths_leavesFrom_agreeIn {first second : Node} (h : AgreeIn theme first second)
    (path : List String) :
    (leavesFrom path first).map Prod.fst = (leavesFrom path second).map Prod.fst := by
  cases first with
  | leaf value =>
      cases second with
      | leaf other => rw [leavesFrom_leaf, leavesFrom_leaf, List.map_singleton, List.map_singleton]
      | group others => exact h.elim
  | group children =>
      cases second with
      | leaf other => exact h.elim
      | group others =>
          rw [AgreeIn] at h
          rw [leavesFrom_group, leavesFrom_group]
          exact paths_leavesOf_agreeIn h path

/-- The same for the leaves below the children of two groups. -/
theorem paths_leavesOf_agreeIn {children others : List (String × Node)}
    (h : ChildrenAgreeIn theme children others) (path : List String) :
    (leavesOf path children).map Prod.fst = (leavesOf path others).map Prod.fst := by
  cases children with
  | nil =>
      cases others with
      | nil => rfl
      | cons other rest => exact h.elim
  | cons first rest =>
      cases others with
      | nil => exact h.elim
      | cons other others =>
          obtain ⟨name, node⟩ := first
          obtain ⟨_, second⟩ := other
          rw [ChildrenAgreeIn] at h
          obtain ⟨rfl, hnode, hrest⟩ := h
          have hhere := paths_leavesFrom_agreeIn hnode (path ++ [name])
          have hothers := paths_leavesOf_agreeIn hrest path
          rw [leavesOf_cons, leavesOf_cons, List.map_append, List.map_append, hhere, hothers]

end

end Node

/-! ## Stores that agree in a theme -/

/-- Two stores with the same colors whose trees agree in a theme. Their names, descriptions and
scales may differ, and the texts that their tokens have for the other theme. -/
structure TokenStore.AgreeIn (theme : Theme) (first second : TokenStore) : Prop where
  /-- Each family and shade has the same raw color, or none. -/
  colors : ∀ family shade, paletteColor? first.colors family shade =
    paletteColor? second.colors family shade
  /-- Each family and shade has the same color in the brand palette, or none. -/
  brand : ∀ family shade, paletteColor? first.brand family shade =
    paletteColor? second.brand family shade
  /-- The trees agree in the theme. -/
  tree : first.root.AgreeIn theme second.root

namespace TokenStore.AgreeIn

variable {theme : Theme} {first second : TokenStore}

/-- A path leads to nodes that agree, or nowhere in both stores. -/
theorem find? (h : AgreeIn theme first second) (path : List String) :
    (first.find? path = none ∧ second.find? path = none) ∨
      ∃ found other, first.find? path = some found ∧ second.find? path = some other ∧
        found.AgreeIn theme other := by
  unfold TokenStore.find?
  split
  · exact Or.inl ⟨rfl, rfl⟩
  · exact Node.find?_agreeIn h.tree path

/-- With the same brand theme their resolvers agree in the theme. -/
theorem resolver (h : AgreeIn theme first second) (brand : Option BrandTheme) (maxDepth : Int) :
    Resolver.AgreeIn theme { store := first, brand, maxDepth }
      { store := second, brand, maxDepth } where
  textAt path := by
    rw [Resolver.textAt, Resolver.textAt]
    rcases h.find? (splitDotted path) with ⟨hfirst, hsecond⟩ |
      ⟨found, other, hfirst, hsecond, hnode⟩
    · rw [hfirst, hsecond]
    · rw [hfirst, hsecond]
      cases found with
      | leaf value =>
          cases other with
          | leaf held =>
              rw [Node.AgreeIn] at hnode
              simp only [hnode.2]
          | group others => exact hnode.elim
      | group children =>
          cases other with
          | leaf held => exact hnode.elim
          | group others => rfl
  found path := by
    rcases h.find? path with ⟨hfirst, hsecond⟩ | ⟨found, other, hfirst, hsecond, -⟩
    · rw [hfirst, hsecond]
    · rw [hfirst, hsecond]
      rfl
  rawColor := h.colors
  brandColor family shade := by
    rw [Resolver.brandColor?, Resolver.brandColor?, h.brand]
  maxDepth := rfl

/-- Their leaves lie at the same paths. -/
theorem paths_leaves (h : AgreeIn theme first second) :
    first.leaves.map Prod.fst = second.leaves.map Prod.fst := by
  have htree := h.tree
  rw [root, root, Node.AgreeIn] at htree
  exact Node.paths_leavesOf_agreeIn htree []

end TokenStore.AgreeIn

/-- The themes are independent of each other. Stores that agree in a theme are walked through
alike for it, with any brand theme and at any bound: the variables are the same, in the same
order, and so are the tokens that are left out, with their reasons. In particular the dark set
of a build depends neither on a text for the light theme nor on a scale. -/
theorem Resolver.traverse_eq_of_agreeIn {theme : Theme} {first second : TokenStore}
    (h : first.AgreeIn theme second) (brand : Option BrandTheme) :
    (∀ maxDepth : Int, ∃ filled,
      traverse { store := first, brand, maxDepth } first.semantic [] theme { theme } =
        .ok filled ∧
      traverse { store := second, brand, maxDepth } second.semantic [] theme { theme } =
        .ok filled) ∧
    (theme = .dark → ∃ sets others,
      StylesheetSource.build { store := first, brand } = .ok sets ∧
      StylesheetSource.build { store := second, brand } = .ok others ∧
      sets.dark = others.dark) := by
  have hwritten (maxDepth : Int) :=
    (h.resolver brand maxDepth).emitted_eq h.paths_leaves
  have hskipped (maxDepth : Int) :=
    (h.resolver brand maxDepth).leftOut_eq h.paths_leaves
  constructor
  · intro maxDepth
    refine ⟨_, traverse_eq _ first.semantic [] { theme }, ?_⟩
    rw [traverse_eq _ second.semantic [] { theme }]
    have hentries := hwritten maxDepth
    have hrecords := hskipped maxDepth
    simp only [TokenStore.leaves] at hentries hrecords
    rw [hentries, hrecords]
  · rintro rfl
    refine ⟨_, _, StylesheetSource.build_eq _, StylesheetSource.build_eq _, ?_⟩
    have hentries := hwritten maxAliasDepth
    have hrecords := hskipped maxAliasDepth
    simp only [StylesheetSource.resolver, hentries, hrecords]

/-! ## Texts for the other theme -/

namespace Sample

/-- A store with a token for each theme, one for the light theme only that follows it, and a
gradient. -/
def shownStore : TokenStore where
  colors := [("gray", [("500", "#6b7280")])]
  semantic := [
    ("text", .group [
      ("muted", .leaf (.variant (some "#ffffff") (some "gray.500"))),
      ("hint", .leaf (.variant (some "text.muted") none))]),
    ("fade", .leaf (.plain "linear-gradient(text.muted, gray.500)"))]

/-- The store with other texts for the light theme, one of them missing, and with a scale. -/
def hiddenStore : TokenStore where
  description := "Dark only"
  colors := [("gray", [("500", "#6b7280")])]
  semantic := [
    ("text", .group [
      ("muted", .leaf (.variant none (some "gray.500"))),
      ("hint", .leaf (.variant (some "text.hint") none))]),
    ("fade", .leaf (.plain "linear-gradient(text.muted, gray.500)"))]
  scales := { spacing := [("4", "1rem")] }

theorem shownStore_agreeIn : shownStore.AgreeIn .dark hiddenStore where
  colors _ _ := rfl
  brand _ _ := rfl
  tree := by
    simp [shownStore, hiddenStore, TokenStore.root, Node.AgreeIn, Node.ChildrenAgreeIn,
      Leaf.isVariant, Leaf.textFor]

end Sample

/-- The gradient is the same in the dark set of both stores, and the token without a text for
the dark theme is left out of both. -/
theorem Resolver.traverse_eq_of_agreeIn_dark :
    Sample.shownStore.AgreeIn .dark Sample.hiddenStore ∧
      (∃ filled,
        traverse { store := Sample.shownStore } Sample.shownStore.semantic [] .dark
          { theme := .dark } = .ok filled ∧
        traverse { store := Sample.hiddenStore } Sample.hiddenStore.semantic [] .dark
          { theme := .dark } = .ok filled ∧
        filled.entries = [("--mond-text-muted", "#6b7280"),
          ("--mond-fade", "linear-gradient(#6b7280, #6b7280)")] ∧
        filled.skipped.map SkippedToken.path = ["text.hint"]) ∧
      ∃ sets others, StylesheetSource.build { store := Sample.shownStore } = .ok sets ∧
        StylesheetSource.build { store := Sample.hiddenStore } = .ok others ∧
        sets.dark = others.dark := by
  obtain ⟨hwalk, hdark⟩ := traverse_eq_of_agreeIn Sample.shownStore_agreeIn none
  obtain ⟨filled, hfirst, hsecond⟩ := hwalk maxAliasDepth
  have hcontents : (traverse { store := Sample.shownStore } Sample.shownStore.semantic [] .dark
      { theme := .dark }).toOption.map (fun filled =>
        (filled.entries, filled.skipped.map SkippedToken.path)) =
      some ([("--mond-text-muted", "#6b7280"),
        ("--mond-fade", "linear-gradient(#6b7280, #6b7280)")], ["text.hint"]) := by
    decide +kernel
  rw [hfirst] at hcontents
  obtain ⟨hentries, hpaths⟩ := Prod.mk.inj (Option.some.inj hcontents)
  exact ⟨Sample.shownStore_agreeIn, ⟨filled, hfirst, hsecond, hentries, hpaths⟩, hdark rfl⟩

end DesignTokens
