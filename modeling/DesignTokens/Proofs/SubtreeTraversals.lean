import DesignTokens.Proofs.TotalGeneration

/-!
# Traversals of a part of the tree

The leaves below a group stand in a row among all leaves of a store, so the traversal of the
group writes and records a part of what the traversal of the whole tree writes and records, in
the same order and with the same values. No leaf has the name of another one, so nothing that
is written before or behind this part changes it. Each traversal warns of the leaves with
texts for single themes that it records, and of nothing else.
-/

namespace DesignTokens

/-- The leaves whose paths start in the given way, in order. -/
def TokenStore.leavesBelow (store : TokenStore) (path : List String) :
    List (List String × Leaf) :=
  store.leaves.filter fun leaf => path.isPrefixOf leaf.1

/-- The leaves below a group of a store stand in a row, and they are those whose paths start
with its path. -/
theorem TokenStore.WellFormed.exists_leaves_eq_append {store : TokenStore}
    (h : store.WellFormed) {path : List String} {children : List (String × Node)}
    (hgroup : store.find? path = some (.group children)) :
    ∃ before after, store.leaves = before ++ Node.leavesOf path children ++ after ∧
      Node.leavesOf path children = store.leavesBelow path := by
  have hroot : store.root.find? path = some (.group children) := by
    rw [TokenStore.find?] at hgroup
    split at hgroup
    · cases hgroup
    · exact hgroup
  obtain ⟨before, after, hleaves, hothers⟩ :=
    Node.exists_leavesFrom_eq_append h.tree hroot []
  rw [List.nil_append, Node.leavesFrom_group] at hleaves
  refine ⟨before, after, hleaves, ?_⟩
  have hnone {others : List (List String × Leaf)} (hmem : ∀ leaf ∈ others, leaf ∈ before ++ after) :
      (others.filter fun leaf => path.isPrefixOf leaf.1) = [] := by
    rw [List.filter_eq_nil_iff]
    intro leaf hleaf
    rw [List.isPrefixOf_iff_prefix]
    exact hothers leaf (hmem leaf hleaf)
  have hall : ((Node.leavesOf path children).filter fun leaf => path.isPrefixOf leaf.1) =
      Node.leavesOf path children := by
    rw [List.filter_eq_self]
    intro leaf hleaf
    rw [← Node.leavesFrom_group] at hleaf
    rw [List.isPrefixOf_iff_prefix]
    exact Node.prefix_of_mem_leavesFrom hleaf
  have hwhole : store.leaves = before ++ Node.leavesOf path children ++ after := hleaves
  rw [TokenStore.leavesBelow, hwhole, List.filter_append, List.filter_append, hall,
    hnone fun leaf => List.mem_append_left after, hnone fun leaf => List.mem_append_right before,
    List.nil_append, List.append_nil]

/-- The warning of a token that was left out. -/
def SkippedToken.warning (token : SkippedToken) : Notice :=
  ⟨.warning, s!"Failed to resolve semantic token: {token.path} ({token.theme.name}): " ++
    token.reason⟩

namespace Resolver

variable (resolver : Resolver)

/-- What is written for a row of leaves among others of distinct names is what is written for
all of them under the names of that row. -/
theorem emitted_eq_filter (theme : Theme) {before block after : List (List String × Leaf)}
    (h : ((before ++ block ++ after).map fun leaf => variableName leaf.1).Nodup) :
    resolver.emitted theme block =
      (resolver.emitted theme (before ++ block ++ after)).filter fun entry =>
        entry.1 ∈ block.map fun leaf => variableName leaf.1 := by
  rw [List.map_append, List.map_append, List.nodup_append, List.nodup_append] at h
  obtain ⟨⟨-, -, hbefore⟩, -, hafter⟩ := h
  have hall : (resolver.emitted theme block).filter (fun entry =>
      entry.1 ∈ block.map fun leaf => variableName leaf.1) = resolver.emitted theme block := by
    rw [List.filter_eq_self]
    intro entry hentry
    obtain ⟨leaf, hleaf, hname, -⟩ := resolver.exists_of_mem_emitted hentry
    rw [decide_eq_true_eq, hname]
    exact List.mem_map_of_mem hleaf
  have hnone {others : List (List String × Leaf)}
      (hdistinct : ∀ leaf ∈ others,
        variableName leaf.1 ∉ block.map fun leaf => variableName leaf.1) :
      (resolver.emitted theme others).filter (fun entry =>
        entry.1 ∈ block.map fun leaf => variableName leaf.1) = [] := by
    rw [List.filter_eq_nil_iff]
    intro entry hentry
    obtain ⟨leaf, hleaf, hname, -⟩ := resolver.exists_of_mem_emitted hentry
    rw [decide_eq_true_eq, hname]
    exact hdistinct leaf hleaf
  rw [emitted_append, emitted_append, List.filter_append, List.filter_append, hall, hnone, hnone,
    List.nil_append, List.append_nil]
  · intro leaf hleaf hname
    exact hafter _ (List.mem_append_right _ hname) _ (List.mem_map_of_mem hleaf) rfl
  · intro leaf hleaf hname
    exact hbefore _ (List.mem_map_of_mem hleaf) _ hname rfl

/-! ## Warnings -/

/-- There is a warning of a leaf exactly if it has texts for single themes and is recorded. -/
theorem noticesFrom_leafNotices (theme : Theme) (leaf : List String × Leaf) :
    noticesFrom .warning (resolver.leafNotices theme leaf) =
      (resolver.leftOut theme ([leaf].filter fun leaf => leaf.2.isVariant)).map
        SkippedToken.warning := by
  cases hvalue : (resolver.resolve (.segments leaf.1) theme).unwrap with
  | ok value =>
      cases hvariant : leaf.2.isVariant <;>
        simp [leafNotices, leftOut, hvalue, hvariant, noticesFrom]
  | error error =>
      have hresolve : (resolver.resolve (.segments leaf.1) theme).notices.filter
          (fun notice => Level.rank .warning ≤ notice.level.rank) = [] := by
        unfold Resolution.notices
        split <;> rfl
      have htold : resolver.leafNotices theme leaf =
          (resolver.resolve (.segments leaf.1) theme).notices ++
            [if leaf.2.isVariant then
              SkippedToken.warning ⟨joinDotted leaf.1, theme, error.message⟩
            else ⟨.debug, s!"Skipping non-semantic token: {joinDotted leaf.1}"⟩] := by
        unfold leafNotices
        simp only [hvalue]
        rfl
      rw [htold, noticesFrom, List.filter_append, hresolve, List.nil_append]
      cases hvariant : leaf.2.isVariant <;>
        simp [leftOut, hvalue, hvariant, SkippedToken.warning, Level.rank]

/-- The warnings of leaves are those of the recorded ones with texts for single themes. -/
theorem noticesFrom_flatMap_leafNotices (theme : Theme) (leaves : List (List String × Leaf)) :
    noticesFrom .warning (leaves.flatMap (resolver.leafNotices theme)) =
      (resolver.leftOut theme (leaves.filter fun leaf => leaf.2.isVariant)).map
        SkippedToken.warning := by
  induction leaves with
  | nil => rfl
  | cons leaf rest ih =>
      have hfirst := resolver.noticesFrom_leafNotices theme leaf
      rw [noticesFrom] at hfirst ih ⊢
      rw [List.flatMap_cons, List.filter_append, hfirst, ih, ← List.map_append,
        ← leftOut_append, ← List.filter_append, List.singleton_append]

/-! ## The traversal of a group -/

/-- A traversal of some leaves of a store in a row, with an empty set, keeps what it writes and
records as it is. -/
theorem traverse_empty_eq (hstore : resolver.store.WellFormed) (theme : Theme)
    {children : List (String × Node)} {path : List String}
    (h : (Node.leavesOf path children).Sublist resolver.store.leaves) :
    resolver.traverse children path theme { theme } =
      .ok { theme
            entries := resolver.emitted theme (Node.leavesOf path children)
            skipped := resolver.leftOut theme (Node.leavesOf path children) } := by
  have hnames : Entries.Distinct (resolver.emitted theme (Node.leavesOf path children)) :=
    (hstore.nodup_leafNames.sublist (h.map _)).sublist (resolver.keys_emitted_sublist theme _)
  have htraverse := resolver.traverse_eq children path { theme }
  rw [List.nil_append] at htraverse
  rw [htraverse]
  congr 2
  exact Entries.ofList_of_distinct hnames

/-- The traversal of a group of an accepted store, into an empty set, and that of the whole
tree. The whole set is what is written for the leaves before the group, what the traversal of
the group writes, and what is written for the leaves behind it; the same goes for the records.
What the traversal of the group writes are the variables of the whole set for the leaves whose
paths start with the path of the group. The warnings of both are those of the recorded leaves
with texts for single themes, in order. -/
theorem traverse_group (resolver : Resolver) (hstore : resolver.store.IsAccepted)
    (theme : Theme) {path : List String} {children : List (String × Node)}
    (hgroup : resolver.store.find? path = some (.group children)) :
    ∃ before after part whole,
      resolver.store.leaves = before ++ resolver.store.leavesBelow path ++ after ∧
      resolver.traverse children path theme { theme } = .ok part ∧
      resolver.traverse resolver.store.semantic [] theme { theme } = .ok whole ∧
      part.entries = whole.entries.filter (fun entry =>
        entry.1 ∈ (resolver.store.leavesBelow path).map fun leaf => variableName leaf.1) ∧
      whole.entries = resolver.emitted theme before ++ part.entries ++
        resolver.emitted theme after ∧
      part.skipped = resolver.leftOut theme (resolver.store.leavesBelow path) ∧
      whole.skipped = resolver.leftOut theme before ++ part.skipped ++
        resolver.leftOut theme after ∧
      noticesFrom .warning (resolver.traverseNotices children path theme) =
        (resolver.leftOut theme ((resolver.store.leavesBelow path).filter fun leaf =>
          leaf.2.isVariant)).map SkippedToken.warning ∧
      noticesFrom .warning (resolver.traverseNotices resolver.store.semantic [] theme) =
        (resolver.leftOut theme (resolver.store.leaves.filter fun leaf =>
          leaf.2.isVariant)).map SkippedToken.warning := by
  have hwell := hstore.wellFormed
  obtain ⟨before, after, hleaves, hbelow⟩ := hwell.exists_leaves_eq_append hgroup
  have hsublist : (Node.leavesOf path children).Sublist resolver.store.leaves := by
    rw [hleaves, List.append_assoc]
    exact (List.sublist_append_left _ after).trans (List.sublist_append_right before _)
  have hnames := hwell.nodup_leafNames
  rw [hleaves] at hnames
  refine ⟨before, after, _, _, hbelow ▸ hleaves,
    resolver.traverse_empty_eq hwell theme hsublist,
    resolver.traverse_empty_eq hwell theme (List.Sublist.refl _), ?_, ?_, ?_, ?_, ?_, ?_⟩
  · have hpart := resolver.emitted_eq_filter theme hnames
    rw [← hleaves, hbelow] at hpart
    rwa [hbelow]
  · rw [← emitted_append, ← emitted_append, ← hleaves]
    rfl
  · rw [hbelow]
  · rw [← leftOut_append, ← leftOut_append, ← hleaves]
    rfl
  · rw [← hbelow]
    exact resolver.noticesFrom_flatMap_leafNotices theme _
  · exact resolver.noticesFrom_flatMap_leafNotices theme _

/-- The traversal of an inner group of the store in which most tokens fail. It writes one token
and records and warns of another one, and both stand in a row with what the traversal of the
whole tree writes and records. -/
theorem traverse_group_still :
    let resolver : Resolver := { store := Sample.brokenStore }
    let children : List (String × Node) :=
      [("night", .leaf (.variant none (some "#111111"))), ("text", .leaf (.plain "#222222"))]
    let night : SkippedToken := ⟨"deep.er.still.night", .light,
      "Theme 'light' not defined for token 'deep.er.still.night'."⟩
    resolver.store.IsAccepted ∧
      resolver.store.find? ["deep", "er", "still"] = some (.group children) ∧
      ∃ part whole,
        resolver.traverse children ["deep", "er", "still"] .light { theme := .light } = .ok part ∧
        resolver.traverse resolver.store.semantic [] .light { theme := .light } = .ok whole ∧
        part.entries = [("--mond-deep-er-still-text", "#222222")] ∧ part.skipped = [night] ∧
        part.entries <:+: whole.entries ∧ part.skipped <:+: whole.skipped ∧
        noticesFrom .warning (resolver.traverseNotices children ["deep", "er", "still"] .light) =
          [night.warning] := by
  intro resolver children night
  have hgroup : resolver.store.find? ["deep", "er", "still"] = some (.group children) := by
    decide +kernel
  obtain ⟨before, after, part, whole, -, hpart, hwhole, -, hentries, -, hskipped, hwarnings, -⟩ :=
    traverse_group resolver Sample.brokenStore_isAccepted .light hgroup
  have hcontents : (resolver.traverse children ["deep", "er", "still"] .light
      { theme := .light }).toOption =
      some ⟨.light, [("--mond-deep-er-still-text", "#222222")], [night]⟩ := by
    decide +kernel
  rw [hpart] at hcontents
  cases hcontents
  refine ⟨Sample.brokenStore_isAccepted, hgroup, _, whole, hpart, hwhole, rfl, rfl,
    ⟨_, _, hentries.symm⟩, ⟨_, _, hskipped.symm⟩, hwarnings.trans ?_⟩
  decide +kernel

end Resolver

end DesignTokens
