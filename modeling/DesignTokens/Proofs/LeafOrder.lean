import DesignTokens.Proofs.SubtreeTraversals

/-!
# The order of the leaves

Two paths part at the group where they first go on in different children, and the one that goes
on in the earlier child goes before the other. In a well-named tree no two paths go before each
other, and the leaves are listed by this order. So every leaf that looking up finds is listed
once, what is listed is found, and the leaves below a group stand in a row.
-/

namespace DesignTokens

/-- In a row without repetition, of two members only one stands before the other. -/
theorem not_sublist_swap {α : Type} {row : List α} (hd : row.Nodup) {near far : α}
    (h : [near, far].Sublist row) : ¬ [far, near].Sublist row := by
  intro hback
  induction row with
  | nil => cases h
  | cons first rest ih =>
      rw [List.nodup_cons] at hd
      cases h with
      | cons _ hrest =>
          cases hback with
          | cons _ hback => exact ih hd.2 hrest hback
          | cons_cons _ _ => exact hd.1 (hrest.subset (List.mem_cons_of_mem near List.mem_cons_self))
      | cons_cons _ hfar =>
          have hfar := List.singleton_sublist.mp hfar
          cases hback with
          | cons _ hback => exact hd.1 (hback.subset (List.mem_cons_of_mem far List.mem_cons_self))
          | cons_cons _ _ => exact hd.1 hfar

/-- Of two different members of a row, one stands before the other. -/
theorem pair_sublist_or_swap {α : Type} {row : List α} {one other : α} (hone : one ∈ row)
    (hother : other ∈ row) (hne : one ≠ other) :
    [one, other].Sublist row ∨ [other, one].Sublist row := by
  obtain ⟨before, after, rfl⟩ := List.append_of_mem hone
  rcases List.mem_append.mp hother with hbefore | hafter
  · right
    exact (List.singleton_sublist.mpr hbefore).append
      ((List.nil_sublist after).cons_cons one)
  · left
    have hafter := (List.mem_cons.mp hafter).resolve_left hne.symm
    exact (List.singleton_sublist.mpr hafter).cons_cons one |>.trans
      (List.sublist_append_right before _)

namespace Node

/-- One path goes before another one in a tree: at the group where they part, it goes on in an
earlier child. -/
inductive Precedes : Node → List String → List String → Prop where
  /-- The paths part at this group. -/
  | part {children : List (String × Node)} {near far : String} {first second : List String}
      (h : [near, far].Sublist (Entries.keys children)) :
      Precedes (group children) (near :: first) (far :: second)
  /-- Both paths go on in the same child and part further down. -/
  | descend {children : List (String × Node)} {name : String} {child : Node}
      {first second : List String} (hchild : Entries.get? children name = some child)
      (h : Precedes child first second) :
      Precedes (group children) (name :: first) (name :: second)

/-- In a well-named tree no two paths go before each other. -/
theorem Precedes.asymm {node : Node} {first second : List String} (hn : node.WellNamed)
    (h : node.Precedes first second) : ¬ node.Precedes second first := by
  induction h with
  | part h =>
      rw [WellNamed] at hn
      intro hback
      cases hback with
      | part hback => exact not_sublist_swap hn.1 h hback
      | descend _ _ => exact List.nodup_iff_sublist.mp hn.1 _ h
  | descend hchild h ih =>
      rw [WellNamed] at hn
      have hwell := childrenWellNamed_iff.mp hn.2 _ (Entries.mem_of_get? hchild)
      intro hback
      cases hback with
      | part hback => exact List.nodup_iff_sublist.mp hn.1 _ hback
      | descend hsame hback =>
          cases hchild.symm.trans hsame
          exact ih hwell hback

/-- In a well-named tree no path goes before itself. -/
theorem Precedes.ne {node : Node} {first second : List String} (hn : node.WellNamed)
    (h : node.Precedes first second) : first ≠ second := by
  rintro rfl
  exact h.asymm hn h

/-- The leaves below some children of a group are listed in order when those below each child
are. -/
theorem pairwise_leavesOf {children : List (String × Node)} (hd : Entries.Distinct children)
    {row : List (String × Node)} (hrow : row.Sublist children)
    (h : ∀ entry ∈ row, (leavesFrom [] entry.2).Pairwise
      fun first second => entry.2.Precedes first.1 second.1) :
    (leavesOf [] row).Pairwise
      fun first second => (group children).Precedes first.1 second.1 := by
  induction row with
  | nil => simp
  | cons entry rest ih =>
      obtain ⟨name, node⟩ := entry
      rw [List.forall_mem_cons] at h
      have hchild := Entries.get?_of_mem hd (hrow.subset List.mem_cons_self)
      rw [leavesOf_cons, leavesFrom_eq_map, List.pairwise_append, List.pairwise_map]
      -- Two leaves lie below the first child, below later ones, or on both sides.
      refine ⟨h.1.imp fun hbefore => .descend hchild hbefore,
        ih ((List.sublist_cons_self _ rest).trans hrow) h.2, ?_⟩
      rintro first hfirst ⟨path, value⟩ hsecond
      obtain ⟨_, -, rfl⟩ := List.mem_map.mp hfirst
      obtain ⟨other, _, _, hother, rfl, -⟩ := mem_leavesOf_nil_iff.mp hsecond
      have hbehind : other ∈ Entries.keys rest := List.mem_map_of_mem hother
      exact .part (((List.singleton_sublist.mpr hbehind).cons_cons name).trans
        (hrow.map Prod.fst))

mutual

/-- The leaves of a well-named tree are listed in order. -/
theorem pairwise_leavesFrom {node : Node} (hn : node.WellNamed) :
    (leavesFrom [] node).Pairwise fun first second => node.Precedes first.1 second.1 := by
  cases node with
  | leaf value => simp
  | group children =>
      rw [WellNamed] at hn
      rw [leavesFrom_group]
      exact pairwise_leavesOf hn.1 (List.Sublist.refl children) (pairwise_leavesFrom_of_mem hn.2)

/-- The leaves at or below each of some well-named children are listed in order. -/
theorem pairwise_leavesFrom_of_mem {children : List (String × Node)}
    (hn : ChildrenWellNamed children) :
    ∀ entry ∈ children, (leavesFrom [] entry.2).Pairwise
      fun first second => entry.2.Precedes first.1 second.1 := by
  cases children with
  | nil => simp
  | cons entry rest =>
      obtain ⟨name, node⟩ := entry
      rw [ChildrenWellNamed] at hn
      rw [List.forall_mem_cons]
      exact ⟨pairwise_leavesFrom hn.1, pairwise_leavesFrom_of_mem hn.2⟩

end

end Node

namespace TokenStore

variable {store : TokenStore}

/-- The paths of the leaves as they are listed. -/
def leafPaths (store : TokenStore) : List (List String) := store.leaves.map Prod.fst

section WellNamed

/-! What is said of a store whose tree is well named holds before its custom properties are
looked at. -/

variable (hroot : store.root.WellNamed)

include hroot

/-- A leaf is listed exactly when its path leads to it. -/
theorem mem_leaves_iff {path : List String} {value : Leaf} :
    (path, value) ∈ store.leaves ↔ store.find? path = some (.leaf value) :=
  ⟨find?_of_mem_leaves hroot, mem_leaves_of_find?⟩

/-- A path is listed exactly when it leads to a leaf. -/
theorem mem_leafPaths_iff {path : List String} :
    path ∈ store.leafPaths ↔ ∃ value, store.find? path = some (.leaf value) := by
  rw [leafPaths, List.mem_map]
  constructor
  · rintro ⟨⟨_, value⟩, hleaf, rfl⟩
    exact ⟨value, (mem_leaves_iff hroot).mp hleaf⟩
  · rintro ⟨value, hfind⟩
    exact ⟨(path, value), (mem_leaves_iff hroot).mpr hfind, rfl⟩

/-- The paths of the leaves are listed in the order of the tree. -/
theorem pairwise_leafPaths : store.leafPaths.Pairwise store.root.Precedes := by
  have hleaves := Node.pairwise_leavesFrom hroot
  rw [root, Node.leavesFrom_group] at hleaves
  exact List.pairwise_map.mpr hleaves

/-- No path is listed twice. -/
theorem nodup_leafPaths : store.leafPaths.Nodup :=
  (pairwise_leafPaths hroot).imp fun hbefore => hbefore.ne hroot

/-- Of two listed paths, one stands before the other exactly when it goes before it in the
tree. -/
theorem pair_sublist_leafPaths_iff {first second : List String}
    (hfirst : first ∈ store.leafPaths) (hsecond : second ∈ store.leafPaths) :
    [first, second].Sublist store.leafPaths ↔ store.root.Precedes first second := by
  have hpairs {one other : List String} (h : [one, other].Sublist store.leafPaths) :
      store.root.Precedes one other :=
    List.pairwise_iff_forall_sublist.mp (pairwise_leafPaths hroot) h
  constructor
  · intro hpair
    exact hpairs hpair
  · intro hbefore
    rcases pair_sublist_or_swap hfirst hsecond (hbefore.ne hroot) with hpair | hswap
    · exact hpair
    · exact absurd (hpairs hswap) (hbefore.asymm hroot)

end WellNamed

/-- Listing the leaves of an accepted store and looking up paths agree, whatever the names are.
No path is listed twice, a leaf is listed exactly under the path that leads to it, and of two
paths the one that goes on in the earlier child is listed first. The leaves below a group stand
in a row, and they are those whose paths start with its path. -/
theorem leaves_listed_in_order (store : TokenStore) (hstore : store.IsAccepted) :
    store.leafPaths.Nodup ∧
      (∀ path value, (path, value) ∈ store.leaves ↔
        path ≠ [] ∧ store.find? path = some (.leaf value)) ∧
      (∀ first ∈ store.leafPaths, ∀ second ∈ store.leafPaths,
        ([first, second].Sublist store.leafPaths ↔ store.root.Precedes first second)) ∧
      ∀ path children, store.find? path = some (.group children) →
        ∃ before after,
          store.leaves = before ++ Node.leavesOf path children ++ after ∧
            Node.leavesOf path children = store.leavesBelow path := by
  have hwell := hstore.wellFormed
  refine ⟨nodup_leafPaths hwell.tree, ?_, ?_, ?_⟩
  · intro path value
    rw [mem_leaves_iff hwell.tree, iff_and_self]
    rintro hfind rfl
    cases hfind
  · intro first hfirst second hsecond
    exact pair_sublist_leafPaths_iff hwell.tree hfirst hsecond
  · intro path children hgroup
    exact hwell.exists_leaves_eq_append hgroup

/-- The small store has a group without a name in another group, behind the token `b` of that
group. The token in it is found and listed by its own path, behind `b`, and both stand in a
row. -/
theorem leaves_listed_in_order_nameless :
    Sample.store.IsAccepted ∧
      Sample.store.leafPaths = [["a", "b"], ["a", "", "b"], ["link"], ["fade"]] ∧
      Sample.store.leafPaths.Nodup ∧
      Sample.store.find? ["a", "", "b"] = some (.leaf (.plain "#222222")) ∧
      Sample.store.root.Precedes ["a", "b"] ["a", "", "b"] ∧
      ¬ Sample.store.root.Precedes ["a", "", "b"] ["a", "b"] ∧
      ∃ before after, Sample.store.leaves = before ++
        [(["a", "b"], .plain "#111111"), (["a", "", "b"], .plain "#222222")] ++ after := by
  obtain ⟨hnodup, hleaves, horder, hblocks⟩ :=
    leaves_listed_in_order Sample.store Sample.store_isAccepted
  have hpaths : Sample.store.leafPaths = [["a", "b"], ["a", "", "b"], ["link"], ["fade"]] := by
    decide +kernel
  have hplain : ["a", "b"] ∈ Sample.store.leafPaths := by
    decide +kernel
  have hnameless : ["a", "", "b"] ∈ Sample.store.leafPaths := by
    decide +kernel
  obtain ⟨before, after, hrow, -⟩ := hblocks ["a"]
    [("b", .leaf (.plain "#111111")), ("", .group [("b", .leaf (.plain "#222222"))])]
    (by decide +kernel)
  refine ⟨Sample.store_isAccepted, hpaths, hnodup,
    ((hleaves ["a", "", "b"] (.plain "#222222")).mp (by decide +kernel)).2,
    (horder _ hplain _ hnameless).mp (by decide +kernel), ?_, before, after, hrow⟩
  intro hback
  exact absurd ((horder _ hnameless _ hplain).mpr hback) (by decide +kernel)

end TokenStore

end DesignTokens
