import DesignTokens.Token.Node
import Mathlib.Data.List.Nodup

/-!
# Leaves and paths of a tree

Listing the leaves of a tree and walking one path agree. A walk that ends at a leaf ends at
a listed one; with distinct names in every group, each listed leaf is where its path leads. The
leaves at or below the end of a path stand in a row, and theirs are the paths that go on from it.
-/

namespace DesignTokens

namespace Node

mutual

/-- The place of a node only goes before the paths of its leaves. -/
theorem leavesFrom_eq_map (path : List String) (node : Node) :
    leavesFrom path node =
      (leavesFrom [] node).map fun found => (path ++ found.1, found.2) := by
  cases node with
  | leaf value => simp
  | group children =>
      rw [leavesFrom_group, leavesFrom_group]
      exact leavesOf_eq_map path children

/-- The place of a group only goes before the paths of the leaves below it. -/
theorem leavesOf_eq_map (path : List String) (children : List (String × Node)) :
    leavesOf path children =
      (leavesOf [] children).map fun found => (path ++ found.1, found.2) := by
  cases children with
  | nil => simp
  | cons entry rest =>
      obtain ⟨name, node⟩ := entry
      rw [leavesOf_cons, leavesOf_cons, List.map_append]
      have hhere : leavesFrom (path ++ [name]) node =
          (leavesFrom ([] ++ [name]) node).map fun found => (path ++ found.1, found.2) := by
        rw [leavesFrom_eq_map (path ++ [name]) node, leavesFrom_eq_map ([] ++ [name]) node,
          List.map_map]
        simp [Function.comp_def]
      rw [hhere, ← leavesOf_eq_map path rest]

end

/-- A leaf below some children is one at or below one of them. -/
theorem mem_leavesOf_iff {path : List String} {children : List (String × Node)}
    {found : List String × Leaf} :
    found ∈ leavesOf path children ↔
      ∃ entry ∈ children, found ∈ leavesFrom (path ++ [entry.1]) entry.2 := by
  induction children with
  | nil => simp
  | cons entry rest ih =>
      obtain ⟨name, node⟩ := entry
      rw [leavesOf_cons, List.mem_append, ih]
      simp

/-- The leaves below two rows of children are those below the first and those below the
second. -/
theorem leavesOf_append (path : List String) (front back : List (String × Node)) :
    leavesOf path (front ++ back) = leavesOf path front ++ leavesOf path back := by
  induction front with
  | nil => simp
  | cons entry rest ih =>
      obtain ⟨name, node⟩ := entry
      rw [List.cons_append, leavesOf_cons, leavesOf_cons, ih, List.append_assoc]

/-- The paths of the leaves at or below a node go on from its place. -/
theorem prefix_of_mem_leavesFrom {place : List String} {node : Node}
    {found : List String × Leaf} (h : found ∈ leavesFrom place node) : place <+: found.1 := by
  rw [leavesFrom_eq_map] at h
  obtain ⟨other, -, rfl⟩ := List.mem_map.mp h
  exact List.prefix_append place other.1

/-- A leaf below the children of a group is reached by the name of a child and a path of
that child. -/
theorem mem_leavesOf_nil_iff {children : List (String × Node)} {path : List String}
    {value : Leaf} :
    (path, value) ∈ leavesOf [] children ↔
      ∃ name child rest, (name, child) ∈ children ∧ path = name :: rest ∧
        (rest, value) ∈ leavesFrom [] child := by
  rw [mem_leavesOf_iff]
  constructor
  · rintro ⟨⟨name, child⟩, hmem, hfound⟩
    rw [leavesFrom_eq_map] at hfound
    obtain ⟨⟨rest, other⟩, hrest, heq⟩ := List.mem_map.mp hfound
    obtain ⟨rfl, rfl⟩ := Prod.mk.inj heq
    exact ⟨name, child, rest, hmem, rfl, hrest⟩
  · rintro ⟨name, child, rest, hmem, rfl, hrest⟩
    refine ⟨(name, child), hmem, ?_⟩
    rw [leavesFrom_eq_map]
    exact List.mem_map.mpr ⟨(rest, value), hrest, rfl⟩

/-- Children are well named when each of them is. -/
theorem childrenWellNamed_iff {children : List (String × Node)} :
    ChildrenWellNamed children ↔ ∀ entry ∈ children, entry.2.WellNamed := by
  induction children with
  | nil => simp [ChildrenWellNamed]
  | cons first rest ih => rw [ChildrenWellNamed, List.forall_mem_cons, ih]

/-- A walk that ends at a leaf ends at a listed one. -/
theorem mem_leavesFrom_of_find? {node : Node} {path : List String} {value : Leaf}
    (h : node.find? path = some (leaf value)) : (path, value) ∈ leavesFrom [] node := by
  induction path generalizing node with
  | nil =>
      rw [find?_nil, Option.some.injEq] at h
      simp [h]
  | cons name rest ih =>
      cases node with
      | leaf other => simp at h
      | group children =>
          rw [find?_group_cons] at h
          obtain ⟨child, hchild, hrest⟩ := Option.bind_eq_some_iff.mp h
          rw [leavesFrom_group]
          exact mem_leavesOf_nil_iff.mpr
            ⟨name, child, rest, Entries.mem_of_get? hchild, rfl, ih hrest⟩

/-- In a well-named tree the path of a listed leaf leads to it. -/
theorem find?_of_mem_leavesFrom {node : Node} (hn : node.WellNamed) {path : List String}
    {value : Leaf} (h : (path, value) ∈ leavesFrom [] node) :
    node.find? path = some (leaf value) := by
  induction path generalizing node with
  | nil =>
      cases node with
      | leaf other => simp_all
      | group children =>
          rw [leavesFrom_group] at h
          obtain ⟨_, _, _, _, hpath, _⟩ := mem_leavesOf_nil_iff.mp h
          cases hpath
  | cons name rest ih =>
      cases node with
      | leaf other => simp at h
      | group children =>
          rw [leavesFrom_group] at h
          obtain ⟨_, child, _, hmem, hpath, hrest⟩ := mem_leavesOf_nil_iff.mp h
          obtain ⟨rfl, rfl⟩ := List.cons.inj hpath
          rw [WellNamed] at hn
          have hget := Entries.get?_of_mem hn.1 hmem
          have hchild := childrenWellNamed_iff.mp hn.2 _ hmem
          rw [find?_group_cons, hget, Option.bind_some]
          exact ih hchild hrest

/-- Leaves below other children do not lie at or below a child. -/
theorem not_prefix_of_mem_leavesOf {place rest : List String} {name : String}
    {others : List (String × Node)} (hname : name ∉ Entries.keys others)
    {found : List String × Leaf} (h : found ∈ leavesOf place others) :
    ¬ place ++ name :: rest <+: found.1 := by
  obtain ⟨entry, hentry, hfound⟩ := mem_leavesOf_iff.mp h
  obtain ⟨more, hmore⟩ := prefix_of_mem_leavesFrom hfound
  rw [← hmore, List.append_assoc, List.prefix_append_right_inj, List.singleton_append,
    List.cons_prefix_cons]
  rintro ⟨rfl, -⟩
  exact hname (List.mem_map_of_mem hentry)

/-- In a well-named tree the leaves at or below the end of a path stand in a row, and the
paths of all others do not go on from there. -/
theorem exists_leavesFrom_eq_append {node found : Node} (hn : node.WellNamed)
    {path : List String} (h : node.find? path = some found) (place : List String) :
    ∃ before after, leavesFrom place node = before ++ leavesFrom (place ++ path) found ++ after ∧
      ∀ leaf ∈ before ++ after, ¬ place ++ path <+: leaf.1 := by
  induction path generalizing node place with
  | nil =>
      rw [find?_nil, Option.some.injEq] at h
      exact ⟨[], [], by simp [h], by simp⟩
  | cons name rest ih =>
      cases node with
      | leaf value => simp at h
      | group children =>
          rw [find?_group_cons] at h
          obtain ⟨child, hchild, hrest⟩ := Option.bind_eq_some_iff.mp h
          obtain ⟨front, back, rfl⟩ := List.append_of_mem (Entries.mem_of_get? hchild)
          rw [WellNamed] at hn
          obtain ⟨hnames, hchildren⟩ := hn
          rw [Entries.Distinct, Entries.keys, List.map_append, List.map_cons,
            List.nodup_middle, List.nodup_cons, List.mem_append, not_or] at hnames
          obtain ⟨⟨hfront, hback⟩, -⟩ := hnames
          have hwell := childrenWellNamed_iff.mp hchildren (name, child) (by simp)
          obtain ⟨before, after, hleaves, hothers⟩ := ih hwell hrest (place ++ [name])
          rw [List.append_assoc place, List.singleton_append] at hleaves hothers
          refine ⟨leavesOf place front ++ before, after ++ leavesOf place back, ?_, ?_⟩
          · rw [leavesFrom_group, leavesOf_append, leavesOf_cons, hleaves]
            simp only [List.append_assoc]
          · intro leaf hleaf
            simp only [List.mem_append] at hleaf hothers
            rcases hleaf with (hleaf | hleaf) | hleaf | hleaf
            · exact not_prefix_of_mem_leavesOf hfront hleaf
            · exact hothers leaf (Or.inl hleaf)
            · exact hothers leaf (Or.inr hleaf)
            · exact not_prefix_of_mem_leavesOf hback hleaf

end Node

end DesignTokens
