import DesignTokens.Proofs.ReorderedData
import DesignTokens.Proofs.RestoredTrees

/-!
# Trees in another order

What a mapping is classified as depends on what the names of the themes stand for and on which
names it has, not on their order, and the children of a group are built one by one. Reordered
data are classified alike, as trees with the same tokens at the same paths in another order.
-/

namespace DesignTokens

open Datum (Reordered AlignedBy)

namespace Node

/-! ## Tokens of permuted children -/

theorem leavesOf_eq_flatMap (path : List String) (children : List (String × Node)) :
    leavesOf path children =
      children.flatMap fun child => leavesFrom (path ++ [child.1]) child.2 := by
  induction children with
  | nil => rw [leavesOf_nil, List.flatMap_nil]
  | cons child rest ih => rw [leavesOf_cons, List.flatMap_cons, ih]

/-- Two trees that have the same tokens at the same paths, in another order. -/
def SameLeaves (node other : Node) : Prop :=
  ∀ path, (leavesFrom path node).Perm (leavesFrom path other)

/-- A tree with the tokens of a group is a group: every token of a group has a name in its
path. -/
theorem SameLeaves.exists_group {children : List (String × Node)} {other : Node}
    (h : SameLeaves (group children) other) : ∃ permuted, other = group permuted := by
  cases other with
  | group permuted => exact ⟨permuted, rfl⟩
  | leaf value =>
      have hmem : ([], value) ∈ leavesFrom [] (group children) := by
        rw [(h []).mem_iff, leavesFrom_leaf]
        exact List.mem_singleton_self _
      rw [leavesFrom_group] at hmem
      obtain ⟨_, _, _, _, hpath, _⟩ := mem_leavesOf_nil_iff.mp hmem
      cases hpath

/-- Groups whose children have the same tokens under the same names, in another order, have the
same tokens. -/
theorem leavesOf_perm {children matched permuted : List (String × Node)}
    (h : List.Forall₂ (fun child other => child.1 = other.1 ∧ SameLeaves child.2 other.2)
      children matched) (hperm : matched.Perm permuted) (path : List String) :
    (leavesOf path children).Perm (leavesOf path permuted) := by
  have hplaces : (leavesOf path children).Perm (leavesOf path matched) := by
    clear hperm
    induction h with
    | nil => exact .refl _
    | @cons child other rest behind hchild _ ih =>
        rw [leavesOf_cons, leavesOf_cons, hchild.1]
        exact (hchild.2 _).append ih
  have hback : (leavesOf path matched).Perm (leavesOf path permuted) := by
    rw [leavesOf_eq_flatMap, leavesOf_eq_flatMap]
    exact hperm.flatMap_right _
  exact hplaces.trans hback

/-! ## Tokens with a text for each theme -/

variable {entries others : List (Scalar × Datum)}

/-- A mapping has no other keys than the themes exactly when all its names are names of
themes. -/
theorem extraKeys_eq_nil_iff :
    extraKeys entries = [] ↔ ∀ entry ∈ entries, ∃ theme : Theme, entry.1.nameText = theme.name := by
  refine ⟨?_, extraKeys_eq_nil⟩
  intro h entry hmem
  have hnot : entry.1.nameText ∉ extraKeys entries := by
    rw [h]
    exact List.not_mem_nil
  rw [extraKeys, sortNames, List.mem_mergeSort, List.mem_eraseDups, List.mem_filter] at hnot
  cases hname : Theme.ofName? entry.1.nameText with
  | some theme => exact ⟨theme, Theme.ofName?_eq_some_iff.mp hname⟩
  | none =>
      rw [hname] at hnot
      exact absurd ⟨List.mem_map.mpr ⟨entry, hmem, rfl⟩, rfl⟩ hnot

/-- Where a mapping is one token, the themes stand for the same in another order. -/
theorem lookup_theme_of_reordered (h : Reordered (.map entries) (.map others))
    (hd : (Datum.map entries).NamesDistinct) (hsource : isVariantSource entries = true)
    (theme : Theme) : Datum.lookup theme.name others = Datum.lookup theme.name entries := by
  cases hlookup : Datum.lookup theme.name entries with
  | none => exact h.lookup_eq_none hd hlookup
  | some value =>
      obtain ⟨other, hother, hvalue⟩ := h.exists_lookup hd hlookup
      rw [isVariantSource, Bool.and_eq_true, List.all_eq_true] at hsource
      have htext := hsource.2 _ (mem_themeEntries.mpr hlookup)
      cases hvalue with
      | same => exact hother
      | list => cases htext
      | map => cases htext

/-- Where the themes stand for the same, a mapping is one token in both orders or in none. -/
theorem themeEntries_congr
    (h : ∀ theme : Theme, Datum.lookup theme.name others = Datum.lookup theme.name entries) :
    themeEntries others = themeEntries entries := by
  unfold themeEntries
  simp only [h]

theorem isVariantSource_of_reordered (h : Reordered (.map entries) (.map others))
    (hd : (Datum.map entries).NamesDistinct) :
    isVariantSource others = isVariantSource entries := by
  have hback {first second : List (Scalar × Datum)} (h : Reordered (.map first) (.map second))
      (hd : (Datum.map first).NamesDistinct) (hsource : isVariantSource first = true) :
      isVariantSource second = true := by
    rw [← hsource, isVariantSource, isVariantSource,
      themeEntries_congr (lookup_theme_of_reordered h hd hsource)]
  exact Bool.eq_iff_iff.mpr ⟨hback h.symm (h.namesDistinct hd), hback h hd⟩

/-- A mapping that is one token is the same token in another order. -/
theorem buildVariant_of_reordered (h : Reordered (.map entries) (.map others))
    (hd : (Datum.map entries).NamesDistinct) (hsource : isVariantSource entries = true)
    {path : List String} {value : Leaf} (hok : buildVariant path entries = .ok value) :
    buildVariant path others = .ok value := by
  have hlookup := lookup_theme_of_reordered h hd hsource
  have htext (theme : Theme) : themeText? others theme = themeText? entries theme := by
    rw [themeText?, themeText?, hlookup]
  rw [buildVariant_eq_ok_iff, extraKeys_eq_nil_iff] at hok ⊢
  rw [themeEntries_congr hlookup]
  simp only [htext]
  refine ⟨?_, hok.2⟩
  intro entry hmem
  obtain ⟨value, hvalue, -⟩ := h.exists_of_mem hmem
  exact hok.1 (entry.1, value) hvalue

/-! ## Groups -/

/-- Children are built from the entries in their places. -/
theorem buildChildren_eq_ok_iff {path : List String} {children : List (String × Node)} :
    buildChildren path entries = .ok children ↔
      List.Forall₂ (fun entry child => child.1 = entry.1.nameText ∧
        build (path ++ [entry.1.nameText]) entry.2 = .ok child.2) entries children := by
  induction entries generalizing children with
  | nil =>
      rw [buildChildren, List.forall₂_nil_left_iff]
      exact ⟨fun h => (Except.ok.inj h).symm, fun h => by rw [h]⟩
  | cons entry rest ih =>
      rw [buildChildren_cons_eq_ok_iff, List.forall₂_cons_left_iff]
      constructor
      · rintro ⟨child, kept, hchild, hkept, rfl⟩
        exact ⟨_, kept, ⟨rfl, hchild⟩, ih.mp hkept, rfl⟩
      · rintro ⟨⟨name, child⟩, kept, ⟨rfl, hchild⟩, hkept, rfl⟩
        exact ⟨child, kept, hchild, ih.mpr hkept, rfl⟩

/-- The children that are built from entries without a repeated name are distinct, so the group
has them as they are. -/
theorem ofList_of_buildChildren {path : List String} {children : List (String × Node)}
    (hd : (entries.map fun entry => entry.1.nameText).Nodup)
    (h : buildChildren path entries = .ok children) : Entries.ofList children = children := by
  apply Entries.ofList_of_distinct
  rw [Entries.Distinct, keys_of_buildChildren h]
  exact hd

/-- Where the first datum is classified, the second one is classified as a tree with the same
tokens. -/
def BuiltAlike (first second : Datum) : Prop :=
  ∀ path node, build path first = .ok node →
    ∃ other, build path second = .ok other ∧ SameLeaves node other

/-- Children are built from a reordered mapping when its values are classified in their places;
they have the same tokens there and are then permuted like the entries. -/
theorem exists_buildChildren_of_aligned {aligned : List (Scalar × Datum)} {path : List String}
    {children : List (String × Node)} (h : AlignedBy BuiltAlike entries aligned)
    (hperm : aligned.Perm others) (hok : buildChildren path entries = .ok children) :
    ∃ permuted, buildChildren path others = .ok permuted ∧
      ∀ place, (leavesOf place children).Perm (leavesOf place permuted) := by
  rw [buildChildren_eq_ok_iff] at hok
  have hchild (key : Scalar) (value other : Datum) (child : String × Node)
      (hvalue : BuiltAlike value other) (hbuild : child.1 = key.nameText ∧
        build (path ++ [key.nameText]) value = .ok child.2) :
      ∃ found : String × Node, (found.1 = key.nameText ∧
        build (path ++ [key.nameText]) other = .ok found.2) ∧
          child.1 = found.1 ∧ SameLeaves child.2 found.2 := by
    obtain ⟨found, hfound, hsame⟩ := hvalue _ child.2 hbuild.2
    exact ⟨(key.nameText, found), ⟨rfl, hfound⟩, hbuild.1, hsame⟩
  obtain ⟨matched, permuted, hmatched, hpermuted, hothers⟩ := h.exists_perm hperm hok hchild
  exact ⟨permuted, buildChildren_eq_ok_iff.mpr hothers, leavesOf_perm hmatched hpermuted⟩

/-- Data that are classified are classified in another order, as a tree with the same tokens.
The induction is on the depth of the data; the parts of a mapping give children with the same
tokens, which are then permuted like the entries. -/
theorem builtAlike_of_reordered {first second : Datum} (h : Reordered first second)
    (hfirst : first.NamesDistinct) : BuiltAlike first second := by
  induction h using Datum.Reordered.induction with
  | same datum => exact fun path node hok => ⟨node, hok, fun _ => .refl _⟩
  | list _ _ =>
      intro path node hok
      rw [build] at hok
      cases hok
  | @map entries aligned others hkeys hvalues hperm ih =>
      intro path node hok
      have hreordered : Reordered (.map entries) (.map others) := .map hkeys hvalues hperm
      have hsecond := hreordered.namesDistinct hfirst
      have hvariant := isVariantSource_of_reordered hreordered hfirst
      have hdistinct := hfirst
      rw [Datum.NamesDistinct] at hdistinct hsecond
      obtain ⟨hwritable, hkind⟩ := build_map_eq_ok_iff.mp hok
      have hwritableOthers : ∀ entry ∈ others, entry.1.isWritable = true := by
        intro entry hmem
        obtain ⟨value, hvalue, -⟩ := hreordered.exists_of_mem hmem
        exact hwritable (entry.1, value) hvalue
      rcases hkind with ⟨hsource, value, hvalue, rfl⟩ | ⟨hsource, children, hchildren, rfl⟩
      · refine ⟨leaf value, build_map_eq_ok_iff.mpr ⟨hwritableOthers, Or.inl ⟨?_, value, ?_, rfl⟩⟩,
          fun _ => .refl _⟩
        · rw [hvariant, hsource]
        · exact buildVariant_of_reordered hreordered hfirst hsource hvalue
      · have hparts : AlignedBy BuiltAlike entries aligned :=
          (ih.and_left fun _ hmem => hfirst.of_mem hmem).imp
            fun _ _ hpart => ⟨hpart.1, hpart.2.2.2 hpart.2.1⟩
        obtain ⟨permuted, hothers, hleaves⟩ := exists_buildChildren_of_aligned hparts hperm hchildren
        refine ⟨_, build_map_eq_ok_iff.mpr ⟨hwritableOthers, Or.inr ⟨?_, permuted, hothers, rfl⟩⟩,
          ?_⟩
        · rw [hvariant, hsource]
        · intro place
          rw [leavesFrom_group, leavesFrom_group, ofList_of_buildChildren hdistinct.1 hchildren,
            ofList_of_buildChildren hsecond.1 hothers]
          exact hleaves place

end Node

end DesignTokens
