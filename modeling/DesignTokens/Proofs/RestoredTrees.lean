import DesignTokens.Proofs.OrderedEntries
import DesignTokens.Proofs.RawData
import DesignTokens.Token.Classify

/-!
# Trees that come back from their data

A token with a text for each theme and a group are both written as mappings, and nothing in
the data tells them apart. A restorable tree is one whose data are classified as the same
tree again: in every group that has a child named like a theme, one such child is no plain
token. Main statements: what is classified from raw data is restorable, and the data of a
restorable tree are classified as that tree.
-/

namespace DesignTokens

/-! ## Restorable trees -/

/-- A token whose data stand for it again: it has a text for some theme, and none is blank. -/
def Leaf.IsRestorable (leaf : Leaf) : Prop :=
  (∃ theme, (leaf.textFor theme).isSome = true) ∧
    ∀ theme, ∀ text ∈ leaf.textFor theme, Text.isBlankText text = false

theorem Leaf.isRestorable_plain {text : String} (h : Text.isBlankText text = false) :
    (Leaf.plain text).IsRestorable := by
  refine ⟨⟨.light, rfl⟩, ?_⟩
  intro theme other hother
  cases theme <;> cases hother <;> exact h

namespace Node

/-- A plain token. -/
def isPlain : Node → Bool
  | leaf (.plain _) => true
  | _ => false

/-- A mapping of these children is no token: no child is named like a theme, or such a child
is more than a plain token. -/
def StandAsGroup (children : List (String × Node)) : Prop :=
  (∀ theme : Theme, theme.name ∉ Entries.keys children) ∨
    ∃ theme : Theme, ∃ child, Entries.get? children theme.name = some child ∧
      child.isPlain = false

mutual

/-- A tree whose data are classified as the same tree again. -/
def IsRestorable : Node → Prop
  | leaf value => value.IsRestorable
  | group children =>
      Entries.Distinct children ∧ StandAsGroup children ∧ ChildrenRestorable children

/-- The same for the children of a group. -/
def ChildrenRestorable : List (String × Node) → Prop
  | [] => True
  | (_, node) :: rest => IsRestorable node ∧ ChildrenRestorable rest

end

/-- Children are restorable when each of them is. -/
theorem childrenRestorable_iff {children : List (String × Node)} :
    ChildrenRestorable children ↔ ∀ entry ∈ children, entry.2.IsRestorable := by
  induction children with
  | nil => simp [ChildrenRestorable]
  | cons first rest ih => rw [ChildrenRestorable, List.forall_mem_cons, ih]

/-- The data of a group without children are that group. -/
theorem isRestorable_empty : (group []).IsRestorable :=
  ⟨List.nodup_nil, Or.inl fun _ => List.not_mem_nil, True.intro⟩

/-- Every node that a restorable tree holds is restorable. -/
theorem isRestorable_of_find? {node found : Node} {path : List String} (h : node.IsRestorable)
    (hfind : node.find? path = some found) : found.IsRestorable := by
  induction path generalizing node with
  | nil =>
      rw [find?_nil] at hfind
      cases hfind
      exact h
  | cons name rest ih =>
      cases node with
      | leaf value => cases hfind
      | group children =>
          rw [find?_group_cons] at hfind
          obtain ⟨child, hchild, hrest⟩ := Option.bind_eq_some_iff.mp hfind
          rw [IsRestorable] at h
          exact ih (childrenRestorable_iff.mp h.2.2 _ (Entries.mem_of_get? hchild)) hrest

/-! ## Classification, case by case -/

/-- Data that are no mapping are classified as what they are or as a plain token. -/
theorem build_scalar_eq_ok_iff {path : List String} {value : Scalar} {node : Node} :
    build path (.scalar value) = .ok node ↔
      ∃ text, value.tokenText? = some text ∧ value.isWritable = true ∧
        Text.isBlankText text = false ∧ node = leaf (.plain text) := by
  rw [build]
  cases value.tokenText? with
  | none => simp
  | some text =>
      cases value.isWritable with
      | false => simp
      | true =>
          constructor
          · intro h
            cases hblank : Text.isBlankText text with
            | true => simp [hblank] at h
            | false =>
                simp only [hblank] at h
                cases h
                exact ⟨text, rfl, rfl, hblank, rfl⟩
          · rintro ⟨other, hother, -, hblank, rfl⟩
            cases hother
            simp [hblank]

/-- A mapping is classified as one token or as a group of what its entries are. -/
theorem build_map_eq_ok_iff {path : List String} {entries : List (Scalar × Datum)}
    {node : Node} :
    build path (.map entries) = .ok node ↔
      (∀ entry ∈ entries, entry.1.isWritable = true) ∧
      ((isVariantSource entries = true ∧
        ∃ value, buildVariant path entries = .ok value ∧ node = leaf value) ∨
      (isVariantSource entries = false ∧
        ∃ children, buildChildren path entries = .ok children ∧
          node = group (Entries.ofList children))) := by
  have hkeys : (entries.any fun entry => !entry.1.isWritable) = false ↔
      ∀ entry ∈ entries, entry.1.isWritable = true := by
    simp only [List.any_eq_false, Bool.not_eq_true', Bool.not_eq_false]
  rw [build, ← hkeys]
  cases entries.any fun entry => !entry.1.isWritable with
  | true => simp
  | false =>
      cases isVariantSource entries with
      | true => cases buildVariant path entries <;> simp [Except.map, eq_comm]
      | false => cases buildChildren path entries <;> simp [Except.map, eq_comm]

/-- A theme has an entry with what its name stands for. -/
theorem mem_themeEntries {entries : List (Scalar × Datum)} {theme : Theme} {value : Datum} :
    (theme, value) ∈ themeEntries entries ↔ Datum.lookup theme.name entries = some value := by
  rw [themeEntries, List.mem_filterMap]
  constructor
  · rintro ⟨other, -, hother⟩
    obtain ⟨held, hlookup, heq⟩ := Option.map_eq_some_iff.mp hother
    cases heq
    exact hlookup
  · intro hlookup
    exact ⟨theme, by cases theme <;> decide, by rw [hlookup, Option.map_some]⟩

/-- A mapping is no token exactly when no theme has an entry, or one has an entry that is
neither a text nor a number. -/
theorem isVariantSource_eq_false_iff {entries : List (Scalar × Datum)} :
    isVariantSource entries = false ↔
      (∀ theme : Theme, Datum.lookup theme.name entries = none) ∨
      ∃ theme : Theme, ∃ value, Datum.lookup theme.name entries = some value ∧
        value.tokenText? = none := by
  have hempty : (themeEntries entries).isEmpty = true ↔
      ∀ theme : Theme, Datum.lookup theme.name entries = none := by
    rw [List.isEmpty_iff, themeEntries, List.filterMap_eq_nil_iff]
    simp only [Option.map_eq_none_iff]
    exact ⟨fun h theme => h theme (by cases theme <;> decide), fun h theme _ => h theme⟩
  have hother : ((themeEntries entries).all fun entry => entry.2.tokenText?.isSome) = false ↔
      ∃ theme : Theme, ∃ value, Datum.lookup theme.name entries = some value ∧
        value.tokenText? = none := by
    simp only [List.all_eq_false, Prod.exists, mem_themeEntries, Bool.not_eq_true,
      Option.isSome_eq_false_iff, Option.isNone_iff_eq_none]
  unfold isVariantSource
  rw [Bool.and_eq_false_iff, Bool.not_eq_false', hempty, hother]

/-- A mapping is one token exactly when it has no other keys than the themes, all texts can
be written and none is blank; the token has the text of each theme. -/
theorem buildVariant_eq_ok_iff {path : List String} {entries : List (Scalar × Datum)}
    {value : Leaf} :
    buildVariant path entries = .ok value ↔
      extraKeys entries = [] ∧
      ((themeEntries entries).any fun entry => entry.2.unwritable?.isSome) = false ∧
      (∀ theme, ∀ text ∈ themeText? entries theme, Text.isBlankText text = false) ∧
      value = .variant (themeText? entries .light) (themeText? entries .dark) := by
  have hblank : Theme.all.find? (fun theme => (themeText? entries theme).any Text.isBlankText) =
      none ↔ ∀ theme, ∀ text ∈ themeText? entries theme, Text.isBlankText text = false := by
    rw [List.find?_eq_none]
    constructor
    · intro h theme text htext
      have htheme := h theme (by cases theme <;> decide)
      rw [Option.mem_def.mp htext] at htheme
      simpa using htheme
    · intro h theme _ hany
      obtain ⟨text, htext, htrue⟩ := (Option.any_eq_true _ _).mp hany
      rw [h theme text htext] at htrue
      cases htrue
  unfold buildVariant
  cases hextra : extraKeys entries with
  | cons key rest => simp
  | nil =>
      cases hany : (themeEntries entries).any fun entry => entry.2.unwritable?.isSome with
      | true => simp
      | false =>
          rw [← hblank]
          cases Theme.all.find? fun theme =>
              (themeText? entries theme).any Text.isBlankText with
          | some theme => simp
          | none => simp [eq_comm]

/-- Children are built one after the other, each under the name of its key. -/
theorem buildChildren_cons_eq_ok_iff {path : List String} {entry : Scalar × Datum}
    {rest : List (Scalar × Datum)} {children : List (String × Node)} :
    buildChildren path (entry :: rest) = .ok children ↔
      ∃ child others, build (path ++ [entry.1.nameText]) entry.2 = .ok child ∧
        buildChildren path rest = .ok others ∧
        children = (entry.1.nameText, child) :: others := by
  obtain ⟨key, value⟩ := entry
  rw [buildChildren]
  cases build (path ++ [key.nameText]) value with
  | error error => simp
  | ok child =>
      cases buildChildren path rest with
      | error error => simp
      | ok others => simp [eq_comm]

/-- Every child comes from an entry whose key has its name. -/
theorem exists_of_mem_buildChildren {path : List String} {entries : List (Scalar × Datum)}
    {children : List (String × Node)} (h : buildChildren path entries = .ok children)
    {child : String × Node} (hmem : child ∈ children) :
    ∃ entry ∈ entries, entry.1.nameText = child.1 ∧
      build (path ++ [child.1]) entry.2 = .ok child.2 := by
  induction entries generalizing children with
  | nil =>
      rw [buildChildren] at h
      cases h
      cases hmem
  | cons entry rest ih =>
      obtain ⟨first, others, hfirst, hothers, rfl⟩ := buildChildren_cons_eq_ok_iff.mp h
      rcases List.mem_cons.mp hmem with rfl | hrest
      · exact ⟨entry, List.mem_cons_self, rfl, hfirst⟩
      · obtain ⟨found, hfound, hbuilt⟩ := ih hothers hrest
        exact ⟨found, List.mem_cons_of_mem _ hfound, hbuilt⟩

/-- The children have the names of the keys, in their order. -/
theorem keys_of_buildChildren {path : List String} {entries : List (Scalar × Datum)}
    {children : List (String × Node)} (h : buildChildren path entries = .ok children) :
    Entries.keys children = entries.map fun entry => entry.1.nameText := by
  induction entries generalizing children with
  | nil =>
      rw [buildChildren] at h
      cases h
      rfl
  | cons entry rest ih =>
      obtain ⟨first, others, -, hothers, rfl⟩ := buildChildren_cons_eq_ok_iff.mp h
      rw [Entries.keys_cons, ih hothers, List.map_cons]

/-! ## What is classified is restorable -/

/-- A mapping that is one token gives a restorable one. -/
theorem isRestorable_of_buildVariant {path : List String} {entries : List (Scalar × Datum)}
    {value : Leaf} (hsource : isVariantSource entries = true)
    (h : buildVariant path entries = .ok value) : value.IsRestorable := by
  obtain ⟨-, -, hblank, rfl⟩ := buildVariant_eq_ok_iff.mp h
  have htext (theme : Theme) :
      (Leaf.variant (themeText? entries .light) (themeText? entries .dark)).textFor theme =
        themeText? entries theme := by cases theme <;> rfl
  simp only [Leaf.IsRestorable, htext]
  refine ⟨?_, hblank⟩
  unfold isVariantSource at hsource
  rw [Bool.and_eq_true, Bool.not_eq_true', List.isEmpty_eq_false_iff_exists_mem,
    List.all_eq_true] at hsource
  obtain ⟨⟨⟨theme, value⟩, hmem⟩, hall⟩ := hsource
  refine ⟨theme, ?_⟩
  rw [themeText?, mem_themeEntries.mp hmem, Option.bind_some]
  exact hall _ hmem

/-- What is built from raw data that are neither a text nor a number is no plain token. -/
theorem isPlain_of_build {path : List String} {datum : Datum} {node : Node}
    (hraw : datum.IsRaw) (htext : datum.tokenText? = none) (h : build path datum = .ok node) :
    node.isPlain = false := by
  cases datum with
  | node tree => exact hraw.elim
  | scalar value =>
      obtain ⟨text, hsome, -⟩ := build_scalar_eq_ok_iff.mp h
      rw [Datum.tokenText?, hsome] at htext
      cases htext
  | map entries =>
      obtain ⟨-, ⟨-, value, hvalue, rfl⟩ | ⟨-, children, -, rfl⟩⟩ := build_map_eq_ok_iff.mp h
      · obtain ⟨-, -, -, rfl⟩ := buildVariant_eq_ok_iff.mp hvalue
        rfl
      · rfl
  | list items => rw [build] at h; cases h
  | set members => rw [build] at h; cases h
  | endless => rw [build] at h; cases h

/-- A child that is named like a theme is built from what the theme has in the mapping. -/
theorem lookup_of_mem_buildChildren {path : List String} {entries : List (Scalar × Datum)}
    {children : List (String × Node)} (hraw : Datum.EntriesRaw entries)
    (h : buildChildren path entries = .ok children) {theme : Theme} {child : Node}
    (hmem : (theme.name, child) ∈ children) :
    ∃ value, Datum.lookup theme.name entries = some value ∧ value.IsRaw ∧
      build (path ++ [theme.name]) value = .ok child := by
  obtain ⟨⟨key, value⟩, hentry, hname, hbuild⟩ := exists_of_mem_buildChildren h hmem
  obtain rfl := Scalar.nameText_eq_themeName_iff.mp hname
  exact ⟨value, Datum.lookup_of_mem hraw hentry, Datum.isRaw_of_mem hraw hentry, hbuild⟩

/-- The children of a raw mapping that is no token stand as a group. -/
theorem standAsGroup_of_buildChildren {path : List String} {entries : List (Scalar × Datum)}
    {children : List (String × Node)} (hraw : Datum.EntriesRaw entries)
    (hsource : isVariantSource entries = false)
    (h : buildChildren path entries = .ok children) :
    StandAsGroup (Entries.ofList children) := by
  have hchild {theme : Theme} {child : Node}
      (hget : Entries.get? (Entries.ofList children) theme.name = some child) :
      ∃ value, Datum.lookup theme.name entries = some value ∧ value.IsRaw ∧
        build (path ++ [theme.name]) value = .ok child := by
    rcases Entries.mem_putAll (Entries.mem_of_get? hget) with hnil | hmem
    · cases hnil
    · exact lookup_of_mem_buildChildren hraw h hmem
  rcases isVariantSource_eq_false_iff.mp hsource with hnone | ⟨theme, value, hlookup, htext⟩
  · left
    intro theme hname
    obtain ⟨child, hget⟩ := Option.isSome_iff_exists.mp (Entries.get?_isSome_iff.mpr hname)
    obtain ⟨value, hlookup, -⟩ := hchild hget
    rw [hnone theme] at hlookup
    cases hlookup
  · right
    have hname : theme.name ∈ Entries.keys (Entries.ofList children) := by
      rw [Entries.ofList, Entries.mem_keys_putAll, keys_of_buildChildren h]
      exact Or.inr (List.mem_map.mpr ⟨_, Datum.mem_of_lookup hlookup, rfl⟩)
    obtain ⟨child, hget⟩ := Option.isSome_iff_exists.mp (Entries.get?_isSome_iff.mpr hname)
    obtain ⟨held, hheld, hrawHeld, hbuild⟩ := hchild hget
    obtain rfl : value = held := Option.some.inj (hlookup.symm.trans hheld)
    exact ⟨theme, child, hget, isPlain_of_build hrawHeld htext hbuild⟩

mutual

/-- What is classified from raw data is restorable. -/
theorem isRestorable_of_build {path : List String} {datum : Datum} {node : Node}
    (hraw : datum.IsRaw) (h : build path datum = .ok node) : node.IsRestorable := by
  cases datum with
  | node tree => exact hraw.elim
  | scalar value =>
      obtain ⟨text, -, -, hblank, rfl⟩ := build_scalar_eq_ok_iff.mp h
      exact Leaf.isRestorable_plain hblank
  | map entries =>
      obtain ⟨-, ⟨hsource, value, hvalue, rfl⟩ | ⟨hsource, children, hchildren, rfl⟩⟩ :=
        build_map_eq_ok_iff.mp h
      · exact isRestorable_of_buildVariant hsource hvalue
      · rw [IsRestorable, childrenRestorable_iff]
        refine ⟨Entries.distinct_ofList children,
          standAsGroup_of_buildChildren hraw hsource hchildren, ?_⟩
        intro entry hmem
        rcases Entries.mem_putAll hmem with hnil | hmem
        · cases hnil
        · exact isRestorable_of_buildChildren hraw hchildren entry hmem
  | list items => rw [build] at h; cases h
  | set members => rw [build] at h; cases h
  | endless => rw [build] at h; cases h

/-- The children of a raw mapping are restorable. -/
theorem isRestorable_of_buildChildren {path : List String} {entries : List (Scalar × Datum)}
    {children : List (String × Node)} (hraw : Datum.EntriesRaw entries)
    (h : buildChildren path entries = .ok children) :
    ∀ entry ∈ children, entry.2.IsRestorable := by
  cases entries with
  | nil =>
      rw [buildChildren] at h
      cases h
      simp
  | cons entry rest =>
      obtain ⟨child, others, hchild, hothers, rfl⟩ := buildChildren_cons_eq_ok_iff.mp h
      obtain ⟨key, value⟩ := entry
      rw [Datum.EntriesRaw] at hraw
      rw [List.forall_mem_cons]
      exact ⟨isRestorable_of_build hraw.2.1 hchild, isRestorable_of_buildChildren hraw.2.2 hothers⟩

end

/-! ## The data of a restorable tree -/

/-- The data of children have the names of the children. -/
theorem childrenData_eq_mapValues (children : List (String × Node)) :
    childrenData children = Entries.mapValues toDatum children := by
  induction children with
  | nil => rfl
  | cons entry rest ih => rw [childrenData, ih, Entries.mapValues, Entries.mapValues, List.map_cons]

/-- The data of a tree that is more than a plain token are no text. -/
theorem tokenText?_toDatum_eq_none {node : Node} (h : node.isPlain = false) :
    node.toDatum.tokenText? = none := by
  rcases node with (⟨light, dark⟩ | text) | children
  · rw [toDatum]
    rfl
  · cases h
  · rw [toDatum]
    rfl

/-- The mapping of children that stand as a group is no token. -/
theorem isVariantSource_childrenData {children : List (String × Node)}
    (h : StandAsGroup children) :
    isVariantSource (Datum.textEntries (childrenData children)) = false := by
  have hlookup (theme : Theme) :
      Datum.lookup theme.name (Datum.textEntries (childrenData children)) =
        (Entries.get? children theme.name).map toDatum := by
    rw [Datum.lookup_textEntries, childrenData_eq_mapValues, Entries.get?_mapValues]
  rw [isVariantSource_eq_false_iff]
  simp only [hlookup]
  rcases h with hnone | ⟨theme, child, hget, hplain⟩
  · left
    intro theme
    rw [Entries.get?_eq_none_iff.mpr (hnone theme), Option.map_none]
  · right
    exact ⟨theme, child.toDatum, by rw [hget, Option.map_some],
      tokenText?_toDatum_eq_none hplain⟩

/-- The entries that a token with texts for the themes is written as. -/
def variantEntries (light dark : Option String) : List (Scalar × Datum) :=
  let entry (theme : Theme) (value : Option String) : List (Scalar × Datum) :=
    value.toList.map fun text => (.text theme.name, .text text)
  entry .light light ++ entry .dark dark

theorem leafDatum_variant (light dark : Option String) :
    leafDatum (.variant light dark) = .map (variantEntries light dark) := by
  cases light <;> cases dark <;> rfl

theorem exists_of_mem_variantEntries {light dark : Option String} {entry : Scalar × Datum}
    (h : entry ∈ variantEntries light dark) :
    ∃ (theme : Theme) (text : String), entry = (.text theme.name, .text text) := by
  rcases List.mem_append.mp h with hlight | hdark
  · obtain ⟨text, -, rfl⟩ := List.mem_map.mp hlight
    exact ⟨.light, text, rfl⟩
  · obtain ⟨text, -, rfl⟩ := List.mem_map.mp hdark
    exact ⟨.dark, text, rfl⟩

/-- A mapping whose keys are all named like themes has no other key. -/
theorem extraKeys_eq_nil {entries : List (Scalar × Datum)}
    (h : ∀ entry ∈ entries, ∃ theme : Theme, entry.1.nameText = theme.name) :
    extraKeys entries = [] := by
  have hnone : ((entries.map fun entry => entry.1.nameText).filter fun name =>
      (Theme.ofName? name).isNone) = [] := by
    rw [List.filter_eq_nil_iff]
    intro name hname
    obtain ⟨entry, hmem, rfl⟩ := List.mem_map.mp hname
    obtain ⟨theme, htheme⟩ := h entry hmem
    simp [Theme.ofName?_eq_some_iff.mpr htheme]
  rw [extraKeys, hnone]
  simp [sortNames]

/-- What a theme has in these entries is the text of the token in the theme. -/
theorem lookup_variantEntries (light dark : Option String) (theme : Theme) :
    Datum.lookup theme.name (variantEntries light dark) =
      ((Leaf.variant light dark).textFor theme).map Datum.text := by
  cases light <;> cases dark <;> cases theme <;> rfl

theorem themeText?_variantEntries (light dark : Option String) (theme : Theme) :
    themeText? (variantEntries light dark) theme = (Leaf.variant light dark).textFor theme := by
  rw [themeText?, lookup_variantEntries]
  cases (Leaf.variant light dark).textFor theme <;> rfl

/-- The entries of a restorable token with texts for the themes are that token. -/
theorem buildVariant_variantEntries {light dark : Option String}
    (h : (Leaf.variant light dark).IsRestorable) (path : List String) :
    buildVariant path (variantEntries light dark) = .ok (.variant light dark) := by
  rw [buildVariant_eq_ok_iff]
  simp only [themeText?_variantEntries]
  refine ⟨?_, ?_, h.2, rfl⟩
  · apply extraKeys_eq_nil
    intro entry hmem
    obtain ⟨theme, text, rfl⟩ := exists_of_mem_variantEntries hmem
    exact ⟨theme, rfl⟩
  · rw [List.any_eq_false]
    rintro ⟨theme, value⟩ hmem
    rw [mem_themeEntries, lookup_variantEntries] at hmem
    obtain ⟨text, -, rfl⟩ := Option.map_eq_some_iff.mp hmem
    exact Bool.false_ne_true

/-- The entries of a restorable token with texts for the themes are no group. -/
theorem isVariantSource_variantEntries {light dark : Option String}
    (h : (Leaf.variant light dark).IsRestorable) :
    isVariantSource (variantEntries light dark) = true := by
  rw [← Bool.not_eq_false, isVariantSource_eq_false_iff]
  simp only [lookup_variantEntries]
  rintro (hnone | ⟨theme, value, hvalue, htext⟩)
  · obtain ⟨theme, hsome⟩ := h.1
    rw [Option.map_eq_none_iff.mp (hnone theme)] at hsome
    cases hsome
  · obtain ⟨text, -, rfl⟩ := Option.map_eq_some_iff.mp hvalue
    cases htext

/-- The data of a restorable token are classified as the token. -/
theorem build_leafDatum {value : Leaf} (h : value.IsRestorable) (path : List String) :
    build path (leafDatum value) = .ok (leaf value) := by
  cases value with
  | plain text =>
      exact build_scalar_eq_ok_iff.mpr ⟨text, rfl, rfl, h.2 .light text rfl, rfl⟩
  | variant light dark =>
      rw [leafDatum_variant, build_map_eq_ok_iff]
      refine ⟨?_, Or.inl ⟨isVariantSource_variantEntries h, _,
        buildVariant_variantEntries h path, rfl⟩⟩
      intro entry hmem
      obtain ⟨theme, text, rfl⟩ := exists_of_mem_variantEntries hmem
      rfl

mutual

/-- The data of a restorable tree are classified as the tree, wherever they stand. -/
theorem build_toDatum {node : Node} (h : node.IsRestorable) (path : List String) :
    build path node.toDatum = .ok node := by
  cases node with
  | leaf value =>
      rw [IsRestorable] at h
      rw [toDatum]
      exact build_leafDatum h path
  | group children =>
      rw [IsRestorable] at h
      obtain ⟨hdistinct, hgroup, hchildren⟩ := h
      rw [toDatum, Datum.ofEntries_eq, build_map_eq_ok_iff]
      refine ⟨?_, Or.inr ⟨isVariantSource_childrenData hgroup, children,
        buildChildren_childrenData hchildren path, ?_⟩⟩
      · intro entry hmem
        obtain ⟨source, -, rfl⟩ := List.mem_map.mp hmem
        rfl
      · rw [Entries.ofList_of_distinct hdistinct]

/-- The data of restorable children are classified as the children. -/
theorem buildChildren_childrenData {children : List (String × Node)}
    (h : ChildrenRestorable children) (path : List String) :
    buildChildren path (Datum.textEntries (childrenData children)) = .ok children := by
  cases children with
  | nil => rfl
  | cons entry rest =>
      obtain ⟨name, node⟩ := entry
      rw [ChildrenRestorable] at h
      have hrest := buildChildren_childrenData h.2 path
      rw [childrenData]
      exact buildChildren_cons_eq_ok_iff.mpr
        ⟨node, rest, build_toDatum h.1 (path ++ [name]), hrest, rfl⟩

end

end Node

end DesignTokens
