import DesignTokens.Proofs.ReorderedTrees

/-!
# What classification keeps and refuses

A tree that is classified from raw data is written as these data with every name and number as
text; only a token with a text for both themes is always written with the light one first. Data
are classified exactly when they stand for a tree. Raw data are refused for three flaws, at any
depth: a blank text, a part that is neither a text, a number nor a mapping, and a mapping whose
themes all have texts or numbers and which has another key besides. Apart from these flaws only an
integer that is too long, as a value or as a key, is refused, and a mapping that holds itself.
-/

namespace DesignTokens

namespace Datum

/-! ## The order of the themes -/

/-- Two entries with a text for the dark theme and one for the light theme change places; all
other entries stay where they are. -/
def lightFirst : List (Scalar × Datum) → List (Scalar × Datum)
  | [(.text first, .scalar (.text dark)), (.text second, .scalar (.text light))] =>
      if first = Theme.dark.name ∧ second = Theme.light.name then
        [(.text second, text light), (.text first, text dark)]
      else [(.text first, text dark), (.text second, text light)]
  | entries => entries

mutual

/-- The datum with the light theme first in every mapping that has a text for both themes and
nothing else. -/
def themesInOrder : Datum → Datum
  | map entries => map (lightFirst (themesInOrderIn entries))
  | datum => datum

/-- The same for the values of a mapping. -/
def themesInOrderIn : List (Scalar × Datum) → List (Scalar × Datum)
  | [] => []
  | (key, value) :: rest => (key, themesInOrder value) :: themesInOrderIn rest

end

/-- Only the order of the entries changes. -/
theorem lightFirst_perm (entries : List (Scalar × Datum)) : entries.Perm (lightFirst entries) := by
  unfold lightFirst
  split
  · split
    · exact .swap _ _ _
    · exact .refl _
  · exact .refl _

mutual

/-- Only the order of entries changes, at any depth. -/
theorem reordered_themesInOrder (datum : Datum) : Reordered datum datum.themesInOrder := by
  cases datum with
  | map entries =>
      rw [themesInOrder]
      exact .of_aligned (alignedBy_themesInOrderIn entries) (lightFirst_perm _)
  | _ =>
      rw [themesInOrder.eq_def]
      exact .same _

/-- The same for the values of a mapping, in their places. -/
theorem alignedBy_themesInOrderIn (entries : List (Scalar × Datum)) :
    AlignedBy Reordered entries (themesInOrderIn entries) := by
  cases entries with
  | nil =>
      rw [themesInOrderIn]
      exact .nil
  | cons entry rest =>
      obtain ⟨key, value⟩ := entry
      rw [themesInOrderIn]
      exact .cons ⟨rfl, reordered_themesInOrder value⟩ (alignedBy_themesInOrderIn rest)

end

theorem themesInOrderIn_textEntries (m : Entries Datum) :
    themesInOrderIn (textEntries m) = textEntries (Entries.mapValues themesInOrder m) := by
  induction m with
  | nil => rw [textEntries, List.map_nil, themesInOrderIn]; rfl
  | cons entry rest ih =>
      simp only [textEntries, Entries.mapValues, List.map_cons] at ih ⊢
      rw [themesInOrderIn, ih]

/-- Entries that are no token stay where they are. -/
theorem lightFirst_eq_self {entries : List (Scalar × Datum)}
    (h : Node.isVariantSource entries = false) : lightFirst entries = entries := by
  unfold lightFirst
  split
  · split
    · rename_i hnames
      obtain ⟨rfl, rfl⟩ := hnames
      revert h
      simp [Node.isVariantSource, Node.themeEntries, Theme.all, Theme.name, lookup, tokenText?,
        Scalar.tokenText?]
    · rfl
  · rfl

/-! ## Flaws -/

/-- A mapping that stands for one token: a theme has an entry, and each such entry holds a text
or a number. -/
def IsThemed (entries : List (Scalar × Datum)) : Prop :=
  (∃ (theme : Theme) (value : Datum), (.text theme.name, value) ∈ entries) ∧
    ∀ (theme : Theme) (value : Datum), (.text theme.name, value) ∈ entries →
      value.tokenText?.isSome = true

/-- A mapping, whether or not it holds itself. -/
def IsMapping : Datum → Prop
  | map _ => True
  | endless => True
  | _ => False

/-- Why raw data are refused, at the depth where the flaw is. -/
inductive Flawed : Datum → Prop
  /-- The text of a token is blank. -/
  | blank {datum : Datum} {text : String} (htext : datum.tokenText? = some text)
      (hblank : Text.isBlankText text = true) : Flawed datum
  /-- Neither a text, a number nor a mapping. -/
  | unsupported {datum : Datum} (htext : datum.tokenText? = none)
      (hmapping : ¬ datum.IsMapping) : Flawed datum
  /-- A mapping that stands for one token has another key. -/
  | otherKey {entries : List (Scalar × Datum)} (hthemed : IsThemed entries)
      {entry : Scalar × Datum} (hmem : entry ∈ entries)
      (hother : ∀ theme : Theme, entry.1 ≠ .text theme.name) : Flawed (map entries)
  /-- A value of a mapping has a flaw. -/
  | inside {entries : List (Scalar × Datum)} {entry : Scalar × Datum} (hmem : entry ∈ entries)
      (h : Flawed entry.2) : Flawed (map entries)

/-- The text of a token has a flaw exactly when it is blank. -/
theorem flawed_iff_of_tokenText? {datum : Datum} {text : String}
    (h : datum.tokenText? = some text) : datum.Flawed ↔ Text.isBlankText text = true := by
  constructor
  · intro hflawed
    cases hflawed with
    | blank htext hblank =>
        cases htext.symm.trans h
        exact hblank
    | unsupported hnone _ => cases hnone.symm.trans h
    | otherKey _ _ _ => cases h
    | inside _ _ => cases h
  · exact fun hblank => .blank h hblank

/-- A mapping has a flaw of its own or a value with one. -/
theorem flawed_map_iff {entries : List (Scalar × Datum)} :
    (map entries).Flawed ↔
      (IsThemed entries ∧ ∃ entry ∈ entries, ∀ theme : Theme, entry.1 ≠ .text theme.name) ∨
        ∃ entry ∈ entries, entry.2.Flawed := by
  constructor
  · intro h
    cases h with
    | blank htext _ => cases htext
    | unsupported _ hmapping => exact absurd True.intro hmapping
    | otherKey hthemed hmem hother => exact Or.inl ⟨hthemed, _, hmem, hother⟩
    | inside hmem h => exact Or.inr ⟨_, hmem, h⟩
  · rintro (⟨hthemed, entry, hmem, hother⟩ | ⟨entry, hmem, h⟩)
    · exact .otherKey hthemed hmem hother
    · exact .inside hmem h

theorem unwritableScalar?_eq_none_iff {value : Scalar} :
    unwritableScalar? value = none ↔ value.isWritable = true := by
  unfold unwritableScalar?
  cases value.isWritable <;> simp

end Datum

namespace Node

variable {entries : List (Scalar × Datum)}

/-- In raw data, a mapping is one token exactly when it is themed. -/
theorem isVariantSource_iff (hraw : Datum.EntriesRaw entries) :
    isVariantSource entries = true ↔ Datum.IsThemed entries := by
  have hlookup (theme : Theme) (value : Datum) :
      (theme, value) ∈ themeEntries entries ↔ (.text theme.name, value) ∈ entries := by
    rw [mem_themeEntries]
    exact ⟨Datum.mem_of_lookup, Datum.lookup_of_mem hraw⟩
  unfold isVariantSource Datum.IsThemed
  rw [Bool.and_eq_true, Bool.not_eq_true', List.isEmpty_eq_false_iff_exists_mem,
    List.all_eq_true]
  simp only [Prod.exists, Prod.forall, hlookup]

/-- A mapping has no other keys than the themes exactly when its keys are their names. -/
theorem extraKeys_eq_nil_iff_text :
    extraKeys entries = [] ↔ ∀ entry ∈ entries, ∃ theme : Theme, entry.1 = .text theme.name := by
  simp only [extraKeys_eq_nil_iff, Scalar.nameText_eq_themeName_iff]

/-! ## What is kept -/

/-- A raw mapping whose keys are all names of themes has no entry, one, or one for each theme. -/
theorem themed_cases (hraw : Datum.EntriesRaw entries)
    (hkeys : ∀ entry ∈ entries, ∃ theme : Theme, entry.1 = .text theme.name) :
    entries = [] ∨ (∃ (theme : Theme) (value : Datum), entries = [(.text theme.name, value)]) ∨
      ∃ light dark : Datum,
        entries = [(.text Theme.light.name, light), (.text Theme.dark.name, dark)] ∨
        entries = [(.text Theme.dark.name, dark), (.text Theme.light.name, light)] := by
  have hne {first second : Theme}
      (h : Scalar.sameKey (.text first.name) (.text second.name) = false) : first ≠ second := by
    rintro rfl
    simp [Datum.sameKey_text] at h
  rcases entries with _ | ⟨⟨key, value⟩, _ | ⟨⟨key', value'⟩, rest⟩⟩
  · exact Or.inl rfl
  · obtain ⟨theme, rfl⟩ := hkeys _ List.mem_cons_self
    exact Or.inr (Or.inl ⟨theme, value, rfl⟩)
  · rw [List.forall_mem_cons, List.forall_mem_cons] at hkeys
    obtain ⟨⟨first, rfl⟩, ⟨second, rfl⟩, hrest⟩ := hkeys
    rw [Datum.EntriesRaw, List.forall_mem_cons, Datum.EntriesRaw] at hraw
    obtain ⟨⟨hpair, hfirst⟩, -, hsecond, -⟩ := hraw
    have hpair := hne hpair
    have hnil : rest = [] := by
      rw [List.eq_nil_iff_forall_not_mem]
      intro third hmem
      obtain ⟨theme, htheme⟩ := hrest third hmem
      have hthird := hne (htheme ▸ hfirst third hmem)
      have hthird' := hne (htheme ▸ hsecond third hmem)
      cases first <;> cases second <;> cases theme <;> contradiction
    subst hnil
    refine Or.inr (Or.inr ?_)
    cases first <;> cases second
    · exact absurd rfl hpair
    · exact ⟨value, value', Or.inl rfl⟩
    · exact ⟨value', value, Or.inr rfl⟩
    · exact absurd rfl hpair

/-- A scalar that is the text of a token is written as that text. -/
theorem stringify_scalar {value : Scalar} {text : String} (h : value.tokenText? = some text) :
    (Datum.scalar value).stringify = .text text := by
  cases value <;> cases h <;> simp [Datum.stringify, Datum.text]

/-- A mapping with a text or number for each theme is written with their texts. -/
theorem stringify_pair {first second : Theme} (hne : first ≠ second) {value other : Scalar}
    {text text' : String} (h : value.tokenText? = some text) (h' : other.tokenText? = some text') :
    (Datum.map [(.text first.name, .scalar value), (.text second.name, .scalar other)]).stringify =
      .map [(.text first.name, .text text), (.text second.name, .text text')] := by
  rw [Datum.stringify_map, List.map_cons, List.map_singleton, stringify_scalar h,
    stringify_scalar h']
  · rfl
  · change [first.name, second.name].Nodup
    revert hne
    cases first <;> cases second <;> decide

/-- Only a scalar is the text of a token. -/
theorem exists_scalar_of_tokenText? {datum : Datum} (h : datum.tokenText?.isSome = true) :
    ∃ value text, datum = .scalar value ∧ value.tokenText? = some text := by
  cases datum with
  | scalar value =>
      obtain ⟨text, htext⟩ := Option.isSome_iff_exists.mp h
      exact ⟨value, text, rfl, htext⟩
  | _ => cases h

/-- A mapping that is one token is written as the token, the light theme first. -/
theorem leafDatum_of_buildVariant {path : List String} {value : Leaf}
    (hraw : Datum.EntriesRaw entries) (hsource : isVariantSource entries = true)
    (h : buildVariant path entries = .ok value) :
    leafDatum value = (Datum.map entries).stringify.themesInOrder := by
  obtain ⟨hextra, -, -, rfl⟩ := buildVariant_eq_ok_iff.mp h
  obtain ⟨⟨_, _, hmem⟩, htexts⟩ := (isVariantSource_iff hraw).mp hsource
  rcases themed_cases hraw (extraKeys_eq_nil_iff_text.mp hextra) with
    rfl | ⟨theme, value, rfl⟩ | ⟨light, dark, rfl | rfl⟩
  · cases hmem
  · obtain ⟨scalar, text, rfl, htext⟩ :=
      exists_scalar_of_tokenText? (htexts theme value List.mem_cons_self)
    have hwritten : (Datum.map [(.text theme.name, .scalar scalar)]).stringify =
        .map [(.text theme.name, .text text)] := by
      rw [Datum.stringify_map, List.map_singleton, stringify_scalar htext]
      · rfl
      · exact List.nodup_singleton _
    have htheme (other : Theme) : themeText? [(.text theme.name, .scalar scalar)] other =
        if theme = other then some text else none := by
      rw [← htext]
      cases theme <;> cases other <;> rfl
    rw [hwritten, htheme, htheme]
    cases theme <;> rfl
  all_goals
    obtain ⟨value, text, rfl, htext⟩ :=
      exists_scalar_of_tokenText? (htexts .light light (by simp))
    obtain ⟨other, text', rfl, htext'⟩ :=
      exists_scalar_of_tokenText? (htexts .dark dark (by simp))
  · have hlight : themeText? [(.text Theme.light.name, .scalar value),
        (.text Theme.dark.name, .scalar other)] .light = some text := htext
    have hdark : themeText? [(.text Theme.light.name, .scalar value),
        (.text Theme.dark.name, .scalar other)] .dark = some text' := htext'
    rw [hlight, hdark, stringify_pair (by decide) htext htext']
    rfl
  · have hlight : themeText? [(.text Theme.dark.name, .scalar other),
        (.text Theme.light.name, .scalar value)] .light = some text := htext
    have hdark : themeText? [(.text Theme.dark.name, .scalar other),
        (.text Theme.light.name, .scalar value)] .dark = some text' := htext'
    rw [hlight, hdark, stringify_pair (by decide) htext' htext]
    rfl

mutual

/-- A tree that is classified from raw data is written as the data, with every name and number
as text and the themes of a token in order. -/
theorem toDatum_of_build {path : List String} {raw : Datum} {node : Node} (hraw : raw.IsRaw)
    (h : build path raw = .ok node) : node.toDatum = raw.stringify.themesInOrder := by
  cases raw with
  | node tree => exact hraw.elim
  | scalar value =>
      obtain ⟨text, htext, -, -, rfl⟩ := build_scalar_eq_ok_iff.mp h
      rw [stringify_scalar htext, toDatum]
      rfl
  | map entries =>
      obtain ⟨-, ⟨hsource, value, hvalue, rfl⟩ | ⟨hsource, children, hchildren, rfl⟩⟩ :=
        build_map_eq_ok_iff.mp h
      · rw [toDatum]
        exact leafDatum_of_buildVariant hraw hsource hvalue
      · have hgroup := standAsGroup_of_buildChildren hraw hsource hchildren
        have hdata : childrenData (Entries.ofList children) =
            Entries.mapValues Datum.themesInOrder
              (Entries.ofList (Datum.stringifyEntries entries)) := by
          rw [childrenData_eq_mapValues, Entries.mapValues_ofList,
            mapValues_of_buildChildren hraw hchildren, Entries.mapValues_ofList]
        rw [toDatum, Datum.stringify, Datum.ofEntries_eq, Datum.ofEntries_eq,
          Datum.themesInOrder, Datum.themesInOrderIn_textEntries, ← hdata,
          Datum.lightFirst_eq_self (isVariantSource_childrenData hgroup)]
  | list items => rw [build] at h; cases h
  | set members => rw [build] at h; cases h
  | endless => rw [build] at h; cases h

/-- The children that are classified from a raw mapping are written as its values. -/
theorem mapValues_of_buildChildren {path : List String} {entries : List (Scalar × Datum)}
    {children : List (String × Node)} (hraw : Datum.EntriesRaw entries)
    (h : buildChildren path entries = .ok children) :
    Entries.mapValues toDatum children =
      Entries.mapValues Datum.themesInOrder (Datum.stringifyEntries entries) := by
  cases entries with
  | nil =>
      rw [buildChildren] at h
      cases h
      rw [Datum.stringifyEntries]
      rfl
  | cons entry rest =>
      obtain ⟨child, others, hchild, hothers, rfl⟩ := buildChildren_cons_eq_ok_iff.mp h
      obtain ⟨key, value⟩ := entry
      rw [Datum.EntriesRaw] at hraw
      have hfirst := toDatum_of_build hraw.2.1 hchild
      have hrest := mapValues_of_buildChildren hraw.2.2 hothers
      rw [Entries.mapValues] at hrest
      rw [Datum.stringifyEntries, Entries.mapValues, Entries.mapValues, List.map_cons,
        List.map_cons, hrest, hfirst]
      rfl

end

/-- The text of an integer is not blank, since it has a digit. -/
theorem isBlankText_intText (n : Int) : Text.isBlankText (Number.intText n) = false := by
  have hne : (toString n.natAbs).toList ≠ [] := by
    rw [Nat.toString_eq_repr, Nat.repr_eq_ofList_toDigits, String.toList_ofList]
    exact Nat.toDigits_ne_nil
  obtain ⟨c, hc⟩ := List.exists_mem_of_ne_nil _ hne
  have hmem : c ∈ (Number.intText n).toList := by
    unfold Number.intText
    split
    · rw [String.toList_append]
      exact List.mem_append_right _ hc
    · exact hc
  have hblank := Text.isBlank_eq_false_of (by decide) (isAsciiDigit_of_mem_toString c hc)
  rw [Text.isBlankText, List.all_eq_false]
  exact ⟨c, hmem, ne_true_of_eq_false hblank⟩

end Node

/-! ## Trees -/

namespace Datum

/-- Data that stand for a tree: what is one already, a text or a number that is not blank, a
mapping from the names of themes alone that stands for one token, and a mapping that stands for
none, with a tree behind every key. -/
inductive IsTree : Datum → Prop
  | node (tree : Node) : IsTree (node tree)
  | plain {value : Scalar} {text : String} (htext : value.tokenText? = some text)
      (hwritable : value.isWritable = true) (hblank : Text.isBlankText text = false) :
      IsTree (scalar value)
  | variant {entries : List (Scalar × Datum)} (hsource : Node.isVariantSource entries = true)
      (hkeys : ∀ entry ∈ entries, ∃ theme : Theme, entry.1 = .text theme.name)
      (hvalues : ∀ (theme : Theme) (value : Datum), lookup theme.name entries = some value →
        IsTree value) : IsTree (map entries)
  | group {entries : List (Scalar × Datum)} (hsource : Node.isVariantSource entries = false)
      (hkeys : ∀ entry ∈ entries, entry.1.isWritable = true)
      (hvalues : ∀ entry ∈ entries, IsTree entry.2) : IsTree (map entries)

/-- A text or a number stands for a tree exactly when it is not blank and can be written. -/
theorem isTree_scalar_iff {value : Scalar} :
    (scalar value).IsTree ↔ ∃ text, value.tokenText? = some text ∧ value.isWritable = true ∧
      Text.isBlankText text = false := by
  constructor
  · rintro (_ | ⟨htext, hwritable, hblank⟩)
    exact ⟨_, htext, hwritable, hblank⟩
  · rintro ⟨text, htext, hwritable, hblank⟩
    exact .plain htext hwritable hblank

/-- A raw mapping stands for a tree exactly when its keys can be written, its values stand for
trees and, if it stands for one token, its keys are names of themes. -/
theorem isTree_map_iff {entries : List (Scalar × Datum)} (hraw : EntriesRaw entries) :
    (map entries).IsTree ↔
      (∀ entry ∈ entries, entry.1.isWritable = true ∧ entry.2.IsTree) ∧
        (Node.isVariantSource entries = true →
          ∀ entry ∈ entries, ∃ theme : Theme, entry.1 = .text theme.name) := by
  constructor
  · intro h
    cases h with
    | variant hsource hkeys hvalues =>
        refine ⟨?_, fun _ => hkeys⟩
        rintro ⟨key, value⟩ hmem
        obtain ⟨theme, rfl⟩ : ∃ theme : Theme, key = .text theme.name := hkeys _ hmem
        exact ⟨rfl, hvalues theme value (lookup_of_mem hraw hmem)⟩
    | group hsource hkeys hvalues =>
        refine ⟨fun entry hmem => ⟨hkeys entry hmem, hvalues entry hmem⟩, ?_⟩
        intro hvariant
        cases hsource.symm.trans hvariant
  · rintro ⟨hentries, hthemes⟩
    cases hsource : Node.isVariantSource entries with
    | true =>
        apply IsTree.variant hsource (hthemes hsource)
        intro theme value hlookup
        exact (hentries _ (mem_of_lookup hlookup)).2
    | false =>
        apply IsTree.group hsource
        · exact fun entry hmem => (hentries entry hmem).1
        · exact fun entry hmem => (hentries entry hmem).2

/-- Raw data stand for a tree exactly when they have no flaw and can be written as text. -/
theorem isTree_iff_of_isRaw {raw : Datum} (hraw : raw.IsRaw) :
    raw.IsTree ↔ ¬ raw.Flawed ∧ raw.unwritable? = none := by
  induction raw using induction with
  | node tree => exact hraw.elim
  | scalar value =>
      rw [isTree_scalar_iff, unwritable?, unwritableScalar?_eq_none_iff]
      cases htext : value.tokenText? with
      | none => exact iff_of_false (by simp) fun h => h.1 (.unsupported htext id)
      | some text =>
          have hflawed : (scalar value).Flawed ↔ Text.isBlankText text = true :=
            flawed_iff_of_tokenText? htext
          rw [hflawed]
          simp [and_comm]
  | map entries ih =>
      have hparts : ∀ entry ∈ entries,
          (entry.2.IsTree ↔ ¬ entry.2.Flawed ∧ entry.2.unwritable? = none) :=
        fun entry hmem => ih entry hmem (isRaw_of_mem hraw hmem)
      rw [isTree_map_iff hraw, flawed_map_iff, ← Node.isVariantSource_iff hraw, unwritable?,
        unwritableIn?_eq_none_iff]
      simp only [unwritableScalar?_eq_none_iff]
      constructor
      · rintro ⟨hentries, hthemes⟩
        refine ⟨?_, fun entry hmem => ⟨(hentries entry hmem).1, ?_⟩⟩
        · rintro (⟨hsource, entry, hmem, hother⟩ | ⟨entry, hmem, hflawed⟩)
          · obtain ⟨theme, htheme⟩ := hthemes hsource entry hmem
            exact hother theme htheme
          · exact ((hparts entry hmem).mp (hentries entry hmem).2).1 hflawed
        · exact ((hparts entry hmem).mp (hentries entry hmem).2).2
      · rintro ⟨hflawed, hwritable⟩
        rw [not_or] at hflawed
        refine ⟨fun entry hmem => ⟨(hwritable entry hmem).1, ?_⟩, ?_⟩
        · apply (hparts entry hmem).mpr
          exact ⟨fun h => hflawed.2 ⟨entry, hmem, h⟩, (hwritable entry hmem).2⟩
        · intro hsource entry hmem
          by_contra hnone
          exact hflawed.1 ⟨hsource, entry, hmem, fun theme htheme => hnone ⟨theme, htheme⟩⟩
  | list items => exact iff_of_false (by rintro ⟨⟩) fun h => h.1 (.unsupported rfl id)
  | set members => exact iff_of_false (by rintro ⟨⟩) fun h => h.1 (.unsupported rfl id)
  | endless =>
      rw [unwritable?]
      exact iff_of_false (by rintro ⟨⟩) (by simp)

end Datum

namespace Node

variable {entries : List (Scalar × Datum)} {path : List String}

/-- A mapping that stands for one token is classified exactly when its keys are names of themes
and what they stand for are trees. -/
theorem exists_buildVariant_iff_isTree (hsource : isVariantSource entries = true)
    (path : List String) :
    (∃ value, buildVariant path entries = .ok value) ↔
      (∀ entry ∈ entries, ∃ theme : Theme, entry.1 = .text theme.name) ∧
        ∀ (theme : Theme) (value : Datum), Datum.lookup theme.name entries = some value →
          value.IsTree := by
  have hscalar : ∀ (theme : Theme) (value : Datum), Datum.lookup theme.name entries = some value →
      ∃ scalar text, value = .scalar scalar ∧ scalar.tokenText? = some text ∧
        themeText? entries theme = some text := by
    intro theme value hlookup
    unfold isVariantSource at hsource
    rw [Bool.and_eq_true, List.all_eq_true] at hsource
    obtain ⟨scalar, text, rfl, htext⟩ :=
      exists_scalar_of_tokenText? (hsource.2 _ (mem_themeEntries.mpr hlookup))
    refine ⟨scalar, text, rfl, htext, ?_⟩
    rw [themeText?, hlookup]
    exact htext
  simp only [buildVariant_eq_ok_iff, extraKeys_eq_nil_iff_text, List.any_eq_false,
    Option.not_isSome_iff_eq_none]
  constructor
  · rintro ⟨_, hkeys, hwritable, hblank, -⟩
    refine ⟨hkeys, ?_⟩
    intro theme value hlookup
    obtain ⟨scalar, text, rfl, htext, htheme⟩ := hscalar theme value hlookup
    have hwritten := hwritable _ (mem_themeEntries.mpr hlookup)
    rw [Datum.unwritable?, Datum.unwritableScalar?_eq_none_iff] at hwritten
    exact .plain htext hwritten (hblank theme text htheme)
  · rintro ⟨hkeys, hvalues⟩
    refine ⟨_, hkeys, ?_, ?_, rfl⟩
    · rintro ⟨theme, value⟩ hmem
      rw [mem_themeEntries] at hmem
      obtain ⟨scalar, text, rfl, -⟩ := hscalar theme value hmem
      obtain ⟨-, -, hwritable, -⟩ := Datum.isTree_scalar_iff.mp (hvalues theme _ hmem)
      rw [Datum.unwritable?]
      exact Datum.unwritableScalar?_eq_none_iff.mpr hwritable
    · intro theme text htext
      obtain ⟨value, hlookup, -⟩ := Option.bind_eq_some_iff.mp htext
      obtain ⟨scalar, other, rfl, hother, htheme⟩ := hscalar theme value hlookup
      obtain ⟨found, hfound, -, hblank⟩ := Datum.isTree_scalar_iff.mp (hvalues theme _ hlookup)
      cases htheme.symm.trans htext
      cases hother.symm.trans hfound
      exact hblank

/-- The children of a mapping are classified exactly when each value is. -/
theorem exists_buildChildren_iff :
    (∃ children, buildChildren path entries = .ok children) ↔
      ∀ entry ∈ entries, ∃ node, build (path ++ [entry.1.nameText]) entry.2 = .ok node := by
  induction entries with
  | nil => exact iff_of_true ⟨[], by rw [buildChildren]⟩ (by simp)
  | cons entry rest ih =>
      rw [List.forall_mem_cons, ← ih]
      simp only [buildChildren_cons_eq_ok_iff]
      constructor
      · rintro ⟨_, child, others, hchild, hothers, -⟩
        exact ⟨⟨child, hchild⟩, others, hothers⟩
      · rintro ⟨⟨child, hchild⟩, others, hothers⟩
        exact ⟨_, child, others, hchild, hothers, rfl⟩

/-- A datum is classified exactly when it stands for a tree. -/
theorem exists_build_iff_isTree (datum : Datum) (path : List String) :
    (∃ node, build path datum = .ok node) ↔ datum.IsTree := by
  induction datum using Datum.induction generalizing path with
  | scalar value =>
      rw [Datum.isTree_scalar_iff]
      simp only [build_scalar_eq_ok_iff]
      constructor
      · rintro ⟨_, text, htext, hwritable, hblank, -⟩
        exact ⟨text, htext, hwritable, hblank⟩
      · rintro ⟨text, htext, hwritable, hblank⟩
        exact ⟨_, text, htext, hwritable, hblank, rfl⟩
  | map entries ih =>
      simp only [build_map_eq_ok_iff]
      constructor
      · rintro ⟨_, hkeys, ⟨hsource, value, hvalue, -⟩ | ⟨hsource, children, hchildren, -⟩⟩
        · obtain ⟨hthemes, hvalues⟩ :=
            (exists_buildVariant_iff_isTree hsource path).mp ⟨value, hvalue⟩
          exact .variant hsource hthemes hvalues
        · have hvalues := exists_buildChildren_iff.mp ⟨children, hchildren⟩
          exact .group hsource hkeys fun entry hmem => (ih entry hmem _).mp (hvalues entry hmem)
      · intro h
        cases h with
        | variant hsource hkeys hvalues =>
            obtain ⟨value, hvalue⟩ :=
              (exists_buildVariant_iff_isTree hsource path).mpr ⟨hkeys, hvalues⟩
            refine ⟨_, ?_, Or.inl ⟨hsource, value, hvalue, rfl⟩⟩
            intro entry hmem
            obtain ⟨theme, htheme⟩ := hkeys entry hmem
            rw [htheme]
            rfl
        | group hsource hkeys hvalues =>
            obtain ⟨children, hchildren⟩ := exists_buildChildren_iff.mpr fun entry hmem =>
              (ih entry hmem (path ++ [entry.1.nameText])).mpr (hvalues entry hmem)
            exact ⟨_, hkeys, Or.inr ⟨hsource, children, hchildren, rfl⟩⟩
  | node tree => exact iff_of_true ⟨tree, by rw [build]⟩ (.node tree)
  | list items | set members | endless =>
      rw [build]
      exact iff_of_false (by simp) (by rintro ⟨⟩)

/-! ## What is refused -/

/-- Raw data are classified exactly when they have no flaw and can be written as text. -/
theorem exists_build_eq_ok_iff {raw : Datum} (hraw : raw.IsRaw) (path : List String) :
    (∃ node, build path raw = .ok node) ↔ ¬ raw.Flawed ∧ raw.unwritable? = none :=
  (exists_build_iff_isTree raw path).trans (Datum.isTree_iff_of_isRaw hraw)

/-- What becomes of raw data. A tree that is classified from them is written as the data with
every name and every number as text, the last value of a repeated name in its first place; only
the themes of a token may change places. They are refused exactly when a text in them is blank, a
part is neither a text, a number nor a mapping, a mapping that stands for one token has another
key, or they cannot be written, which is so for an integer that is too long and for a mapping
that holds itself. -/
theorem build_keeps_and_refuses {raw : Datum} (hraw : raw.IsRaw) (path : List String) :
    (∀ node, build path raw = .ok node →
      node.toDatum = raw.stringify.themesInOrder ∧
        Datum.Reordered raw.stringify node.toDatum) ∧
    ((∃ error, build path raw = .error error) ↔
      raw.Flawed ∨ ∃ reason, raw.unwritable? = some reason) := by
  constructor
  · intro node h
    have hdata := toDatum_of_build hraw h
    rw [hdata]
    exact ⟨rfl, Datum.reordered_themesInOrder raw.stringify⟩
  · have hclassified := exists_build_eq_ok_iff hraw path
    constructor
    · rintro ⟨error, herror⟩
      by_contra hnone
      rw [not_or, not_exists, ← Option.eq_none_iff_forall_ne_some] at hnone
      obtain ⟨node, hnode⟩ := hclassified.mpr hnone
      cases herror.symm.trans hnode
    · intro h
      cases hbuild : build path raw with
      | error error => exact ⟨error, rfl⟩
      | ok node =>
          obtain ⟨hflawed, hwritable⟩ := hclassified.mp ⟨node, hbuild⟩
          rcases h with h | ⟨reason, hreason⟩
          · exact absurd h hflawed
          · cases hwritable.symm.trans hreason

/-- A mapping in which two keys have one name. It is classified as a group, the last value of
that name in the first place, and the group is written as the mapping with its names and numbers
as text and the light theme first. -/
theorem build_keeps_and_refuses_repeated :
    let token : Datum := .map [(.text "dark", .text " #000"), (.text "light", .scalar (.int 7))]
    let raw : Datum := .map [(.int 1, .text "#fff"), (.null, .text "x"), (.text "1", token)]
    raw.IsRaw ∧ ¬ raw.Flawed ∧ ∃ node, build [] raw = .ok node ∧
      node = group [("1", leaf (.variant (some "7") (some " #000"))),
        ("None", leaf (.plain "x"))] ∧
      node.toDatum = raw.stringify.themesInOrder := by
  intro token raw
  have hraw : raw.IsRaw := by
    simp [raw, token, Datum.IsRaw, Datum.EntriesRaw, Datum.text, Scalar.sameKey,
      Scalar.wholeNumber?]
  have hbuild : build [] raw = .ok (group [("1", leaf (.variant (some "7") (some " #000"))),
      ("None", leaf (.plain "x"))]) := by
    have hfound : (build [] raw).toOption = some (group
        [("1", leaf (.variant (some "7") (some " #000"))), ("None", leaf (.plain "x"))]) := by
      decide +kernel
    exact Sample.eq_ok_of_toOption hfound
  obtain ⟨hkept, hrefused⟩ := build_keeps_and_refuses hraw []
  refine ⟨hraw, ?_, _, hbuild, rfl, (hkept _ hbuild).1⟩
  intro hflawed
  obtain ⟨error, herror⟩ := hrefused.mpr (Or.inl hflawed)
  cases herror.symm.trans hbuild

/-- An integer of one digit more than can be written has no flaw, yet it is refused. -/
theorem build_tooLong :
    let raw : Datum := .scalar (.int (Int.ofNat (Nat.pow 10 4300)))
    raw.IsRaw ∧ ¬ raw.Flawed ∧ ∃ error, build [] raw = .error error := by
  intro raw
  have htext : raw.tokenText? = some (Number.intText (Int.ofNat (Nat.pow 10 4300))) := rfl
  have hlong : (Scalar.int (Int.ofNat (Nat.pow 10 4300))).isWritable = false := by
    decide +kernel
  refine ⟨True.intro, ?_, .unwritable .tooLong, ?_⟩
  · rw [Datum.flawed_iff_of_tokenText? htext, isBlankText_intText]
    exact Bool.false_ne_true
  · simp only [raw, build, Scalar.tokenText?, hlong, Bool.not_false, if_true]

end Node

end DesignTokens
