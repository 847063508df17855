import DesignTokens.Proofs.LeafOrder
import DesignTokens.Proofs.RestoredStores

/-!
# Clashing names

The entries of a store fit beside each other when their custom properties are well formed and
distinct. If they do not, there is a first entry at fault: all before it fit, and its own custom
property is ill formed or taken by one of them. Reading a store whose fields are good ends with
the store in the first case, and in the second one with that entry and the one that took its
name.
-/

namespace DesignTokens

/-! ## Entries that fit -/

/-- The custom properties of a row of entries can stand beside each other. -/
structure NamesFit (sources : List NameSource) : Prop where
  /-- Every custom property is well formed. -/
  valid : ∀ source ∈ sources, isVariableName source.property = true
  /-- No two entries have the same one. -/
  distinct : (sources.map NameSource.property).Nodup

theorem namesFit_nil : NamesFit [] := ⟨by simp, by simp⟩

/-- Entries that fit go on fitting without those at the end. -/
theorem NamesFit.of_append {before after : List NameSource} (h : NamesFit (before ++ after)) :
    NamesFit before := by
  have hdistinct := h.distinct
  rw [List.map_append] at hdistinct
  exact ⟨fun source hsource => h.valid source (List.mem_append_left after hsource),
    (List.nodup_append.mp hdistinct).1⟩

/-- One more entry fits exactly when its custom property is well formed and new. -/
theorem namesFit_concat_iff {before : List NameSource} {source : NameSource} :
    NamesFit (before ++ [source]) ↔ NamesFit before ∧ isVariableName source.property = true ∧
      source.property ∉ before.map NameSource.property := by
  constructor
  · intro h
    have hdistinct := h.distinct
    rw [List.map_append, List.map_singleton, ← List.concat_eq_append,
      List.nodup_concat] at hdistinct
    exact ⟨h.of_append, h.valid source (by simp), hdistinct.1⟩
  · rintro ⟨hfit, hvalid, hnew⟩
    refine ⟨?_, ?_⟩
    · rw [List.forall_mem_append, List.forall_mem_singleton]
      exact ⟨hfit.valid, hvalid⟩
    · rw [List.map_append, List.map_singleton, ← List.concat_eq_append, List.nodup_concat]
      exact ⟨hnew, hfit.distinct⟩

/-- What is wrong with a row of entries at the first one that does not fit beside those before
it. -/
inductive FirstClash (sources : List NameSource) : NameError → Prop where
  /-- Its custom property is ill formed. -/
  | invalid {before after : List NameSource} {source : NameSource}
      (hrow : sources = before ++ source :: after) (hfit : NamesFit before)
      (hinvalid : isVariableName source.property = false) :
      FirstClash sources (.invalid source)
  /-- Its custom property is that of an earlier entry. -/
  | taken {before after : List NameSource} {first source : NameSource}
      (hrow : sources = before ++ source :: after) (hfit : NamesFit before)
      (hvalid : isVariableName source.property = true) (hfirst : first ∈ before)
      (hsame : first.property = source.property) :
      FirstClash sources (.taken first source)

/-! ## The walk -/

/-- The names that a row of entries has taken, the last one first. -/
def takenNames (sources : List NameSource) : Entries NameSource :=
  (sources.map fun source => (source.property, source)).reverse

theorem takenNames_concat (before : List NameSource) (source : NameSource) :
    takenNames (before ++ [source]) = (source.property, source) :: takenNames before := by
  simp [takenNames]

theorem keys_takenNames (sources : List NameSource) :
    Entries.keys (takenNames sources) = (sources.map NameSource.property).reverse := by
  simp [takenNames, Entries.keys, Function.comp_def]

theorem mem_takenNames {sources : List NameSource} {name : String} {source : NameSource} :
    (name, source) ∈ takenNames sources ↔ source ∈ sources ∧ source.property = name := by
  simp [takenNames, and_comm]

/-- A name is taken by the entry that has it. -/
theorem get?_takenNames_iff {sources : List NameSource} (hfit : NamesFit sources) {name : String}
    {source : NameSource} :
    Entries.get? (takenNames sources) name = some source ↔
      source ∈ sources ∧ source.property = name := by
  rw [← mem_takenNames]
  refine ⟨Entries.mem_of_get?, Entries.get?_of_mem ?_⟩
  rw [Entries.Distinct, keys_takenNames, List.nodup_reverse]
  exact hfit.distinct

/-- A name is not taken when no entry has it. -/
theorem get?_takenNames_eq_none_iff {sources : List NameSource} {name : String} :
    Entries.get? (takenNames sources) name = none ↔
      name ∉ sources.map NameSource.property := by
  rw [Entries.get?_eq_none_iff, keys_takenNames, List.mem_reverse]

/-- The walk goes past an entry that fits beside those before it. -/
theorem checkSources_cons_of_namesFit {before rest : List NameSource} {source : NameSource}
    (hfit : NamesFit (before ++ [source])) :
    checkSources (takenNames before) (source :: rest) =
      checkSources (takenNames (before ++ [source])) rest := by
  obtain ⟨-, hvalid, hnew⟩ := namesFit_concat_iff.mp hfit
  rw [checkSources, get?_takenNames_eq_none_iff.mpr hnew, takenNames_concat]
  simp [hvalid]

/-- The walk goes past all entries of a row that fits. -/
theorem checkSources_append_of_namesFit {before : List NameSource} (hfit : NamesFit before)
    (rest : List NameSource) :
    checkSources [] (before ++ rest) = checkSources (takenNames before) rest := by
  induction before using List.reverseRecOn generalizing rest with
  | nil => rfl
  | append_singleton front source ih =>
      rw [List.append_assoc, List.singleton_append, ih hfit.of_append,
        checkSources_cons_of_namesFit hfit]

/-- A walk that goes on behind entries that fit stops at the first clash. -/
theorem firstClash_of_checkSources {before rest : List NameSource} {error : NameError}
    (hfit : NamesFit before) (h : checkSources (takenNames before) rest = .error error) :
    FirstClash (before ++ rest) error := by
  induction rest generalizing before with
  | nil => cases h
  | cons source rest ih =>
      cases hvalid : isVariableName source.property with
      | false =>
          rw [checkSources] at h
          simp only [hvalid, Bool.not_false, if_true, Except.error.injEq] at h
          subst h
          exact .invalid rfl hfit hvalid
      | true =>
          cases htaken : Entries.get? (takenNames before) source.property with
          | some first =>
              obtain ⟨hfirst, hsame⟩ := (get?_takenNames_iff hfit).mp htaken
              rw [checkSources] at h
              simp only [hvalid, htaken, Bool.not_true, Bool.false_eq_true, if_false,
                Except.error.injEq] at h
              subst h
              exact .taken rfl hfit hvalid hfirst hsame
          | none =>
              -- The row that fits takes the entry in at its end, as the walk takes its name in.
              have hnext := namesFit_concat_iff.mpr
                ⟨hfit, hvalid, get?_takenNames_eq_none_iff.mp htaken⟩
              rw [checkSources_cons_of_namesFit hnext] at h
              have hclash := ih hnext h
              rwa [List.append_assoc, List.singleton_append] at hclash

/-- The walk stops with an error exactly at the first clash. -/
theorem checkSources_eq_error_iff {sources : List NameSource} {error : NameError} :
    checkSources [] sources = .error error ↔ FirstClash sources error := by
  constructor
  · exact firstClash_of_checkSources namesFit_nil
  · rintro (⟨rfl, hfit, hinvalid⟩ | ⟨rfl, hfit, hvalid, hfirst, hsame⟩)
    · rw [checkSources_append_of_namesFit hfit, checkSources]
      simp [hinvalid]
    · have htaken := (get?_takenNames_iff hfit).mpr ⟨hfirst, hsame⟩
      rw [checkSources_append_of_namesFit hfit, checkSources, htaken]
      simp [hvalid]

/-- The walk ends well exactly when the entries fit. -/
theorem checkSources_nil_eq_ok_iff {sources : List NameSource} :
    checkSources [] sources = .ok () ↔ NamesFit sources := by
  rw [checkSources_eq_ok_iff]
  simp only [Entries.keys_nil, List.not_mem_nil, not_false_eq_true, and_true]
  exact ⟨fun h => ⟨h.1, h.2⟩, fun h => ⟨h.valid, h.distinct⟩⟩

/-- Entries do not fit exactly when there is a first clash. -/
theorem not_namesFit_iff {sources : List NameSource} :
    ¬ NamesFit sources ↔ ∃ error, FirstClash sources error := by
  rw [← checkSources_nil_eq_ok_iff]
  simp only [← checkSources_eq_error_iff]
  cases checkSources [] sources <;> simp

/-! ## The entries of a store -/

namespace TokenStore

/-- An entry is one of the store: its place in the brand palette, in a scale or in the tree
leads to a value. -/
def Holds (store : TokenStore) : NameSource → Prop
  | .brandColor family shade => (paletteColor? store.brand family shade).isSome = true
  | .scaleEntry kind key => (Entries.get? (store.scales.get kind) key).isSome = true
  | .token path => ∃ value, store.find? path = some (.leaf value)

/-- The entries of a store are the shades of its brand palette, the names of its scales and the
paths of its leaves. -/
theorem nameSources_eq (store : TokenStore) :
    store.nameSources =
      (shadeNames store.brand).map (fun entry => .brandColor entry.1 entry.2) ++
        ScaleKind.all.flatMap (fun kind =>
          (Entries.keys (store.scales.get kind)).map (.scaleEntry kind)) ++
        store.leafPaths.map .token := by
  simp [nameSources, ← map_paletteEntries, leafPaths, Entries.keys, Function.comp_def]

variable {store : TokenStore} (hroot : store.root.WellNamed)
  (hbrand : DistinctPalette store.brand)

include hroot hbrand

/-- What is listed are the entries of the store. -/
theorem mem_nameSources_iff (source : NameSource) :
    source ∈ store.nameSources ↔ store.Holds source := by
  rw [nameSources_eq, List.mem_append, List.mem_append]
  cases source with
  | brandColor family shade =>
      rw [Holds, ← mem_shadeNames_iff hbrand]
      simp
  | scaleEntry kind key =>
      rw [Holds, Entries.get?_isSome_iff]
      simp [ScaleKind.mem_all]
  | token path =>
      rw [Holds, ← mem_leafPaths_iff hroot]
      simp

/-- No entry is listed twice. -/
theorem nodup_nameSources (hscales : ∀ kind, Entries.Distinct (store.scales.get kind)) :
    store.nameSources.Nodup := by
  have hcolors : ((shadeNames store.brand).map
      fun entry => NameSource.brandColor entry.1 entry.2).Nodup := by
    refine (nodup_shadeNames hbrand).map ?_
    rintro ⟨family, shade⟩ ⟨_, _⟩ heq
    cases heq
    rfl
  have hkinds : (ScaleKind.all.flatMap fun kind =>
      (Entries.keys (store.scales.get kind)).map (NameSource.scaleEntry kind)).Nodup := by
    rw [List.nodup_flatMap]
    refine ⟨fun kind _ => (hscales kind).map fun _ _ heq => (NameSource.scaleEntry.inj heq).2, ?_⟩
    have hall : ScaleKind.all.Pairwise (· ≠ ·) := by decide
    refine hall.imp fun hne source hfirst hsecond => ?_
    obtain ⟨_, -, rfl⟩ := List.mem_map.mp hfirst
    obtain ⟨_, -, heq⟩ := List.mem_map.mp hsecond
    exact hne (NameSource.scaleEntry.inj heq).1.symm
  have htokens : (store.leafPaths.map NameSource.token).Nodup :=
    (nodup_leafPaths hroot).map fun _ _ heq => NameSource.token.inj heq
  rw [nameSources_eq, List.nodup_append, List.nodup_append]
  refine ⟨⟨hcolors, hkinds, ?_⟩, htokens, ?_⟩
  · rintro source hcolor _ hscale rfl
    obtain ⟨_, -, rfl⟩ := List.mem_map.mp hcolor
    simp at hscale
  · rintro source hbefore _ htoken rfl
    obtain ⟨_, -, rfl⟩ := List.mem_map.mp htoken
    simp at hbefore

end TokenStore

/-! ## Reading a store -/

namespace Sample

/-- The source of a store with a token under the name of a scale entry, and behind it one under
the name of a brand color. -/
def clashingEntries : List (Scalar × Datum) :=
  [(.text "brand", .map [(.text "primary", .map [(.text "500", .text "#0ea5e9")])]),
    (.text "fontSizes", .map [(.text "body", .text "1rem")]),
    (.text "semantic", .map [
      (.text "link", .text "brand.primary.500"),
      (.text "fontSize", .map [(.text "body", .text "16px")]),
      (.text "colorBrand", .map [(.text "primary.500", .text "#111111")])])]

/-- The store with these fields. -/
def clashingStore : TokenStore where
  brand := [("primary", [("500", "#0ea5e9")])]
  semantic := [
    ("link", .leaf (.plain "brand.primary.500")),
    ("fontSize", .group [("body", .leaf (.plain "16px"))]),
    ("colorBrand", .group [("primary.500", .leaf (.plain "#111111"))])]
  scales := { fontSizes := [("body", "1rem")] }

end Sample

namespace TokenStore

section Reading

/-! With good fields only the names decide about the outcome. -/

variable {entries : List (Scalar × Datum)} {store : TokenStore}
  (hread : readFields entries = .ok store)

include hread

/-- The store is given back exactly when its names are good. -/
theorem ofSource_eq_ok_iff : ofSource entries = .ok store ↔ store.checkNames = .ok () := by
  refine ⟨fun h => (checkNames_of_ofSource h).2, fun h => ?_⟩
  rw [ofSource, hread]
  simp only [h]

/-- What is wrong with the names is the only issue that is told. -/
theorem ofSource_eq_error_iff {issues : StoreIssues} :
    ofSource entries = .error issues ↔
      ∃ error, store.checkNames = .error error ∧
        issues = [⟨[], .rejected (.names error)⟩] := by
  rw [ofSource, hread]
  cases hnames : store.checkNames <;> simp [hnames, eq_comm]

end Reading

/-- The check of names is exact for every source whose fields are good by themselves. It goes
through the entries of the store, each of them once. The store is given back exactly when their
custom properties fit beside each other. Otherwise there is a first clash, and the one issue
that is told names its entry and, where the name is taken, the earlier entry that has it. -/
theorem ofSource_namesFit_or_firstClash {entries : List (Scalar × Datum)} {store : TokenStore}
    (hwell : Datum.EntriesWellNamed entries) (hread : readFields entries = .ok store) :
    (∀ source, source ∈ store.nameSources ↔ store.Holds source) ∧
      store.nameSources.Nodup ∧
      (ofSource entries = .ok store ↔ NamesFit store.nameSources) ∧
      (¬ NamesFit store.nameSources ↔ ∃ error, FirstClash store.nameSources error) ∧
      ∀ issues, ofSource entries = .error issues ↔
        ∃ error, FirstClash store.nameSources error ∧
          issues = [⟨[], .rejected (.names error)⟩] := by
  have hroot := wellNamed_root_of_readFields hwell hread
  obtain ⟨-, hbrand, hscales⟩ := distinct_of_readFields hread
  refine ⟨mem_nameSources_iff hroot hbrand, nodup_nameSources hroot hbrand hscales, ?_,
    not_namesFit_iff, ?_⟩
  · exact (ofSource_eq_ok_iff hread).trans checkSources_nil_eq_ok_iff
  · intro issues
    simp only [ofSource_eq_error_iff hread, checkNames, checkSources_eq_error_iff]

/-- A token takes the name of a scale entry. The clash of the token behind it with the brand
color is not told. -/
theorem ofSource_namesFit_or_firstClash_fontSize :
    let error : NameError := .taken (.scaleEntry .fontSizes "body") (.token ["fontSize", "body"])
    Datum.EntriesWellNamed Sample.clashingEntries ∧
      readFields Sample.clashingEntries = .ok Sample.clashingStore ∧
      ¬ NamesFit Sample.clashingStore.nameSources ∧
      FirstClash Sample.clashingStore.nameSources error ∧
      ofSource Sample.clashingEntries = .error [⟨[], .rejected (.names error)⟩] ∧
      error.message = "Scale entry 'font_sizes.body' and Token 'fontSize.body' both map to " ++
        "'--mond-font-size-body'" := by
  intro error
  have hwell : Datum.EntriesWellNamed Sample.clashingEntries := by
    simp [Sample.clashingEntries, Datum.EntriesWellNamed, Datum.TreesWellNamed, Datum.text]
  have hread : readFields Sample.clashingEntries = .ok Sample.clashingStore :=
    Sample.eq_ok_of_toOption (by decide +kernel)
  have hrow : Sample.clashingStore.nameSources =
      [.brandColor "primary" "500", .scaleEntry .fontSizes "body", .token ["link"]] ++
        .token ["fontSize", "body"] :: [.token ["colorBrand", "primary.500"]] := by
    decide +kernel
  have hclash : FirstClash Sample.clashingStore.nameSources error :=
    .taken hrow ⟨by decide +kernel, by decide +kernel⟩ (by decide +kernel) (by decide)
      (by decide +kernel)
  obtain ⟨-, -, -, hfit, hissues⟩ := ofSource_namesFit_or_firstClash hwell hread
  exact ⟨hwell, hread, hfit.mpr ⟨error, hclash⟩, hclash,
    (hissues _).mpr ⟨error, hclash, rfl⟩, by decide +kernel⟩

end TokenStore

end DesignTokens
