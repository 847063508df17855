import DesignTokens.Proofs.Braces
import DesignTokens.Proofs.BrandNames

/-!
# The rule blocks of a stylesheet

A stylesheet is a header without braces and two blocks, each a fixed selector, an opening
brace, one declaration to a line, and a closing brace. Names and values are written as they
are, so the four braces of the blocks are the only ones exactly when no name and no value has
one. The names of a store have none, but its values are not checked, and neither is the
palette of a brand theme.
-/

namespace DesignTokens

/-! ## The text of a block -/

/-- The declarations of a set in the order in which they are written. -/
def declarationLines (entries : Entries String) (indent : String) : List String :=
  (sortNames (Entries.keys entries)).map fun name =>
    declaration indent name ((Entries.get? entries name).getD "")

/-- What stands between the braces of a block: every declaration with the end of its line. -/
def blockBody (entries : Entries String) (indent : String) : String :=
  String.join ((declarationLines entries indent).map fun line => line ++ "\n")

theorem declaration_eq (indent name value : String) :
    declaration indent name value = indent ++ name ++ ": " ++ value ++ ";" := rfl

theorem declaration_ne_empty (indent name value : String) :
    declaration indent name value ≠ "" := by
  intro h
  have hends := (String.append_eq_empty_iff.mp h).2
  revert hends
  decide

/-- Lines with breaks between them and one at the end are lines that all end in a break. -/
theorem intercalate_newline_append (first : String) (rest : List String) :
    "\n".intercalate (first :: rest) ++ "\n" =
      String.join ((first :: rest).map fun line => line ++ "\n") := by
  induction rest generalizing first with
  | nil =>
      rw [String.intercalate_singleton, List.map_singleton, String.join_cons, String.join_nil,
        String.append_empty]
  | cons second others ih =>
      have hbehind := ih second
      rw [String.intercalate_cons_cons, String.append_assoc, hbehind]
      exact String.join_cons.symm

theorem intercalate_newline_ne_empty {first : String} (h : first ≠ "") (rest : List String) :
    "\n".intercalate (first :: rest) ≠ "" := by
  cases rest with
  | nil => rwa [String.intercalate_singleton]
  | cons second others =>
      rw [String.intercalate_cons_cons]
      intro hempty
      exact h (String.append_eq_empty_iff.mp (String.append_eq_empty_iff.mp hempty).1).1

/-- A block is its selector and the declarations between two braces. -/
theorem formatBlock_eq (selector : String) (entries : Entries String) (indent : String) :
    formatBlock selector entries indent =
      selector ++ " \x7b\n" ++ blockBody entries indent ++ "\x7d" := by
  have hbody : formatVariables entries indent =
      "\n".intercalate (declarationLines entries indent) := rfl
  unfold formatBlock blockBody
  rw [hbody]
  cases hlines : declarationLines entries indent with
  | nil =>
      rw [String.intercalate_nil, List.map_nil, String.join_nil, String.append_empty]
      rw [String.append_assoc]
      rfl
  | cons first rest =>
      have hfirst : first ≠ "" := by
        have hmem : first ∈ declarationLines entries indent := hlines ▸ List.mem_cons_self
        obtain ⟨name, -, rfl⟩ := List.mem_map.mp hmem
        exact declaration_ne_empty indent name _
      have hnonempty := intercalate_newline_ne_empty hfirst rest
      have hclose : "\n\x7d" = "\n" ++ "\x7d" := rfl
      simp only [beq_iff_eq, hnonempty, if_false]
      rw [← intercalate_newline_append, hclose]
      simp only [String.append_assoc]

theorem isBraceFree_join {parts : List String} :
    IsBraceFree (String.join parts) ↔ ∀ part ∈ parts, IsBraceFree part := by
  unfold IsBraceFree
  simp only [String.toList_join, List.mem_flatMap]
  constructor
  · intro h part hpart c hc
    exact h c ⟨part, hpart, hc⟩
  · rintro h c ⟨part, hpart, hc⟩
    exact h part hpart c hc

theorem isBraceFree_declaration {indent name value : String} :
    IsBraceFree (declaration indent name value) ↔
      IsBraceFree indent ∧ IsBraceFree name ∧ IsBraceFree value := by
  have hcolon : IsBraceFree ": " := by decide
  have hends : IsBraceFree ";" := by decide
  rw [declaration_eq]
  simp only [isBraceFree_append, hcolon, hends, and_true, and_assoc]

/-- Between the braces of a block stands another one exactly when a name or a value has one. -/
theorem isBraceFree_blockBody {entries : Entries String} {indent : String}
    (hd : Entries.Distinct entries) (hindent : IsBraceFree indent) :
    IsBraceFree (blockBody entries indent) ↔
      ∀ entry ∈ entries, IsBraceFree entry.1 ∧ IsBraceFree entry.2 := by
  have hbreak : IsBraceFree "\n" := by decide
  have hline {name : String} : IsBraceFree (declaration indent name
      ((Entries.get? entries name).getD "") ++ "\n") ↔
      IsBraceFree name ∧ IsBraceFree ((Entries.get? entries name).getD "") := by
    rw [isBraceFree_append, isBraceFree_declaration]
    simp only [hindent, hbreak, true_and, and_true]
  rw [blockBody, isBraceFree_join, List.forall_mem_map, declarationLines, List.forall_mem_map]
  constructor
  · intro h entry hentry
    have hname : entry.1 ∈ sortNames (Entries.keys entries) :=
      List.mem_mergeSort.mpr (List.mem_map.mpr ⟨entry, hentry, rfl⟩)
    have hboth := hline.mp (h entry.1 hname)
    rwa [Entries.get?_of_mem hd hentry, Option.getD_some] at hboth
  · intro h name hname
    obtain ⟨entry, hentry, rfl⟩ := List.mem_map.mp (List.mem_mergeSort.mp hname)
    apply hline.mpr
    rw [Entries.get?_of_mem hd hentry, Option.getD_some]
    exact h entry hentry

/-! ## The text of a stylesheet -/

/-- The header with a display name that can stand in it has no brace. -/
theorem isBraceFree_header {name : String} (h : isHeaderSafe name = true)
    (generatedAt : Moment) :
    IsBraceFree ("\n".intercalate (headerLines generatedAt name)) := by
  have hname := isBraceFree_of_isHeaderSafe h
  have hmoment := isBraceFree_iso generatedAt
  rw [headerLines]
  apply isBraceFree_intercalate (by decide)
  rw [List.forall_mem_append, List.forall_mem_append]
  refine ⟨⟨by decide, ?_⟩, ?_⟩
  · split
    · simp
    · intro line hline
      rw [List.mem_singleton.mp hline]
      have hstart : IsBraceFree " * Brand: " := by decide
      exact isBraceFree_append.mpr ⟨hstart, hname⟩
  · rw [List.forall_mem_cons, List.forall_mem_singleton]
    have hstart : IsBraceFree " * Generated: " := by decide
    exact ⟨isBraceFree_append.mpr ⟨hstart, hmoment⟩, by decide⟩

namespace StylesheetSource

variable {source : StylesheetSource}

/-- The header comment with the display name of the brand theme. -/
def headerText (source : StylesheetSource) (generatedAt : Moment) : String :=
  "\n".intercalate (headerLines generatedAt ((source.brand.map BrandTheme.name).getD ""))

/-- The block of a theme. -/
def blockText (source : StylesheetSource) (sets : VariableSets) (theme : Theme) : String :=
  selector theme ++ " \x7b\n" ++ blockBody (sets.forTheme theme).entries source.indent ++ "\x7d"

/-- A brand theme whose display name can stand in the header, or none. -/
theorem isHeaderSafe_name (hbrand : ∀ brand ∈ source.brand, brand.IsAccepted) :
    isHeaderSafe ((source.brand.map BrandTheme.name).getD "") = true := by
  cases hb : source.brand with
  | none => decide
  | some brand => exact (hbrand brand hb).isHeaderSafe

/-- With such a name a stylesheet is made of the header and both blocks. -/
theorem generate_eq {sets : VariableSets} (hbuild : source.build = .ok sets)
    (hbrand : ∀ brand ∈ source.brand, brand.IsAccepted) (generatedAt : Moment) :
    source.generate generatedAt = .ok (source.headerText generatedAt ++ "\n\n" ++
      source.blockText sets .light ++ "\n\n" ++ source.blockText sets .dark ++ "\n") := by
  have hheader : formatHeader generatedAt (source.brand.map BrandTheme.name) =
      .ok (source.headerText generatedAt) := by
    rw [formatHeader, if_pos (isHeaderSafe_name hbrand)]
    rfl
  rw [generate, hbuild]
  change (source.render sets generatedAt).mapError _ = _
  rw [render, hheader]
  simp only [formatBlock_eq]
  change Except.ok _ = _
  rw [String.intercalate_cons_cons, String.intercalate_cons_cons, String.intercalate_singleton]
  simp only [blockText, String.append_assoc]

/-- The header has no brace. -/
theorem isBraceFree_headerText (hbrand : ∀ brand ∈ source.brand, brand.IsAccepted)
    (generatedAt : Moment) : IsBraceFree (source.headerText generatedAt) :=
  isBraceFree_header (isHeaderSafe_name hbrand) generatedAt

/-- Every brace of a stylesheet is one of the four of its blocks or stands in a block. -/
theorem count_generated (sets : VariableSets)
    (hbrand : ∀ brand ∈ source.brand, brand.IsAccepted) (generatedAt : Moment) {c : Char}
    (hc : c = '\x7b' ∨ c = '\x7d') :
    (source.headerText generatedAt ++ "\n\n" ++ source.blockText sets .light ++ "\n\n" ++
      source.blockText sets .dark ++ "\n").toList.count c =
      2 + (blockBody sets.light.entries source.indent).toList.count c +
        (blockBody sets.dark.entries source.indent).toList.count c := by
  have hheader := isBraceFree_iff_count.mp (isBraceFree_headerText hbrand generatedAt)
  have hselector : ∀ theme, IsBraceFree (selector theme) := by
    intro theme
    cases theme <;> decide
  have hlight := isBraceFree_iff_count.mp (hselector .light)
  have hdark := isBraceFree_iff_count.mp (hselector .dark)
  simp only [blockText, VariableSets.forTheme, String.toList_append, List.count_append]
  rcases hc with rfl | rfl
  · have hmarks : "\n\n".toList.count '\x7b' = 0 ∧ "\n".toList.count '\x7b' = 0 ∧
        " \x7b\n".toList.count '\x7b' = 1 ∧ "\x7d".toList.count '\x7b' = 0 := by decide
    omega
  · have hmarks : "\n\n".toList.count '\x7d' = 0 ∧ "\n".toList.count '\x7d' = 0 ∧
        " \x7b\n".toList.count '\x7d' = 0 ∧ "\x7d".toList.count '\x7d' = 1 := by decide
    omega

/-- The four braces of the blocks are the only ones exactly when none stands in a block. -/
theorem counts_generated_iff (sets : VariableSets)
    (hbrand : ∀ brand ∈ source.brand, brand.IsAccepted) (generatedAt : Moment) :
    ((source.headerText generatedAt ++ "\n\n" ++ source.blockText sets .light ++ "\n\n" ++
      source.blockText sets .dark ++ "\n").toList.count '\x7b' = 2 ∧
    (source.headerText generatedAt ++ "\n\n" ++ source.blockText sets .light ++ "\n\n" ++
      source.blockText sets .dark ++ "\n").toList.count '\x7d' = 2) ↔
      IsBraceFree (blockBody sets.light.entries source.indent) ∧
        IsBraceFree (blockBody sets.dark.entries source.indent) := by
  rw [count_generated sets hbrand generatedAt (Or.inl rfl),
    count_generated sets hbrand generatedAt (Or.inr rfl), isBraceFree_iff_count,
    isBraceFree_iff_count]
  omega

/-- In a build no name stands twice in a set. -/
theorem distinct_build {sets : VariableSets} (hbuild : source.build = .ok sets) (theme : Theme) :
    Entries.Distinct (sets.forTheme theme).entries := by
  rw [build_eq] at hbuild
  cases hbuild
  cases theme with
  | light => exact Entries.distinct_ofList _
  | dark => exact Entries.distinct_ofList _

/-! ## Where braces come from -/

/-- No text that values or added names are made of has a brace. -/
structure TextsBraceFree (source : StylesheetSource) : Prop where
  /-- The raw palettes. -/
  colors : ∀ entry ∈ paletteEntries source.store.colors, IsBraceFree entry.2.2
  /-- The brand palette of the store. -/
  brandColors : ∀ entry ∈ paletteEntries source.store.brand, IsBraceFree entry.2.2
  /-- The tokens. -/
  tokens : ∀ leaf ∈ source.store.leaves, ∀ theme, ∀ text ∈ leaf.2.textFor theme,
    IsBraceFree text
  /-- The scales. -/
  scales : ∀ kind, ∀ entry ∈ source.store.scales.get kind, IsBraceFree entry.2
  /-- The palette of the brand theme, with its families and shades. -/
  brandTheme : ∀ brand ∈ source.brand, ∀ entry ∈ paletteEntries brand.brand,
    IsBraceFree entry.1 ∧ IsBraceFree entry.2.1 ∧ IsBraceFree entry.2.2

/-- What a reference points at has no brace. -/
theorem TextsBraceFree.isBraceFree_of_pointsAt (h : source.TextsBraceFree) {theme : Theme}
    {reference text : String}
    (hpoints : PointsAt source.store source.brand theme reference text) : IsBraceFree text := by
  cases hpoints with
  | brandTheme hname hactive hcolor =>
      exact (h.brandTheme _ hactive _ (mem_paletteEntries_of_paletteColor? hcolor)).2.2
  | brandPalette hname hnone hcolor =>
      exact h.brandColors _ (mem_paletteEntries_of_paletteColor? hcolor)
  | rawPalette hname hcolor => exact h.colors _ (mem_paletteEntries_of_paletteColor? hcolor)
  | token hbrand hraw hleaf htext =>
      exact h.tokens _ (TokenStore.mem_leaves_of_find? hleaf) theme _ htext

/-- What a text without braces stands for has none: every step of a derivation takes its
characters from the text or from what a reference in it points at. -/
theorem TextsBraceFree.isBraceFree_of_denotes (h : source.TextsBraceFree) {theme : Theme}
    {raw value : String} {height : Nat}
    (hdenotes : Denotes source.store source.brand theme raw value height)
    (hraw : IsBraceFree raw) : IsBraceFree value := by
  induction hdenotes with
  | literal hne hgradient hreference => exact isBraceFree_of_subset (toList_strip_subset _) hraw
  | reference hgradient hreference hnext hvalue ih => exact ih (h.isBraceFree_of_pointsAt hnext)
  | @gradient raw next value height hgradient hnext hvalue ih =>
      apply isBraceFree_of_forall_mem
      intro c hc hbrace
      rw [String.toList_ofList] at hc
      rcases mem_fill hc with hchar | ⟨name, hname, hc⟩
      · rw [flatten_pieces] at hchar
        exact ⟨raw, hraw, toList_strip_subset raw hchar⟩
      · exact ⟨value name, ih name hname (h.isBraceFree_of_pointsAt (hnext name hname)), hc⟩

/-- The names of a store that is accepted have no brace. -/
theorem isBraceFree_of_mem_names {store : TokenStore} (h : store.WellFormed) {name : String}
    (hname : name ∈ store.nameSources.map NameSource.property) : IsBraceFree name := by
  obtain ⟨entry, hentry, rfl⟩ := List.mem_map.mp hname
  exact isBraceFree_of_isVariableName (h.valid entry hentry)

/-- A color of the merged palette has no brace in its name and its value. -/
theorem TextsBraceFree.isBraceFree_of_mem_brandVariables (h : source.TextsBraceFree)
    (hstore : source.store.IsAccepted) (hbrand : ∀ brand ∈ source.brand, brand.IsAccepted)
    {entry : String × String}
    (hentry : entry ∈ VariableSet.brandVariables source.brandPalette) :
    IsBraceFree entry.1 ∧ IsBraceFree entry.2 := by
  rw [VariableSet.brandVariables_eq_map] at hentry
  obtain ⟨⟨family, shade, color⟩, hcolor, rfl⟩ := List.mem_map.mp hentry
  rw [mem_paletteEntries_iff (distinctPalette_brandPalette hstore.distinctPalette),
    paletteColor?_brandPalette fun brand hb => (hbrand brand hb).distinctPalette] at hcolor
  rcases Option.or_eq_some_iff.mp hcolor with hown | ⟨-, hheld⟩
  · obtain ⟨active, hactive, hfound⟩ := Option.bind_eq_some_iff.mp hown
    obtain ⟨hfamily, hshade, hvalue⟩ :=
      h.brandTheme active hactive _ (mem_paletteEntries_of_paletteColor? hfound)
    refine ⟨isBraceFree_variableName ?_, hvalue⟩
    rw [List.forall_mem_cons, List.forall_mem_cons, List.forall_mem_singleton]
    exact ⟨by decide, hfamily, hshade⟩
  · have hmem := mem_paletteEntries_of_paletteColor? hheld
    refine ⟨isBraceFree_of_mem_names hstore.wellFormed ?_, h.brandColors _ hmem⟩
    rw [TokenStore.map_property_nameSources, VariableSet.brandVariables_eq_map]
    apply List.mem_append_left
    apply List.mem_append_left
    exact List.mem_map.mpr ⟨_, List.mem_map.mpr ⟨_, hmem, rfl⟩, rfl⟩

/-- The value of a leaf has no brace, and neither has its name. -/
theorem TextsBraceFree.isBraceFree_of_mem_emitted (h : source.TextsBraceFree)
    (hstore : source.store.WellFormed) {theme : Theme} {entry : String × String}
    (hentry : entry ∈ source.resolver.emitted theme source.store.leaves) :
    IsBraceFree entry.1 ∧ IsBraceFree entry.2 := by
  obtain ⟨leaf, hleaf, hname, hvalue⟩ := source.resolver.exists_of_mem_emitted hentry
  rw [Resolver.unwrap_resolve_eq_ok_iff, Resolver.resolvePath_eq_ok_iff] at hvalue
  obtain ⟨found, text, hfind, htext, hvalue⟩ := hvalue
  obtain ⟨height, hdenotes, -⟩ := Resolver.resolveText_eq_ok_iff.mp hvalue
  have hfree := h.tokens _ (TokenStore.mem_leaves_of_find? hfind) theme text htext
  refine ⟨isBraceFree_of_mem_names hstore ?_, h.isBraceFree_of_denotes hdenotes hfree⟩
  rw [TokenStore.map_property_nameSources, hname]
  exact List.mem_append_right _ (List.mem_map.mpr ⟨leaf, hleaf, rfl⟩)

/-- A scale entry has no brace in its name and its value. -/
theorem TextsBraceFree.isBraceFree_of_mem_scaleVariables (h : source.TextsBraceFree)
    (hstore : source.store.WellFormed) {entry : String × String}
    (hentry : entry ∈ source.store.scaleVariables) :
    IsBraceFree entry.1 ∧ IsBraceFree entry.2 := by
  constructor
  · apply isBraceFree_of_mem_names hstore
    rw [TokenStore.map_property_nameSources]
    apply List.mem_append_left
    apply List.mem_append_right
    exact List.mem_map.mpr ⟨entry, hentry, rfl⟩
  · rw [TokenStore.scaleVariables_eq_flatMap] at hentry
    obtain ⟨kind, -, hscale⟩ := List.mem_flatMap.mp hentry
    obtain ⟨held, hheld, rfl⟩ := List.mem_map.mp hscale
    exact h.scales kind held hheld

/-- No declaration of a build has a brace. -/
theorem TextsBraceFree.isBraceFree_of_build (h : source.TextsBraceFree)
    (hstore : source.store.IsAccepted) (hbrand : ∀ brand ∈ source.brand, brand.IsAccepted)
    {sets : VariableSets} (hbuild : source.build = .ok sets) (theme : Theme) :
    ∀ entry ∈ (sets.forTheme theme).entries, IsBraceFree entry.1 ∧ IsBraceFree entry.2 := by
  have hwell := hstore.wellFormed
  intro entry hentry
  rw [build_eq] at hbuild
  cases hbuild
  cases theme with
  | dark =>
      rcases Entries.mem_putAll hentry with hnil | hleaf
      · cases hnil
      · exact h.isBraceFree_of_mem_emitted hwell hleaf
  | light =>
      rcases Entries.mem_putAll hentry with hnil | hwritten
      · cases hnil
      · rcases List.mem_append.mp hwritten with hfront | hscale
        · rcases List.mem_append.mp hfront with hcolor | hleaf
          · exact h.isBraceFree_of_mem_brandVariables hstore hbrand hcolor
          · exact h.isBraceFree_of_mem_emitted hwell hleaf
        · exact h.isBraceFree_of_mem_scaleVariables hwell hscale

/-- A stylesheet is made for every accepted store and brand theme. It is a header without
braces and two blocks, and the four braces of the blocks are the only ones exactly when no
name and no value of either set has one. This is so where no text of the store and of the
palette of the brand theme has one. -/
theorem count_braces_generate_iff (source : StylesheetSource)
    (hstore : source.store.IsAccepted) (hbrand : ∀ brand ∈ source.brand, brand.IsAccepted)
    (hindent : IsBraceFree source.indent) (generatedAt : Moment) :
    ∃ sets text, source.build = .ok sets ∧ source.generate generatedAt = .ok text ∧
      text = source.headerText generatedAt ++ "\n\n" ++ source.blockText sets .light ++ "\n\n" ++
        source.blockText sets .dark ++ "\n" ∧
      IsBraceFree (source.headerText generatedAt) ∧
      (text.toList.count '\x7b' = 2 ∧ text.toList.count '\x7d' = 2 ↔
        ∀ theme, ∀ entry ∈ (sets.forTheme theme).entries,
          IsBraceFree entry.1 ∧ IsBraceFree entry.2) ∧
      (source.TextsBraceFree →
        text.toList.count '\x7b' = 2 ∧ text.toList.count '\x7d' = 2) := by
  have hbuild := source.build_eq
  generalize VariableSets.mk _ _ = sets at hbuild
  have hbody (theme : Theme) := isBraceFree_blockBody (distinct_build hbuild theme) hindent
  have hcounts := counts_generated_iff sets hbrand generatedAt
  have hiff := hcounts.trans ((hbody .light).and (hbody .dark))
  rw [← Theme.forall_iff (p := fun theme => ∀ entry ∈ (sets.forTheme theme).entries,
    IsBraceFree entry.1 ∧ IsBraceFree entry.2)] at hiff
  exact ⟨sets, _, hbuild, generate_eq hbuild hbrand generatedAt, rfl,
    isBraceFree_headerText hbrand generatedAt, hiff,
    fun h => hiff.mpr (h.isBraceFree_of_build hstore hbrand hbuild)⟩

end StylesheetSource

/-! ## A value with a brace -/

namespace Sample

/-- A store with one token, whose text has a brace. -/
def openingStore : TokenStore where
  semantic := [("note", .leaf (.plain "a \x7b b"))]

/-- The stylesheet of the store. -/
def openingSource : StylesheetSource where
  store := openingStore

/-- Noon of the first of January 2026. -/
def noon : Moment where
  date := ⟨2026, 1, 1⟩
  hour := 12
  offset := some 0

theorem openingStore_isAccepted : openingStore.IsAccepted := by
  refine ⟨[(.text "semantic", .map [(.text "note", .text "a \x7b b")])], ?_,
    eq_ok_of_toOption ?_⟩
  · simp [Datum.EntriesWellNamed, Datum.TreesWellNamed, Datum.text]
  · decide +kernel

end Sample

namespace StylesheetSource

/-- The store is accepted and the header of its stylesheet has no brace, but the light block
has the brace of the value, so the four of the blocks are not the only ones. -/
theorem count_braces_generate_opening :
    Sample.openingSource.store.IsAccepted ∧
      (∀ brand ∈ Sample.openingSource.brand, brand.IsAccepted) ∧
      IsBraceFree Sample.openingSource.indent ∧
      ∃ sets text, Sample.openingSource.build = .ok sets ∧
        Sample.openingSource.generate Sample.noon = .ok text ∧
        sets.light.get? "--mond-note" = some "a \x7b b" ∧
        IsBraceFree (Sample.openingSource.headerText Sample.noon) ∧
        ¬ (text.toList.count '\x7b' = 2 ∧ text.toList.count '\x7d' = 2) := by
  have hbrand : ∀ brand ∈ Sample.openingSource.brand, brand.IsAccepted := by
    intro brand h
    cases h
  have hindent : IsBraceFree Sample.openingSource.indent := by decide
  obtain ⟨sets, text, hbuild, hgenerate, -, hheader, hiff, -⟩ :=
    count_braces_generate_iff Sample.openingSource Sample.openingStore_isAccepted hbrand hindent
      Sample.noon
  have hvalue : Sample.openingSource.build.toOption.bind
      (fun sets => sets.light.get? "--mond-note") = some "a \x7b b" := by
    decide +kernel
  rw [hbuild] at hvalue
  have hentry := Entries.mem_of_get? hvalue
  refine ⟨Sample.openingStore_isAccepted, hbrand, hindent, sets, text, hbuild, hgenerate,
    hvalue, hheader, ?_⟩
  intro hcounts
  have hfree := (hiff.mp hcounts .light _ hentry).2
  revert hfree
  decide

end StylesheetSource

end DesignTokens
