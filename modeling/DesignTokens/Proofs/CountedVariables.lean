import DesignTokens.Command.Running
import DesignTokens.Proofs.Occurrences
import DesignTokens.Proofs.ReadDeclarations
import DesignTokens.Proofs.SettledValues
import DesignTokens.Tools.Session
import Mathlib.Algebra.Order.BigOperators.Group.List
import Mathlib.Algebra.Order.Ring.Nat

/-!
# Counted variables

The number that is told of a written stylesheet is that of the occurrences of the start of
names in its text. Every declaration has one, in front of its name. Further ones stand in
values, in names behind their start, and in the display name of a brand theme. So the number
is that of the declarations exactly when there are no further ones.
-/

namespace DesignTokens

open Text

/-! ## Counting -/

section Counting

variable {part : List Char}

/-- Characters that belong to an occurrence are passed over. -/
theorem countFrom_eq_drop (skip : Nat) (s : List Char) :
    countFrom part skip s = countFrom part 0 (s.drop skip) := by
  induction s generalizing skip with
  | nil => rw [List.drop_nil, countFrom, countFrom]
  | cons c rest ih =>
      cases skip with
      | zero => rw [List.drop_zero]
      | succ left => rw [countFrom, List.drop_succ_cons, ih]

/-- An occurrence at the front counts, and the counting goes on behind it. -/
theorem countFrom_append_self (hne : part ≠ []) (s : List Char) :
    countFrom part 0 (part ++ s) = countFrom part 0 s + 1 := by
  obtain ⟨c, more, rfl⟩ := List.exists_cons_of_ne_nil hne
  have hprefix : (c :: more).isPrefixOf (c :: (more ++ s)) = true :=
    List.isPrefixOf_iff_prefix.mpr (List.prefix_append (c :: more) s)
  rw [List.cons_append, countFrom, if_pos hprefix, countFrom_eq_drop, List.length_cons,
    Nat.add_sub_cancel, List.drop_left]

/-- A character that no occurrence has divides the occurrences between both sides. -/
theorem countFrom_append_cons (hne : part ≠ []) {c : Char} (hc : c ∉ part) {skip : Nat}
    {s : List Char} (hskip : skip ≤ s.length) (t : List Char) :
    countFrom part skip (s ++ c :: t) = countFrom part skip s + countFrom part 0 t := by
  have hprefix (s : List Char) : part.isPrefixOf (s ++ c :: t) = part.isPrefixOf s := by
    rw [Bool.eq_iff_iff, List.isPrefixOf_iff_prefix, List.isPrefixOf_iff_prefix,
      prefix_append_cons_iff hc]
  induction s generalizing skip with
  | nil =>
      obtain rfl := Nat.le_zero.mp hskip
      have hnone : part.isPrefixOf (c :: t) = false := by
        have hnil := hprefix []
        rw [List.nil_append] at hnil
        rw [hnil]
        cases part with
        | nil => exact absurd rfl hne
        | cons d more => rfl
      rw [List.nil_append, countFrom, Nat.zero_add, countFrom, hnone, if_neg Bool.false_ne_true]
  | cons d rest ih =>
      cases skip with
      | succ left =>
          rw [List.cons_append, countFrom, countFrom]
          exact ih (Nat.le_of_succ_le_succ hskip)
      | zero =>
          have hhere := hprefix (d :: rest)
          rw [List.cons_append] at hhere
          rw [List.cons_append, countFrom, countFrom, hhere]
          by_cases hoccurs : part.isPrefixOf (d :: rest) = true
          · have hlength := (List.isPrefixOf_iff_prefix.mp hoccurs).length_le
            have hleft : part.length - 1 ≤ rest.length := by
              rw [List.length_cons] at hlength
              omega
            rw [if_pos hoccurs, if_pos hoccurs, ih hleft]
            omega
          · rw [if_neg hoccurs, if_neg hoccurs, ih (Nat.zero_le _)]

/-- Nothing is counted exactly when the part does not occur. -/
theorem countFrom_eq_zero_iff (hne : part ≠ []) {s : List Char} :
    countFrom part 0 s = 0 ↔ occursIn part s = false := by
  induction s with
  | nil =>
      rw [countFrom, occursIn, List.isEmpty_eq_false_iff]
      exact iff_of_true rfl hne
  | cons c rest ih =>
      rw [countFrom, occursIn, Bool.or_eq_false_iff, ← ih]
      by_cases hoccurs : part.isPrefixOf (c :: rest) = true
      · simp [hoccurs]
      · rw [if_neg hoccurs]
        simp [hoccurs]

/-- A part does not occur in a text that lacks one of its characters. -/
theorem countFrom_eq_zero_of_not_mem {c : Char} (hc : c ∈ part) {s : List Char} (h : c ∉ s) :
    countFrom part 0 s = 0 :=
  (countFrom_eq_zero_iff (List.ne_nil_of_mem hc)).mpr (occursIn_eq_false_of_not_mem hc h)

end Counting

/-! ## Occurrences of the start of names -/

theorem variablePrefix_ne_nil : variablePrefix.toList ≠ [] := by decide

/-- The start of names does not occur in the text. -/
def IsUnmarked (s : String) : Prop := occursIn variablePrefix.toList s.toList = false

instance (s : String) : Decidable (IsUnmarked s) :=
  inferInstanceAs (Decidable (occursIn variablePrefix.toList s.toList = false))

theorem countVariables_eq_zero_iff {s : String} : countVariables s = 0 ↔ IsUnmarked s :=
  countFrom_eq_zero_iff variablePrefix_ne_nil

/-- A character that the start of names does not have. -/
def isDivider (c : Char) : Bool := !variablePrefix.toList.contains c

theorem not_mem_of_isDivider {c : Char} (h : isDivider c = true) :
    c ∉ variablePrefix.toList := by
  simpa [isDivider] using h

/-- Occurrences do not go past the end of a text that ends in a divider. -/
theorem countVariables_append_of_getLast? {s t : String}
    (h : s.toList.getLast?.all isDivider = true) :
    countVariables (s ++ t) = countVariables s + countVariables t := by
  rcases List.eq_nil_or_concat s.toList with hnil | ⟨front, c, hs⟩
  · rw [countVariables, countVariables, String.toList_append, hnil, List.nil_append, countFrom,
      Nat.zero_add, countVariables]
  · rw [hs, List.concat_eq_append, List.getLast?_concat, Option.all_some] at h
    have hc := not_mem_of_isDivider h
    have hsplit (t : List Char) := countFrom_append_cons variablePrefix_ne_nil hc
      (Nat.zero_le front.length) t
    rw [countVariables, countVariables, String.toList_append, hs, List.concat_eq_append,
      List.append_assoc, List.singleton_append, hsplit, hsplit, countFrom, countVariables]
    rfl

/-- Occurrences do not go into a text that starts with a divider. -/
theorem countVariables_append_of_head? {s t : String}
    (h : t.toList.head?.all isDivider = true) :
    countVariables (s ++ t) = countVariables s + countVariables t := by
  cases ht : t.toList with
  | nil =>
      rw [countVariables, countVariables, countVariables, String.toList_append, ht,
        List.append_nil, countFrom, Nat.add_zero]
  | cons c rest =>
      rw [ht, List.head?_cons, Option.all_some] at h
      have hc := not_mem_of_isDivider h
      have hsplit (s : List Char) := countFrom_append_cons variablePrefix_ne_nil hc
        (Nat.zero_le s.length) rest
      have hself := hsplit []
      rw [List.nil_append, countFrom, Nat.zero_add] at hself
      rw [countVariables, countVariables, countVariables, String.toList_append, ht, hsplit, hself]

/-- The occurrences in texts that end in dividers add up. -/
theorem countVariables_join {parts : List String}
    (h : ∀ part ∈ parts, part.toList.getLast?.all isDivider = true) :
    countVariables (String.join parts) = (parts.map countVariables).sum := by
  induction parts with
  | nil => rfl
  | cons first rest ih =>
      rw [List.forall_mem_cons] at h
      rw [String.join_cons, countVariables_append_of_getLast? h.1, ih h.2, List.map_cons,
        List.sum_cons]

/-- A text that ends in a divider, with another text in front. -/
theorem getLast?_all_append {s t : String} (hne : t.toList ≠ [])
    (h : t.toList.getLast?.all isDivider = true) :
    (s ++ t).toList.getLast?.all isDivider = true := by
  rw [String.toList_append, List.getLast?_append_of_ne_nil _ hne]
  exact h

/-! ## Declarations -/

/-- What stands behind the start in a name. -/
def nameTail (name : String) : String :=
  String.ofList (name.toList.drop variablePrefix.toList.length)

/-- The occurrences of the start in an entry besides the one in front of its name. -/
def strayMarks (entry : String × String) : Nat :=
  countVariables (nameTail entry.1) + countVariables entry.2

/-- A name has one occurrence in front and those behind it. -/
theorem countVariables_of_prefix {name : String}
    (h : variablePrefix.toList <+: name.toList) :
    countVariables name = countVariables (nameTail name) + 1 := by
  obtain ⟨rest, hrest⟩ := h
  have htail : (nameTail name).toList = rest := by
    rw [nameTail, String.toList_ofList, ← hrest, List.drop_left]
  rw [countVariables, countVariables, htail, ← hrest,
    countFrom_append_self variablePrefix_ne_nil]

/-- A declaration on its line has the occurrence in front of its name and the stray ones. -/
theorem countVariables_declaration {entry : String × String}
    (h : variablePrefix.toList <+: entry.1.toList) :
    countVariables (declaration defaultIndent entry.1 entry.2 ++ "\n") = 1 + strayMarks entry := by
  have hindent : defaultIndent.toList.getLast?.all isDivider = true := by decide
  have hmarks : countVariables defaultIndent = 0 ∧ countVariables ": " = 0 ∧
      countVariables ";" = 0 ∧ countVariables "\n" = 0 := by
    decide +kernel
  have hcolon : (defaultIndent ++ entry.1 ++ ": ").toList.getLast?.all isDivider = true :=
    getLast?_all_append (by decide) (by decide)
  obtain ⟨hstart, hmiddle, hends, hbreak⟩ := hmarks
  rw [declaration_eq, countVariables_append_of_head? (by decide),
    countVariables_append_of_head? (by decide), countVariables_append_of_getLast? hcolon,
    countVariables_append_of_head? (by decide), countVariables_append_of_getLast? hindent,
    countVariables_of_prefix h, hstart, hmiddle, hends, hbreak, strayMarks]
  omega

/-- The declarations of a block have as many occurrences as entries, and the stray ones. -/
theorem countVariables_blockBody {entries : Entries String} (hd : Entries.Distinct entries)
    (hnames : ∀ entry ∈ entries, variablePrefix.toList <+: entry.1.toList) :
    countVariables (blockBody entries defaultIndent) =
      entries.length + (entries.map strayMarks).sum := by
  have hsorted := Entries.sorted_perm hd
  have hline : ∀ entry ∈ Entries.sorted entries,
      countVariables (declaration defaultIndent entry.1 entry.2 ++ "\n") =
        1 + strayMarks entry := by
    intro entry hentry
    exact countVariables_declaration (hnames entry (hsorted.mem_iff.mp hentry))
  have hbreaks : ∀ line ∈ (declarationLines entries defaultIndent).map fun line => line ++ "\n",
      line.toList.getLast?.all isDivider = true := by
    intro line hmem
    obtain ⟨text, -, rfl⟩ := List.mem_map.mp hmem
    exact getLast?_all_append (by decide) (by decide)
  calc countVariables (blockBody entries defaultIndent)
      = (((declarationLines entries defaultIndent).map fun line => line ++ "\n").map
          countVariables).sum := countVariables_join hbreaks
    _ = ((Entries.sorted entries).map fun entry => 1 + strayMarks entry).sum := by
        rw [declarationLines_eq_map_sorted, List.map_map, List.map_map]
        exact congrArg List.sum (List.map_congr_left hline)
    _ = (entries.map fun entry => 1 + strayMarks entry).sum := (hsorted.map _).sum_nat
    _ = entries.length + (entries.map strayMarks).sum := by
        rw [List.sum_map_add, List.map_const', List.sum_replicate_nat, Nat.mul_one]

/-- The occurrences in lines add up. -/
theorem countVariables_intercalate_newline (lines : List String) :
    countVariables ("\n".intercalate lines) = (lines.map countVariables).sum := by
  have hbreak : countVariables "\n" = 0 := by decide +kernel
  induction lines with
  | nil => rfl
  | cons first rest ih =>
      cases rest with
      | nil => rw [String.intercalate_singleton, List.map_singleton, List.sum_singleton]
      | cons second others =>
          have hends : (first ++ "\n").toList.getLast?.all isDivider = true :=
            getLast?_all_append (by decide) (by decide)
          rw [String.intercalate_cons_cons, countVariables_append_of_getLast? hends,
            countVariables_append_of_head? (by decide), hbreak, ih, List.map_cons (a := first),
            List.sum_cons, Nat.add_zero]

/-- A moment is written without the start of names. -/
theorem countVariables_iso (moment : Moment) : countVariables moment.iso = 0 := by
  have hmark : 'm' ∈ variablePrefix.toList := by decide
  apply countFrom_eq_zero_of_not_mem hmark
  intro hmem
  rcases isMomentChar_of_mem_isoWith moment "T" 'm' hmem with hseparator | hmoment
  · exact absurd hseparator (by decide)
  · exact absurd hmoment (by decide)

namespace StylesheetSource

variable {source : StylesheetSource}

/-- The display name that the header shows; without a brand theme it is empty. -/
def displayName (source : StylesheetSource) : String :=
  (source.brand.map BrandTheme.name).getD ""

/-- The header has the occurrences of the display name. -/
theorem countVariables_headerText (source : StylesheetSource) (generatedAt : Moment) :
    countVariables (source.headerText generatedAt) = countVariables source.displayName := by
  have hbrandStart : " * Brand: ".toList.getLast?.all isDivider = true := by decide
  have hbrand : countVariables (" * Brand: " ++ source.displayName) =
      countVariables source.displayName := by
    have hstart : countVariables " * Brand: " = 0 := by decide +kernel
    rw [countVariables_append_of_getLast? hbrandStart, hstart, Nat.zero_add]
  have hgeneratedStart : " * Generated: ".toList.getLast?.all isDivider = true := by decide
  have hgenerated : countVariables (" * Generated: " ++ generatedAt.iso) = 0 := by
    have hstart : countVariables " * Generated: " = 0 := by decide +kernel
    rw [countVariables_append_of_getLast? hgeneratedStart, hstart, countVariables_iso]
  have hfixed : (["/**", " * Mond Design System - Theme CSS Variables", " *",
      " * Auto-generated from design tokens.",
      " * Do not edit this file manually - run 'mond-tokens build' to regenerate.",
      " *"].map countVariables).sum = 0 := by
    decide +kernel
  have hclosing : countVariables " */" = 0 := by decide +kernel
  have hshown : ((if source.displayName == "" then []
      else [s!" * Brand: {source.displayName}"]).map countVariables).sum =
      countVariables source.displayName := by
    by_cases hempty : source.displayName = ""
    · rw [hempty]
      rfl
    · rw [if_neg (by rwa [beq_iff_eq]), List.map_singleton, List.sum_singleton]
      exact hbrand
  calc countVariables (source.headerText generatedAt)
      = ((headerLines generatedAt source.displayName).map countVariables).sum :=
        countVariables_intercalate_newline _
    _ = countVariables source.displayName +
          [countVariables (" * Generated: " ++ generatedAt.iso), countVariables " */"].sum := by
        rw [headerLines, List.map_append, List.map_append, List.sum_append, List.sum_append,
          hfixed, hshown, Nat.zero_add]
        rfl
    _ = countVariables source.displayName := by
        rw [hgenerated, hclosing]
        rfl

/-- Every name of a build starts like all names. -/
theorem prefix_of_mem_build {sets : VariableSets} (hbuild : source.build = .ok sets)
    (theme : Theme) {entry : String × String} (h : entry ∈ (sets.forTheme theme).entries) :
    variablePrefix.toList <+: entry.1.toList := by
  have hname : ∃ segments, entry.1 = variableName segments := by
    cases theme with
    | light =>
        rcases mem_light_cases hbuild h with ⟨color, -, rfl⟩ | hleaf | ⟨kind, scale, -, rfl⟩
        · exact ⟨_, rfl⟩
        · obtain ⟨leaf, -, hname, -⟩ := source.resolver.exists_of_mem_emitted hleaf
          exact ⟨_, hname⟩
        · exact ⟨_, rfl⟩
    | dark =>
        obtain ⟨leaf, -, hname, -⟩ :=
          source.resolver.exists_of_mem_emitted (mem_emitted_of_mem_dark hbuild h)
        exact ⟨_, hname⟩
  obtain ⟨segments, hname⟩ := hname
  rw [hname, variableName, String.toList_append]
  exact List.prefix_append _ _

/-- The occurrences of the start in both sets besides those in front of the names. -/
def strayMarksOf (sets : VariableSets) : Nat :=
  (sets.light.entries.map strayMarks).sum + (sets.dark.entries.map strayMarks).sum

/-- The occurrences in a block are those of its declarations. -/
theorem countVariables_blockText (sets : VariableSets) (theme : Theme) :
    countVariables (source.blockText sets theme) =
      countVariables (blockBody (sets.forTheme theme).entries source.indent) := by
  have hselector : countVariables (selector theme ++ " \x7b\n") = 0 := by
    cases theme <;> decide +kernel
  have hopen : (selector theme ++ " \x7b\n").toList.getLast?.all isDivider = true :=
    getLast?_all_append (by decide) (by decide)
  have hclose : countVariables "\x7d" = 0 := by decide +kernel
  rw [blockText, countVariables_append_of_head? (by decide),
    countVariables_append_of_getLast? hopen, hselector, hclose, Nat.zero_add, Nat.add_zero]

/-- The occurrences in a stylesheet are those in front of the names of its declarations, the
stray ones in the sets and those in the display name. -/
theorem countVariables_generated (source : StylesheetSource)
    (hindent : source.indent = defaultIndent) {sets : VariableSets}
    (hbuild : source.build = .ok sets) (generatedAt : Moment) :
    countVariables (source.headerText generatedAt ++ "\n\n" ++ source.blockText sets .light ++
      "\n\n" ++ source.blockText sets .dark ++ "\n") =
      sets.count + (strayMarksOf sets + countVariables source.displayName) := by
  have hbody (theme : Theme) : countVariables (source.blockText sets theme) =
      (sets.forTheme theme).size + ((sets.forTheme theme).entries.map strayMarks).sum := by
    rw [countVariables_blockText, hindent]
    exact countVariables_blockBody (distinct_build hbuild theme)
      fun entry => prefix_of_mem_build hbuild theme
  have hbreaks : countVariables "\n\n" = 0 ∧ countVariables "\n" = 0 := by decide +kernel
  have hends {front : String} : (front ++ "\n\n").toList.getLast?.all isDivider = true :=
    getLast?_all_append (by decide) (by decide)
  rw [countVariables_append_of_head? (by decide), countVariables_append_of_getLast? hends,
    countVariables_append_of_head? (by decide), countVariables_append_of_getLast? hends,
    countVariables_append_of_head? (by decide), countVariables_headerText, hbody, hbody,
    hbreaks.1, hbreaks.2, VariableSets.count, strayMarksOf]
  simp only [VariableSets.forTheme]
  omega

/-- The start of names stands in no value, in no name behind its start, and not in the display
name. -/
structure IsUnmarkedBuild (source : StylesheetSource) (sets : VariableSets) : Prop where
  values : ∀ theme, ∀ entry ∈ (sets.forTheme theme).entries, IsUnmarked entry.2
  names : ∀ theme, ∀ entry ∈ (sets.forTheme theme).entries, IsUnmarked (nameTail entry.1)
  displayName : IsUnmarked source.displayName

/-- There are no occurrences besides those in front of the names exactly when the start stands
nowhere else. -/
theorem isUnmarkedBuild_iff {sets : VariableSets} :
    source.IsUnmarkedBuild sets ↔
      strayMarksOf sets + countVariables source.displayName = 0 := by
  have hentries (entries : Entries String) : (entries.map strayMarks).sum = 0 ↔
      ∀ entry ∈ entries, IsUnmarked (nameTail entry.1) ∧ IsUnmarked entry.2 := by
    simp only [List.sum_eq_zero_iff, List.forall_mem_map, strayMarks, Nat.add_eq_zero_iff,
      countVariables_eq_zero_iff]
  rw [strayMarksOf, Nat.add_eq_zero_iff, Nat.add_eq_zero_iff, hentries, hentries,
    countVariables_eq_zero_iff]
  constructor
  · intro h
    exact ⟨⟨fun entry hentry => ⟨h.names .light entry hentry, h.values .light entry hentry⟩,
      fun entry hentry => ⟨h.names .dark entry hentry, h.values .dark entry hentry⟩⟩,
      h.displayName⟩
  · rintro ⟨⟨hlight, hdark⟩, hname⟩
    constructor
    · rintro (_ | _) entry hentry
      · exact (hlight entry hentry).2
      · exact (hdark entry hentry).2
    · rintro (_ | _) entry hentry
      · exact (hlight entry hentry).1
      · exact (hdark entry hentry).1
    · exact hname

/-- A stylesheet that is made of sets is the text with these sets. -/
theorem render_eq_of_generate {sets : VariableSets} (hbuild : source.build = .ok sets)
    {generatedAt : Moment} {css : String} (h : source.generate generatedAt = .ok css) :
    source.render sets generatedAt = .ok css := by
  rw [generate, hbuild] at h
  change (source.render sets generatedAt).mapError _ = _ at h
  cases hrender : source.render sets generatedAt with
  | error reason => rw [hrender] at h; cases h
  | ok text => rw [hrender] at h; cases h; rfl

end StylesheetSource

/-! ## What is told -/

/-- A tool that has written a text tells its number of occurrences. -/
theorem Session.eq_countVariables_of_writeCss {session later : Session} {css name : String}
    {path : Path} {count size : Nat}
    (h : session.writeCss css name = (.ok (.written path count size), later)) :
    count = countVariables css := by
  unfold writeCss at h
  split at h
  · cases h
  · dsimp only at h
    split at h
    · cases h
    · cases h
      rfl

/-- A command that has written a stylesheet tells of its text. -/
theorem Command.notices_of_runBuild {source : StylesheetSource} {output : Option Path}
    {time : Moment} {files : FileTree} {sets : VariableSets} (hbuild : source.build = .ok sets)
    {css : String} (hrender : source.render sets time = .ok css) {result : Nat × String}
    {trace : CommandTrace} (h : runBuild source output time files = (.ok result, trace)) :
    ∃ place, output = some place ∧
      trace.notices = source.buildNotices sets ++ buildReport place css sets.skipped := by
  simp only [runBuild, hbuild, hrender] at h
  cases output with
  | none => cases h
  | some place =>
      dsimp only at h
      split at h
      · cases h
      · split at h
        · cases h
        · cases h
          exact ⟨place, rfl, rfl⟩

namespace StylesheetSource

/-- There is one declaration for each entry of a set. -/
theorem length_declarationLines (entries : Entries String) (indent : String) :
    (declarationLines entries indent).length = entries.length := by
  rw [declarationLines, List.length_map, sortNames, List.length_mergeSort, Entries.keys,
    List.length_map]

/-- The number that is told of a stylesheet, by the tool that writes it and by the command that
builds it. It counts the declarations of both blocks, and every further occurrence of the start
of names: in a value, in a name behind its start, and in the display name of the brand theme. So
it is the number of declarations exactly when there is no further occurrence. -/
theorem countVariables_generate_iff (store : TokenStore) (brand : Option BrandTheme)
    (hbrand : ∀ active ∈ brand, active.IsAccepted) (time : Moment) :
    let source : StylesheetSource := { store, brand }
    ∃ sets css, source.build = .ok sets ∧ source.generate time = .ok css ∧
      sets.count = (declarationLines sets.light.entries source.indent ++
        declarationLines sets.dark.entries source.indent).length ∧
      countVariables css =
        sets.count + (strayMarksOf sets + countVariables source.displayName) ∧
      (countVariables css = sets.count ↔ source.IsUnmarkedBuild sets) ∧
      (∀ (session later : Session) storeName brandName outputName path count size,
        (session.source storeName brandName).1 = .ok source →
        session.serve time (.writeStylesheet storeName brandName outputName) =
          (.ok (.written path count size), later) →
        count = countVariables css) ∧
      ∀ inputs output files result trace, Command.source inputs files = .ok source →
        Command.run (.build inputs output) time files = (.ok result, trace) →
        ⟨.info, s!"  Variables: {countVariables css}"⟩ ∈ trace.notices := by
  intro source
  have hbuild := source.build_eq
  have hgenerate := generate_eq hbuild hbrand time
  have hcount := countVariables_generated source rfl hbuild time
  refine ⟨_, _, hbuild, hgenerate, ?_, hcount, ?_, ?_, ?_⟩
  · rw [List.length_append, length_declarationLines, length_declarationLines]
    rfl
  · rw [hcount, isUnmarkedBuild_iff]
    omega
  · intro session later storeName brandName outputName path count size hsource hserve
    cases hfound : session.source storeName brandName with
    | mk found rest =>
        rw [hfound] at hsource
        dsimp only at hsource
        subst hsource
        simp only [Session.serve, hfound, hgenerate] at hserve
        exact Session.eq_countVariables_of_writeCss hserve
  · intro inputs output files result trace hsource hrun
    have hrender := render_eq_of_generate hbuild hgenerate
    simp only [Command.run, Command.inputs, hsource] at hrun
    obtain ⟨place, -, hnotices⟩ := Command.notices_of_runBuild hbuild hrender hrun
    rw [hnotices]
    apply List.mem_append_right
    apply List.mem_append_left
    exact List.mem_cons_of_mem _ List.mem_cons_self

end StylesheetSource

/-! ## A value that refers to a variable -/

namespace Sample

/-- A store with one scale entry, whose value is another custom property. -/
def markedStore : TokenStore where
  scales := { spacing := [("1", "var(--mond-a)")] }

theorem markedStore_isAccepted : markedStore.IsAccepted := by
  refine ⟨[(.text "spacing", .map [(.text "1", .text "var(--mond-a)")])], ?_,
    eq_ok_of_toOption ?_⟩
  · simp [Datum.EntriesWellNamed, Datum.TreesWellNamed, Datum.text]
  · decide +kernel

end Sample

namespace StylesheetSource

/-- The stylesheet of the store has one declaration, and the number that is told is two. -/
theorem countVariables_generate_marked :
    Sample.markedStore.IsAccepted ∧
      ∃ sets css, build { store := Sample.markedStore } = .ok sets ∧
        generate { store := Sample.markedStore } Sample.noon = .ok css ∧
        sets.light.get? "--mond-spacing-1" = some "var(--mond-a)" ∧
        sets.count = 1 ∧ countVariables css = 2 ∧
        ¬ IsUnmarkedBuild { store := Sample.markedStore } sets := by
  have hbrand : ∀ active ∈ (none : Option BrandTheme), active.IsAccepted := by
    intro active h
    cases h
  obtain ⟨sets, css, hbuild, hgenerate, -, hcount, hiff, -⟩ :=
    countVariables_generate_iff Sample.markedStore none hbrand Sample.noon
  have hsets : (build { store := Sample.markedStore }).toOption.map (fun sets =>
      (sets.light.get? "--mond-spacing-1", sets.count, strayMarksOf sets)) =
      some (some "var(--mond-a)", 1, 1) := by
    decide +kernel
  rw [hbuild] at hsets
  obtain ⟨hvalue, hsets⟩ := Prod.mk.inj (Option.some.inj hsets)
  obtain ⟨hone, hstray⟩ := Prod.mk.inj hsets
  have hname : countVariables (displayName { store := Sample.markedStore }) = 0 := by
    decide +kernel
  have htwo : countVariables css = 2 := by
    rw [hcount, hone, hstray, hname]
  refine ⟨Sample.markedStore_isAccepted, sets, css, hbuild, hgenerate, hvalue, hone, htwo, ?_⟩
  intro hunmarked
  have hsame := hiff.mpr hunmarked
  omega

end StylesheetSource

end DesignTokens
