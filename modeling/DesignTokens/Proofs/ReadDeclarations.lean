import DesignTokens.Proofs.DeclaredVariables

/-!
# Declarations that are read back

A block is written with one declaration to a line: an indent, a name, a colon and a blank, a
value and a semicolon. A well-formed name has no colon and no line feed, so the lines of a
mapping of such names to values without a line feed are cut in one way only, whatever else the
values hold. Main statement: reading the lines gives back the entries of the mapping in strict
order of their names, so that mappings with the same text are the same up to their order.
-/

namespace DesignTokens

/-! ## Reading -/

/-- The lines of a text; the empty text has none. -/
def textLines (text : String) : List String :=
  if text = "" then [] else Text.splitText '\n' text

/-- A text without the character that it ends in. -/
def withoutLast? (mark : Char) (s : List Char) : Option (List Char) :=
  if s.getLast? = some mark then some s.dropLast else none

/-- What stands before and behind the first colon with a blank behind it. -/
def cutAtColon? : List Char → Option (List Char × List Char)
  | [] => none
  | [_] => none
  | c :: d :: rest =>
      if c = ':' ∧ d = ' ' then some ([], rest)
      else (cutAtColon? (d :: rest)).map fun parts => (c :: parts.1, parts.2)

/-- The name and the value of a declaration behind an indent. -/
def readDeclaration? (indent line : String) : Option (String × String) :=
  (indent.toList.isPrefixOf? line.toList).bind fun behind =>
    (cutAtColon? behind).bind fun parts =>
      (withoutLast? ';' parts.2).map fun value => (String.ofList parts.1, String.ofList value)

/-- The text of the declarations of a block: what stands between its braces, without the line
feed at the end. -/
def blockText? (selector block : String) : Option String :=
  ((selector ++ " \x7b\n").toList.isPrefixOf? block.toList).bind fun behind =>
    (withoutLast? '\x7d' behind).bind fun body =>
      if body = [] then some "" else (withoutLast? '\n' body).map String.ofList

@[simp] theorem withoutLast?_append (mark : Char) (s : List Char) :
    withoutLast? mark (s ++ [mark]) = some s := by
  simp [withoutLast?]

/-- The cut goes behind a name without a colon. -/
theorem cutAtColon?_append {name : List Char} (h : ':' ∉ name) (rest : List Char) :
    cutAtColon? (name ++ ':' :: ' ' :: rest) = some (name, rest) := by
  induction name with
  | nil => simp [cutAtColon?]
  | cons c more ih =>
      rw [List.mem_cons, not_or] at h
      have hmore := ih h.2
      have hc : c ≠ ':' := Ne.symm h.1
      cases more with
      | nil => simp [cutAtColon?, hc]
      | cons d others =>
          rw [List.cons_append] at hmore
          rw [List.cons_append, List.cons_append, cutAtColon?, if_neg (by simp [hc]), hmore]
          rfl

/-! ## Lines -/

/-- Lines without a line feed come back from the text that they are joined to. -/
theorem textLines_intercalate {lines : List String} (hne : "" ∉ lines)
    (hbreak : ∀ line ∈ lines, '\n' ∉ line.toList) :
    textLines ("\n".intercalate lines) = lines := by
  cases lines with
  | nil => rfl
  | cons first rest =>
      have hfirst : first ≠ "" := by
        rintro rfl
        exact hne List.mem_cons_self
      have hsplit : (['\n'].intercalate ((first :: rest).map String.toList)).splitOn '\n' =
          (first :: rest).map String.toList := by
        apply List.splitOn_intercalate
        · intro line hline
          obtain ⟨source, hsource, rfl⟩ := List.mem_map.mp hline
          exact hbreak source hsource
        · simp
      rw [textLines, if_neg (intercalate_newline_ne_empty hfirst rest), Text.splitText,
        Text.splitAt_eq_splitOn, String.toList_intercalate]
      change List.map String.ofList ((['\n'].intercalate _).splitOn '\n') = _
      rw [hsplit, List.map_map]
      simp [Function.comp_def]

/-- The declarations of a block come back from the block. -/
theorem blockText?_formatBlock (selector : String) (entries : Entries String)
    (indent : String) :
    blockText? selector (formatBlock selector entries indent) =
      some (formatVariables entries indent) := by
  have hopen (behind : List Char) :
      (selector ++ " \x7b\n").toList.isPrefixOf?
        ((selector ++ " \x7b\n").toList ++ behind) = some behind :=
    List.isPrefixOf?_eq_some_iff_append_eq.mpr rfl
  unfold blockText? formatBlock
  by_cases hbody : formatVariables entries indent = ""
  · have htext : (selector ++ " \x7b\n\x7d").toList =
        (selector ++ " \x7b\n").toList ++ ([] ++ ['\x7d']) := by
      simp
    simp only [hbody, beq_self_eq_true, if_true]
    rw [htext, hopen, Option.bind_some, withoutLast?_append]
    rfl
  · have htext : (selector ++ " \x7b\n" ++ formatVariables entries indent ++ "\n\x7d").toList =
        (selector ++ " \x7b\n").toList ++
          (((formatVariables entries indent).toList ++ ['\n']) ++ ['\x7d']) := by
      simp
    simp only [beq_iff_eq, hbody, if_false]
    rw [htext, hopen, Option.bind_some, withoutLast?_append, Option.bind_some, if_neg (by simp),
      withoutLast?_append, Option.map_some, String.ofList_toList]

/-! ## Declarations -/

/-- Entries whose declarations can be read back: no name is there twice, every name is well
formed, and no value has a line feed. -/
structure AreDeclarable (entries : Entries String) : Prop where
  distinct : Entries.Distinct entries
  names : ∀ entry ∈ entries, isVariableName entry.1 = true
  values : ∀ entry ∈ entries, '\n' ∉ entry.2.toList

/-- A character that no well-formed name has. -/
theorem not_mem_of_isVariableName {name : String} (h : isVariableName name = true) {c : Char}
    (hc : isNameChar c = false) : c ∉ name.toList := by
  intro hmem
  rw [isNameChar_of_isVariableName h c hmem] at hc
  cases hc

/-- The lines of a mapping are the declarations of its entries in order. -/
theorem declarationLines_eq_map_sorted (entries : Entries String) (indent : String) :
    declarationLines entries indent =
      (Entries.sorted entries).map fun entry => declaration indent entry.1 entry.2 := by
  rw [declarationLines, Entries.sorted, List.map_map]
  rfl

/-- A declaration of a well-formed name is read back. -/
theorem readDeclaration?_declaration {name : String} (h : isVariableName name = true)
    (indent value : String) :
    readDeclaration? indent (declaration indent name value) = some (name, value) := by
  have htext : (declaration indent name value).toList =
      indent.toList ++ (name.toList ++ ':' :: ' ' :: (value.toList ++ [';'])) := by
    simp [declaration_eq]
  have hindent : indent.toList.isPrefixOf? (declaration indent name value).toList =
      some (name.toList ++ ':' :: ' ' :: (value.toList ++ [';'])) :=
    List.isPrefixOf?_eq_some_iff_append_eq.mpr htext.symm
  have hcolon : ':' ∉ name.toList := not_mem_of_isVariableName h (by decide)
  rw [readDeclaration?, hindent, Option.bind_some, cutAtColon?_append hcolon, Option.bind_some,
    withoutLast?_append, Option.map_some, String.ofList_toList, String.ofList_toList]

namespace AreDeclarable

variable {entries : Entries String}

/-- Sorted entries are declared like the others. -/
theorem sorted (h : AreDeclarable entries) : AreDeclarable (Entries.sorted entries) := by
  have hperm := Entries.sorted_perm h.distinct
  constructor
  · exact (hperm.map Prod.fst).nodup_iff.mpr h.distinct
  · intro entry hentry
    exact h.names entry (hperm.mem_iff.mp hentry)
  · intro entry hentry
    exact h.values entry (hperm.mem_iff.mp hentry)

/-- The text of the declarations has one line for each of them. -/
theorem textLines_formatVariables (h : AreDeclarable entries) {indent : String}
    (hindent : '\n' ∉ indent.toList) :
    textLines (formatVariables entries indent) = declarationLines entries indent := by
  have hsorted := h.sorted
  change textLines ("\n".intercalate (declarationLines entries indent)) = _
  rw [declarationLines_eq_map_sorted]
  apply textLines_intercalate
  · intro hmem
    obtain ⟨entry, -, hempty⟩ := List.mem_map.mp hmem
    exact declaration_ne_empty indent entry.1 entry.2 hempty
  · intro line hline
    obtain ⟨entry, hentry, rfl⟩ := List.mem_map.mp hline
    have hname := not_mem_of_isVariableName (hsorted.names entry hentry) (c := '\n') (by decide)
    have hvalue := hsorted.values entry hentry
    simp [declaration_eq, hindent, hname, hvalue]

/-- Reading the lines of the text gives back the entries in order. -/
theorem map_readDeclaration? (h : AreDeclarable entries) {indent : String}
    (hindent : '\n' ∉ indent.toList) :
    (textLines (formatVariables entries indent)).map (readDeclaration? indent) =
      (Entries.sorted entries).map some := by
  rw [h.textLines_formatVariables hindent, declarationLines_eq_map_sorted, List.map_map]
  apply List.map_congr_left
  intro entry hentry
  exact readDeclaration?_declaration (h.sorted.names entry hentry) indent entry.2

/-- Mappings have the same text exactly when every name stands for the same. -/
theorem formatVariables_eq_iff {others : Entries String} (h : AreDeclarable entries)
    (hothers : AreDeclarable others) {indent : String} (hindent : '\n' ∉ indent.toList) :
    formatVariables entries indent = formatVariables others indent ↔
      ∀ name, Entries.get? entries name = Entries.get? others name := by
  constructor
  · intro htext
    have hsame : (Entries.sorted entries).map some = (Entries.sorted others).map some := by
      rw [← h.map_readDeclaration? hindent, ← hothers.map_readDeclaration? hindent, htext]
    have hsorted : Entries.sorted entries = Entries.sorted others :=
      List.map_injective_iff.mpr (fun _ _ => Option.some.inj) hsame
    have hperm : entries.Perm others :=
      (Entries.sorted_perm h.distinct).symm.trans
        (hsorted ▸ Entries.sorted_perm hothers.distinct)
    exact Entries.get?_eq_of_perm h.distinct hothers.distinct hperm
  · intro hget
    change "\n".intercalate (declarationLines entries indent) =
      "\n".intercalate (declarationLines others indent)
    rw [declarationLines_congr h.distinct hothers.distinct hget]

end AreDeclarable

/-- What is written can be read back. The lines of the declarations, one for each of them, give
the entries in strict order of their names, and the text of the declarations comes back from a
block. So mappings have the same text, and the same blocks, exactly when every name stands for
the same, in whatever order they were written. -/
theorem read_formatVariables {entries : Entries String} (h : AreDeclarable entries)
    {indent : String} (hindent : '\n' ∉ indent.toList) :
    (∃ pairs : List (String × String),
      (textLines (formatVariables entries indent)).map (readDeclaration? indent) =
        pairs.map some ∧
      pairs.Perm entries ∧
      pairs.Pairwise fun first second =>
        Text.codePoints first.1 < Text.codePoints second.1) ∧
    (∀ selector, blockText? selector (formatBlock selector entries indent) =
      some (formatVariables entries indent)) ∧
    ∀ others, AreDeclarable others →
      (formatVariables entries indent = formatVariables others indent ↔
        ∀ name, Entries.get? entries name = Entries.get? others name) ∧
      ∀ selector, (formatBlock selector entries indent = formatBlock selector others indent ↔
        ∀ name, Entries.get? entries name = Entries.get? others name) := by
  refine ⟨⟨Entries.sorted entries, h.map_readDeclaration? hindent,
    Entries.sorted_perm h.distinct, Entries.pairwise_sorted h.distinct⟩, ?_, ?_⟩
  · intro selector
    exact blockText?_formatBlock selector entries indent
  · intro others hothers
    have hiff := h.formatVariables_eq_iff hothers hindent
    refine ⟨hiff, ?_⟩
    intro selector
    rw [← hiff]
    constructor
    · intro hblock
      have hread := blockText?_formatBlock selector entries indent
      rw [hblock, blockText?_formatBlock, Option.some.injEq] at hread
      exact hread.symm
    · intro htext
      rw [formatBlock, formatBlock, htext]

/-! ## Values that look like declarations -/

namespace Sample

/-- Two variables, one with a value that has the marks of a declaration. -/
def colonEntries : Entries String :=
  [("--mond-note", "a: b;"), ("--mond-link", "var(--mond-note)")]

end Sample

/-- The marks inside a value do not disturb the reading, and neither does the order in which the
variables were written. -/
theorem read_formatVariables_colon :
    AreDeclarable Sample.colonEntries ∧ AreDeclarable Sample.colonEntries.reverse ∧
      '\n' ∉ defaultIndent.toList ∧
      formatVariables Sample.colonEntries defaultIndent =
        "  --mond-link: var(--mond-note);\n  --mond-note: a: b;;" ∧
      (∃ pairs : List (String × String),
        (textLines (formatVariables Sample.colonEntries defaultIndent)).map
          (readDeclaration? defaultIndent) = pairs.map some ∧
        pairs.Perm Sample.colonEntries) ∧
      formatVariables Sample.colonEntries defaultIndent =
        formatVariables Sample.colonEntries.reverse defaultIndent := by
  have hdeclarable : AreDeclarable Sample.colonEntries :=
    ⟨by unfold Entries.Distinct; decide, by decide +kernel, by decide⟩
  have hreverse : AreDeclarable Sample.colonEntries.reverse :=
    ⟨by unfold Entries.Distinct; decide, by decide +kernel, by decide⟩
  have hindent : '\n' ∉ defaultIndent.toList := by decide
  obtain ⟨⟨pairs, hread, hperm, -⟩, -, hothers⟩ := read_formatVariables hdeclarable hindent
  have hsorted : ["--mond-link", "--mond-note"].Pairwise NameLE := by
    rw [List.pairwise_pair]
    unfold NameLE
    decide
  have hnames : sortNames (Entries.keys Sample.colonEntries) = ["--mond-link", "--mond-note"] :=
    (sortNames_eq_of_perm (List.Perm.swap _ _ _)).trans (sortNames_of_pairwise hsorted)
  have htext : formatVariables Sample.colonEntries defaultIndent =
      "  --mond-link: var(--mond-note);\n  --mond-note: a: b;;" := by
    rw [formatVariables, hnames]
    decide +kernel
  refine ⟨hdeclarable, hreverse, hindent, htext, ⟨pairs, hread, hperm⟩, ?_⟩
  apply (hothers _ hreverse).1.mpr
  intro name
  exact Entries.get?_eq_of_perm hdeclarable.distinct hreverse.distinct
    (List.reverse_perm _).symm name

end DesignTokens
