import DesignTokens.Proofs.AcceptedBrands
import DesignTokens.Proofs.RuleBlocks

/-!
# The marks of the header comment

The header is a comment of several lines. Its first line opens the comment and its last one
closes it; the lines between them are fixed, or have a fixed start that ends in a space and
behind it a moment or the display name of a brand theme. Neither a space nor a line break is a
part of the opening or the closing mark, so a mark in the header that is not one of these two
lies in the display name. Main statement: with a display name that a brand theme can have there
is none, and every other display name is refused.
-/

namespace DesignTokens

/-- A display name that an accepted brand theme can have. -/
def IsBrandName (name : String) : Prop :=
  ∃ brand : BrandTheme, brand.IsAccepted ∧ brand.name = name

/-- A brand theme can have every display name that can stand in the header, and no other. -/
theorem isBrandName_iff {name : String} : IsBrandName name ↔ isHeaderSafe name = true := by
  constructor
  · rintro ⟨brand, hbrand, rfl⟩
    exact hbrand.isHeaderSafe
  · intro h
    have hname : BrandTheme.nameField [(.text "id", .text "a"), (.text "name", .text name)] =
        .ok name := by
      change (if isHeaderSafe name then _ else _) = _
      rw [if_pos h]
    refine ⟨{ id := "a", name }, ⟨.map [(.text "id", .text "a"), (.text "name", .text name)], ?_⟩,
      rfl⟩
    rw [BrandTheme.ofDatum, BrandTheme.ofSource, hname]
    rfl

/-! ## The lines of the header -/

/-- The mark that opens a comment. -/
def openingMark : List Char := "/*".toList

/-- The mark that closes a comment. -/
def closingMark : List Char := "*/".toList

/-- No comment is opened or closed in the text. -/
def IsMarkFree (s : String) : Prop :=
  ∀ mark ∈ [openingMark, closingMark], occursIn mark s.toList = false

instance (s : String) : Decidable (IsMarkFree s) :=
  inferInstanceAs (Decidable (∀ mark ∈ [openingMark, closingMark], _))

/-- A display name that can stand in the header opens and closes no comment. -/
theorem isMarkFree_of_isHeaderSafe {name : String} (h : isHeaderSafe name = true) :
    IsMarkFree name := by
  have hmarkers := isHeaderSafe_iff.mp h
  intro mark hmark
  rcases List.mem_pair.mp hmark with rfl | rfl
  · exact hmarkers "/*" (by decide)
  · exact hmarkers "*/" (by decide)

/-- The written form of a moment opens and closes no comment, since it has no slash. -/
theorem isMarkFree_iso (moment : Moment) : IsMarkFree moment.iso := by
  have hslash : '/' ∉ moment.iso.toList := by
    intro hmem
    rcases isMomentChar_of_mem_isoWith moment "T" '/' hmem with hmark | hchar
    · revert hmark
      decide
    · revert hchar
      decide
  have hmarks : ∀ mark ∈ [openingMark, closingMark], '/' ∈ mark := by decide
  exact fun mark hmark => occursIn_eq_false_of_not_mem (hmarks mark hmark) hslash

/-- A space stands between the fixed start of a line and what follows, so no mark is put
together from both. -/
theorem isMarkFree_behind_space {start s : String} (hstart : IsMarkFree start)
    (hs : IsMarkFree s) : IsMarkFree (start ++ " " ++ s) := by
  intro mark hmark
  have hspace : ' ' ∉ mark ∧ mark ≠ [] := by
    revert hmark
    revert mark
    decide
  rw [String.toList_append, String.toList_append, List.append_assoc]
  change occursIn mark (start.toList ++ ' ' :: s.toList) = false
  rw [occursIn_append_cons hspace.2 hspace.1, hstart mark hmark, hs mark hmark]
  rfl

/-- The header is the line that opens the comment, lines without a mark, and the line that
closes the comment. -/
theorem exists_headerLines_eq {name : String} (h : isHeaderSafe name = true)
    (generatedAt : Moment) :
    ∃ inner, headerLines generatedAt name = "/**" :: (inner ++ [" */"]) ∧
      ∀ line ∈ inner, IsMarkFree line := by
  have hname : IsMarkFree (" * Brand:" ++ " " ++ name) :=
    isMarkFree_behind_space (by decide) (isMarkFree_of_isHeaderSafe h)
  have hmoment : IsMarkFree (" * Generated:" ++ " " ++ generatedAt.iso) :=
    isMarkFree_behind_space (by decide) (isMarkFree_iso generatedAt)
  rw [headerLines, List.append_cons, List.cons_append, List.cons_append, List.cons_append]
  refine ⟨_, rfl, ?_⟩
  rw [List.forall_mem_append, List.forall_mem_append, List.forall_mem_singleton]
  refine ⟨⟨by decide, ?_⟩, hmoment⟩
  split
  · simp
  · rw [List.forall_mem_singleton]
    exact hname

/-! ## The header -/

/-- The first line of joined lines keeps its first character. -/
theorem intercalate_cons_cons_left {c d : Char} (s : List Char) (rest : List (List Char)) :
    [c].intercalate ((d :: s) :: rest) = d :: [c].intercalate (s :: rest) := by
  cases rest with
  | nil => simp
  | cons second others => rw [List.intercalate_cons_cons, List.intercalate_cons_cons]; rfl

/-- The last line of joined lines keeps its last character. -/
theorem intercalate_append_concat {c d : Char} (front : List (List Char)) (s : List Char) :
    [c].intercalate (front ++ [s ++ [d]]) = [c].intercalate (front ++ [s]) ++ [d] := by
  have hcons {rest : List (List Char)} (h : rest ≠ []) (first : List Char) :
      [c].intercalate (first :: rest) = first ++ [c] ++ [c].intercalate rest := by
    obtain ⟨second, others, rfl⟩ := List.exists_cons_of_ne_nil h
    rw [List.intercalate_cons_cons]
  induction front with
  | nil => simp
  | cons first rest ih =>
      rw [List.cons_append, List.cons_append, hcons (by simp), hcons (by simp), ih,
        List.append_assoc (first ++ [c])]

/-- A header with a display name that can stand in it opens a comment at its front and nowhere
else, and closes one at its end and nowhere else. -/
theorem occursAt_header {name : String} (h : isHeaderSafe name = true) (generatedAt : Moment)
    (place : Nat) :
    let text := ("\n".intercalate (headerLines generatedAt name)).toList
    (OccursAt openingMark text place ↔ place = 0) ∧
      (OccursAt closingMark text place ↔ place + 2 = text.length) := by
  intro text
  obtain ⟨inner, hlines, hinner⟩ := exists_headerLines_eq h generatedAt
  have htext : text = ['\n'].intercalate
      ("/**".toList :: (inner.map String.toList ++ [" */".toList])) := by
    change String.toList _ = _
    rw [String.toList_intercalate, hlines, List.map_cons, List.map_append]
    rfl
  have hany {mark : List Char} (hmark : mark ∈ [openingMark, closingMark]) :
      (inner.map String.toList).any (occursIn mark) = false := by
    rw [List.any_eq_false, List.forall_mem_map]
    intro line hline
    rw [hinner line hline mark hmark]
    exact Bool.false_ne_true
  constructor
  · -- Without its first character the header opens no comment.
    have hfront : text = '/' :: ['\n'].intercalate
        (['*', '*'] :: (inner.map String.toList ++ [" */".toList])) := by
      rw [htext]
      exact intercalate_cons_cons_left _ _
    have hmark : openingMark <+: text := by
      rw [hfront, intercalate_cons_cons_left]
      exact ⟨_, rfl⟩
    rw [hfront] at hmark ⊢
    apply occursAt_iff_eq_zero hmark
    rw [occursIn_intercalate (by decide) (by decide), List.any_cons, List.any_append,
      hany (by decide)]
    decide
  · -- Without its last character the header closes no comment.
    have hend : text = ['\n'].intercalate
        ("/**".toList :: inner.map String.toList ++ [[' ', '*']]) ++ ['/'] := by
      rw [htext, ← List.cons_append]
      exact intercalate_append_concat _ [' ', '*']
    have hmark : closingMark <:+ text := by
      have hstar := intercalate_append_concat (c := '\n') (d := '*')
        ("/**".toList :: inner.map String.toList) [' ']
      rw [List.singleton_append] at hstar
      rw [hend, hstar, List.append_assoc]
      exact List.suffix_append _ _
    rw [hend] at hmark ⊢
    apply occursAt_iff_eq_end hmark (by decide)
    rw [occursIn_intercalate (by decide) (by decide), List.any_append, List.any_cons,
      hany (by decide)]
    decide

/-- The header of a display name that can stand in it. -/
theorem formatHeader_of_isHeaderSafe (generatedAt : Moment) {brandName : Option String}
    (h : isHeaderSafe (brandName.getD "") = true) :
    formatHeader generatedAt brandName =
      .ok ("\n".intercalate (headerLines generatedAt (brandName.getD ""))) :=
  if_pos h

/-- A display name that a brand theme can have, or none, gives a header that opens a comment at
its front and nowhere else, closes it at its end and nowhere else, and has no brace. The header
refuses the display names that no brand theme can have, none of which is empty, and these are
the names in which a comment mark or a brace stands. -/
theorem formatHeader_closed (generatedAt : Moment) (brandName : Option String) :
    ((∀ name ∈ brandName, IsBrandName name) →
      ∃ text, formatHeader generatedAt brandName = .ok text ∧
        (∀ place, OccursAt "/*".toList text.toList place ↔ place = 0) ∧
        (∀ place, OccursAt "*/".toList text.toList place ↔ place + 2 = text.toList.length) ∧
        IsBraceFree text) ∧
    (∀ error, formatHeader generatedAt brandName = .error error ↔
      ∃ name ∈ brandName, name ≠ "" ∧ ¬ IsBrandName name ∧ error = ⟨name⟩) ∧
    ∀ name, IsBrandName name ↔ ∀ marker ∈ ["/*", "*/", "\x7b", "\x7d"], ∀ place,
      ¬ OccursAt marker.toList name.toList place := by
  have hempty : isHeaderSafe "" = true := by decide
  refine ⟨?_, ?_, ?_⟩
  · intro hbrand
    have hsafe : isHeaderSafe (brandName.getD "") = true := by
      cases brandName with
      | none => exact hempty
      | some name => exact isBrandName_iff.mp (hbrand name rfl)
    refine ⟨_, formatHeader_of_isHeaderSafe generatedAt hsafe, ?_, ?_,
      isBraceFree_header hsafe generatedAt⟩
    · exact fun place => (occursAt_header hsafe generatedAt place).1
    · exact fun place => (occursAt_header hsafe generatedAt place).2
  · intro error
    cases brandName with
    | none =>
        have hok : formatHeader generatedAt none =
            .ok ("\n".intercalate (headerLines generatedAt "")) :=
          formatHeader_of_isHeaderSafe generatedAt hempty
        simp [hok]
    | some name =>
        simp only [Option.mem_some_iff, exists_eq_left', isBrandName_iff]
        change (if isHeaderSafe name then _ else _) = _ ↔ _
        by_cases hsafe : isHeaderSafe name = true
        · simp [hsafe]
        · have hne : name ≠ "" := by
            rintro rfl
            exact hsafe hempty
          simp [hsafe, hne, eq_comm]
  · intro name
    rw [isBrandName_iff, isHeaderSafe_iff]
    change (∀ marker ∈ ["/*", "*/", "\x7b", "\x7d"], _) ↔ _
    simp only [← Bool.not_eq_true, occursIn_iff_exists, not_exists]

/-- A display name of two lines with a star at its front and a slash at its end is one that a
brand theme can have, and the header with it is closed by its last two characters alone. -/
theorem formatHeader_closed_twoLines :
    IsBrandName "*Acme\n/" ∧
      ∃ text, formatHeader Sample.noon (some "*Acme\n/") = .ok text ∧
        (∀ place, OccursAt "/*".toList text.toList place ↔ place = 0) ∧
        (∀ place, OccursAt "*/".toList text.toList place ↔ place + 2 = text.toList.length) ∧
        IsBraceFree text := by
  have hname : IsBrandName "*Acme\n/" := isBrandName_iff.mpr (by decide)
  refine ⟨hname, (formatHeader_closed Sample.noon (some "*Acme\n/")).1 ?_⟩
  intro name hmem
  rwa [← Option.mem_some_iff.mp hmem]

end DesignTokens
