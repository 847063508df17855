import DesignTokens.Proofs.AliasSemantics
import DesignTokens.Proofs.GradientPieces
import Mathlib.Data.List.Forall2

/-!
# References inside a gradient and alone

A gradient of references stands for the gradient of what they stand for where each of them is
embeddable: then every reference resolves in the gradient as it does alone, at the same bound.
A reference of the wider form that is not embeddable is never looked up under its own name
inside a gradient; its text is kept, or a part of it is looked up instead.
-/

namespace DesignTokens

/-! ## Expanding part by part -/

section Expansion

variable {ε : Type} {resolve : List Char → Except ε String}

/-- A row of parts expands to the expansions in a row. -/
theorem expandPieces_append (parts more : List Piece) :
    expandPieces resolve (parts ++ more) =
      (expandPieces resolve parts).bind fun front =>
        (expandPieces resolve more).map fun behind => front ++ behind := by
  induction parts with
  | nil =>
      rw [List.nil_append, expandPieces]
      cases expandPieces resolve more <;> rfl
  | cons part rest ih =>
      cases part with
      | char c =>
          rw [List.cons_append, expandPieces, ih, expandPieces]
          cases expandPieces resolve rest with
          | error e => rfl
          | ok front => cases expandPieces resolve more <;> rfl
      | reference name =>
          rw [List.cons_append, expandPieces, ih, expandPieces]
          cases resolve name with
          | error e => rfl
          | ok value =>
              cases expandPieces resolve rest with
              | error e => rfl
              | ok front =>
                  cases expandPieces resolve more with
                  | error e => rfl
                  | ok behind =>
                      simp only [Except.map, Except.bind, List.append_assoc]

/-- A row of parts expands exactly when both of its ends do. -/
theorem expandPieces_append_eq_ok_iff {parts more : List Piece} {out : List Char} :
    expandPieces resolve (parts ++ more) = .ok out ↔
      ∃ front behind, expandPieces resolve parts = .ok front ∧
        expandPieces resolve more = .ok behind ∧ out = front ++ behind := by
  rw [expandPieces_append]
  cases expandPieces resolve parts with
  | error e => simp [Except.bind]
  | ok front =>
      cases expandPieces resolve more with
      | error e => simp [Except.bind, Except.map]
      | ok behind => simp [Except.bind, Except.map, eq_comm]

/-- Characters that are put together to a text are those of the text. -/
theorem map_ofList_eq_ok_iff {found : Except ε (List Char)} {value : String} :
    found.map String.ofList = .ok value ↔ found = .ok value.toList := by
  cases found with
  | error e => constructor <;> intro h <;> cases h
  | ok cs =>
      constructor
      · intro h
        cases h
        rw [String.toList_ofList]
      · intro h
        cases h
        exact congrArg Except.ok String.ofList_toList

/-- Characters stay as they are. -/
theorem expandPieces_chars (cs : List Char) :
    expandPieces resolve (cs.map Piece.char) = .ok cs := by
  induction cs with
  | nil => rfl
  | cons c rest ih =>
      rw [List.map_cons, expandPieces, ih]
      rfl

/-- Parts with characters between them expand part by part. -/
theorem expandPieces_intercalate_eq_ok_iff {separator : List Char}
    {parts : List (List Piece)} {out : List Char} :
    expandPieces resolve ((separator.map Piece.char).intercalate parts) = .ok out ↔
      ∃ outs, List.Forall₂ (fun part found => expandPieces resolve part = .ok found) parts outs ∧
        out = separator.intercalate outs := by
  induction parts generalizing out with
  | nil => simp [expandPieces, eq_comm]
  | cons first rest ih =>
      cases rest with
      | nil =>
          simp only [List.intercalate_singleton, List.forall₂_cons_left_iff,
            List.forall₂_nil_left_iff]
          constructor
          · intro h
            exact ⟨[out], ⟨out, [], h, rfl, rfl⟩, by simp⟩
          · rintro ⟨_, ⟨found, _, hfound, rfl, rfl⟩, rfl⟩
            simpa using hfound
      | cons second others =>
          rw [List.intercalate_cons_cons, List.append_assoc, expandPieces_append_eq_ok_iff]
          simp only [expandPieces_append_eq_ok_iff, expandPieces_chars, ih]
          constructor
          · rintro ⟨front, _, hfront, ⟨_, _, hsep, ⟨outs, houts, rfl⟩, rfl⟩, rfl⟩
            cases hsep
            obtain ⟨next, behind, hnext, hbehind, rfl⟩ := List.forall₂_cons_left_iff.mp houts
            exact ⟨front :: next :: behind, .cons hfront houts, by
              rw [List.intercalate_cons_cons, List.append_assoc]⟩
          · rintro ⟨_, houts, rfl⟩
            obtain ⟨front, _, hfront, hrest, rfl⟩ := List.forall₂_cons_left_iff.mp houts
            obtain ⟨next, behind, hnext, hbehind, rfl⟩ := List.forall₂_cons_left_iff.mp hrest
            exact ⟨front, _, hfront, ⟨separator, _, rfl, ⟨_, hrest, rfl⟩, rfl⟩, by
              rw [List.intercalate_cons_cons, List.append_assoc]⟩

/-- A gradient expands part by part. -/
theorem expandPieces_gradientOf_eq_ok_iff {parts : List String} {out : List Char} :
    expandPieces resolve (pieces (gradientOf parts).toList) = .ok out ↔
      ∃ values, List.Forall₂ (fun part value =>
        (expandPieces resolve (pieces part.toList)).map String.ofList = .ok value) parts values ∧
        String.ofList out = gradientOf values := by
  rw [pieces_gradientOf]
  simp only [expandPieces_append_eq_ok_iff, expandPieces_chars,
    expandPieces_intercalate_eq_ok_iff, List.forall₂_map_left_iff, map_ofList_eq_ok_iff]
  constructor
  · rintro ⟨_, _, ⟨_, _, hstart, ⟨outs, houts, rfl⟩, rfl⟩, hend, rfl⟩
    cases hstart
    cases hend
    have hback : (outs.map String.ofList).map String.toList = outs := by
      rw [List.map_map]
      exact (List.map_congr_left fun found _ => String.toList_ofList).trans (List.map_id outs)
    refine ⟨outs.map String.ofList, ?_, ?_⟩
    · rw [List.forall₂_map_right_iff]
      exact houts.imp fun part found h => h.trans (congrArg Except.ok String.toList_ofList.symm)
    · rw [← String.toList_inj, String.toList_ofList, toList_gradientOf, hback]
  · rintro ⟨values, hvalues, hout⟩
    have houtList := congrArg String.toList hout
    rw [String.toList_ofList, toList_gradientOf] at houtList
    refine ⟨_, [')'], ⟨_, _, rfl, ⟨values.map String.toList, ?_, rfl⟩, rfl⟩, rfl, houtList⟩
    rw [List.forall₂_map_right_iff]
    exact hvalues

end Expansion

/-! ## Texts without blanks at their ends -/

/-- Nothing is dropped in front of a character that is not blank. -/
theorem dropBlanks_eq_self {s : List Char} (h : ∀ c ∈ s.head?, Text.isBlank c = false) :
    Text.dropBlanks s = s := by
  cases s with
  | nil => rfl
  | cons c rest =>
      have hc : ¬ Text.isBlank c = true := ne_true_of_eq_false (h c rfl)
      rw [Text.dropBlanks, List.dropWhile_cons_of_neg hc]

/-- A text whose first and last characters are not blank is stripped already. -/
theorem strip_eq_self {s : String} (hfirst : ∀ c ∈ s.toList.head?, Text.isBlank c = false)
    (hlast : ∀ c ∈ s.toList.getLast?, Text.isBlank c = false) : Text.strip s = s := by
  rw [← List.head?_reverse] at hlast
  rw [Text.strip, Text.stripChars, dropBlanks_eq_self hfirst, dropBlanks_eq_self hlast,
    List.reverse_reverse, String.ofList_toList]

theorem strip_gradientOf (parts : List String) :
    Text.strip (gradientOf parts) = gradientOf parts := by
  have hstart : "linear-gradient(".toList = 'l' :: "inear-gradient(".toList := by decide
  apply strip_eq_self
  · intro c hc
    rw [toList_gradientOf, hstart, List.append_assoc, List.cons_append, List.head?_cons,
      Option.mem_some_iff] at hc
    subst hc
    decide
  · intro c hc
    rw [toList_gradientOf, List.getLast?_append, List.getLast?_singleton, Option.some_or,
      Option.mem_some_iff] at hc
    subst hc
    decide

theorem isGradient_gradientOf (parts : List String) : isGradient (gradientOf parts) = true := by
  rw [isGradient, toList_gradientOf, startsWithAny, List.any_eq_true]
  refine ⟨"linear-gradient(", by decide, ?_⟩
  rw [List.isPrefixOf_iff_prefix, List.append_assoc]
  exact List.prefix_append _ _

/-- A reference is its own stripped text, it is not empty, and it is no gradient. -/
theorem strip_of_isReference {reference : String} (h : isReference reference = true) :
    Text.strip reference = reference ∧ reference ≠ "" ∧ isGradient reference = false := by
  rw [isReference, Bool.and_eq_true, Bool.not_eq_true', isLiteral] at h
  obtain ⟨hliteral, hname⟩ := h
  simp only [Bool.or_eq_false_iff] at hliteral
  obtain ⟨⟨⟨⟨⟨-, hgradient⟩, hblank⟩, -⟩, -⟩, -⟩ := hliteral
  rw [List.any_eq_false] at hblank
  have hnone : ∀ c ∈ reference.toList, Text.isBlank c = false :=
    fun c hc => by simpa using hblank c hc
  refine ⟨strip_eq_self ?_ ?_, ?_, hgradient⟩
  · exact fun c hc => hnone c (List.mem_of_mem_head? hc)
  · exact fun c hc => hnone c (List.mem_of_mem_getLast? hc)
  · rintro rfl
    cases hname

/-- A reference is cut out as a whole exactly when it is embeddable. -/
theorem pieces_isReference_iff {reference : String} (h : isReference reference = true) :
    pieces reference.toList = [.reference reference.toList] ↔ IsEmbeddable reference := by
  have hname : isReferenceName reference.toList = true := (Bool.and_eq_true_iff.mp h).2
  rw [pieces_eq_reference_iff, embeddedReference?_eq_self_iff hname]

/-- A reference that is not embeddable is not looked up inside a gradient. -/
theorem not_mem_references_of_not_isEmbeddable {reference : String}
    (h : isReference reference = true) (hembeddable : ¬ IsEmbeddable reference) :
    reference.toList ∉ references (pieces reference.toList) := by
  intro hmem
  obtain ⟨part, hpart, hname⟩ := List.mem_filterMap.mp hmem
  cases part with
  | char c => cases hname
  | reference name =>
      cases hname
      exact hembeddable ((pieces_isReference_iff h).mp (pieces_eq_of_mem hpart))

namespace Resolver

variable {resolver : Resolver} {theme : Theme}

/-- What a text inside a gradient gives way to, with a number of steps left behind its
references. -/
def embedded (resolver : Resolver) (theme : Theme) (steps : Nat) (part : String) :
    Except ResolutionCause String :=
  (expandPieces (fun name => resolver.follow theme steps (String.ofList name))
    (pieces part.toList)).map String.ofList

/-- A gradient resolves part by part. -/
theorem resolveText_gradientOf_eq_ok_iff {steps : Nat} {parts : List String} {value : String} :
    resolver.resolveText theme (steps + 1) (gradientOf parts) = .ok value ↔
      ∃ values, List.Forall₂ (fun part found => resolver.embedded theme steps part = .ok found)
        parts values ∧ value = gradientOf values := by
  have hnonempty : ¬ (gradientOf parts == "") = true := by
    rw [beq_iff_eq]
    intro hempty
    have hgradient := isGradient_gradientOf parts
    rw [hempty] at hgradient
    revert hgradient
    decide
  rw [resolveText_succ, strip_gradientOf, if_neg hnonempty, if_pos (isGradient_gradientOf parts)]
  unfold embedded
  constructor
  · intro h
    cases hout : expandPieces (fun name => resolver.follow theme steps (String.ofList name))
        (pieces (gradientOf parts).toList) with
    | error cause => rw [hout] at h; cases h
    | ok out =>
        rw [hout] at h
        cases h
        exact expandPieces_gradientOf_eq_ok_iff.mp hout
  · rintro ⟨values, hvalues, rfl⟩
    have hout := expandPieces_gradientOf_eq_ok_iff.mpr
      ⟨values, hvalues, String.ofList_toList⟩
    rw [hout]
    exact congrArg Except.ok String.ofList_toList

/-- A reference that stands alone is followed. -/
theorem resolveText_of_isReference {steps : Nat} {reference : String}
    (h : isReference reference = true) :
    resolver.resolveText theme (steps + 1) reference = resolver.follow theme steps reference := by
  obtain ⟨hstrip, hnonempty, hgradient⟩ := strip_of_isReference h
  rw [resolveText_succ, hstrip, if_neg (by rwa [beq_iff_eq]),
    if_neg (ne_true_of_eq_false hgradient), if_pos h]

/-- An embeddable reference gives way to what it leads to. -/
theorem embedded_of_isEmbeddable {steps : Nat} {reference : String}
    (h : isReference reference = true) (hembeddable : IsEmbeddable reference) :
    resolver.embedded theme steps reference = resolver.follow theme steps reference := by
  have hpieces := (pieces_isReference_iff h).mpr hembeddable
  rw [embedded, hpieces, expandPieces, String.ofList_toList]
  cases resolver.follow theme steps reference with
  | error cause => rfl
  | ok value =>
      simp only [expandPieces, Except.map, List.append_nil, String.ofList_toList]

/-- A token resolves as its text does. -/
theorem unwrap_resolve_of_textAt {path : TokenPath} {text value : String}
    (h : resolver.textAt theme path.key = .ok text) :
    (resolver.resolve path theme).unwrap = .ok value ↔
      resolver.resolveText theme resolver.steps text = .ok value := by
  rw [unwrap_resolve_eq_ok_iff, resolvePath, h]

/-- Within a bound that is not negative there is one step more than the bound says. -/
theorem steps_of_nonneg (h : 0 ≤ resolver.maxDepth) :
    resolver.steps = resolver.maxDepth.toNat + 1 := by
  unfold steps
  omega

/-- Under a negative bound no text resolves. -/
theorem resolveText_of_neg (h : ¬ 0 ≤ resolver.maxDepth) (text value : String) :
    resolver.resolveText theme resolver.steps text ≠ .ok value := by
  have hsteps : resolver.steps = 0 := by
    unfold steps
    omega
  rw [hsteps, resolveText]
  exact fun h => by cases h

/-- Tokens that hold embeddable references resolve to what the references give way to. -/
theorem forall₂_embedded_iff (hdepth : 0 ≤ resolver.maxDepth) {paths : List TokenPath}
    {names : List String}
    (halone : List.Forall₂ (fun path name => resolver.textAt theme path.key = .ok name)
      paths names)
    (hnames : ∀ name ∈ names, isReference name = true)
    (hembeddable : ∀ name ∈ names, IsEmbeddable name) {values : List String} :
    List.Forall₂ (fun name value =>
      resolver.embedded theme resolver.maxDepth.toNat name = .ok value) names values ↔
      List.Forall₂ (fun path value => (resolver.resolve path theme).unwrap = .ok value)
        paths values := by
  induction halone generalizing values with
  | nil => rw [List.forall₂_nil_left_iff, List.forall₂_nil_left_iff]
  | @cons path name paths names hpath hrest ih =>
      rw [List.forall_mem_cons] at hnames hembeddable
      have hsame (value : String) :
          resolver.embedded theme resolver.maxDepth.toNat name = .ok value ↔
            (resolver.resolve path theme).unwrap = .ok value := by
        rw [embedded_of_isEmbeddable hnames.1 hembeddable.1, unwrap_resolve_of_textAt hpath,
          steps_of_nonneg hdepth, resolveText_of_isReference hnames.1]
      simp only [List.forall₂_cons_left_iff, hsame, ih hnames.2 hembeddable.2]

/-- A token that holds a gradient resolves part by part, under a bound that is not negative. -/
theorem unwrap_resolve_gradientOf_eq_ok_iff {path : TokenPath} {parts : List String}
    (h : resolver.textAt theme path.key = .ok (gradientOf parts)) {value : String} :
    (resolver.resolve path theme).unwrap = .ok value ↔
      0 ≤ resolver.maxDepth ∧ ∃ values,
        List.Forall₂ (fun part found =>
          resolver.embedded theme resolver.maxDepth.toNat part = .ok found) parts values ∧
        value = gradientOf values := by
  rw [unwrap_resolve_of_textAt h]
  by_cases hdepth : 0 ≤ resolver.maxDepth
  · rw [steps_of_nonneg hdepth, resolveText_gradientOf_eq_ok_iff]
    exact (and_iff_right hdepth).symm
  · constructor
    · exact fun hvalue => absurd hvalue (resolveText_of_neg hdepth _ _)
    · exact fun hvalue => absurd hvalue.1 hdepth

/-- A token that holds a gradient of references. It resolves exactly to the gradient of what
its parts give way to, each by itself. If all references are embeddable, these are the values
of tokens that hold the references alone, and the gradient resolves only if all of them do. A
reference is cut out of the gradient as a whole exactly when it is embeddable; otherwise it
is not among the references that are looked up in its place. -/
theorem unwrap_resolve_gradientOf_iff (resolver : Resolver) (theme : Theme) {path : TokenPath}
    {paths : List TokenPath} {names : List String} (hne : names ≠ [])
    (hnames : ∀ name ∈ names, isReference name = true)
    (hgradient : resolver.textAt theme path.key = .ok (gradientOf names))
    (halone : List.Forall₂ (fun path name => resolver.textAt theme path.key = .ok name)
      paths names) (value : String) :
    ((resolver.resolve path theme).unwrap = .ok value ↔
      0 ≤ resolver.maxDepth ∧ ∃ values,
        List.Forall₂ (fun name found =>
          resolver.embedded theme resolver.maxDepth.toNat name = .ok found) names values ∧
        value = gradientOf values) ∧
    ((∀ name ∈ names, IsEmbeddable name) →
      ((resolver.resolve path theme).unwrap = .ok value ↔
        ∃ values,
          List.Forall₂ (fun path found => (resolver.resolve path theme).unwrap = .ok found)
            paths values ∧
          value = gradientOf values)) ∧
    ∀ name ∈ names,
      (pieces name.toList = [.reference name.toList] ↔ IsEmbeddable name) ∧
      (¬ IsEmbeddable name → name.toList ∉ references (pieces name.toList)) := by
  refine ⟨unwrap_resolve_gradientOf_eq_ok_iff hgradient, ?_, ?_⟩
  · intro hembeddable
    rw [unwrap_resolve_gradientOf_eq_ok_iff hgradient]
    by_cases hdepth : 0 ≤ resolver.maxDepth
    · simp only [forall₂_embedded_iff hdepth halone hnames hembeddable]
      exact and_iff_right hdepth
    · constructor
      · exact fun h => absurd h.1 hdepth
      · rintro ⟨values, hvalues, -⟩
        -- There is a reference, and its token does not resolve under a negative bound.
        cases halone with
        | nil => exact absurd rfl hne
        | cons hfirst hrest =>
            obtain ⟨found, _, hfound, -, -⟩ := List.forall₂_cons_left_iff.mp hvalues
            rw [unwrap_resolve_of_textAt hfirst] at hfound
            exact absurd hfound (resolveText_of_neg hdepth _ _)
  · intro name hname
    exact ⟨pieces_isReference_iff (hnames name hname),
      not_mem_references_of_not_isEmbeddable (hnames name hname)⟩

end Resolver

/-! ## A reference that is not embeddable -/

namespace Sample

/-- A store with a color whose family is written with a hyphen, one whose family is the end of
that name, and two tokens with a reference to the first, alone and inside a gradient. -/
def warmStore : TokenStore where
  colors := [("warm-gray", [("500", "#78716c")]), ("gray", [("500", "#6b7280")])]
  semantic := [("one", .leaf (.plain "warm-gray.500")),
    ("fade", .leaf (.plain "linear-gradient(warm-gray.500)"))]

theorem warmStore_isAccepted : warmStore.IsAccepted := by
  refine ⟨[(.text "colors", .map [
      (.text "warm-gray", .map [(.text "500", .text "#78716c")]),
      (.text "gray", .map [(.text "500", .text "#6b7280")])]),
    (.text "semantic", .map [(.text "one", .text "warm-gray.500"),
      (.text "fade", .text "linear-gradient(warm-gray.500)")])], ?_, eq_ok_of_toOption ?_⟩
  · simp [Datum.EntriesWellNamed, Datum.TreesWellNamed, Datum.text]
  · decide +kernel

end Sample

namespace Resolver

/-- Alone the reference resolves to its color. Inside the gradient its end is taken for a
reference to the other color, and its start is kept. -/
theorem unwrap_resolve_gradientOf_warm :
    let resolver : Resolver := { store := Sample.warmStore }
    resolver.store.IsAccepted ∧ isReference "warm-gray.500" = true ∧
      ¬ IsEmbeddable "warm-gray.500" ∧
      resolver.textAt .light "fade" = .ok (gradientOf ["warm-gray.500"]) ∧
      resolver.textAt .light "one" = .ok "warm-gray.500" ∧
      (resolver.resolve "one" .light).unwrap = .ok "#78716c" ∧
      (resolver.resolve "fade" .light).unwrap = .ok "linear-gradient(warm-#6b7280)" ∧
      "warm-gray.500".toList ∉ references (pieces "warm-gray.500".toList) ∧
      ∃ values, List.Forall₂ (fun name found => resolver.embedded .light 8 name = .ok found)
        ["warm-gray.500"] values ∧ "linear-gradient(warm-#6b7280)" = gradientOf values := by
  intro resolver
  have hreference : isReference "warm-gray.500" = true := by decide +kernel
  have hembeddable : ¬ IsEmbeddable "warm-gray.500" := by decide +kernel
  have hgradient : resolver.textAt .light "fade" = .ok (gradientOf ["warm-gray.500"]) :=
    Sample.eq_ok_of_toOption (by decide +kernel)
  have halone : resolver.textAt .light "one" = .ok "warm-gray.500" :=
    Sample.eq_ok_of_toOption (by decide +kernel)
  have hone : (resolver.resolve "one" .light).unwrap = .ok "#78716c" :=
    Sample.eq_ok_of_toOption (by decide +kernel)
  have hfade : (resolver.resolve "fade" .light).unwrap = .ok "linear-gradient(warm-#6b7280)" :=
    Sample.eq_ok_of_toOption (by decide +kernel)
  have hpath : resolver.textAt .light (TokenPath.key "fade") =
      .ok (gradientOf ["warm-gray.500"]) := hgradient
  have hpaths : List.Forall₂
      (fun (path : TokenPath) name => resolver.textAt .light path.key = .ok name)
      ["one"] ["warm-gray.500"] := .cons halone .nil
  obtain ⟨hiff, -, hparts⟩ := unwrap_resolve_gradientOf_iff resolver .light
    (List.cons_ne_nil _ _) (List.forall_mem_singleton.mpr hreference) hpath hpaths
    "linear-gradient(warm-#6b7280)"
  obtain ⟨-, hvalues⟩ := hiff.mp hfade
  exact ⟨Sample.warmStore_isAccepted, hreference, hembeddable, hgradient, halone, hone, hfade,
    (hparts _ (List.mem_singleton_self _)).2 hembeddable, hvalues⟩

end Resolver

end DesignTokens
