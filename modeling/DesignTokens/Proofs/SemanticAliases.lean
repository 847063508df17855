import DesignTokens.Proofs.EmbeddedReferences

/-!
# References past the palettes

A reference that starts with the name of the semantic tree leads to a token, whatever colors
the palettes have under the rest of its name. It has one segment more than that rest, so it has
no name of the brand palette, and its family in the raw palettes is the name of the tree. Main
statement: in a store without a family of that name, a token that holds such a reference
resolves exactly as the token it names does, one step further.
-/

namespace DesignTokens

/-! ## Names of several segments -/

/-- A dotted text of segments as references have them: not empty, and of word characters and
hyphens only. -/
def IsReferenceTail (name : String) : Prop :=
  ∀ segment ∈ Text.splitText '.' name,
    segment ≠ "" ∧ segment.toList.all isReferenceChar = true

instance : DecidablePred IsReferenceTail := fun _ =>
  inferInstanceAs (Decidable (∀ segment ∈ _, _ ∧ _))

/-- Every character of joined pieces is the separator or lies in a piece. -/
theorem Text.eq_or_mem_of_mem_joinWith {sep c : Char} {pieces : List (List Char)}
    (h : c ∈ joinWith sep pieces) : c = sep ∨ ∃ piece ∈ pieces, c ∈ piece := by
  induction pieces with
  | nil => cases h
  | cons first rest ih =>
      cases rest with
      | nil => exact Or.inr ⟨first, List.mem_singleton_self first, h⟩
      | cons second others =>
          rw [joinWith, List.mem_append, List.mem_cons] at h
          · rcases h with hfirst | hsep | hrest
            · exact Or.inr ⟨first, List.mem_cons_self, hfirst⟩
            · exact Or.inl hsep
            · refine (ih hrest).imp_right ?_
              rintro ⟨piece, hpiece, hc⟩
              exact ⟨piece, List.mem_cons_of_mem first hpiece, hc⟩
          · exact List.cons_ne_nil _ _

/-- A dotted text of segments of references has no blank. -/
theorem IsReferenceTail.isBlank_eq_false {name : String} (h : IsReferenceTail name) {c : Char}
    (hc : c ∈ name.toList) : Text.isBlank c = false := by
  rw [← Text.joinWith_splitAt '.' name.toList] at hc
  rcases Text.eq_or_mem_of_mem_joinWith hc with rfl | ⟨piece, hpiece, hmem⟩
  · decide
  · have hsegment := (h _ (List.mem_map_of_mem hpiece)).2
    rw [String.toList_ofList, List.all_eq_true] at hsegment
    exact Text.isBlank_eq_false_of (by decide +kernel) (hsegment c hmem)

/-! ## The start of the reference -/

/-- The cut goes through the dot at the end of the start. -/
theorem splitAt_semanticStart (rest : List Char) :
    Text.splitAt '.' (semanticStart.toList ++ rest) =
      "semantic".toList :: Text.splitAt '.' rest := by
  have hstart : semanticStart.toList = "semantic".toList ++ ['.'] := by decide
  rw [hstart, List.append_assoc, List.singleton_append, Text.splitAt_eq_splitOn,
    List.splitOn_append_cons_self, List.splitOn_eq_singleton (by decide),
    ← Text.splitAt_eq_splitOn, List.singleton_append]

/-- The segments of a reference past the palettes are the name of the tree and those of the
rest. -/
theorem splitText_semanticStart (name : String) :
    Text.splitText '.' (semanticStart ++ name) = "semantic" :: Text.splitText '.' name := by
  rw [Text.splitText, String.toList_append, splitAt_semanticStart, List.map_cons,
    String.ofList_toList]
  rfl

/-- The start is taken off once. -/
theorem withoutSemantic_semanticStart (name : String) :
    withoutSemantic (semanticStart ++ name) = name := by
  have hstart : semanticStart.toList.isPrefixOf (semanticStart ++ name).toList = true := by
    rw [List.isPrefixOf_iff_prefix, String.toList_append]
    exact List.prefix_append _ _
  rw [withoutSemantic, if_pos hstart, String.toList_append, List.drop_left, String.ofList_toList]

/-- A text that starts with the name of the tree and has no blank is not terminal. -/
theorem isLiteral_semanticStart {name : String}
    (h : ∀ c ∈ name.toList, Text.isBlank c = false) :
    isLiteral (semanticStart ++ name) = false := by
  have htext : (semanticStart ++ name).toList = 's' :: ("emantic.".toList ++ name.toList) := by
    rw [String.toList_append]
    rfl
  have hblank : (semanticStart ++ name).toList.any Text.isBlank = false := by
    rw [String.toList_append, List.any_append, Bool.or_eq_false_iff]
    exact ⟨by decide, by simpa using h⟩
  have hkeyword : keywords.contains (semanticStart ++ name) = false := by
    have hfirst : ∀ keyword ∈ keywords, keyword.toList.head? ≠ some 's' := by decide
    rw [← Bool.not_eq_true, List.contains_iff_mem]
    intro hmem
    exact hfirst _ hmem (by rw [htext]; rfl)
  simp only [isLiteral, hblank, hkeyword, Bool.or_false]
  rw [htext]
  rfl

/-- The name of the tree before segments of references is a reference. -/
theorem IsReferenceTail.isReference_semanticStart {name : String} (h : IsReferenceTail name) :
    isReference (semanticStart ++ name) = true := by
  have hsegments : ∀ segment ∈ Text.splitAt '.' name.toList,
      (!segment.isEmpty && segment.all isReferenceChar) = true := by
    intro segment hsegment
    obtain ⟨hne, hchars⟩ := h _ (List.mem_map_of_mem hsegment)
    rw [String.toList_ofList] at hchars
    rw [Bool.and_eq_true, Bool.not_eq_true', List.isEmpty_eq_false_iff]
    refine ⟨?_, hchars⟩
    rintro rfl
    exact hne rfl
  obtain ⟨second, others, hsplit⟩ :=
    List.exists_cons_of_ne_nil (Text.splitAt_ne_nil '.' name.toList)
  rw [hsplit] at hsegments
  rw [isReference, isLiteral_semanticStart fun c => h.isBlank_eq_false, isReferenceName,
    String.toList_append, splitAt_semanticStart, hsplit]
  have hfirst : "semantic".toList = 's' :: "emantic".toList := by decide
  simp only [hfirst, List.all_eq_true.mpr hsegments]
  decide

/-! ## What the reference points at -/

/-- Past the palettes a reference points at the text of the token that the rest names, if no
family of the raw palettes is called like the tree. -/
theorem pointsAt_semanticStart_iff {store : TokenStore} {brand : Option BrandTheme}
    {theme : Theme} (hfamily : Entries.get? store.colors "semantic" = none)
    {name text : String} :
    PointsAt store brand theme (semanticStart ++ name) text ↔
      ∃ leaf, store.find? (splitDotted name) = some (.leaf leaf) ∧
        leaf.textFor theme = some text := by
  have hbrand {family shade : String} :
      Text.splitText '.' (semanticStart ++ name) ≠ ["brand", family, shade] := by
    rw [splitText_semanticStart]
    exact fun hname => absurd (List.cons.inj hname).1 (by decide)
  have hraw {family shade : String}
      (hname : Text.splitText '.' (semanticStart ++ name) = [family, shade]) :
      TokenStore.paletteColor? store.colors family shade = none := by
    rw [splitText_semanticStart] at hname
    rw [← (List.cons.inj hname).1, TokenStore.paletteColor?, hfamily]
    rfl
  constructor
  · intro h
    cases h with
    | brandTheme hname _ _ => exact absurd hname hbrand
    | brandPalette hname _ _ => exact absurd hname hbrand
    | rawPalette hname hcolor =>
        rw [hraw hname] at hcolor
        cases hcolor
    | token _ _ hleaf htext =>
        rw [withoutSemantic_semanticStart] at hleaf
        exact ⟨_, hleaf, htext⟩
  · rintro ⟨leaf, hleaf, htext⟩
    refine .token ?_ ?_ (by rwa [withoutSemantic_semanticStart]) htext
    · exact fun family shade hname => absurd hname hbrand
    · exact fun family shade hname => hraw hname

/-- A reference stands at a height for what its target stands for one step below. -/
theorem denotes_of_isReference_iff {store : TokenStore} {brand : Option BrandTheme}
    {theme : Theme} {reference value : String} (h : isReference reference = true) {height : Nat} :
    Denotes store brand theme reference value height ↔
      ∃ next below, height = below + 1 ∧ PointsAt store brand theme reference next ∧
        Denotes store brand theme next value below := by
  obtain ⟨hstrip, -, hgradient⟩ := strip_of_isReference h
  constructor
  · intro hdenotes
    cases hdenotes with
    | literal _ _ hreference =>
        rw [hstrip, h] at hreference
        cases hreference
    | @reference _ next _ below _ _ hnext hvalue =>
        rw [hstrip] at hnext
        exact ⟨next, below, rfl, hnext, hvalue⟩
    | gradient hother _ _ =>
        rw [hstrip, hgradient] at hother
        cases hother
  · rintro ⟨next, below, rfl, hnext, hvalue⟩
    refine .reference ?_ ?_ ?_ hvalue <;> rwa [hstrip]

namespace Resolver

/-- A token that holds a reference past the palettes resolves within a bound to exactly the
values to which the rest of the reference resolves within a bound of one less. It does not
matter what colors the palettes have under that rest. -/
theorem unwrap_resolve_semantic_iff (resolver : Resolver) (theme : Theme)
    (hfamily : Entries.get? resolver.store.colors "semantic" = none) {path : TokenPath}
    {name : String} (hname : IsReferenceTail name)
    (hleaf : resolver.store.find? path.address = some (.leaf (.plain ("semantic." ++ name))))
    (value : String) :
    (Resolver.resolve { resolver with maxDepth := resolver.maxDepth + 1 } path theme).unwrap =
        .ok value ↔
      (resolver.resolve name theme).unwrap = .ok value := by
  have haddress : TokenPath.address name = splitDotted name :=
    splitDotted_joinDotted_splitDotted name
  have hreference := hname.isReference_semanticStart
  rw [(unwrap_resolve_eq_ok_iff_denotes _ path theme value).1,
    (unwrap_resolve_eq_ok_iff_denotes resolver name theme value).1, haddress]
  constructor
  · rintro ⟨leaf, raw, height, hfound, hraw, hdenotes, hle⟩
    rw [hleaf] at hfound
    cases hfound
    cases hraw
    obtain ⟨next, below, rfl, hnext, hvalue⟩ :=
      (denotes_of_isReference_iff hreference).mp hdenotes
    obtain ⟨target, htarget, htext⟩ := (pointsAt_semanticStart_iff hfamily).mp hnext
    have hbelow : (below : Int) ≤ resolver.maxDepth := by
      simpa using hle
    exact ⟨target, next, below, htarget, htext, hvalue, hbelow⟩
  · rintro ⟨leaf, raw, height, hfound, hraw, hdenotes, hle⟩
    have hnext : PointsAt resolver.store resolver.brand theme (semanticStart ++ name) raw :=
      (pointsAt_semanticStart_iff hfamily).mpr ⟨leaf, hfound, hraw⟩
    have hvalue := (denotes_of_isReference_iff hreference).mpr
      ⟨raw, height, rfl, hnext, hdenotes⟩
    exact ⟨_, _, height + 1, hleaf, rfl, hvalue, by simpa using hle⟩

end Resolver

namespace Sample

/-- A store with a color in the raw palettes, a token of the same dotted name, and a token that
refers to the other one past the palettes. -/
def shadedStore : TokenStore where
  colors := [("gray", [("900", "#111827")])]
  semantic := [("gray", .group [("900", .leaf (.plain "#000000"))]),
    ("ink", .leaf (.plain "semantic.gray.900"))]

theorem shadedStore_isAccepted : shadedStore.IsAccepted := by
  refine ⟨[(.text "colors", .map [(.text "gray", .map [(.text "900", .text "#111827")])]),
    (.text "semantic", .map [(.text "gray", .map [(.text "900", .text "#000000")]),
      (.text "ink", .text "semantic.gray.900")])], ?_, eq_ok_of_toOption ?_⟩
  · simp [Datum.EntriesWellNamed, Datum.TreesWellNamed, Datum.text]
  · decide +kernel

end Sample

namespace Resolver

/-- One step leads past the color of the raw palettes to the token of the same name. -/
theorem unwrap_resolve_semantic_gray :
    let resolver : Resolver := { store := Sample.shadedStore, maxDepth := 0 }
    resolver.store.IsAccepted ∧ resolver.colorTarget? "gray.900" = some "#111827" ∧
      Entries.get? resolver.store.colors "semantic" = none ∧ IsReferenceTail "gray.900" ∧
      resolver.store.find? (TokenPath.address "ink") =
        some (.leaf (.plain ("semantic." ++ "gray.900"))) ∧
      (Resolver.resolve { resolver with maxDepth := 1 } "ink" .light).unwrap = .ok "#000000" := by
  intro resolver
  have hfamily : Entries.get? resolver.store.colors "semantic" = none := by decide
  have hname : IsReferenceTail "gray.900" := by decide
  have hleaf : resolver.store.find? (TokenPath.address "ink") =
      some (.leaf (.plain ("semantic." ++ "gray.900"))) := by decide +kernel
  have hgray : (resolver.resolve "gray.900" .light).unwrap = .ok "#000000" :=
    Sample.eq_ok_of_toOption (by decide +kernel)
  exact ⟨Sample.shadedStore_isAccepted, by decide +kernel, hfamily, hname, hleaf,
    (unwrap_resolve_semantic_iff resolver .light hfamily hname hleaf "#000000").mpr hgray⟩

end Resolver

end DesignTokens
