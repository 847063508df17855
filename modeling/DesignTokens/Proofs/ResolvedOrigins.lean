import DesignTokens.Proofs.ReferenceGraphs
import DesignTokens.Proofs.SettledValues

/-!
# Where a resolved value comes from

References lead from the token that is asked for to a slot that the value comes from. When the
value is no gradient, it is the text of that slot without the blanks at its ends. When it is
one, the slot holds a gradient with the same start. No value has a blank at an end, so a value
that is no gradient is a literal, and a token that holds it resolves to it without following a
reference.
-/

namespace DesignTokens

/-- A value is the stripped text that it comes from, or both are gradients with one start. -/
def HasFormOf (value origin : String) : Prop :=
  (isGradient value = false ∧ value = Text.strip origin) ∨
    ∃ start ∈ gradientStarts,
      start.toList <+: value.toList ∧ start.toList <+: (Text.strip origin).toList

/-! ## Blanks at the ends of a value -/

/-- A stripped text that is not empty ends in a character, and this is not blank. -/
theorem exists_getLast?_of_strip_eq {value : String} (hne : value ≠ "")
    (hstrip : Text.strip value = value) :
    ∃ c, value.toList.getLast? = some c ∧ Text.isBlank c = false := by
  have hchars : Text.stripChars value.toList = value.toList := by
    rw [← String.toList_ofList (l := Text.stripChars value.toList)]
    exact congrArg String.toList hstrip
  have hsome : value.toList ≠ [] := by
    intro hnil
    exact hne (String.toList_eq_nil_iff.mp hnil)
  have hlast := List.getLast?_eq_some_getLast hsome
  have hmem : value.toList.getLast hsome ∈ (Text.stripChars value.toList).getLast? := by
    rw [hchars]
    exact hlast
  exact ⟨_, hlast, Text.isBlank_of_mem_getLast?_stripChars hmem⟩

/-- A row of parts that does not end in a blank still does not when values without a blank at
the end stand in the places of the references. -/
theorem isBlank_of_mem_getLast?_fill {parts : List Piece} {value : List Char → String}
    (hparts : ∀ c ∈ (parts.flatMap Piece.text).getLast?, Text.isBlank c = false)
    (hvalue : ∀ name ∈ references parts,
      ∃ c, (value name).toList.getLast? = some c ∧ Text.isBlank c = false) :
    ∀ c ∈ (fill value parts).getLast?, Text.isBlank c = false := by
  -- The last part alone decides: what stands for it is not empty.
  rcases List.eq_nil_or_concat parts with rfl | ⟨front, last, rfl⟩
  · intro c hc
    cases hc
  rw [List.concat_eq_append] at hparts hvalue ⊢
  rw [List.flatMap_append, List.getLast?_append] at hparts
  intro c hc
  rw [fill, List.flatMap_append, List.getLast?_append] at hc
  cases last with
  | char d =>
      apply hparts c
      simpa [Piece.text] using hc
  | reference name =>
      have hname : name ∈ references (front ++ [Piece.reference name]) := by
        simp [references]
      obtain ⟨d, hlast, hblank⟩ := hvalue name hname
      simp only [List.flatMap_singleton, hlast, Option.some_or, Option.mem_some_iff] at hc
      exact hc ▸ hblank

/-- A gradient is stripped when it is filled with stripped values. -/
theorem strip_fill {raw : String} (hgradient : isGradient (Text.strip raw) = true)
    {value : List Char → String}
    (hvalue : ∀ name ∈ references (pieces (Text.strip raw).toList),
      value name ≠ "" ∧ Text.strip (value name) = value name) :
    Text.strip (String.ofList (fill value (pieces (Text.strip raw).toList))) =
      String.ofList (fill value (pieces (Text.strip raw).toList)) := by
  obtain ⟨start, hstart, hprefix⟩ := isGradient_iff.mp hgradient
  have hchars : (Text.strip raw).toList = Text.stripChars raw.toList := String.toList_ofList
  apply strip_eq_self
  · -- The start is kept, and it has no blank in front.
    obtain ⟨rest, hrest⟩ := prefix_fill hstart hprefix value
    have hnonempty : ∀ start ∈ gradientStarts, start.toList ≠ [] := by decide +kernel
    rw [String.toList_ofList, ← hrest, List.head?_append_of_ne_nil _ (hnonempty start hstart)]
    exact (isBlank_ends_gradientStart hstart).1
  · rw [String.toList_ofList]
    apply isBlank_of_mem_getLast?_fill
    · rw [flatten_pieces, hchars]
      exact fun c hc => Text.isBlank_of_mem_getLast?_stripChars hc
    · intro name hname
      exact exists_getLast?_of_strip_eq (hvalue name hname).1 (hvalue name hname).2

/-- What a text stands for has no blank at its ends. -/
theorem strip_of_denotes {store : TokenStore} {brand : Option BrandTheme} {theme : Theme}
    {raw value : String} {height : Nat} (h : Denotes store brand theme raw value height) :
    Text.strip value = value := by
  induction h with
  | literal hne hgradient hreference => exact Text.strip_strip _
  | reference hgradient hreference hnext hvalue ih => exact ih
  | gradient hgradient hnext hvalue ih =>
      apply strip_fill hgradient
      intro name hname
      refine ⟨?_, ih name hname⟩
      rw [← ih name hname]
      exact (isSettled_of_denotes (hvalue name hname)).1

namespace Resolver

variable {resolver : Resolver} {theme : Theme}

/-! ## Origins -/

/-- From a slot whose text stands for a value, references lead to a slot that the value comes
from. -/
theorem exists_origin_of_denotes {raw value : String} {height : Nat}
    (h : Denotes resolver.store resolver.brand theme raw value height) {slot : Slot}
    (htext : resolver.textOf? theme slot = some raw) :
    ∃ last origin, resolver.Reaches theme slot last ∧
      resolver.textOf? theme last = some origin ∧ HasFormOf value origin := by
  -- Along a reference the origin is that of its target; a gradient is its own origin.
  induction h generalizing slot with
  | @literal raw hne hgradient hreference =>
      exact ⟨slot, raw, .refl, htext, Or.inl ⟨hgradient, rfl⟩⟩
  | @reference raw next value height hgradient hreference hnext hvalue ih =>
      obtain ⟨second, hlands, hsecond⟩ := target_eq_ok_iff_landing.mp (target_eq_ok_iff.mpr hnext)
      obtain ⟨last, origin, hreaches, horigin, hform⟩ := ih hsecond
      have hrefers : resolver.Refers theme slot second := by
        refine refers_iff.mpr ⟨raw, htext, Text.strip raw, ?_, hlands⟩
        simp [aliases, hgradient, hreference]
      exact ⟨last, origin, hreaches.head hrefers, horigin, hform⟩
  | @gradient raw next value height hgradient hnext hvalue ih =>
      obtain ⟨start, hstart, hprefix⟩ := isGradient_iff.mp hgradient
      refine ⟨slot, raw, .refl, htext, Or.inr ⟨start, hstart, ?_, hprefix⟩⟩
      rw [String.toList_ofList]
      exact prefix_fill hstart hprefix value

/-- A slot that references lead to is one of the slots when the first one is. -/
theorem mem_slots_of_reaches {first last : Slot} (hfirst : first ∈ resolver.slots)
    (h : resolver.Reaches theme first last) : last ∈ resolver.slots := by
  induction h with
  | refl => exact hfirst
  | tail _ hrefers _ => exact mem_slots_of_refers hrefers

/-! ## Values that are literals -/

/-- A stripped literal that is no gradient resolves in one step. -/
theorem resolveText_of_literal {value : String} (hne : value ≠ "")
    (hstrip : Text.strip value = value) (hgradient : isGradient value = false)
    (hreference : isReference value = false) (steps : Nat) :
    resolver.resolveText theme (steps + 1) value = .ok value := by
  rw [resolveText_succ, hstrip, if_neg (by rwa [beq_iff_eq]),
    if_neg (ne_true_of_eq_false hgradient), if_neg (ne_true_of_eq_false hreference)]

/-- A token that holds a stripped literal, no gradient, resolves to it under every bound that
is not negative. -/
theorem unwrap_resolve_of_literal {value : String} (hne : value ≠ "")
    (hstrip : Text.strip value = value) (hgradient : isGradient value = false)
    (hreference : isReference value = false) {path : TokenPath}
    (hpath : resolver.textAt theme path.key = .ok value) :
    (resolver.resolve path theme).unwrap = .ok value ↔ 0 ≤ resolver.maxDepth := by
  rw [unwrap_resolve_of_textAt hpath]
  constructor
  · intro h
    by_contra hneg
    exact resolveText_of_neg hneg value value h
  · intro h
    rw [steps_of_nonneg h]
    exact resolveText_of_literal hne hstrip hgradient hreference _

/-- The form and the origin of what a path resolves to. The value is not empty, has no blank at
its ends and is no reference. References lead from the token to a slot that the value comes
from: it is the stripped text of the slot, or both are gradients with one start. A value that
is no gradient refers to nothing, and in whichever store a token holds it, the token resolves
to it under the bound zero already. -/
theorem resolve_origin (resolver : Resolver) (path : TokenPath) (theme : Theme) (value : String)
    (h : (resolver.resolve path theme).unwrap = .ok value) :
    value ≠ "" ∧ Text.strip value = value ∧ isReference value = false ∧
    (∃ slot ∈ resolver.slots, ∃ origin, resolver.Reaches theme (.token path.address) slot ∧
      resolver.textOf? theme slot = some origin ∧ HasFormOf value origin) ∧
    (isGradient value = false → aliases value = [] ∧
      ∀ (other : Resolver) (place : TokenPath) (shown : Theme),
        other.textAt shown place.key = .ok value →
        ((other.resolve place shown).unwrap = .ok value ↔ 0 ≤ other.maxDepth)) := by
  rw [unwrap_resolve_eq_ok_iff, resolvePath_eq_ok_iff] at h
  obtain ⟨leaf, raw, hleaf, hraw, hvalue⟩ := h
  obtain ⟨height, hdenotes, -⟩ := resolveText_eq_ok_iff.mp hvalue
  have hstrip := strip_of_denotes hdenotes
  obtain ⟨hne, hreference⟩ := isSettled_of_denotes hdenotes
  rw [hstrip] at hne hreference
  have htoken : resolver.textOf? theme (.token path.address) = some raw :=
    (textOf?_token hleaf).trans hraw
  obtain ⟨slot, origin, hreaches, horigin, hform⟩ := exists_origin_of_denotes hdenotes htoken
  refine ⟨hne, hstrip, hreference, ?_, ?_⟩
  · exact ⟨slot, mem_slots_of_reaches (token_mem_slots hleaf) hreaches, origin, hreaches,
      horigin, hform⟩
  · intro hgradient
    refine ⟨by simp [aliases, hstrip, hgradient, hreference], ?_⟩
    intro other place shown hplace
    exact unwrap_resolve_of_literal hne hstrip hgradient hreference hplace

/-- The link of the small store resolves to the color of the brand theme. It is no gradient, so
it is the stripped text of a slot, and a token that holds it resolves to it at once. -/
theorem resolve_origin_link :
    (Sample.source.resolver.resolve "link" .light).unwrap = .ok "#e11d48" ∧
      (∃ slot ∈ Sample.source.resolver.slots, ∃ origin,
        Sample.source.resolver.Reaches .light (.token ["link"]) slot ∧
        Sample.source.resolver.textOf? .light slot = some origin ∧
        HasFormOf "#e11d48" origin) ∧
      let holder : Resolver :=
        { store := { semantic := [("own", .leaf (.plain "#e11d48"))] }, maxDepth := 0 }
      (holder.resolve "own" .dark).unwrap = .ok "#e11d48" := by
  have hok : (Sample.source.resolver.resolve "link" .light).unwrap = .ok "#e11d48" :=
    Sample.eq_ok_of_toOption (by decide +kernel)
  have haddress : TokenPath.address "link" = ["link"] := by decide +kernel
  obtain ⟨-, -, -, horigin, hfixed⟩ :=
    resolve_origin Sample.source.resolver "link" .light "#e11d48" hok
  rw [haddress] at horigin
  obtain ⟨-, hholders⟩ := hfixed (by decide +kernel)
  refine ⟨hok, horigin, ?_⟩
  intro holder
  have hholds : holder.textAt .dark (TokenPath.key "own") = .ok "#e11d48" :=
    Sample.eq_ok_of_toOption (by decide +kernel)
  exact (hholders holder "own" .dark hholds).mpr (Int.le_refl 0)

end Resolver

end DesignTokens
