import DesignTokens.Proofs.AcceptedBrands
import DesignTokens.Proofs.AliasSemantics
import DesignTokens.Proofs.BuildContents
import DesignTokens.Proofs.MergedPalettes
import Mathlib.Data.List.Chain
import Mathlib.Logic.Relation

/-!
# The graph of references

Every text that a resolution may look at is held by a slot: a color of the brand theme, of the
brand palette or of a raw palette, or a token. A slot refers to the slots that the references
in its text land on. The target of a reference is the text of the slot that it lands on. In a
graph without a cycle a trail is shorter than the number of slots.
-/

namespace DesignTokens

/-- What holds a text that a resolution may look at. -/
inductive Slot where
  /-- A color of the brand theme. -/
  | brandTheme (family shade : String)
  /-- A color of the brand palette of the store. -/
  | brandPalette (family shade : String)
  /-- A color of the raw palettes. -/
  | rawPalette (family shade : String)
  /-- A token at its path. -/
  | token (path : List String)
deriving Repr, DecidableEq

/-- The references in a text: those that are embedded in a gradient, or the text itself. -/
def aliases (text : String) : List String :=
  let value := Text.strip text
  if isGradient value then (references (pieces value.toList)).map String.ofList
  else if isReference value then [value]
  else []

/-- The slots of a palette. -/
def paletteSlots (slot : String → String → Slot) (palette : Palette) : List Slot :=
  (shadeNames palette).map fun name => slot name.1 name.2

/-- A color that is found is in a slot of its palette. -/
theorem mem_paletteSlots_of_paletteColor? {slot : String → String → Slot} {palette : Palette}
    {family shade color : String}
    (h : TokenStore.paletteColor? palette family shade = some color) :
    slot family shade ∈ paletteSlots slot palette := by
  have hname : (family, shade) ∈ shadeNames palette := by
    rw [← map_paletteEntries]
    exact List.mem_map.mpr ⟨_, mem_paletteEntries_of_paletteColor? h, rfl⟩
  exact List.mem_map.mpr ⟨_, hname, rfl⟩

namespace Resolver

/-- The palette of the brand theme, empty without one. -/
def themePalette (resolver : Resolver) : Palette := (resolver.brand.map BrandTheme.brand).getD []

/-- All slots, each once when the store and the brand theme are accepted. -/
def slots (resolver : Resolver) : List Slot :=
  paletteSlots .brandTheme resolver.themePalette ++
    (paletteSlots .brandPalette resolver.store.brand ++
      (paletteSlots .rawPalette resolver.store.colors ++
        resolver.store.leaves.map fun leaf => .token leaf.1))

/-- The text of a slot; a token may have none for the theme. -/
def textOf? (resolver : Resolver) (theme : Theme) : Slot → Option String
  | .brandTheme family shade => TokenStore.paletteColor? resolver.themePalette family shade
  | .brandPalette family shade => TokenStore.paletteColor? resolver.store.brand family shade
  | .rawPalette family shade => TokenStore.paletteColor? resolver.store.colors family shade
  | .token path =>
      match resolver.store.find? path with
      | some (.leaf leaf) => leaf.textFor theme
      | _ => none

/-- The slot of the color that a reference names, if it names one. -/
def colorSlot? (resolver : Resolver) (reference : String) : Option Slot :=
  match Text.splitText '.' reference with
  | ["brand", family, shade] =>
      if (TokenStore.paletteColor? resolver.themePalette family shade).isSome then
        some (.brandTheme family shade)
      else if (TokenStore.paletteColor? resolver.store.brand family shade).isSome then
        some (.brandPalette family shade)
      else none
  | [family, shade] =>
      if (TokenStore.paletteColor? resolver.store.colors family shade).isSome then
        some (.rawPalette family shade)
      else none
  | _ => none

/-- The slot of the token that a reference names past all palettes. -/
def tokenSlot? (resolver : Resolver) (reference : String) : Option Slot :=
  let path := splitDotted (withoutSemantic reference)
  match resolver.store.find? path with
  | some (.leaf _) => some (.token path)
  | _ => none

/-- The slot that a reference lands on. -/
def landing? (resolver : Resolver) (reference : String) : Option Slot :=
  (resolver.colorSlot? reference).or (resolver.tokenSlot? reference)

/-- The slots that the references in the text of a slot land on. -/
def successors (resolver : Resolver) (theme : Theme) (slot : Slot) : List Slot :=
  ((resolver.textOf? theme slot).toList.flatMap aliases).filterMap resolver.landing?

/-- A reference in the text of the first slot lands on the second one. -/
def Refers (resolver : Resolver) (theme : Theme) (first second : Slot) : Prop :=
  second ∈ resolver.successors theme first

instance (resolver : Resolver) (theme : Theme) : DecidableRel (resolver.Refers theme) :=
  fun first second => inferInstanceAs (Decidable (second ∈ resolver.successors theme first))

/-- A slot is the first one, or references lead to it. -/
def Reaches (resolver : Resolver) (theme : Theme) : Slot → Slot → Prop :=
  Relation.ReflTransGen (resolver.Refers theme)

/-- References lead to a slot from which references lead back to it. -/
def ReachesCycle (resolver : Resolver) (theme : Theme) (slot : Slot) : Prop :=
  ∃ cyclic, resolver.Reaches theme slot cyclic ∧
    Relation.TransGen (resolver.Refers theme) cyclic cyclic

variable {resolver : Resolver} {theme : Theme}

theorem refers_iff {first second : Slot} :
    resolver.Refers theme first second ↔
      ∃ text, resolver.textOf? theme first = some text ∧
        ∃ name ∈ aliases text, resolver.landing? name = some second := by
  simp only [Refers, successors, List.mem_filterMap, List.mem_flatMap, Option.mem_toList]
  constructor
  · rintro ⟨name, ⟨text, htext, hname⟩, hlands⟩
    exact ⟨text, htext, name, hname, hlands⟩
  · rintro ⟨text, htext, name, hname, hlands⟩
    exact ⟨name, ⟨text, htext, hname⟩, hlands⟩

/-! ## Where a reference lands -/

theorem textOf?_token {path : List String} {leaf : Leaf}
    (h : resolver.store.find? path = some (.leaf leaf)) :
    resolver.textOf? theme (.token path) = leaf.textFor theme := by
  simp only [textOf?, h]

theorem brandColor?_eq_or (family shade : String) :
    resolver.brandColor? family shade =
      (TokenStore.paletteColor? resolver.themePalette family shade).or
        (TokenStore.paletteColor? resolver.store.brand family shade) := by
  unfold brandColor? themePalette
  cases resolver.brand <;> rfl

/-- The slot of a color holds the color, and without a slot there is none. -/
theorem colorTarget?_eq_bind (theme : Theme) (reference : String) :
    resolver.colorTarget? reference =
      (resolver.colorSlot? reference).bind (resolver.textOf? theme) := by
  unfold colorTarget?
  split
  · rename_i family shade hname
    simp only [colorSlot?, hname, brandColor?_eq_or]
    cases htheme : TokenStore.paletteColor? resolver.themePalette family shade with
    | some color => simp [textOf?, htheme]
    | none =>
        cases hstore : TokenStore.paletteColor? resolver.store.brand family shade with
        | some color => simp [textOf?, hstore]
        | none => simp
  · rename_i family shade hname
    simp only [colorSlot?, hname, TokenStore.lookupColor?_of_splitText hname]
    cases hraw : TokenStore.paletteColor? resolver.store.colors family shade with
    | some color => simp [textOf?, hraw]
    | none => simp
  · rename_i hbrand hraw
    have hslot : resolver.colorSlot? reference = none := by
      unfold colorSlot?
      split
      · rename_i hname
        exact (hbrand _ _ hname).elim
      · rename_i hname
        exact (hraw _ _ hname).elim
      · rfl
    rw [hslot, Option.bind_none]

/-- The slot of a color is one of the slots, and it holds a text. -/
theorem colorSlot?_cases (theme : Theme) {reference : String} {slot : Slot}
    (h : resolver.colorSlot? reference = some slot) :
    slot ∈ resolver.slots ∧ (resolver.textOf? theme slot).isSome = true := by
  unfold colorSlot? at h
  unfold slots
  split at h
  · split at h
    · rename_i hcolor
      cases h
      obtain ⟨color, hfound⟩ := Option.isSome_iff_exists.mp hcolor
      exact ⟨List.mem_append_left _ (mem_paletteSlots_of_paletteColor? hfound), hcolor⟩
    · split at h
      · rename_i hcolor
        cases h
        obtain ⟨color, hfound⟩ := Option.isSome_iff_exists.mp hcolor
        exact ⟨List.mem_append_right _ (List.mem_append_left _
          (mem_paletteSlots_of_paletteColor? hfound)), hcolor⟩
      · cases h
  · split at h
    · rename_i hcolor
      cases h
      obtain ⟨color, hfound⟩ := Option.isSome_iff_exists.mp hcolor
      exact ⟨List.mem_append_right _ (List.mem_append_right _ (List.mem_append_left _
        (mem_paletteSlots_of_paletteColor? hfound))), hcolor⟩
    · cases h
  · cases h

/-- The slot of a token that a reference names is that of a leaf. -/
theorem tokenSlot?_eq_some_iff {reference : String} {slot : Slot} :
    resolver.tokenSlot? reference = some slot ↔
      ∃ leaf, resolver.store.find? (splitDotted (withoutSemantic reference)) =
          some (.leaf leaf) ∧
        slot = .token (splitDotted (withoutSemantic reference)) := by
  simp only [tokenSlot?]
  cases resolver.store.find? (splitDotted (withoutSemantic reference)) with
  | none => simp
  | some node => cases node <;> simp [eq_comm]

/-- The path of a leaf is a slot. -/
theorem token_mem_slots {path : List String} {leaf : Leaf}
    (h : resolver.store.find? path = some (.leaf leaf)) : .token path ∈ resolver.slots := by
  have hleaf := TokenStore.mem_leaves_of_find? h
  exact List.mem_append_right _ (List.mem_append_right _ (List.mem_append_right _
    (List.mem_map.mpr ⟨_, hleaf, rfl⟩)))

/-- References land on slots. -/
theorem mem_slots_of_landing? {reference : String} {slot : Slot}
    (h : resolver.landing? reference = some slot) : slot ∈ resolver.slots := by
  rcases Option.or_eq_some_iff.mp h with hcolor | ⟨-, htoken⟩
  · exact (colorSlot?_cases .light hcolor).1
  · obtain ⟨leaf, hleaf, rfl⟩ := tokenSlot?_eq_some_iff.mp htoken
    exact token_mem_slots hleaf

/-- The target of a reference is the text of the slot that it lands on. -/
theorem target_eq_ok_iff_landing {reference text : String} :
    resolver.target theme reference = .ok text ↔
      ∃ slot, resolver.landing? reference = some slot ∧
        resolver.textOf? theme slot = some text := by
  unfold target landing?
  rw [colorTarget?_eq_bind theme]
  cases hslot : resolver.colorSlot? reference with
  | some slot =>
      obtain ⟨color, hcolor⟩ := Option.isSome_iff_exists.mp (colorSlot?_cases theme hslot).2
      simp [hcolor]
  | none =>
      simp only [Option.bind_none, Option.none_or, tokenSlot?_eq_some_iff]
      constructor
      · intro h
        split at h
        · obtain ⟨leaf, hleaf, htext⟩ := textAt_eq_ok_iff.mp h
          exact ⟨_, ⟨leaf, hleaf, rfl⟩, (textOf?_token hleaf).trans htext⟩
        · cases h
      · rintro ⟨slot, ⟨leaf, hleaf, rfl⟩, htext⟩
        rw [textOf?_token hleaf] at htext
        rw [if_pos (by rw [hleaf]; rfl)]
        exact textAt_eq_ok_iff.mpr ⟨leaf, hleaf, htext⟩

/-- A path without a text does not fail for its depth. -/
theorem textAt_ne_aliasTooDeep (path : String) (limit : Int) :
    resolver.textAt theme path ≠ .error (.aliasTooDeep limit) := by
  intro h
  unfold textAt at h
  split at h
  · cases h
  · cases h
  · split at h
    · cases h
    · cases h

/-- A reference without a target does not fail for its depth. -/
theorem target_ne_aliasTooDeep (reference : String) (limit : Int) :
    resolver.target theme reference ≠ .error (.aliasTooDeep limit) := by
  intro h
  unfold target at h
  split at h
  · cases h
  · dsimp only at h
    split at h
    · exact textAt_ne_aliasTooDeep _ _ h
    · cases h

/-! ## Slots and trails -/

/-- The slots of a palette with distinct names are distinct. -/
theorem nodup_paletteSlots {slot : String → String → Slot} {palette : Palette}
    (hslot : ∀ first second : String × String,
      slot first.1 first.2 = slot second.1 second.2 → first = second)
    (h : DistinctPalette palette) : (paletteSlots slot palette).Nodup :=
  (nodup_shadeNames h).map hslot

/-- No slot is listed twice. -/
theorem nodup_slots (hstore : resolver.store.IsAccepted)
    (hbrand : ∀ brand ∈ resolver.brand, brand.IsAccepted) : resolver.slots.Nodup := by
  have htheme : DistinctPalette resolver.themePalette := by
    unfold themePalette
    cases hactive : resolver.brand with
    | none => exact ⟨List.nodup_nil, fun _ h => by cases h⟩
    | some brand => exact (hbrand brand hactive).distinctPalette
  have htokens : (resolver.store.leaves.map fun leaf => Slot.token leaf.1).Nodup := by
    have hpaths : (resolver.store.leaves.map Prod.fst).Nodup := by
      apply List.Nodup.of_map variableName
      rw [List.map_map]
      exact hstore.wellFormed.nodup_leafNames
    have hslots := hpaths.map (f := Slot.token) fun first second heq => Slot.token.inj heq
    rwa [List.map_map] at hslots
  unfold slots
  rw [List.nodup_append', List.nodup_append', List.nodup_append']
  refine ⟨nodup_paletteSlots ?_ htheme, ⟨nodup_paletteSlots ?_ hstore.distinctPalette,
    ⟨nodup_paletteSlots ?_ hstore.distinctColors, htokens, ?_⟩, ?_⟩, ?_⟩
  · exact fun first second heq => Prod.ext_iff.mpr (Slot.brandTheme.inj heq)
  · exact fun first second heq => Prod.ext_iff.mpr (Slot.brandPalette.inj heq)
  · exact fun first second heq => Prod.ext_iff.mpr (Slot.rawPalette.inj heq)
  -- Slots of different kinds are different.
  all_goals
    rw [List.disjoint_left]
    intro slot hfirst hsecond
    simp only [paletteSlots, List.mem_append, List.mem_map] at hfirst hsecond
    obtain ⟨name, -, rfl⟩ := hfirst
    simp at hsecond

theorem mem_slots_of_refers {first second : Slot} (h : resolver.Refers theme first second) :
    second ∈ resolver.slots := by
  obtain ⟨text, -, name, -, hlands⟩ := refers_iff.mp h
  exact mem_slots_of_landing? hlands

/-- Without a cycle no slot is on a trail twice, so a trail is shorter than the number of
slots. -/
theorem length_lt_of_isChain {start : Slot} {trail : List Slot}
    (hacyclic : ¬ resolver.ReachesCycle theme start) (hstart : start ∈ resolver.slots)
    (h : (start :: trail).IsChain (resolver.Refers theme)) :
    trail.length < resolver.slots.length := by
  have hchain : (start :: trail).IsChain (Relation.TransGen (resolver.Refers theme)) :=
    h.imp fun first second => Relation.TransGen.single
  have hpairwise := List.isChain_iff_pairwise.mp hchain
  have hbehind := (List.pairwise_cons.mp hpairwise).1
  have hreached : ∀ slot ∈ start :: trail, resolver.Reaches theme start slot := by
    rintro slot (_ | ⟨_, hslot⟩)
    · exact .refl
    · exact (hbehind slot hslot).to_reflTransGen
  have hnodup : (start :: trail).Nodup := by
    refine hpairwise.imp_of_mem ?_
    rintro first _ hfirst - hcycle rfl
    exact hacyclic ⟨first, hreached first hfirst, hcycle⟩
  have hsubset : start :: trail ⊆ resolver.slots := by
    rintro slot (_ | ⟨_, hslot⟩)
    · exact hstart
    · obtain ⟨before, -, hrefers⟩ := Relation.TransGen.tail'_iff.mp (hbehind slot hslot)
      exact mem_slots_of_refers hrefers
  exact hnodup.length_le_of_subset hsubset

end Resolver

end DesignTokens
