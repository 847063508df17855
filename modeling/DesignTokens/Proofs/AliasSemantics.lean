import DesignTokens.Proofs.AcceptedStores
import DesignTokens.Proofs.ResolutionOutcomes
import Mathlib.Tactic.Choose

/-!
# What an alias stands for

`Denotes` says what a text stands for without counting steps beforehand: a literal stands
for itself, a reference for what its target stands for, a gradient for its text with every
reference replaced. Each derivation has a height, the length of its longest chain of
references. Main statement: a resolution with a bound gives exactly the values that are
denoted at a height within the bound.
-/

namespace DesignTokens

/-! ## Parts of a gradient -/

/-- The references among the parts of a gradient. -/
def references (parts : List Piece) : List (List Char) :=
  parts.filterMap fun part =>
    match part with
    | .char _ => none
    | .reference name => some name

/-- The parts of a gradient with every reference replaced. -/
def fill (value : List Char → String) (parts : List Piece) : List Char :=
  parts.flatMap fun part =>
    match part with
    | .char c => [c]
    | .reference name => (value name).toList

@[simp] theorem references_char (c : Char) (rest : List Piece) :
    references (.char c :: rest) = references rest := rfl

@[simp] theorem references_reference (name : List Char) (rest : List Piece) :
    references (.reference name :: rest) = name :: references rest := rfl

@[simp] theorem fill_char (value : List Char → String) (c : Char) (rest : List Piece) :
    fill value (.char c :: rest) = c :: fill value rest := rfl

@[simp] theorem fill_reference (value : List Char → String) (name : List Char)
    (rest : List Piece) :
    fill value (.reference name :: rest) = (value name).toList ++ fill value rest := rfl

/-- The greatest of the heights above the references of a gradient, zero without any. -/
def heightAbove (height : List Char → Nat) (names : List (List Char)) : Nat :=
  (names.map fun name => height name + 1).foldr max 0

/-- A bound on the height above references bounds each of them. -/
theorem heightAbove_le_iff {height : List Char → Nat} {names : List (List Char)} {n : Nat} :
    heightAbove height names ≤ n ↔ ∀ name ∈ names, height name < n := by
  induction names with
  | nil => simp [heightAbove]
  | cons name rest ih =>
      have hstep : heightAbove height (name :: rest) =
          max (height name + 1) (heightAbove height rest) := rfl
      rw [hstep, List.forall_mem_cons, ← ih]
      omega

section Expansion

variable {ε : Type} {resolve : List Char → Except ε String} {parts : List Piece}

/-- A gradient whose references resolve expands to its filled text. -/
theorem expandPieces_eq_fill {value : List Char → String}
    (h : ∀ name ∈ references parts, resolve name = .ok (value name)) :
    expandPieces resolve parts = .ok (fill value parts) := by
  induction parts with
  | nil => rfl
  | cons part rest ih =>
      cases part with
      | char c =>
          rw [references_char] at h
          have hrest := ih h
          rw [expandPieces, hrest, fill_char]
          rfl
      | reference name =>
          rw [references_reference, List.forall_mem_cons] at h
          have hrest := ih h.2
          rw [expandPieces, h.1, hrest, fill_reference]
          rfl

/-- All references of a gradient that expands resolve, and the result is its filled text. -/
theorem eq_fill_of_expandPieces {out : List Char} (h : expandPieces resolve parts = .ok out) :
    ∃ value, (∀ name ∈ references parts, resolve name = .ok (value name)) ∧
      out = fill value parts := by
  let value (name : List Char) : String :=
    match resolve name with
    | .ok found => found
    | .error _ => ""
  refine ⟨value, ?_⟩
  induction parts generalizing out with
  | nil =>
      rw [expandPieces] at h
      cases h
      exact ⟨by simp [references], rfl⟩
  | cons part rest ih =>
      cases part with
      | char c =>
          rw [expandPieces] at h
          cases hr : expandPieces resolve rest with
          | error e => rw [hr] at h; cases h
          | ok tail =>
              rw [hr] at h
              cases h
              obtain ⟨hnames, htail⟩ := ih hr
              rw [references_char, fill_char, htail]
              exact ⟨hnames, rfl⟩
      | reference name =>
          rw [expandPieces] at h
          cases hn : resolve name with
          | error e => rw [hn] at h; cases h
          | ok found =>
              rw [hn] at h
              cases hr : expandPieces resolve rest with
              | error e => simp only [hr] at h; cases h
              | ok tail =>
                  simp only [hr] at h
                  cases h
                  obtain ⟨hnames, htail⟩ := ih hr
                  have hvalue : value name = found := by simp only [value, hn]
                  rw [references_reference, List.forall_mem_cons, fill_reference, hvalue]
                  exact ⟨⟨hn, hnames⟩, by rw [htail]⟩

end Expansion

/-! ## Targets of a reference -/

section Semantics

variable (store : TokenStore) (brand : Option BrandTheme) (theme : Theme)

/-- The brand theme has no color of the family and shade, and neither has the store. -/
def NoBrandColor (family shade : String) : Prop :=
  (∀ active ∈ brand, TokenStore.paletteColor? active.brand family shade = none) ∧
    TokenStore.paletteColor? store.brand family shade = none

/-- The text that a reference points at: a color of the brand palette, else a color of the
raw palettes, else the text of a leaf of the semantic tree. -/
inductive PointsAt : String → String → Prop
  /-- A color of the brand theme. -/
  | brandTheme {reference family shade color : String} {active : BrandTheme}
      (hname : Text.splitText '.' reference = ["brand", family, shade])
      (hactive : active ∈ brand)
      (hcolor : TokenStore.paletteColor? active.brand family shade = some color) :
      PointsAt reference color
  /-- A color of the store's brand palette that the brand theme does not have. -/
  | brandPalette {reference family shade color : String}
      (hname : Text.splitText '.' reference = ["brand", family, shade])
      (hnone : ∀ active ∈ brand, TokenStore.paletteColor? active.brand family shade = none)
      (hcolor : TokenStore.paletteColor? store.brand family shade = some color) :
      PointsAt reference color
  /-- A color of the raw palettes. -/
  | rawPalette {reference family shade color : String}
      (hname : Text.splitText '.' reference = [family, shade])
      (hcolor : TokenStore.paletteColor? store.colors family shade = some color) :
      PointsAt reference color
  /-- The text of a leaf in the theme, where no palette has the name. -/
  | token {reference text : String} {leaf : Leaf}
      (hbrand : ∀ family shade, Text.splitText '.' reference = ["brand", family, shade] →
        NoBrandColor store brand family shade)
      (hraw : ∀ family shade, Text.splitText '.' reference = [family, shade] →
        TokenStore.paletteColor? store.colors family shade = none)
      (hleaf : store.find? (splitDotted (withoutSemantic reference)) = some (.leaf leaf))
      (htext : leaf.textFor theme = some text) :
      PointsAt reference text

/-- A text stands for a value, with a chain of references of the given height. -/
inductive Denotes : String → String → Nat → Prop
  /-- A literal stands for itself. -/
  | literal {raw : String} (hne : Text.strip raw ≠ "")
      (hgradient : isGradient (Text.strip raw) = false)
      (hreference : isReference (Text.strip raw) = false) :
      Denotes raw (Text.strip raw) 0
  /-- A reference stands for what its target stands for, one step further. -/
  | reference {raw next value : String} {height : Nat}
      (hgradient : isGradient (Text.strip raw) = false)
      (hreference : isReference (Text.strip raw) = true)
      (hnext : PointsAt store brand theme (Text.strip raw) next)
      (hvalue : Denotes next value height) :
      Denotes raw value (height + 1)
  /-- A gradient stands for its text with every reference replaced. -/
  | gradient {raw : String} {next value : List Char → String} {height : List Char → Nat}
      (hgradient : isGradient (Text.strip raw) = true)
      (hnext : ∀ name ∈ references (pieces (Text.strip raw).toList),
        PointsAt store brand theme (String.ofList name) (next name))
      (hvalue : ∀ name ∈ references (pieces (Text.strip raw).toList),
        Denotes (next name) (value name) (height name)) :
      Denotes raw (String.ofList (fill value (pieces (Text.strip raw).toList)))
        (heightAbove height (references (pieces (Text.strip raw).toList)))

end Semantics

/-- A text of two segments is cut at the dot between them. -/
theorem TokenStore.cutAtDot_of_splitText {text family shade : String}
    (h : Text.splitText '.' text = [family, shade]) : cutAtDot text = (family, shade) := by
  obtain ⟨first, rest, hsplit, rfl, hrest⟩ := List.map_eq_cons_iff.mp h
  obtain ⟨second, last, rfl, rfl, hlast⟩ := List.map_eq_cons_iff.mp hrest
  obtain rfl := List.map_eq_nil_iff.mp hlast
  have htext : text.toList = first ++ '.' :: second := by
    rw [← Text.joinWith_splitAt '.' text.toList, hsplit]
    rfl
  have hfirst : '.' ∉ first := Text.not_mem_of_mem_splitAt (s := text.toList) (by simp [hsplit])
  have hkeep : ∀ c ∈ first, (c != '.') = true := by
    intro c hc
    rw [bne_iff_ne]
    rintro rfl
    exact hfirst hc
  simp only [cutAtDot, htext]
  rw [List.takeWhile_append_of_pos hkeep, List.dropWhile_append_of_pos hkeep]
  simp

/-- A name of two segments is looked up in the raw palettes by them. -/
theorem TokenStore.lookupColor?_of_splitText {store : TokenStore}
    {reference family shade : String} (h : Text.splitText '.' reference = [family, shade]) :
    store.lookupColor? reference = paletteColor? store.colors family shade := by
  rw [lookupColor?, cutAtDot_of_splitText h]

namespace Resolver

variable {resolver : Resolver} {theme : Theme}

/-- A name of the brand palette is looked up there and nowhere else. -/
theorem colorTarget?_of_brand {reference family shade : String}
    (h : Text.splitText '.' reference = ["brand", family, shade]) :
    resolver.colorTarget? reference = resolver.brandColor? family shade := by
  simp [colorTarget?, h]

/-- A name of a raw palette is looked up there and nowhere else. -/
theorem colorTarget?_of_raw {reference family shade : String}
    (h : Text.splitText '.' reference = [family, shade]) :
    resolver.colorTarget? reference =
      TokenStore.paletteColor? resolver.store.colors family shade := by
  simp [colorTarget?, h, TokenStore.lookupColor?_of_splitText h]

/-- No brand color is found exactly when neither the brand theme nor the store has one. -/
theorem brandColor?_eq_none_iff {family shade : String} :
    resolver.brandColor? family shade = none ↔
      NoBrandColor resolver.store resolver.brand family shade := by
  unfold brandColor? NoBrandColor
  rw [Option.or_eq_none_iff, Option.bind_eq_none_iff]
  rfl

/-- A brand color that is found is one of the brand theme, or one of the store that the
brand theme does not have. -/
theorem pointsAt_of_brandColor? {reference family shade color : String}
    (hname : Text.splitText '.' reference = ["brand", family, shade])
    (h : resolver.brandColor? family shade = some color) :
    PointsAt resolver.store resolver.brand theme reference color := by
  unfold brandColor? at h
  rcases Option.or_eq_some_iff.mp h with hown | ⟨hnone, hstore⟩
  · obtain ⟨active, hactive, hcolor⟩ := Option.bind_eq_some_iff.mp hown
    exact .brandTheme hname hactive hcolor
  · exact .brandPalette hname (Option.bind_eq_none_iff.mp hnone) hstore

/-- A color that a reference names is what the reference points at. -/
theorem pointsAt_of_colorTarget? {reference color : String}
    (h : resolver.colorTarget? reference = some color) :
    PointsAt resolver.store resolver.brand theme reference color := by
  unfold colorTarget? at h
  split at h
  · rename_i family shade hname
    exact pointsAt_of_brandColor? hname h
  · rename_i family shade hname
    rw [TokenStore.lookupColor?_of_splitText hname] at h
    exact .rawPalette hname h
  · cases h

/-- No color is found exactly when neither palette has the name. -/
theorem colorTarget?_eq_none_iff {reference : String} :
    resolver.colorTarget? reference = none ↔
      (∀ family shade, Text.splitText '.' reference = ["brand", family, shade] →
        NoBrandColor resolver.store resolver.brand family shade) ∧
      (∀ family shade, Text.splitText '.' reference = [family, shade] →
        TokenStore.paletteColor? resolver.store.colors family shade = none) := by
  constructor
  · intro h
    refine ⟨fun family shade hname => ?_, fun family shade hname => ?_⟩
    · rw [← brandColor?_eq_none_iff, ← colorTarget?_of_brand hname]
      exact h
    · rw [← colorTarget?_of_raw hname]
      exact h
  · rintro ⟨hbrand, hraw⟩
    unfold colorTarget?
    split
    · rename_i family shade hname
      exact brandColor?_eq_none_iff.mpr (hbrand family shade hname)
    · rename_i family shade hname
      rw [TokenStore.lookupColor?_of_splitText hname]
      exact hraw family shade hname
    · rfl

/-- A reference has a target exactly when it points at a text. -/
theorem target_eq_ok_iff {reference next : String} :
    resolver.target theme reference = .ok next ↔
      PointsAt resolver.store resolver.brand theme reference next := by
  constructor
  · intro h
    unfold target at h
    cases hcolor : resolver.colorTarget? reference with
    | some color =>
        rw [hcolor] at h
        cases h
        exact pointsAt_of_colorTarget? hcolor
    | none =>
        simp only [hcolor] at h
        split at h
        · obtain ⟨leaf, hleaf, htext⟩ := textAt_eq_ok_iff.mp h
          obtain ⟨hbrand, hraw⟩ := colorTarget?_eq_none_iff.mp hcolor
          exact .token hbrand hraw hleaf htext
        · cases h
  · intro h
    cases h with
    | brandTheme hname hactive hcolor =>
        have hbrand : resolver.brandColor? _ _ = some next :=
          Option.or_eq_some_iff.mpr (Or.inl (Option.bind_eq_some_iff.mpr ⟨_, hactive, hcolor⟩))
        rw [target, colorTarget?_of_brand hname, hbrand]
    | brandPalette hname hnone hcolor =>
        have hbrand : resolver.brandColor? _ _ = some next :=
          Option.or_eq_some_iff.mpr (Or.inr ⟨Option.bind_eq_none_iff.mpr hnone, hcolor⟩)
        rw [target, colorTarget?_of_brand hname, hbrand]
    | rawPalette hname hcolor =>
        rw [target, colorTarget?_of_raw hname, hcolor]
    | token hbrand hraw hleaf htext =>
        have hcolor := colorTarget?_eq_none_iff.mpr ⟨hbrand, hraw⟩
        have htextAt : resolver.textAt theme (withoutSemantic reference) = .ok next :=
          textAt_eq_ok_iff.mpr ⟨_, hleaf, htext⟩
        rw [target, hcolor]
        simp only [hleaf, Option.isSome_some, if_true, htextAt]

/-! ## Bounded resolution -/

/-- The literal that a reference leads to, with a number of steps left behind it. -/
def follow (resolver : Resolver) (theme : Theme) (steps : Nat) (reference : String) :
    Except ResolutionCause String :=
  match resolver.target theme reference with
  | .error cause => .error cause
  | .ok next => resolver.resolveText theme steps next

/-- A reference leads to a value exactly when it points at a text that resolves. -/
theorem follow_eq_ok_iff {steps : Nat} {reference value : String} :
    resolver.follow theme steps reference = .ok value ↔
      ∃ next, PointsAt resolver.store resolver.brand theme reference next ∧
        resolver.resolveText theme steps next = .ok value := by
  unfold follow
  constructor
  · intro h
    cases ht : resolver.target theme reference with
    | error cause => rw [ht] at h; cases h
    | ok next =>
        rw [ht] at h
        exact ⟨next, target_eq_ok_iff.mp ht, h⟩
  · rintro ⟨next, hnext, hvalue⟩
    rw [target_eq_ok_iff.mpr hnext]
    exact hvalue

/-- One step looks at the form of the stripped text. -/
theorem resolveText_succ (steps : Nat) (raw : String) :
    resolver.resolveText theme (steps + 1) raw =
      if Text.strip raw == "" then .error .emptyValue
      else if isGradient (Text.strip raw) then
        (expandPieces (fun name => resolver.follow theme steps (String.ofList name))
          (pieces (Text.strip raw).toList)).map String.ofList
      else if isReference (Text.strip raw) then resolver.follow theme steps (Text.strip raw)
      else .ok (Text.strip raw) := by
  rw [resolveText]
  generalize Text.strip raw = value
  rfl

/-- A value that is found is denoted at a height within the steps. -/
theorem denotes_of_resolveText {steps : Nat} {raw value : String}
    (h : resolver.resolveText theme steps raw = .ok value) :
    ∃ height, Denotes resolver.store resolver.brand theme raw value height ∧
      height < steps := by
  induction steps generalizing raw value with
  | zero => cases h
  | succ steps ih =>
      rw [resolveText_succ] at h
      by_cases hempty : (Text.strip raw == "") = true
      · rw [if_pos hempty] at h
        cases h
      rw [if_neg hempty] at h
      by_cases hgradient : isGradient (Text.strip raw) = true
      · rw [if_pos hgradient] at h
        cases hout : expandPieces
            (fun name => resolver.follow theme steps (String.ofList name))
            (pieces (Text.strip raw).toList) with
        | error cause => rw [hout] at h; cases h
        | ok out =>
            rw [hout] at h
            cases h
            obtain ⟨found, hfound, hfill⟩ := eq_fill_of_expandPieces hout
            rw [hfill]
            -- Each reference has its own target and height, so both are chosen by name.
            have hderived : ∀ name ∈ references (pieces (Text.strip raw).toList),
                ∃ next height, PointsAt resolver.store resolver.brand theme
                  (String.ofList name) next ∧
                Denotes resolver.store resolver.brand theme next (found name) height ∧
                height < steps := by
              intro name hname
              obtain ⟨next, hnext, hvalue⟩ := follow_eq_ok_iff.mp (hfound name hname)
              obtain ⟨height, hdenotes, hlt⟩ := ih hvalue
              exact ⟨next, height, hnext, hdenotes, hlt⟩
            choose! next height hnext hdenotes hlt using hderived
            refine ⟨_, .gradient hgradient hnext hdenotes, ?_⟩
            exact Nat.lt_succ_of_le (heightAbove_le_iff.mpr hlt)
      rw [if_neg hgradient] at h
      rw [Bool.not_eq_true] at hgradient
      by_cases hreference : isReference (Text.strip raw) = true
      · rw [if_pos hreference] at h
        obtain ⟨next, hnext, hvalue⟩ := follow_eq_ok_iff.mp h
        obtain ⟨height, hdenotes, hlt⟩ := ih hvalue
        exact ⟨height + 1, .reference hgradient hreference hnext hdenotes, Nat.succ_lt_succ hlt⟩
      · rw [if_neg hreference] at h
        rw [Bool.not_eq_true] at hreference
        cases h
        exact ⟨0, .literal (by simpa using hempty) hgradient hreference, Nat.succ_pos steps⟩

/-- A value that is denoted is found with more steps than its height. -/
theorem resolveText_of_denotes {raw value : String} {height : Nat}
    (h : Denotes resolver.store resolver.brand theme raw value height) :
    ∀ steps, height < steps → resolver.resolveText theme steps raw = .ok value := by
  have hblank : isGradient "" = false ∧ isReference "" = false := by decide +kernel
  have hgiven {text : String} (h : isGradient text = true ∨ isReference text = true) :
      ¬(text == "") = true := by
    rw [beq_iff_eq]
    rintro rfl
    rw [hblank.1, hblank.2] at h
    simp at h
  induction h with
  | literal hnonempty hgradient hreference =>
      intro steps hsteps
      obtain ⟨steps, rfl⟩ := Nat.exists_eq_add_one_of_ne_zero (Nat.ne_of_gt hsteps)
      rw [resolveText_succ, if_neg (by simpa using hnonempty),
        if_neg (ne_true_of_eq_false hgradient), if_neg (ne_true_of_eq_false hreference)]
  | reference hgradient hreference hnext hvalue ih =>
      intro steps hsteps
      obtain ⟨steps, rfl⟩ := Nat.exists_eq_add_one_of_ne_zero (Nat.ne_zero_of_lt hsteps)
      have hfollow := follow_eq_ok_iff.mpr ⟨_, hnext, ih steps (Nat.lt_of_succ_lt_succ hsteps)⟩
      rw [resolveText_succ, if_neg (hgiven (Or.inr hreference)),
        if_neg (ne_true_of_eq_false hgradient), if_pos hreference, hfollow]
  | @gradient raw next found height hgradient hnext _ ih =>
      intro steps hsteps
      obtain ⟨steps, rfl⟩ := Nat.exists_eq_add_one_of_ne_zero (Nat.ne_zero_of_lt hsteps)
      have hheight := heightAbove_le_iff.mp (Nat.le_of_lt_succ hsteps)
      have hfollow : ∀ name ∈ references (pieces (Text.strip raw).toList),
          resolver.follow theme steps (String.ofList name) = .ok (found name) := by
        intro name hname
        have hvalue := ih name hname steps (hheight name hname)
        exact follow_eq_ok_iff.mpr ⟨_, hnext name hname, hvalue⟩
      rw [resolveText_succ, if_neg (hgiven (Or.inl hgradient)), if_pos hgradient,
        expandPieces_eq_fill hfollow]
      rfl

/-- A text resolves within a number of steps exactly to what it denotes at a lower height. -/
theorem resolveText_eq_ok_iff {steps : Nat} {raw value : String} :
    resolver.resolveText theme steps raw = .ok value ↔
      ∃ height, Denotes resolver.store resolver.brand theme raw value height ∧
        height < steps := by
  constructor
  · exact denotes_of_resolveText
  · rintro ⟨height, hdenotes, hlt⟩
    exact resolveText_of_denotes hdenotes steps hlt

/-- A height lies below the number of steps exactly when it is within the bound. -/
theorem lt_steps_iff {height : Nat} :
    height < resolver.steps ↔ (height : Int) ≤ resolver.maxDepth := by
  unfold steps
  omega

/-- A path resolves exactly to what the text of its leaf denotes at a height within the
bound, and keeps its value under every greater bound. The leaf is the one at the address of
the path: its own segments, unless a segment that was given is empty or holds a dot. -/
theorem unwrap_resolve_eq_ok_iff_denotes (resolver : Resolver) (path : TokenPath)
    (theme : Theme) (value : String) :
    ((resolver.resolve path theme).unwrap = .ok value ↔
      ∃ leaf raw height, resolver.store.find? path.address = some (.leaf leaf) ∧
        leaf.textFor theme = some raw ∧
        Denotes resolver.store resolver.brand theme raw value height ∧
        (height : Int) ≤ resolver.maxDepth) ∧
    (path.address = path.parts ↔ IsAddressable path.parts) ∧
    ∀ more, resolver.maxDepth ≤ more → (resolver.resolve path theme).unwrap = .ok value →
      (Resolver.resolve { resolver with maxDepth := more } path theme).unwrap = .ok value := by
  have hiff (resolver : Resolver) : (resolver.resolve path theme).unwrap = .ok value ↔
      ∃ leaf raw height, resolver.store.find? path.address = some (.leaf leaf) ∧
        leaf.textFor theme = some raw ∧
        Denotes resolver.store resolver.brand theme raw value height ∧
        (height : Int) ≤ resolver.maxDepth := by
    rw [unwrap_resolve_eq_ok_iff, resolvePath_eq_ok_iff]
    simp only [resolveText_eq_ok_iff, lt_steps_iff]
    constructor
    · rintro ⟨leaf, raw, hleaf, hraw, height, hdenotes, hle⟩
      exact ⟨leaf, raw, height, hleaf, hraw, hdenotes, hle⟩
    · rintro ⟨leaf, raw, height, hleaf, hraw, hdenotes, hle⟩
      exact ⟨leaf, raw, hleaf, hraw, height, hdenotes, hle⟩
  refine ⟨hiff resolver, splitDotted_joinDotted_eq_self_iff, ?_⟩
  intro more hmore h
  obtain ⟨leaf, raw, height, hleaf, hraw, hdenotes, hle⟩ := (hiff resolver).mp h
  exact (hiff _).mpr ⟨leaf, raw, height, hleaf, hraw, hdenotes, Int.le_trans hle hmore⟩

end Resolver

/-! ## A link and a gradient of a link -/

/-- A store with a gradient of a link and of the color that the link points at. -/
def Sample.fadeStore : TokenStore where
  brand := [("primary", [("500", "#0ea5e9")])]
  semantic := [
    ("a", .group [("link", .leaf (.plain "brand.primary.500"))]),
    ("fade", .leaf (.plain "linear-gradient(a.link, brand.primary.500)"))]
  scales := {}

namespace Resolver

/-- One step is enough for the link of the small store, and more steps change nothing. A gradient
of a link and of the color behind it takes the two steps of the link, and one is not enough. -/
theorem unwrap_resolve_link_of_le :
    let resolver : Resolver := { store := Sample.store, brand := some Sample.brand, maxDepth := 1 }
    let fading : Resolver :=
      { store := Sample.fadeStore, brand := some Sample.brand, maxDepth := 2 }
    (resolver.resolve "link" .light).unwrap = .ok "#e11d48" ∧
      (Resolver.resolve { resolver with maxDepth := maxAliasDepth } "link" .light).unwrap =
        .ok "#e11d48" ∧
      (∃ leaf raw height, Sample.store.find? (TokenPath.address "link") = some (.leaf leaf) ∧
        leaf.textFor .light = some raw ∧
        Denotes Sample.store (some Sample.brand) .light raw "#e11d48" height ∧
        (height : Int) ≤ 1) ∧
      references (pieces "linear-gradient(a.link, brand.primary.500)".toList) =
        ["a.link".toList, "brand.primary.500".toList] ∧
      (fading.resolve "fade" .light).unwrap = .ok "linear-gradient(#e11d48, #e11d48)" ∧
      Denotes Sample.fadeStore (some Sample.brand) .light
        "linear-gradient(a.link, brand.primary.500)" "linear-gradient(#e11d48, #e11d48)" 2 ∧
      (Resolver.resolve { fading with maxDepth := 1 } "fade" .light).unwrap ≠
        .ok "linear-gradient(#e11d48, #e11d48)" := by
  intro resolver fading
  have hok : (resolver.resolve "link" .light).unwrap = .ok "#e11d48" :=
    Sample.eq_ok_of_toOption (by decide +kernel)
  obtain ⟨hiff, -, hmono⟩ :=
    unwrap_resolve_eq_ok_iff_denotes resolver "link" .light "#e11d48"
  have hfade : (fading.resolve "fade" .light).unwrap = .ok "linear-gradient(#e11d48, #e11d48)" :=
    Sample.eq_ok_of_toOption (by decide +kernel)
  have hshort : (Resolver.resolve { fading with maxDepth := 1 } "fade" .light).unwrap ≠
      .ok "linear-gradient(#e11d48, #e11d48)" := by
    have hnone : (Resolver.resolve { fading with maxDepth := 1 } "fade" .light).unwrap.toOption =
        none := by
      decide +kernel
    intro h
    rw [h] at hnone
    cases hnone
  have htwo : Denotes Sample.fadeStore (some Sample.brand) .light
      "linear-gradient(a.link, brand.primary.500)" "linear-gradient(#e11d48, #e11d48)" 2 := by
    obtain ⟨leaf, raw, height, hleaf, hraw, hdenotes, hle⟩ :=
      (unwrap_resolve_eq_ok_iff_denotes fading "fade" .light _).1.mp hfade
    -- With the same derivation, a height within one step would do with that bound.
    have hmore : ¬ (height : Int) ≤ 1 := fun hone => hshort
      ((unwrap_resolve_eq_ok_iff_denotes { fading with maxDepth := 1 } "fade" .light _).1.mpr
        ⟨leaf, raw, height, hleaf, hraw, hdenotes, hone⟩)
    have hfound : Sample.fadeStore.find? (TokenPath.address "fade") =
        some (.leaf (.plain "linear-gradient(a.link, brand.primary.500)")) := by
      decide +kernel
    cases hleaf.symm.trans hfound
    cases hraw
    change (height : Int) ≤ 2 at hle
    obtain rfl : height = 2 := by omega
    exact hdenotes
  exact ⟨hok, hmono maxAliasDepth (by decide) hok, hiff.mp hok, by decide +kernel, hfade, htwo,
    hshort⟩

end Resolver

end DesignTokens
