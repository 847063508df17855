import DesignTokens.Proofs.EmbeddedReferences
import DesignTokens.Proofs.ReferenceGraphs

/-!
# Cycles of references

A resolution counts its steps and knows nothing of the slots it has been to. A cycle that is
reached uses up every number of steps, and without one a trail ends before it has been to more
slots than there are. Main statement: a token that reaches a cycle resolves at no bound, and
any other token, at a bound that is not below the number of slots, fails for its depth never
and resolves exactly when every slot that is reached is sound.
-/

namespace DesignTokens

namespace Resolver

variable {resolver : Resolver} {theme : Theme}

/-- A slot at which no resolution fails by itself. -/
structure Sound (resolver : Resolver) (theme : Theme) (slot : Slot) : Prop where
  /-- The slot has a text for the theme. -/
  defined : (resolver.textOf? theme slot).isSome = true
  /-- The text is not blank. -/
  nonblank : ∀ text, resolver.textOf? theme slot = some text → Text.strip text ≠ ""
  /-- Every reference in the text lands on a slot. -/
  lands : ∀ text, resolver.textOf? theme slot = some text →
    ∀ name ∈ aliases text, (resolver.landing? name).isSome = true

/-! ## One step -/

/-- A gradient fails as one of its references does. -/
theorem exists_of_expandPieces_error {ε : Type} {resolve : List Char → Except ε String}
    {parts : List Piece} {e : ε} (h : expandPieces resolve parts = .error e) :
    ∃ name ∈ references parts, resolve name = .error e := by
  induction parts with
  | nil => cases h
  | cons part rest ih =>
      cases part with
      | char c =>
          rw [expandPieces] at h
          cases hrest : expandPieces resolve rest with
          | ok out => rw [hrest] at h; cases h
          | error reason =>
              rw [hrest] at h
              cases h
              exact ih hrest
      | reference name =>
          rw [references_reference]
          rw [expandPieces] at h
          cases hname : resolve name with
          | error reason =>
              rw [hname] at h
              cases h
              exact ⟨name, List.mem_cons_self, hname⟩
          | ok value =>
              rw [hname] at h
              cases hrest : expandPieces resolve rest with
              | ok out => simp only [hrest] at h; cases h
              | error reason =>
                  simp only [hrest] at h
                  cases h
                  obtain ⟨other, hother, hfail⟩ := ih hrest
                  exact ⟨other, List.mem_cons_of_mem name hother, hfail⟩

/-- A text resolves exactly when it is not blank and all its references resolve. -/
theorem exists_resolveText_succ_iff {steps : Nat} {raw : String} :
    (∃ value, resolver.resolveText theme (steps + 1) raw = .ok value) ↔
      Text.strip raw ≠ "" ∧
        ∀ name ∈ aliases raw, ∃ value, resolver.follow theme steps name = .ok value := by
  rw [resolveText_succ, aliases]
  by_cases hempty : Text.strip raw = ""
  · simp [hempty]
  simp only [beq_iff_eq, hempty, if_false, ne_eq, not_false_iff, true_and]
  by_cases hgradient : isGradient (Text.strip raw) = true
  · simp only [if_pos hgradient, List.forall_mem_map]
    constructor
    · rintro ⟨value, h⟩
      rw [map_ofList_eq_ok_iff] at h
      obtain ⟨found, hfound, -⟩ := eq_fill_of_expandPieces h
      exact fun name hname => ⟨found name, hfound name hname⟩
    · intro h
      choose! found hfound using h
      rw [expandPieces_eq_fill hfound]
      exact ⟨_, rfl⟩
  · rw [if_neg hgradient, if_neg hgradient]
    by_cases hreference : isReference (Text.strip raw) = true
    · simp [hreference]
    · simp [hreference]

/-- A text that runs out of steps has a reference that runs out of steps. -/
theorem exists_follow_of_aliasTooDeep {steps : Nat} {raw : String} {limit : Int}
    (h : resolver.resolveText theme (steps + 1) raw = .error (.aliasTooDeep limit)) :
    ∃ name ∈ aliases raw,
      resolver.follow theme steps name = .error (.aliasTooDeep limit) := by
  rw [resolveText_succ] at h
  rw [aliases]
  by_cases hempty : (Text.strip raw == "") = true
  · rw [if_pos hempty] at h
    cases h
  rw [if_neg hempty] at h
  by_cases hgradient : isGradient (Text.strip raw) = true
  · rw [if_pos hgradient] at h ⊢
    cases hout : expandPieces (fun name => resolver.follow theme steps (String.ofList name))
        (pieces (Text.strip raw).toList) with
    | ok out => rw [hout] at h; cases h
    | error cause =>
        rw [hout] at h
        cases h
        obtain ⟨name, hname, hfollow⟩ := exists_of_expandPieces_error hout
        exact ⟨_, List.mem_map.mpr ⟨name, hname, rfl⟩, hfollow⟩
  rw [if_neg hgradient] at h ⊢
  by_cases hreference : isReference (Text.strip raw) = true
  · rw [if_pos hreference] at h ⊢
    exact ⟨_, List.mem_singleton_self _, h⟩
  · rw [if_neg hreference] at h
    cases h

/-! ## Slots that resolve and slots that run out of steps -/

/-- The text of a slot resolves with a number of steps left. -/
def Resolves (resolver : Resolver) (theme : Theme) (steps : Nat) (slot : Slot) : Prop :=
  ∃ text value, resolver.textOf? theme slot = some text ∧
    resolver.resolveText theme steps text = .ok value

/-- The text of a slot needs more steps than are left. -/
def RunsOut (resolver : Resolver) (theme : Theme) (steps : Nat) (slot : Slot) : Prop :=
  ∃ text limit, resolver.textOf? theme slot = some text ∧
    resolver.resolveText theme steps text = .error (.aliasTooDeep limit)

/-- A reference resolves exactly when it lands on a slot that does. -/
theorem exists_follow_iff {steps : Nat} {name : String} :
    (∃ value, resolver.follow theme steps name = .ok value) ↔
      ∃ slot, resolver.landing? name = some slot ∧ resolver.Resolves theme steps slot := by
  constructor
  · rintro ⟨value, h⟩
    obtain ⟨text, hpoints, hvalue⟩ := follow_eq_ok_iff.mp h
    obtain ⟨slot, hslot, htext⟩ := target_eq_ok_iff_landing.mp (target_eq_ok_iff.mpr hpoints)
    exact ⟨slot, hslot, text, value, htext, hvalue⟩
  · rintro ⟨slot, hslot, text, value, htext, hvalue⟩
    have htarget := target_eq_ok_iff_landing.mpr ⟨slot, hslot, htext⟩
    exact ⟨value, follow_eq_ok_iff.mpr ⟨text, target_eq_ok_iff.mp htarget, hvalue⟩⟩

/-- A slot resolves exactly when it is sound and all slots that it refers to resolve with one
step less. -/
theorem resolves_succ_iff {steps : Nat} {slot : Slot} :
    resolver.Resolves theme (steps + 1) slot ↔
      resolver.Sound theme slot ∧
        ∀ next, resolver.Refers theme slot next → resolver.Resolves theme steps next := by
  constructor
  · rintro ⟨text, value, htext, hvalue⟩
    obtain ⟨hnonblank, hnames⟩ := exists_resolveText_succ_iff.mp ⟨value, hvalue⟩
    constructor
    · refine ⟨by rw [htext]; rfl, ?_, ?_⟩
      · rintro other hother
        obtain rfl := Option.some.inj (htext.symm.trans hother)
        exact hnonblank
      · rintro other hother name hname
        obtain rfl := Option.some.inj (htext.symm.trans hother)
        obtain ⟨next, hlands, -⟩ := exists_follow_iff.mp (hnames name hname)
        rw [hlands]
        rfl
    · intro next hnext
      obtain ⟨other, hother, name, hname, hlands⟩ := refers_iff.mp hnext
      obtain rfl := Option.some.inj (htext.symm.trans hother)
      obtain ⟨found, hfound, hresolves⟩ := exists_follow_iff.mp (hnames name hname)
      obtain rfl := Option.some.inj (hlands.symm.trans hfound)
      exact hresolves
  · rintro ⟨hsound, hnext⟩
    obtain ⟨text, htext⟩ := Option.isSome_iff_exists.mp hsound.defined
    have hnames : ∀ name ∈ aliases text,
        ∃ value, resolver.follow theme steps name = .ok value := by
      intro name hname
      obtain ⟨next, hlands⟩ := Option.isSome_iff_exists.mp (hsound.lands text htext name hname)
      have hrefers := refers_iff.mpr ⟨text, htext, name, hname, hlands⟩
      exact exists_follow_iff.mpr ⟨next, hlands, hnext next hrefers⟩
    obtain ⟨value, hvalue⟩ :=
      exists_resolveText_succ_iff.mpr ⟨hsound.nonblank text htext, hnames⟩
    exact ⟨text, value, htext, hvalue⟩

/-- Without a step left nothing resolves. -/
theorem not_resolves_zero (slot : Slot) : ¬ resolver.Resolves theme 0 slot := by
  rintro ⟨text, value, -, hvalue⟩
  cases hvalue

/-- A slot that runs out of steps refers to one that runs out of one step less. -/
theorem exists_refers_of_runsOut {steps : Nat} {slot : Slot}
    (h : resolver.RunsOut theme (steps + 1) slot) :
    ∃ next, resolver.Refers theme slot next ∧ resolver.RunsOut theme steps next := by
  obtain ⟨text, limit, htext, hfail⟩ := h
  obtain ⟨name, hname, hfollow⟩ := exists_follow_of_aliasTooDeep hfail
  unfold follow at hfollow
  cases htarget : resolver.target theme name with
  | error cause =>
      rw [htarget] at hfollow
      cases hfollow
      exact (target_ne_aliasTooDeep name limit htarget).elim
  | ok next =>
      rw [htarget] at hfollow
      obtain ⟨slot, hlands, hnext⟩ := target_eq_ok_iff_landing.mp htarget
      exact ⟨slot, refers_iff.mpr ⟨text, htext, name, hname, hlands⟩, next, limit, hnext, hfollow⟩

/-! ## Cycles use up all steps -/

/-- A slot that resolves refers to slots that resolve with fewer steps. -/
theorem exists_resolves_of_refers {slot next : Slot} (h : resolver.Refers theme slot next)
    {steps : Nat} (hresolves : resolver.Resolves theme steps slot) :
    ∃ fewer < steps, resolver.Resolves theme fewer next := by
  cases steps with
  | zero => exact (not_resolves_zero slot hresolves).elim
  | succ fewer =>
      have hnext := (resolves_succ_iff.mp hresolves).2 next h
      exact ⟨fewer, Nat.lt_succ_self fewer, hnext⟩

/-- References lead from a slot that resolves to slots that resolve with fewer steps. -/
theorem exists_resolves_of_transGen {first second : Slot}
    (h : Relation.TransGen (resolver.Refers theme) first second) {steps : Nat}
    (hresolves : resolver.Resolves theme steps first) :
    ∃ fewer < steps, resolver.Resolves theme fewer second := by
  induction h with
  | single hrefers => exact exists_resolves_of_refers hrefers hresolves
  | tail _ hrefers ih =>
      obtain ⟨fewer, hfewer, hmiddle⟩ := ih
      obtain ⟨least, hleast, hlast⟩ := exists_resolves_of_refers hrefers hmiddle
      exact ⟨least, hleast.trans hfewer, hlast⟩

/-- A slot that resolves leads to slots that resolve. -/
theorem exists_resolves_of_reaches {first second : Slot}
    (h : resolver.Reaches theme first second) {steps : Nat}
    (hresolves : resolver.Resolves theme steps first) :
    ∃ fewer, resolver.Resolves theme fewer second := by
  rcases Relation.reflTransGen_iff_eq_or_transGen.mp h with rfl | htrans
  · exact ⟨steps, hresolves⟩
  · obtain ⟨fewer, -, hsecond⟩ := exists_resolves_of_transGen htrans hresolves
    exact ⟨fewer, hsecond⟩

/-- A slot on a cycle never resolves: around the cycle it would resolve with fewer steps. -/
theorem not_resolves_of_cycle {slot : Slot}
    (h : Relation.TransGen (resolver.Refers theme) slot slot) (steps : Nat) :
    ¬ resolver.Resolves theme steps slot := by
  induction steps using Nat.strong_induction_on with
  | _ steps ih =>
      intro hresolves
      obtain ⟨fewer, hfewer, hagain⟩ := exists_resolves_of_transGen h hresolves
      exact ih fewer hfewer hagain

theorem not_resolves_of_reachesCycle {slot : Slot} (h : resolver.ReachesCycle theme slot)
    (steps : Nat) : ¬ resolver.Resolves theme steps slot := by
  obtain ⟨cyclic, hreaches, hcycle⟩ := h
  intro hresolves
  obtain ⟨fewer, hcyclic⟩ := exists_resolves_of_reaches hreaches hresolves
  exact not_resolves_of_cycle hcycle fewer hcyclic

/-! ## Without a cycle a trail ends -/

/-- What a slot with steps left passes on to one that it refers to, with one step less, goes
along a trail for as long as there are steps. -/
theorem exists_trail {p : Nat → Slot → Prop}
    (hstep : ∀ steps slot, p (steps + 1) slot →
      ∃ next, resolver.Refers theme slot next ∧ p steps next) {steps : Nat} {slot : Slot}
    (h : p steps slot) :
    ∃ trail : List Slot, trail.length = steps ∧
      (slot :: trail).IsChain (resolver.Refers theme) := by
  induction steps generalizing slot with
  | zero => exact ⟨[], rfl, List.isChain_singleton slot⟩
  | succ steps ih =>
      obtain ⟨next, hrefers, hnext⟩ := hstep steps slot h
      obtain ⟨trail, hlength, hchain⟩ := ih hnext
      exact ⟨next :: trail, by rw [List.length_cons, hlength],
        List.isChain_cons_cons.mpr ⟨hrefers, hchain⟩⟩

/-- A sound slot that does not resolve refers to one that does not resolve with one step
less. -/
theorem exists_refers_of_not_resolves {steps : Nat} {slot : Slot}
    (hsound : resolver.Sound theme slot) (h : ¬ resolver.Resolves theme (steps + 1) slot) :
    ∃ next, resolver.Refers theme slot next ∧ ¬ resolver.Resolves theme steps next := by
  rw [resolves_succ_iff] at h
  push Not at h
  exact h hsound

/-- With as many steps as there are slots and without a cycle, nothing runs out of steps. -/
theorem not_runsOut {slot : Slot} (hacyclic : ¬ resolver.ReachesCycle theme slot)
    (hslot : slot ∈ resolver.slots) {steps : Nat} (hsteps : resolver.slots.length ≤ steps) :
    ¬ resolver.RunsOut theme steps slot := by
  intro h
  obtain ⟨trail, hlength, hchain⟩ := exists_trail (fun _ _ => exists_refers_of_runsOut) h
  have hshort := length_lt_of_isChain hacyclic hslot hchain
  omega

/-- With as many steps as there are slots and without a cycle, a slot resolves exactly when
every slot that it reaches is sound. -/
theorem resolves_iff_forall_sound {slot : Slot} (hacyclic : ¬ resolver.ReachesCycle theme slot)
    (hslot : slot ∈ resolver.slots) {steps : Nat} (hsteps : resolver.slots.length ≤ steps) :
    resolver.Resolves theme steps slot ↔
      ∀ reached, resolver.Reaches theme slot reached → resolver.Sound theme reached := by
  constructor
  · intro h reached hreaches
    obtain ⟨fewer, hreached⟩ := exists_resolves_of_reaches hreaches h
    cases fewer with
    | zero => exact (not_resolves_zero reached hreached).elim
    | succ fewer => exact (resolves_succ_iff.mp hreached).1
  · intro hsound
    by_contra hfails
    -- The trail goes on because the slots behind a sound one are reached, so they are sound.
    obtain ⟨trail, hlength, hchain⟩ := exists_trail
      (p := fun steps slot => ¬ resolver.Resolves theme steps slot ∧
        ∀ reached, resolver.Reaches theme slot reached → resolver.Sound theme reached)
      (fun steps slot ⟨hslot, hall⟩ => by
        obtain ⟨next, hrefers, hnext⟩ := exists_refers_of_not_resolves (hall slot .refl) hslot
        exact ⟨next, hrefers, hnext, fun reached h => hall reached (h.head hrefers)⟩)
      ⟨hfails, hsound⟩
    have hshort := length_lt_of_isChain hacyclic hslot hchain
    omega

/-! ## Tokens -/

/-- A token has a value exactly when its slot resolves. -/
theorem exists_unwrap_resolve_iff {path : TokenPath} {leaf : Leaf}
    (hleaf : resolver.store.find? path.address = some (.leaf leaf)) :
    (∃ value, (resolver.resolve path theme).unwrap = .ok value) ↔
      resolver.Resolves theme resolver.steps (.token path.address) := by
  simp only [unwrap_resolve_eq_ok_iff, resolvePath_eq_ok_iff]
  constructor
  · rintro ⟨value, other, text, hother, htext, hvalue⟩
    exact ⟨text, value, (textOf?_token hother).trans htext, hvalue⟩
  · rintro ⟨text, value, htext, hvalue⟩
    rw [textOf?_token hleaf] at htext
    exact ⟨value, leaf, text, hleaf, htext, hvalue⟩

/-- A token that fails for its depth has a slot that runs out of steps. -/
theorem runsOut_of_unwrap_resolve {path : TokenPath} {leaf : Leaf}
    (hleaf : resolver.store.find? path.address = some (.leaf leaf)) {error : ResolutionError}
    {limit : Int} (h : (resolver.resolve path theme).unwrap = .error error)
    (hcause : error.cause = .aliasTooDeep limit) :
    resolver.RunsOut theme resolver.steps (.token path.address) := by
  rw [unwrap_resolve_eq_outcomeAt, hleaf] at h
  cases htext : leaf.textFor theme with
  | none =>
      simp only [outcomeAt, htext] at h
      cases h
      cases hcause
  | some text =>
      simp only [outcomeAt, htext] at h
      cases hvalue : resolver.resolveText theme resolver.steps text with
      | ok value => rw [hvalue] at h; cases h
      | error cause =>
          rw [hvalue] at h
          cases h
          exact ⟨text, limit, (textOf?_token hleaf).trans htext, hvalue.trans (congrArg _ hcause)⟩

/-- A token that reaches a cycle has no value. -/
theorem unwrap_resolve_ne_ok {path : TokenPath} {leaf : Leaf}
    (hleaf : resolver.store.find? path.address = some (.leaf leaf))
    (hcycle : resolver.ReachesCycle theme (.token path.address)) (value : String) :
    (resolver.resolve path theme).unwrap ≠ .ok value := by
  intro h
  have hresolves := (exists_unwrap_resolve_iff hleaf).mp ⟨value, h⟩
  exact not_resolves_of_reachesCycle hcycle resolver.steps hresolves

/-- A token that reaches no cycle does not fail for its depth at a bound that is not below the
number of slots, and has a value exactly when every slot that it reaches is sound. -/
theorem unwrap_resolve_of_acyclic {path : TokenPath} {leaf : Leaf}
    (hleaf : resolver.store.find? path.address = some (.leaf leaf))
    (hacyclic : ¬ resolver.ReachesCycle theme (.token path.address))
    (hdepth : (resolver.slots.length : Int) ≤ resolver.maxDepth) :
    (∀ error limit, (resolver.resolve path theme).unwrap = .error error →
      error.cause ≠ .aliasTooDeep limit) ∧
    ((∃ value, (resolver.resolve path theme).unwrap = .ok value) ↔
      ∀ slot, resolver.Reaches theme (.token path.address) slot →
        resolver.Sound theme slot) := by
  have hslot := token_mem_slots hleaf
  have hsteps : resolver.slots.length ≤ resolver.steps := Nat.le_of_lt (lt_steps_iff.mpr hdepth)
  constructor
  · intro error limit h hcause
    exact not_runsOut hacyclic hslot hsteps (runsOut_of_unwrap_resolve hleaf h hcause)
  · rw [exists_unwrap_resolve_iff hleaf]
    exact resolves_iff_forall_sound hacyclic hslot hsteps

/-- Whether a token reaches a cycle is told by its outcomes. A token that reaches a cycle has
no value at any bound. A token that reaches none does not fail for its depth at a bound that
is not below the number of slots, and it has a value exactly when every slot that it reaches
has a text for the theme, which is not blank and whose references all land on slots. -/
theorem unwrap_resolve_reachesCycle (resolver : Resolver) (hstore : resolver.store.IsAccepted)
    (hbrand : ∀ brand ∈ resolver.brand, brand.IsAccepted) (theme : Theme) (path : TokenPath)
    {leaf : Leaf} (hleaf : resolver.store.find? path.address = some (.leaf leaf)) :
    resolver.slots.Nodup ∧
    (∀ slot, resolver.Reaches theme (.token path.address) slot → slot ∈ resolver.slots) ∧
    (resolver.ReachesCycle theme (.token path.address) → ∀ maxDepth value,
      (Resolver.resolve { resolver with maxDepth } path theme).unwrap ≠ .ok value) ∧
    (¬ resolver.ReachesCycle theme (.token path.address) →
      (resolver.slots.length : Int) ≤ resolver.maxDepth →
        (∀ error limit, (resolver.resolve path theme).unwrap = .error error →
          error.cause ≠ .aliasTooDeep limit) ∧
        ((∃ value, (resolver.resolve path theme).unwrap = .ok value) ↔
          ∀ slot, resolver.Reaches theme (.token path.address) slot →
            resolver.Sound theme slot)) := by
  refine ⟨nodup_slots hstore hbrand, ?_, ?_, unwrap_resolve_of_acyclic hleaf⟩
  · intro slot hreaches
    rcases Relation.ReflTransGen.cases_tail hreaches with rfl | ⟨_, -, hrefers⟩
    · exact token_mem_slots hleaf
    · exact mem_slots_of_refers hrefers
  · intro hcycle maxDepth
    -- Slots and references are the same at every bound.
    let bounded : Resolver := { resolver with maxDepth }
    have hfound : bounded.store.find? path.address = some (.leaf leaf) := hleaf
    have hbounded : bounded.ReachesCycle theme (.token path.address) := hcycle
    exact unwrap_resolve_ne_ok hfound hbounded

end Resolver

/-! ## A token that reaches a cycle in one theme -/

namespace Sample

/-- A token that refers back to itself in one theme, through the brand palette and the brand
theme, and a gradient that refers to its colors. -/
def loopStore : TokenStore where
  colors := [("blue", [("500", "#0ea5e9")])]
  brand := [("primary", [("500", "brand.accent.500")])]
  semantic := [
    ("loop", .leaf (.variant (some "brand.primary.500") (some "blue.500"))),
    ("fade", .leaf (.plain "linear-gradient(blue.500, brand.primary.500)"))]

/-- A brand theme with the family that the store does not have. -/
def loopBrand : BrandTheme where
  id := "acme"
  name := "Acme"
  brand := [("accent", [("500", "semantic.loop")])]

theorem loopStore_isAccepted : loopStore.IsAccepted := by
  refine ⟨[(.text "colors", .map [(.text "blue", .map [(.text "500", .text "#0ea5e9")])]),
    (.text "brand", .map [(.text "primary", .map [(.text "500", .text "brand.accent.500")])]),
    (.text "semantic", .map [
      (.text "loop", .map [(.text "light", .text "brand.primary.500"),
        (.text "dark", .text "blue.500")]),
      (.text "fade", .text "linear-gradient(blue.500, brand.primary.500)")])], ?_,
    eq_ok_of_toOption ?_⟩
  · simp [Datum.EntriesWellNamed, Datum.TreesWellNamed, Datum.text]
  · decide +kernel

theorem loopBrand_isAccepted : loopBrand.IsAccepted := by
  refine ⟨.map [(.text "id", .text "acme"), (.text "name", .text "Acme"),
    (.text "brand", .map [(.text "accent", .map [(.text "500", .text "semantic.loop")])])],
    eq_ok_of_toOption ?_⟩
  decide +kernel

end Sample

namespace Resolver

/-- There are five slots. In the light theme the gradient reaches the cycle of three of them
and has no value at any bound. In the dark theme it reaches all five and no cycle, and it has a
value, so all of them are sound. -/
theorem unwrap_resolve_reachesCycle_fade :
    let resolver : Resolver :=
      { store := Sample.loopStore, brand := some Sample.loopBrand, maxDepth := 5 }
    let fade : Slot := .token (TokenPath.address "fade")
    resolver.store.IsAccepted ∧ (∀ brand ∈ resolver.brand, brand.IsAccepted) ∧
      resolver.slots.length = 5 ∧
      (∃ leaf, resolver.store.find? (TokenPath.address "fade") = some (.leaf leaf)) ∧
      resolver.ReachesCycle .light fade ∧
      (∀ maxDepth value,
        (Resolver.resolve { resolver with maxDepth } "fade" .light).unwrap ≠ .ok value) ∧
      ¬ resolver.ReachesCycle .dark fade ∧
      (resolver.resolve "fade" .dark).unwrap = .ok "linear-gradient(#0ea5e9, #0ea5e9)" ∧
      ∀ slot, resolver.Reaches .dark fade slot → resolver.Sound .dark slot := by
  intro resolver fade
  have hbrand : ∀ brand ∈ resolver.brand, brand.IsAccepted := by
    intro brand h
    cases Option.mem_some_iff.mp h
    exact Sample.loopBrand_isAccepted
  have hleaf : resolver.store.find? (TokenPath.address "fade") =
      some (.leaf (.plain "linear-gradient(blue.500, brand.primary.500)")) := by
    decide +kernel
  have hslots : resolver.slots.length = 5 := by decide +kernel
  have hcycle : resolver.ReachesCycle .light fade := by
    have hfade : resolver.Refers .light fade (.brandPalette "primary" "500") := by decide +kernel
    have hpalette : resolver.Refers .light (.brandPalette "primary" "500")
        (.brandTheme "accent" "500") := by decide +kernel
    have htheme : resolver.Refers .light (.brandTheme "accent" "500") (.token ["loop"]) := by
      decide +kernel
    have hloop : resolver.Refers .light (.token ["loop"]) (.brandPalette "primary" "500") := by
      decide +kernel
    exact ⟨_, .single hfade, ((Relation.TransGen.single hpalette).tail htheme).tail hloop⟩
  have hvalue : (resolver.resolve "fade" .dark).unwrap =
      .ok "linear-gradient(#0ea5e9, #0ea5e9)" :=
    Sample.eq_ok_of_toOption (by decide +kernel)
  obtain ⟨-, -, hlight, -⟩ := unwrap_resolve_reachesCycle resolver Sample.loopStore_isAccepted
    hbrand .light "fade" hleaf
  obtain ⟨-, -, hdark, hsound⟩ := unwrap_resolve_reachesCycle resolver
    Sample.loopStore_isAccepted hbrand .dark "fade" hleaf
  have hacyclic : ¬ resolver.ReachesCycle .dark fade := fun h => hdark h 5 _ hvalue
  have hdepth : (resolver.slots.length : Int) ≤ resolver.maxDepth := by
    rw [hslots]
    decide
  exact ⟨Sample.loopStore_isAccepted, hbrand, hslots, ⟨_, hleaf⟩, hcycle, hlight hcycle,
    hacyclic, hvalue, (hsound hacyclic hdepth).2.mp ⟨_, hvalue⟩⟩

end Resolver

end DesignTokens
