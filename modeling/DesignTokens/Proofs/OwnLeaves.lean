import DesignTokens.Proofs.AliasSemantics
import DesignTokens.Proofs.BuildContents
import Mathlib.Data.List.Nodup

/-!
# Leaves that are compiled from their own text

A traversal knows a leaf by its segments, but resolves it under its dotted text. The dotted
text leads back to the leaf exactly when its path is addressable; the leaf is then compiled
from its own text. Any other leaf is compiled from what lies at another path: that of
another leaf with a name of its own, a group or nothing. The check of the custom properties
does not exclude such leaves.
-/

namespace DesignTokens

/-- The entry of a leaf behind a traversal: its value stands under its name, or the name is
as before and the failure is recorded. -/
def CompiledTo (before after : VariableSet) (path : List String) :
    Except ResolutionError String → Prop
  | .ok value => after.get? (variableName path) = some value
  | .error error =>
      after.get? (variableName path) = before.get? (variableName path) ∧
        ⟨joinDotted path, before.theme, error.message⟩ ∈ after.skipped

/-- Leaves of a well-formed store with the same custom property are the same. -/
theorem TokenStore.WellFormed.eq_of_variableName_eq {store : TokenStore} (h : store.WellFormed)
    {first second : List String × Leaf} (hfirst : first ∈ store.leaves)
    (hsecond : second ∈ store.leaves) (heq : variableName first.1 = variableName second.1) :
    first = second :=
  List.inj_on_of_nodup_map h.nodup_leafNames hfirst hsecond heq

namespace Resolver

variable {resolver : Resolver}

/-- A traversal compiles every leaf to the outcome of its segments. -/
theorem compiledTo_unwrap_resolve (hstore : resolver.store.WellFormed)
    {found : List String × Leaf} (hfound : found ∈ resolver.store.leaves) (sink : VariableSet) :
    ∃ after, resolver.traverse resolver.store.semantic [] sink.theme sink = .ok after ∧
      CompiledTo sink after found.1
        (resolver.resolve (.segments found.1) sink.theme).unwrap := by
  refine ⟨_, resolver.traverse_eq resolver.store.semantic [] sink, ?_⟩
  have hdistinct := hstore.nodup_keys_emitted resolver sink.theme
  cases hout : (resolver.resolve (.segments found.1) sink.theme).unwrap with
  | ok value => exact Entries.get?_putAll_of_mem hdistinct (resolver.mem_emitted hfound hout)
  | error error =>
      constructor
      · apply Entries.get?_putAll_of_not_mem
        intro hmem
        -- A value under this name would be that of a leaf with the name, so of this one.
        obtain ⟨entry, hentry, hname⟩ := List.mem_map.mp hmem
        obtain ⟨other, hother, hnameOther, hok⟩ := resolver.exists_of_mem_emitted hentry
        have hsame := hstore.eq_of_variableName_eq hother hfound (hnameOther.symm.trans hname)
        rw [hsame, hout] at hok
        cases hok
      · apply List.mem_append_right
        exact resolver.mem_leftOut hfound hout

/-- A plain literal resolves to itself, stripped. -/
theorem outcomeAt_of_literal {theme : Theme} {key text : String} (hne : Text.strip text ≠ "")
    (hgradient : isGradient (Text.strip text) = false)
    (hreference : isReference (Text.strip text) = false) (hdepth : 0 ≤ resolver.maxDepth) :
    resolver.outcomeAt theme key (some (.leaf (.plain text))) = .ok (Text.strip text) := by
  have hsteps : 0 < resolver.steps := lt_steps_iff.mpr hdepth
  have hvalue : resolver.resolveText theme resolver.steps text = .ok (Text.strip text) :=
    resolveText_of_denotes (.literal hne hgradient hreference) resolver.steps hsteps
  simp only [outcomeAt, Leaf.textFor, hvalue]
  rfl

/-- What each leaf of an accepted store is compiled from. A leaf whose path is addressable is
compiled from its own text, a plain literal to itself, and no other addressable leaf has its
dotted text. A leaf whose path is not is compiled from the node at the address of its path,
which is another path; a leaf there has a custom property of its own. -/
theorem compiledTo_ownLeaf_or_other (resolver : Resolver)
    (hstore : resolver.store.IsAccepted) {path : List String} {leaf : Leaf}
    (hleaf : (path, leaf) ∈ resolver.store.leaves) (sink : VariableSet) :
    ∃ address after, address = splitDotted (joinDotted path) ∧
      resolver.traverse resolver.store.semantic [] sink.theme sink = .ok after ∧
      resolver.store.find? path = some (.leaf leaf) ∧
      (address = path ↔ IsAddressable path) ∧
      (IsAddressable path →
        resolver.store.find? address = some (.leaf leaf) ∧
        CompiledTo sink after path
          (resolver.outcomeAt sink.theme (joinDotted path) (some (.leaf leaf))) ∧
        (∀ text, leaf = .plain text → Text.strip text ≠ "" →
          isGradient (Text.strip text) = false → isReference (Text.strip text) = false →
          0 ≤ resolver.maxDepth →
          after.get? (variableName path) = some (Text.strip text)) ∧
        ∀ other ∈ resolver.store.leaves, IsAddressable other.1 →
          joinDotted other.1 = joinDotted path → other = (path, leaf)) ∧
      (¬ IsAddressable path →
        address ≠ path ∧
        CompiledTo sink after path
          (resolver.outcomeAt sink.theme (joinDotted path) (resolver.store.find? address)) ∧
        ∀ other, resolver.store.find? address = some (.leaf other) →
          (address, other) ∈ resolver.store.leaves ∧
            variableName address ≠ variableName path) := by
  have hwell := hstore.wellFormed
  have hown := TokenStore.find?_of_mem_leaves hwell.tree hleaf
  have haddress : splitDotted (joinDotted path) = path ↔ IsAddressable path :=
    splitDotted_joinDotted_eq_self_iff
  obtain ⟨after, htraverse, hcompiled⟩ := compiledTo_unwrap_resolve hwell hleaf sink
  rw [unwrap_resolve_eq_outcomeAt] at hcompiled
  change CompiledTo sink after path (resolver.outcomeAt sink.theme (joinDotted path)
    (resolver.store.find? (splitDotted (joinDotted path)))) at hcompiled
  refine ⟨_, after, rfl, htraverse, hown, haddress, ?_, ?_⟩
  · intro hpath
    rw [haddress.mpr hpath] at hcompiled ⊢
    rw [hown] at hcompiled
    refine ⟨hown, hcompiled, ?_, ?_⟩
    · rintro text rfl hne hgradient hreference hdepth
      rw [outcomeAt_of_literal hne hgradient hreference hdepth] at hcompiled
      exact hcompiled
    · intro other hother haddressable hdotted
      have hsame : other.1 = path := eq_of_joinDotted_eq haddressable hpath hdotted
      exact hwell.eq_of_variableName_eq hother hleaf (congrArg variableName hsame)
  · intro hpath
    have hne : splitDotted (joinDotted path) ≠ path := fun heq => hpath (haddress.mp heq)
    refine ⟨hne, hcompiled, ?_⟩
    intro other hother
    have hmem := TokenStore.mem_leaves_of_find? hother
    refine ⟨hmem, ?_⟩
    intro hname
    exact hne (congrArg Prod.fst (hwell.eq_of_variableName_eq hmem hleaf hname))

/-- Of the two leaves of the small store with the same address, one is compiled from its own
text and the other one from that text too. -/
theorem compiledTo_ownLeaf_or_other_small :
    let resolver : Resolver := { store := Sample.store }
    ∃ after,
      resolver.traverse resolver.store.semantic [] .light { theme := .light } = .ok after ∧
      resolver.store.find? ["a", "b"] = some (.leaf (.plain "#111111")) ∧
      resolver.store.find? ["a", "", "b"] = some (.leaf (.plain "#222222")) ∧
      splitDotted (joinDotted ["a", "", "b"]) ≠ ["a", "", "b"] ∧
      after.get? "--mond-a-b" = some "#111111" ∧
      after.get? "--mond-a--b" = some "#111111" := by
  intro resolver
  have hplain : IsAddressable ["a", "b"] := by decide
  have hempty : ¬ IsAddressable ["a", "", "b"] := by decide
  have hfirst : (["a", "b"], Leaf.plain "#111111") ∈ resolver.store.leaves := by
    decide +kernel
  have hsecond : (["a", "", "b"], Leaf.plain "#222222") ∈ resolver.store.leaves := by
    decide +kernel
  obtain ⟨_, after, rfl, htraverse, hown, -, hcompiled, -⟩ :=
    compiledTo_ownLeaf_or_other resolver Sample.store_isAccepted hfirst
      { theme := .light }
  obtain ⟨-, -, hliteral, -⟩ := hcompiled hplain
  obtain ⟨_, again, rfl, htraverse', hother, -, -, hcompiled'⟩ :=
    compiledTo_ownLeaf_or_other resolver Sample.store_isAccepted hsecond
      { theme := .light }
  obtain ⟨hne, hthere, -⟩ := hcompiled' hempty
  obtain rfl : after = again := Except.ok.inj (htraverse.symm.trans htraverse')
  have houtcome : resolver.outcomeAt .light (joinDotted ["a", "", "b"])
      (resolver.store.find? (splitDotted (joinDotted ["a", "", "b"]))) = .ok "#111111" :=
    Sample.eq_ok_of_toOption (by decide +kernel)
  have hvalue := hliteral "#111111" rfl (by decide +kernel) (by decide +kernel)
    (by decide +kernel) (by decide)
  have hname : variableName ["a", "b"] = "--mond-a-b" := by decide +kernel
  have hname' : variableName ["a", "", "b"] = "--mond-a--b" := by decide +kernel
  have hstrip : Text.strip "#111111" = "#111111" := by decide +kernel
  rw [hname, hstrip] at hvalue
  rw [houtcome, CompiledTo, hname'] at hthere
  exact ⟨after, htraverse, hown, hother, hne, hvalue, hthere⟩

end Resolver

end DesignTokens
