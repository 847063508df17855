import DesignTokens.Proofs.BuildContents
import DesignTokens.Proofs.ResolutionOutcomes

/-!
# Values at run time and in the stylesheet

A path that resolves at run time has a variable in the build of the same store, brand theme
and theme, and the variable has the value that was resolved. A brand theme may write the
same name, but does so before the leaves, and no scale has the name of a leaf.
-/

namespace DesignTokens

namespace StylesheetSource

variable {source : StylesheetSource}

/-- The variable of a leaf that resolves keeps its value through the whole build. -/
theorem get?_build_of_mem_emitted (hstore : source.store.WellFormed) {theme : Theme}
    {name value : String}
    (h : (name, value) ∈ source.resolver.emitted theme source.store.leaves) :
    ∃ sets, source.build = .ok sets ∧ (sets.forTheme theme).get? name = some value := by
  have hbehind := (List.nodup_append.mp hstore.nodup_names).2.1
  obtain ⟨-, -, hscales⟩ := List.nodup_append.mp hbehind
  have hdistinct := hstore.nodup_keys_emitted source.resolver theme
  have hname : name ∈ source.store.leaves.map fun leaf => variableName leaf.1 :=
    (source.resolver.keys_emitted_sublist theme source.store.leaves).subset
      (List.mem_map.mpr ⟨_, h, rfl⟩)
  refine ⟨_, source.build_eq, ?_⟩
  cases theme with
  | dark => exact Entries.get?_putAll_of_mem hdistinct h
  | light =>
      have hnew : name ∉ Entries.keys source.store.scaleVariables :=
        fun hmem => hscales name hname name hmem rfl
      change Entries.get? (Entries.putAll [] _) name = some value
      rw [Entries.putAll_append, Entries.get?_putAll_of_not_mem hnew, Entries.putAll_append]
      exact Entries.get?_putAll_of_mem hdistinct h

/-- What a path resolves to at run time is the value of its variable in the build. The
variable is named after the path that the resolution reports. -/
theorem get?_build_of_resolve (source : StylesheetSource) (hstore : source.store.IsAccepted)
    {path : TokenPath} {theme : Theme} {value : String}
    (h : (source.resolver.resolve path theme).unwrap = .ok value) :
    ∃ sets, source.build = .ok sets ∧
      (sets.forTheme theme).get?
        (variableName (splitDotted (source.resolver.resolve path theme).path)) =
          some value := by
  have hpath : (source.resolver.resolve path theme).path = path.key := by
    unfold Resolver.resolve
    split <;> rfl
  rw [Resolver.unwrap_resolve_eq_ok_iff] at h
  obtain ⟨leaf, text, hfind, htext, hvalue⟩ := Resolver.resolvePath_eq_ok_iff.mp h
  have hmem : (path.address, leaf) ∈ source.store.leaves :=
    TokenStore.mem_leaves_of_find? hfind
  have hback : splitDotted (joinDotted path.address) = path.address :=
    splitDotted_joinDotted_splitDotted path.key
  have hsame : (source.resolver.resolve (.segments path.address) theme).unwrap = .ok value := by
    rw [Resolver.unwrap_resolve_eq_ok_iff, Resolver.resolvePath_eq_ok_iff]
    refine ⟨leaf, text, ?_, htext, hvalue⟩
    change source.resolver.store.find? (splitDotted (joinDotted path.address)) = _
    rw [hback]
    exact hfind
  rw [hpath]
  exact get?_build_of_mem_emitted hstore.wellFormed
    (source.resolver.mem_emitted hmem hsame)

/-- The link of the small store resolves to the changed brand color, and so does its
variable. -/
theorem get?_build_of_resolve_link :
    Sample.source.store.IsAccepted ∧
      (Sample.source.resolver.resolve "link" .light).unwrap = .ok "#e11d48" ∧
      ∃ sets, Sample.source.build = .ok sets ∧
        sets.light.get? "--mond-link" = some "#e11d48" := by
  have hok : (Sample.source.resolver.resolve "link" .light).unwrap = .ok "#e11d48" :=
    Sample.eq_ok_of_toOption (by decide +kernel)
  have hname : variableName (splitDotted
      (Sample.source.resolver.resolve "link" .light).path) = "--mond-link" := by
    decide +kernel
  obtain ⟨sets, hbuild, hget⟩ := get?_build_of_resolve Sample.source
    Sample.store_isAccepted hok
  rw [hname] at hget
  exact ⟨Sample.store_isAccepted, hok, sets, hbuild, hget⟩

end StylesheetSource

end DesignTokens
