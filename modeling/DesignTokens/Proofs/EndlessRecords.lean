import DesignTokens.Catalog.Loading
import DesignTokens.Proofs.ClassifiedData

/-!
# Records that hold themselves

A mapping that holds itself has no end, and a check that meets one in a field never gets to tell
what is wrong with the field. It does not meet one behind a part that is refused, so what counts
is the order of the parts. Main statements: writing the names and numbers of a datum as text,
classifying a datum as a tree and checking a record each run into a mapping that holds itself
exactly when the data have one in a place that is reached.
-/

namespace DesignTokens

namespace Datum

/-! ## Names and numbers as text -/

/-- A mapping that holds itself is reached when the names and numbers of a datum are written as
text in their order. -/
inductive IsEndlessText : Datum → Prop
  | here : IsEndlessText endless
  /-- Everything before the value that goes on without end can be written, its key as well. -/
  | inside {before after : List (Scalar × Datum)} {key : Scalar} {value : Datum}
      (hbefore : ∀ entry ∈ before, entry.1.isWritable = true ∧ entry.2.unwritable? = none)
      (hkey : key.isWritable = true) (hvalue : IsEndlessText value) :
      IsEndlessText (map (before ++ (key, value) :: after))

/-- Only a mapping goes on without end. -/
theorem IsEndlessText.isMapping {datum : Datum} (h : datum.IsEndlessText) : datum.IsMapping := by
  cases h <;> exact True.intro

theorem unwritableScalar?_ne_endless (value : Scalar) :
    unwritableScalar? value ≠ some .endless := by
  unfold unwritableScalar?
  split <;> intro h <;> cases h

/-- The entries of a mapping go on without end at the first of them that cannot be written. -/
theorem unwritableIn?_eq_endless_iff {entries : List (Scalar × Datum)} :
    unwritableIn? entries = some .endless ↔
      ∃ before key value after, entries = before ++ (key, value) :: after ∧
        (∀ entry ∈ before, entry.1.isWritable = true ∧ entry.2.unwritable? = none) ∧
        key.isWritable = true ∧ value.unwritable? = some .endless := by
  constructor
  · intro h
    induction entries with
    | nil => rw [unwritableIn?] at h; cases h
    | cons entry rest ih =>
        obtain ⟨key, value⟩ := entry
        rw [unwritableIn?] at h
        cases hkey : unwritableScalar? key with
        | some reason =>
            rw [hkey] at h
            exact absurd (hkey.trans h) (unwritableScalar?_ne_endless key)
        | none =>
            rw [hkey] at h
            rw [unwritableScalar?_eq_none_iff] at hkey
            cases hvalue : value.unwritable? with
            | some reason =>
                rw [hvalue] at h
                exact ⟨[], key, value, rest, rfl, by simp, hkey, hvalue.trans h⟩
            | none =>
                rw [hvalue] at h
                obtain ⟨before, last, found, after, rfl, hbefore, hfound⟩ := ih h
                refine ⟨(key, value) :: before, last, found, after, rfl, ?_, hfound⟩
                rw [List.forall_mem_cons]
                exact ⟨⟨hkey, hvalue⟩, hbefore⟩
  · rintro ⟨before, key, value, after, rfl, hbefore, hkey, hvalue⟩
    induction before with
    | nil => rw [List.nil_append, unwritableIn?, unwritableScalar?_eq_none_iff.mpr hkey, hvalue]
    | cons entry before ih =>
        rw [List.forall_mem_cons] at hbefore
        rw [List.cons_append, unwritableIn?, unwritableScalar?_eq_none_iff.mpr hbefore.1.1,
          hbefore.1.2]
        exact ih hbefore.2

/-- Writing a datum as text runs into a mapping that holds itself exactly when one is reached. -/
theorem unwritable?_eq_endless_iff (datum : Datum) :
    datum.unwritable? = some .endless ↔ datum.IsEndlessText := by
  induction datum using induction with
  | map entries ih =>
      rw [unwritable?, unwritableIn?_eq_endless_iff]
      constructor
      · rintro ⟨before, key, value, after, rfl, hbefore, hkey, hvalue⟩
        exact .inside hbefore hkey ((ih (key, value) (by simp)).mp hvalue)
      · intro h
        cases h with
        | @inside before after key value hbefore hkey hvalue =>
            have hmem : (key, value) ∈ before ++ (key, value) :: after := by simp
            exact ⟨before, key, value, after, rfl, hbefore, hkey, (ih _ hmem).mpr hvalue⟩
  | endless =>
      rw [unwritable?]
      exact iff_of_true rfl .here
  | scalar value =>
      rw [unwritable?]
      exact iff_of_false (unwritableScalar?_ne_endless value) fun h => h.isMapping
  | list items | set members | node tree =>
      rw [unwritable?]
      exact iff_of_false (by simp) fun h => h.isMapping

/-! ## Trees -/

/-- A mapping that holds itself is reached when a datum is classified. -/
inductive IsEndlessTree : Datum → Prop
  | here : IsEndlessTree endless
  /-- A mapping that stands for no token is gone into when all its keys can be written, and the
  values before the one that goes on without end stand for trees. -/
  | inside {before after : List (Scalar × Datum)} {key : Scalar} {value : Datum}
      (hsource : Node.isVariantSource (before ++ (key, value) :: after) = false)
      (hkeys : ∀ entry ∈ before ++ (key, value) :: after, entry.1.isWritable = true)
      (hbefore : ∀ entry ∈ before, IsTree entry.2) (hvalue : IsEndlessTree value) :
      IsEndlessTree (map (before ++ (key, value) :: after))

theorem IsEndlessTree.isMapping {datum : Datum} (h : datum.IsEndlessTree) : datum.IsMapping := by
  cases h <;> exact True.intro

end Datum

namespace Node

variable {entries : List (Scalar × Datum)} {path : List String}

/-- The children of a mapping are refused for the first value that is refused. -/
theorem buildChildren_eq_error_iff {error : NodeError} :
    buildChildren path entries = .error error ↔
      ∃ before key value after, entries = before ++ (key, value) :: after ∧
        (∀ entry ∈ before, ∃ node, build (path ++ [entry.1.nameText]) entry.2 = .ok node) ∧
        build (path ++ [key.nameText]) value = .error error := by
  constructor
  · intro h
    induction entries with
    | nil => rw [buildChildren] at h; cases h
    | cons entry rest ih =>
        obtain ⟨key, value⟩ := entry
        rw [buildChildren] at h
        cases hvalue : build (path ++ [key.nameText]) value with
        | error other =>
            rw [hvalue] at h
            cases h
            exact ⟨[], key, value, rest, rfl, by simp, hvalue⟩
        | ok child =>
            rw [hvalue] at h
            cases hrest : buildChildren path rest with
            | ok children => rw [hrest] at h; cases h
            | error other =>
                rw [hrest] at h
                cases h
                obtain ⟨before, last, found, after, rfl, hbefore, hfound⟩ := ih hrest
                refine ⟨(key, value) :: before, last, found, after, rfl, ?_, hfound⟩
                rw [List.forall_mem_cons]
                exact ⟨⟨child, hvalue⟩, hbefore⟩
  · rintro ⟨before, key, value, after, rfl, hbefore, hvalue⟩
    induction before with
    | nil => rw [List.nil_append, buildChildren, hvalue]
    | cons entry before ih =>
        rw [List.forall_mem_cons] at hbefore
        obtain ⟨⟨child, hchild⟩, hbefore⟩ := hbefore
        rw [List.cons_append, buildChildren, hchild, ih hbefore]

/-- A mapping that stands for one token is never refused for having no end. -/
theorem buildVariant_ne_endless (path : List String) (entries : List (Scalar × Datum)) :
    buildVariant path entries ≠ .error (.unwritable .endless) := by
  intro h
  unfold buildVariant at h
  dsimp only at h
  split at h
  · cases h
  · split at h
    · cases h
    · split at h <;> cases h

/-- A mapping goes on without end when its keys can be written, it stands for no token and one of
its children does. -/
theorem build_map_eq_endless_iff :
    build path (.map entries) = .error (.unwritable .endless) ↔
      (∀ entry ∈ entries, entry.1.isWritable = true) ∧ isVariantSource entries = false ∧
        buildChildren path entries = .error (.unwritable .endless) := by
  have hkeys : (entries.any fun entry => !entry.1.isWritable) = false ↔
      ∀ entry ∈ entries, entry.1.isWritable = true := by
    simp only [List.any_eq_false, Bool.not_eq_true', Bool.not_eq_false]
  rw [build, ← hkeys]
  cases entries.any fun entry => !entry.1.isWritable with
  | true => simp
  | false =>
      cases isVariantSource entries with
      | true =>
          have hvariant := buildVariant_ne_endless path entries
          cases hvalue : buildVariant path entries with
          | error error => simpa [hvalue, Except.map] using hvariant
          | ok value => simp [Except.map]
      | false => cases buildChildren path entries <;> simp [Except.map]

/-- Classifying a datum runs into a mapping that holds itself exactly when one is reached. -/
theorem build_eq_endless_iff (datum : Datum) (path : List String) :
    build path datum = .error (.unwritable .endless) ↔ datum.IsEndlessTree := by
  induction datum using Datum.induction generalizing path with
  | scalar value =>
      refine iff_of_false ?_ fun h => h.isMapping
      intro h
      rw [build] at h
      split at h
      · split at h
        · cases h
        · split at h <;> cases h
      · cases h
  | map entries ih =>
      -- The values before the one that goes on are classified, which makes them trees.
      rw [build_map_eq_endless_iff, buildChildren_eq_error_iff]
      simp only [exists_build_iff_isTree]
      constructor
      · rintro ⟨hkeys, hsource, before, key, value, after, rfl, hbefore, hvalue⟩
        exact .inside hsource hkeys hbefore ((ih (key, value) (by simp) _).mp hvalue)
      · intro h
        cases h with
        | @inside before after key value hsource hkeys hbefore hvalue =>
            have hmem : (key, value) ∈ before ++ (key, value) :: after := by simp
            exact ⟨hkeys, hsource, before, key, value, after, rfl, hbefore,
              (ih _ hmem _).mpr hvalue⟩
  | endless =>
      rw [build]
      exact iff_of_true rfl .here
  | list items | set members | node tree =>
      rw [build]
      exact iff_of_false (by simp) fun h => h.isMapping

end Node

/-! ## Fields -/

namespace Checked

variable {R : Type} {α β : Type}

/-- A check runs into a mapping that holds itself. -/
def IsEndless (checked : Checked R α) : Prop :=
  ∃ issues, checked = .error issues ∧ issues.any Issue.isEndless = true

theorem not_isEndless_ok (value : α) : ¬ IsEndless (R := R) (.ok value) := by
  rintro ⟨issues, h, -⟩
  cases h

theorem not_isEndless_done (value : α) : ¬ IsEndless (done (R := R) value) := not_isEndless_ok value

theorem isEndless_fail_iff {location : List String} {fault : Fault R} :
    IsEndless (fail (α := α) location fault) ↔ fault = .unwritable .endless := by
  cases fault with
  | unwritable reason => cases reason <;> simp [IsEndless, fail, Issue.isEndless]
  | _ => simp [IsEndless, fail, Issue.isEndless]

theorem not_isEndless_fail {location : List String} {fault : Fault R}
    (h : fault ≠ .unwritable .endless) : ¬ IsEndless (fail (α := α) location fault) :=
  isEndless_fail_iff.not.mpr h

theorem isEndless_and_iff {f : Checked R (α → β)} {x : Checked R α} :
    IsEndless (and f x) ↔ IsEndless f ∨ IsEndless x := by
  cases f <;> cases x <;> simp [IsEndless, and, -List.any_eq_true]

/-- Values that are each checked to an end are all checked to an end. -/
theorem not_isEndless_entries {check : String → Datum → Checked R α}
    (h : ∀ name value, ¬ IsEndless (check name value)) (values : Entries Datum) :
    ¬ IsEndless (entries check values) := by
  induction values with
  | nil => exact not_isEndless_ok _
  | cons entry rest ih =>
      rw [entries, isEndless_and_iff, isEndless_and_iff]
      rintro ((hdone | hentry) | hrest)
      · exact not_isEndless_done _ hdone
      · exact h _ _ hentry
      · exact ih hrest

theorem not_isEndless_readText (location : List String) (value : Datum) :
    ¬ IsEndless (readText (R := R) location value) := by
  unfold readText
  split
  · exact not_isEndless_ok _
  · split
    · exact not_isEndless_ok _
    · exact not_isEndless_fail (by simp)
  · exact not_isEndless_fail (by simp)

theorem not_isEndless_readTexts (location : List String) (value : Datum) :
    ¬ IsEndless (readTexts (R := R) location value) := by
  unfold readTexts
  split
  · exact not_isEndless_entries (fun _ _ => not_isEndless_readText _ _) _
  · exact not_isEndless_fail (by simp)

theorem not_isEndless_readPalette (location : List String) (value : Datum) :
    ¬ IsEndless (readPalette (R := R) location value) := by
  unfold readPalette
  split
  · exact not_isEndless_entries (fun _ _ => not_isEndless_readTexts _ _) _
  · exact not_isEndless_fail (by simp)

variable {source : List (Scalar × Datum)}

theorem not_isEndless_textField (name default : String) :
    ¬ IsEndless (textField (R := R) source name default) := by
  unfold textField
  split
  · exact not_isEndless_readText _ _
  · exact not_isEndless_ok _

theorem not_isEndless_requiredText (name : String) :
    ¬ IsEndless (requiredText (R := R) source name) := by
  unfold requiredText
  split
  · exact not_isEndless_readText _ _
  · exact not_isEndless_fail (by simp)

theorem not_isEndless_formatField (expected : String) :
    ¬ IsEndless (formatField (R := R) source expected) := by
  unfold formatField
  split
  · exact not_isEndless_ok _
  · split
    · split
      · exact not_isEndless_ok _
      · split <;> exact not_isEndless_fail (by simp)
    · exact not_isEndless_fail (by simp)

/-- A field that may be left out goes on without end exactly when the text of its value does. -/
theorem isEndless_optionalField_iff {read : List String → Datum → Checked R (Entries α)}
    (hread : ∀ location value, ¬ IsEndless (read location value)) {name other : String} :
    IsEndless (optionalField read source name other) ↔
      ∃ used value, fieldOf source name other = some (used, value) ∧ value.IsEndlessText := by
  have hfound {used : String} {value : Datum} :
      (∃ key held, some (used, value) = some (key, held) ∧ held.IsEndlessText) ↔
        value.unwritable? = some .endless := by
    rw [Datum.unwritable?_eq_endless_iff]
    simp
  unfold optionalField
  split
  · rename_i hnone
    rw [hnone]
    exact iff_of_false (not_isEndless_ok _) (by simp)
  · rename_i used hnull
    rw [hnull, hfound, Datum.unwritable?]
    exact iff_of_false (not_isEndless_ok _) (Datum.unwritableScalar?_ne_endless _)
  · rename_i used value _ hvalue
    rw [hvalue, hfound]
    cases value.unwritable? with
    | some reason => simp [isEndless_fail_iff]
    | none => exact iff_of_false (hread _ _) (by simp)

end Checked

namespace TokenStore

variable {entries : List (Scalar × Datum)}

/-- The semantic tree goes on without end exactly when its classification does. -/
theorem isEndless_readTree_iff (location : List String) (value : Datum) :
    Checked.IsEndless (readTree location value) ↔ value.IsEndlessTree := by
  cases value with
  | scalar value =>
      refine iff_of_false ?_ fun h => h.isMapping
      cases value with
      | null => exact Checked.not_isEndless_ok _
      | _ => exact Checked.not_isEndless_fail (by simp)
  | map entries =>
      rw [← Node.build_eq_endless_iff _ []]
      unfold readTree
      dsimp only
      cases Node.build [] (.map entries) with
      | ok node =>
          cases node with
          | group children => exact iff_of_false (Checked.not_isEndless_ok _) (by simp)
          | leaf value => exact iff_of_false (Checked.not_isEndless_fail (by simp)) (by simp)
      | error error => cases error <;> simp [Checked.isEndless_fail_iff]
  | node tree =>
      refine iff_of_false ?_ fun h => h.isMapping
      cases tree with
      | group children => exact Checked.not_isEndless_ok _
      | leaf value => exact Checked.not_isEndless_fail (by simp)
  | endless => exact iff_of_true (Checked.isEndless_fail_iff.mpr rfl) .here
  | list items | set members =>
      exact iff_of_false (Checked.not_isEndless_fail (by simp)) fun h => h.isMapping

/-- The tree of a source goes on without end exactly when there is a tree and it does. -/
theorem isEndless_treeField_iff :
    Checked.IsEndless (treeField entries) ↔
      ∃ value, Datum.lookup "semantic" entries = some value ∧ value.IsEndlessTree := by
  unfold treeField
  cases Datum.lookup "semantic" entries with
  | none => exact iff_of_false (Checked.not_isEndless_ok _) (by simp)
  | some value => simp [isEndless_readTree_iff]

theorem isEndless_scaleFields_iff :
    Checked.IsEndless (scaleFields entries) ↔
      ∃ kind, Checked.IsEndless (scaleField entries kind) := by
  unfold scaleFields
  simp only [Checked.isEndless_and_iff]
  constructor
  · rintro ((((((((h | h) | h) | h) | h) | h) | h) | h) | h)
    · exact absurd h (Checked.not_isEndless_done _)
    all_goals exact ⟨_, h⟩
  · rintro ⟨kind, h⟩
    cases kind <;> simp [h]

/-- Checking a store runs into a mapping that holds itself in one of its palettes, in its tree or
in one of its scales, and nowhere else. -/
theorem isEndless_ofSource_iff :
    Checked.IsEndless (ofSource entries) ↔
      Checked.IsEndless (paletteField entries "colors") ∨
        Checked.IsEndless (paletteField entries "brand") ∨
        Checked.IsEndless (treeField entries) ∨
        ∃ kind, Checked.IsEndless (scaleField entries kind) := by
  -- What the check of the names finds is one issue of its own.
  have hfields : Checked.IsEndless (ofSource entries) ↔ Checked.IsEndless (readFields entries) := by
    unfold ofSource
    cases readFields entries with
    | error issues => rfl
    | ok store =>
        refine iff_of_false ?_ (Checked.not_isEndless_ok _)
        dsimp only
        split
        · exact Checked.not_isEndless_ok _
        · exact Checked.not_isEndless_fail (by simp)
  rw [hfields]
  unfold readFields
  simp only [Checked.isEndless_and_iff, Checked.not_isEndless_done,
    Checked.not_isEndless_formatField, Checked.not_isEndless_textField, isEndless_scaleFields_iff,
    or_assoc, false_or]

end TokenStore

namespace BrandTheme

variable {entries : List (Scalar × Datum)}

theorem not_isEndless_idField : ¬ Checked.IsEndless (idField entries) := by
  have hread : ¬ Checked.IsEndless (requiredText (R := BrandRule) entries "id") :=
    Checked.not_isEndless_requiredText _
  unfold idField
  split
  · split
    · exact Checked.not_isEndless_ok _
    · exact Checked.not_isEndless_fail (by simp)
  · rename_i issues hissues
    rw [hissues] at hread
    exact hread

theorem not_isEndless_nameField : ¬ Checked.IsEndless (nameField entries) := by
  have hread : ¬ Checked.IsEndless (requiredText (R := BrandRule) entries "name") :=
    Checked.not_isEndless_requiredText _
  unfold nameField
  split
  · split
    · exact Checked.not_isEndless_ok _
    · exact Checked.not_isEndless_fail (by simp)
  · rename_i issues hissues
    rw [hissues] at hread
    exact hread

/-- Checking a brand theme runs into a mapping that holds itself in its palette only. -/
theorem isEndless_ofSource_iff :
    Checked.IsEndless (ofSource entries) ↔
      Checked.IsEndless (R := BrandRule) (optionalField readPalette entries "brand" "brand") := by
  unfold ofSource
  simp only [Checked.isEndless_and_iff, Checked.not_isEndless_done,
    Checked.not_isEndless_formatField, Checked.not_isEndless_textField, not_isEndless_idField,
    not_isEndless_nameField, false_or]

end BrandTheme

/-! ## Records -/

/-- The fields of a record that are written as text before they are checked, each with the two
names it may have. -/
def FilePurpose.textFields : FilePurpose → List (String × String)
  | .store => [("colors", "colors"), ("brand", "brand")] ++
      ScaleKind.all.map fun kind => (kind.sourceName, kind.fieldName)
  | .brand => [("brand", "brand")]

/-- The field of a record that is classified. -/
def FilePurpose.treeField? : FilePurpose → Option String
  | .store => some "semantic"
  | .brand => none

/-- A mapping that holds itself is reached in a field of a record. -/
inductive IsEndlessRecord (purpose : FilePurpose) (entries : List (Scalar × Datum)) : Prop
  | text {name other used : String} {value : Datum} (hname : (name, other) ∈ purpose.textFields)
      (hfield : fieldOf entries name other = some (used, value)) (hvalue : value.IsEndlessText)
  | tree {name : String} {value : Datum} (hname : purpose.treeField? = some name)
      (hfield : Datum.lookup name entries = some value) (hvalue : value.IsEndlessTree)

section Record

variable {entries : List (Scalar × Datum)}

/-- Checking a store runs into a mapping that holds itself exactly when a field reaches one. -/
theorem TokenStore.isEndless_ofSource_iff_record :
    Checked.IsEndless (TokenStore.ofSource entries) ↔ IsEndlessRecord .store entries := by
  simp only [isEndless_ofSource_iff, paletteField, scaleField, isEndless_treeField_iff,
    Checked.isEndless_optionalField_iff Checked.not_isEndless_readPalette,
    Checked.isEndless_optionalField_iff Checked.not_isEndless_readTexts]
  constructor
  · rintro (⟨used, value, hfield, hvalue⟩ | ⟨used, value, hfield, hvalue⟩ |
      ⟨value, hfield, hvalue⟩ | ⟨kind, used, value, hfield, hvalue⟩)
    · exact .text (by decide) hfield hvalue
    · exact .text (by decide) hfield hvalue
    · exact .tree rfl hfield hvalue
    · exact .text (by cases kind <;> decide) hfield hvalue
  · intro h
    cases h with
    | text hname hfield hvalue =>
        rcases List.mem_append.mp hname with hpalette | hscale
        · simp only [List.mem_cons, Prod.mk.injEq, List.not_mem_nil, or_false] at hpalette
          obtain ⟨rfl, rfl⟩ | ⟨rfl, rfl⟩ := hpalette
          · exact Or.inl ⟨_, _, hfield, hvalue⟩
          · exact Or.inr (Or.inl ⟨_, _, hfield, hvalue⟩)
        · obtain ⟨kind, -, hkind⟩ := List.mem_map.mp hscale
          cases hkind
          exact Or.inr (Or.inr (Or.inr ⟨kind, _, _, hfield, hvalue⟩))
    | tree hname hfield hvalue =>
        cases hname
        exact Or.inr (Or.inr (Or.inl ⟨_, hfield, hvalue⟩))

/-- Checking a brand theme runs into a mapping that holds itself exactly when a field reaches
one. -/
theorem BrandTheme.isEndless_ofSource_iff_record :
    Checked.IsEndless (BrandTheme.ofSource entries) ↔ IsEndlessRecord .brand entries := by
  rw [isEndless_ofSource_iff,
    Checked.isEndless_optionalField_iff Checked.not_isEndless_readPalette]
  constructor
  · rintro ⟨used, value, hfield, hvalue⟩
    exact .text List.mem_cons_self hfield hvalue
  · intro h
    cases h with
    | text hname hfield hvalue =>
        cases List.mem_singleton.mp hname
        exact ⟨_, _, hfield, hvalue⟩
    | tree hname _ _ => cases hname

/-- An entry for another name at the end changes nothing of what a name stands for. -/
theorem Datum.lookup_append_of_ne {name other : String} (h : name ≠ other) (value : Datum) :
    Datum.lookup other (entries ++ [(.text name, value)]) = Datum.lookup other entries := by
  induction entries with
  | nil => simp [lookup, h]
  | cons entry rest ih =>
      obtain ⟨key, held⟩ := entry
      cases key with
      | text found => simp only [List.cons_append, lookup, ih]
      | _ => simpa only [List.cons_append, lookup] using ih

theorem Datum.lookup_withDefault {name other : String} (h : name ≠ other) (text : String) :
    Datum.lookup other (FileTree.withDefault name text entries) = Datum.lookup other entries := by
  unfold FileTree.withDefault
  split
  · rfl
  · exact Datum.lookup_append_of_ne h _

/-- Neither the name nor the identifier of a record is a field that may go on without end. -/
theorem isEndlessRecord_withDefault_iff {purpose : FilePurpose} {name : String}
    (hname : name ∈ ["name", "id"]) (text : String) :
    IsEndlessRecord purpose (FileTree.withDefault name text entries) ↔
      IsEndlessRecord purpose entries := by
  have htexts : ∀ field ∈ purpose.textFields,
      fieldOf (FileTree.withDefault name text entries) field.1 field.2 =
        fieldOf entries field.1 field.2 := by
    have hother : ∀ field ∈ purpose.textFields, name ≠ field.1 ∧ name ≠ field.2 := by
      rw [List.mem_pair] at hname
      obtain rfl | rfl := hname <;> cases purpose <;> decide
    intro field hfield
    obtain ⟨hfirst, hsecond⟩ := hother field hfield
    unfold fieldOf
    rw [Datum.lookup_withDefault hfirst, Datum.lookup_withDefault hsecond]
  have htree : ∀ field, purpose.treeField? = some field →
      Datum.lookup field (FileTree.withDefault name text entries) =
        Datum.lookup field entries := by
    intro field hfield
    apply Datum.lookup_withDefault
    rintro rfl
    cases purpose with
    | store =>
        cases hfield
        revert hname
        decide
    | brand => cases hfield
  constructor
  · rintro (⟨hmem, hfield, hvalue⟩ | ⟨htreeName, hfield, hvalue⟩)
    · exact .text hmem ((htexts _ hmem).symm.trans hfield) hvalue
    · exact .tree htreeName ((htree _ htreeName).symm.trans hfield) hvalue
  · rintro (⟨hmem, hfield, hvalue⟩ | ⟨htreeName, hfield, hvalue⟩)
    · exact .text hmem ((htexts _ hmem).trans hfield) hvalue
    · exact .tree htreeName ((htree _ htreeName).trans hfield) hvalue

end Record

end DesignTokens
