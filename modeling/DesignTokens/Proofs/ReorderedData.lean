import DesignTokens.Proofs.AcceptedStores
import DesignTokens.Proofs.ReadMappings
import Mathlib.Data.List.Forall2
import Mathlib.Data.List.Perm.Basic

/-!
# Data in another order

Two data are reorderings of each other when they differ only in the order of the entries of
their mappings, at any depth. A text stands for reorderings of the same value in two reordered
mappings without a repeated name, and such mappings stay reorderings of each other when their
names and numbers are written as text.
-/

namespace DesignTokens

namespace Datum

/-! ## Reorderings -/

/-- Two data that differ only in the order of the entries of their mappings: the values of one
mapping are reordered in their places, and then its entries are permuted. -/
inductive Reordered : Datum → Datum → Prop
  | same (datum : Datum) : Reordered datum datum
  | list {items others : List Datum} (h : List.Forall₂ Reordered items others) :
      Reordered (list items) (list others)
  | map {entries aligned others : List (Scalar × Datum)}
      (hkeys : entries.map Prod.fst = aligned.map Prod.fst)
      (hvalues : List.Forall₂ Reordered (entries.map Prod.snd) (aligned.map Prod.snd))
      (hperm : aligned.Perm others) : Reordered (map entries) (map others)

/-- Entries with the same keys in the same order, and values that are related in their
places. -/
def AlignedBy (R : Datum → Datum → Prop) :
    List (Scalar × Datum) → List (Scalar × Datum) → Prop :=
  List.Forall₂ fun entry other => entry.1 = other.1 ∧ R entry.2 other.2

theorem alignedBy_iff {R : Datum → Datum → Prop} {entries aligned : List (Scalar × Datum)} :
    AlignedBy R entries aligned ↔
      entries.map Prod.fst = aligned.map Prod.fst ∧
        List.Forall₂ R (entries.map Prod.snd) (aligned.map Prod.snd) := by
  induction entries generalizing aligned with
  | nil => cases aligned <;> simp [AlignedBy]
  | cons entry rest ih =>
      cases aligned with
      | nil => simp [AlignedBy]
      | cons other behind =>
          have hrest := @ih behind
          simp only [AlignedBy, List.forall₂_cons, List.map_cons, List.cons.injEq] at hrest ⊢
          rw [hrest]
          exact and_and_and_comm

theorem Reordered.of_aligned {entries aligned others : List (Scalar × Datum)}
    (h : AlignedBy Reordered entries aligned) (hperm : aligned.Perm others) :
    Reordered (.map entries) (.map others) :=
  .map (alignedBy_iff.mp h).1 (alignedBy_iff.mp h).2 hperm

/-- Only a mapping is a reordering of a mapping. -/
theorem Reordered.exists_map {entries : List (Scalar × Datum)} {second : Datum}
    (h : Reordered (.map entries) second) : ∃ others, second = .map others := by
  cases h with
  | same => exact ⟨_, rfl⟩
  | map => exact ⟨_, rfl⟩

/-- Reordered mappings have aligned entries up to a permutation. -/
theorem Reordered.exists_aligned {entries others : List (Scalar × Datum)}
    (h : Reordered (.map entries) (.map others)) :
    ∃ aligned, AlignedBy Reordered entries aligned ∧ aligned.Perm others := by
  cases h with
  | same => exact ⟨entries, List.forall₂_same.mpr fun entry _ => ⟨rfl, .same entry.2⟩, .refl _⟩
  | @map _ aligned _ hkeys hvalues hperm =>
      exact ⟨aligned, alignedBy_iff.mpr ⟨hkeys, hvalues⟩, hperm⟩

/-- What holds of equal data, and of lists and mappings when it holds of their parts in their
places, holds of all reorderings. -/
theorem Reordered.induction {motive : ∀ first second, Reordered first second → Prop}
    (same : ∀ datum, motive datum datum (.same datum))
    (list : ∀ {items others : List Datum} (h : List.Forall₂ Reordered items others),
      List.Forall₂ (fun item other => ∃ hitem, motive item other hitem) items others →
      motive (.list items) (.list others) (.list h))
    (map : ∀ {entries aligned others : List (Scalar × Datum)}
      (hkeys : entries.map Prod.fst = aligned.map Prod.fst)
      (hvalues : List.Forall₂ Reordered (entries.map Prod.snd) (aligned.map Prod.snd))
      (hperm : aligned.Perm others),
      AlignedBy (fun value other => ∃ hvalue, motive value other hvalue) entries aligned →
      motive (.map entries) (.map others) (.map hkeys hvalues hperm))
    {first second : Datum} (h : Reordered first second) : motive first second h :=
  h.rec same (fun h ih => list h ih)
    (fun hkeys hvalues hperm ih => map hkeys hvalues hperm (alignedBy_iff.mpr ⟨hkeys, ih⟩))
    .nil (fun _ _ hitem ih => .cons ⟨_, hitem⟩ ih)

/-- A reordering can be undone. The permutation of a mapping is undone first, so the values
are matched in the places of the second mapping. -/
theorem Reordered.symm {first second : Datum} (h : Reordered first second) :
    Reordered second first := by
  induction h using Reordered.induction with
  | same datum => exact .same datum
  | list h ih =>
      apply Reordered.list
      apply List.Forall₂.flip
      exact ih.imp fun _ _ hitem => hitem.2
  | @map entries aligned others hkeys hvalues hperm ih =>
      have hback : AlignedBy Reordered aligned entries := by
        apply List.Forall₂.flip
        exact ih.imp fun _ _ hentry => ⟨hentry.1.symm, hentry.2.2⟩
      obtain ⟨matched, hmatched, hsame⟩ := List.perm_comp_forall₂ hperm.symm hback
      exact .of_aligned hmatched hsame

/-- What is computed from every entry of a mapping for itself is computed from the entries of
a reordering as well, with related results that are permuted like the entries. -/
theorem AlignedBy.exists_perm {β : Type} {R : Datum → Datum → Prop}
    {S : Scalar × Datum → β → Prop} {T : β → β → Prop}
    {entries aligned others : List (Scalar × Datum)} {results : List β}
    (h : AlignedBy R entries aligned) (hperm : aligned.Perm others)
    (hresults : List.Forall₂ S entries results)
    (hstep : ∀ key value other result, R value other → S (key, value) result →
      ∃ matched, S (key, other) matched ∧ T result matched) :
    ∃ matched permuted, List.Forall₂ T results matched ∧ matched.Perm permuted ∧
      List.Forall₂ S others permuted := by
  have hplaces : ∃ matched, List.Forall₂ T results matched ∧
      List.Forall₂ S aligned matched := by
    clear hperm
    induction h generalizing results with
    | nil =>
        cases hresults
        exact ⟨[], .nil, .nil⟩
    | @cons entry other rest behind hentry _ ih =>
        cases hresults with
        | cons hresult hrest =>
            obtain ⟨matched, htail, hbehind⟩ := ih hrest
            obtain ⟨found, hfound, hrelated⟩ := hstep entry.1 entry.2 other.2 _ hentry.2 hresult
            rw [hentry.1] at hfound
            exact ⟨found :: matched, .cons hrelated htail, .cons hfound hbehind⟩
  obtain ⟨matched, hmatched, haligned⟩ := hplaces
  obtain ⟨permuted, hpermuted, hsame⟩ := List.perm_comp_forall₂ hperm.symm haligned
  exact ⟨matched, permuted, hmatched, hsame.symm, hpermuted⟩

theorem AlignedBy.and_left {R : Datum → Datum → Prop} {p : Datum → Prop}
    {entries aligned : List (Scalar × Datum)} (h : AlignedBy R entries aligned)
    (hp : ∀ entry ∈ entries, p entry.2) :
    AlignedBy (fun value other => p value ∧ R value other) entries aligned := by
  refine ((List.forall₂_and_left _ _).mpr ⟨hp, h⟩).imp ?_
  rintro entry other ⟨hvalue, hkey, hrelated⟩
  exact ⟨hkey, hvalue, hrelated⟩

/-! ## Distinct names -/

mutual

/-- No mapping has two keys that are written alike. What stands in a list is never read. -/
def NamesDistinct : Datum → Prop
  | map entries => (entries.map fun entry => entry.1.nameText).Nodup ∧ ValuesNamesDistinct entries
  | node tree => tree.WellNamed
  | scalar _ => True
  | list _ => True
  | set _ => True
  | endless => True

/-- The same for the values of a mapping. -/
def ValuesNamesDistinct : List (Scalar × Datum) → Prop
  | [] => True
  | (_, value) :: rest => NamesDistinct value ∧ ValuesNamesDistinct rest

end

theorem valuesNamesDistinct_iff {entries : List (Scalar × Datum)} :
    ValuesNamesDistinct entries ↔ ∀ entry ∈ entries, entry.2.NamesDistinct := by
  induction entries with
  | nil => simp [ValuesNamesDistinct]
  | cons first rest ih => rw [ValuesNamesDistinct, List.forall_mem_cons, ih]

/-- The values of a mapping without a repeated name have none either. -/
theorem NamesDistinct.of_mem {entries : List (Scalar × Datum)}
    (h : (Datum.map entries).NamesDistinct) {entry : Scalar × Datum} (hmem : entry ∈ entries) :
    entry.2.NamesDistinct := by
  rw [NamesDistinct, valuesNamesDistinct_iff] at h
  exact h.2 entry hmem

mutual

/-- Data without a repeated name hold no subtree with one. -/
theorem NamesDistinct.treesWellNamed {datum : Datum} (h : datum.NamesDistinct) :
    datum.TreesWellNamed := by
  cases datum with
  | map entries =>
      rw [NamesDistinct] at h
      rw [TreesWellNamed]
      exact h.2.entriesWellNamed
  | node tree => exact h
  | scalar _ => exact True.intro
  | list _ => exact True.intro
  | set _ => exact True.intro
  | endless => exact True.intro

theorem ValuesNamesDistinct.entriesWellNamed {entries : List (Scalar × Datum)}
    (h : ValuesNamesDistinct entries) : EntriesWellNamed entries := by
  cases entries with
  | nil => exact True.intro
  | cons entry rest =>
      rw [ValuesNamesDistinct] at h
      exact ⟨h.1.treesWellNamed, h.2.entriesWellNamed⟩

end

/-- An entry of a reordered mapping has the key of an entry of the mapping, and its value is
related to the value there. -/
theorem AlignedBy.exists_of_mem {R : Datum → Datum → Prop}
    {entries aligned others : List (Scalar × Datum)} (h : AlignedBy R entries aligned)
    (hperm : aligned.Perm others) {entry : Scalar × Datum} (hmem : entry ∈ others) :
    ∃ value, (entry.1, value) ∈ entries ∧ R value entry.2 := by
  have haligned : entry ∈ aligned := hperm.mem_iff.mpr hmem
  clear hperm hmem
  induction h with
  | nil => cases haligned
  | @cons first other rest behind hfirst _ ih =>
      rcases List.mem_cons.mp haligned with rfl | hbehind
      · refine ⟨first.2, ?_, hfirst.2⟩
        rw [← hfirst.1]
        exact List.mem_cons_self
      · obtain ⟨value, hvalue, hrelated⟩ := ih hbehind
        exact ⟨value, List.mem_cons_of_mem _ hvalue, hrelated⟩

namespace Reordered

variable {entries others : List (Scalar × Datum)}

theorem exists_of_mem (h : Reordered (.map entries) (.map others)) {entry : Scalar × Datum}
    (hmem : entry ∈ others) : ∃ value, (entry.1, value) ∈ entries ∧ Reordered value entry.2 := by
  obtain ⟨aligned, haligned, hperm⟩ := h.exists_aligned
  exact haligned.exists_of_mem hperm hmem

/-- The names of a reordered mapping are permuted. -/
theorem names_perm (h : Reordered (.map entries) (.map others)) :
    (entries.map fun entry => entry.1.nameText).Perm
      (others.map fun entry => entry.1.nameText) := by
  obtain ⟨aligned, haligned, hperm⟩ := h.exists_aligned
  have hnames := congrArg (List.map Scalar.nameText) (alignedBy_iff.mp haligned).1
  rw [List.map_map, List.map_map] at hnames
  exact (List.Perm.of_eq hnames).trans (hperm.map _)

/-- Data without a repeated name have none in another order. -/
theorem namesDistinct {first second : Datum} (h : Reordered first second)
    (hfirst : first.NamesDistinct) : second.NamesDistinct := by
  induction h using Reordered.induction with
  | same datum => exact hfirst
  | list _ _ => exact True.intro
  | map hkeys hvalues hperm ih =>
      rw [NamesDistinct, valuesNamesDistinct_iff]
      constructor
      · rw [NamesDistinct] at hfirst
        exact (names_perm (.map hkeys hvalues hperm)).nodup_iff.mp hfirst.1
      · intro entry hmem
        obtain ⟨value, hvalue, -, hdistinct⟩ := ih.exists_of_mem hperm hmem
        exact hdistinct (hfirst.of_mem hvalue)

end Reordered

/-! ## What a text stands for -/

/-- Among entries without a repeated name, one with a text as its key is what the text stands
for. -/
theorem lookup_of_mem_of_nodup {entries : List (Scalar × Datum)}
    (hd : (entries.map fun entry => entry.1.nameText).Nodup) {name : String} {value : Datum}
    (hmem : (.text name, value) ∈ entries) : lookup name entries = some value := by
  fun_induction lookup name entries with
  | case1 => cases hmem
  | case2 held rest =>
      rw [List.map_cons, List.nodup_cons] at hd
      rcases List.mem_cons.mp hmem with heq | hrest
      · cases heq
        rfl
      · exact absurd (List.mem_map.mpr ⟨_, hrest, rfl⟩) hd.1
  | case3 key held rest hne ih =>
      rw [List.map_cons, List.nodup_cons] at hd
      rcases List.mem_cons.mp hmem with heq | hrest
      · cases heq
        exact absurd rfl hne
      · exact ih hd.2 hrest
  | case4 first rest hkey ih =>
      rw [List.map_cons, List.nodup_cons] at hd
      rcases List.mem_cons.mp hmem with heq | hrest
      · exact absurd heq.symm (hkey name value)
      · exact ih hd.2 hrest

namespace Reordered

variable {entries others : List (Scalar × Datum)}

/-- What a text stands for, it stands for in another order. -/
theorem exists_lookup (h : Reordered (.map entries) (.map others))
    (hd : (Datum.map entries).NamesDistinct) {name : String} {value : Datum}
    (hlookup : lookup name entries = some value) :
    ∃ other, lookup name others = some other ∧ Reordered value other := by
  have hothers := h.namesDistinct hd
  rw [NamesDistinct] at hothers
  obtain ⟨other, hmem, hvalue⟩ := h.symm.exists_of_mem (mem_of_lookup hlookup)
  exact ⟨other, lookup_of_mem_of_nodup hothers.1 hmem, hvalue.symm⟩

/-- A text that stands for nothing stands for nothing in another order. -/
theorem lookup_eq_none (h : Reordered (.map entries) (.map others))
    (hd : (Datum.map entries).NamesDistinct) {name : String}
    (hlookup : lookup name entries = none) : lookup name others = none := by
  cases hother : lookup name others with
  | none => rfl
  | some other =>
      obtain ⟨value, hvalue, -⟩ := h.symm.exists_lookup (h.namesDistinct hd) hother
      rw [hlookup] at hvalue
      cases hvalue

end Reordered

/-! ## Names and numbers as text -/

theorem unwritableIn?_eq_none_iff {entries : List (Scalar × Datum)} :
    unwritableIn? entries = none ↔
      ∀ entry ∈ entries, unwritableScalar? entry.1 = none ∧ entry.2.unwritable? = none := by
  induction entries with
  | nil => simp [unwritableIn?]
  | cons first rest ih =>
      rw [unwritableIn?, List.forall_mem_cons, ← ih]
      cases unwritableScalar? first.1 with
      | some reason => simp
      | none => cases first.2.unwritable? <;> simp

/-- Data that can be written as text can be written in another order. -/
theorem Reordered.unwritable?_eq_none {first second : Datum} (h : Reordered first second)
    (hfirst : first.unwritable? = none) : second.unwritable? = none := by
  induction h using Reordered.induction with
  | same datum => exact hfirst
  | list _ _ => rw [unwritable?]
  | map hkeys hvalues hperm ih =>
      rw [unwritable?, unwritableIn?_eq_none_iff] at hfirst ⊢
      intro entry hmem
      obtain ⟨value, hvalue, -, hwritable⟩ := ih.exists_of_mem hperm hmem
      exact ⟨(hfirst _ hvalue).1, hwritable (hfirst _ hvalue).2⟩

/-- A mapping without a repeated name keeps its entries when they are written as text. -/
theorem stringify_map {entries : List (Scalar × Datum)}
    (hd : (entries.map fun entry => entry.1.nameText).Nodup) :
    (map entries).stringify =
      map (entries.map fun entry => (.text entry.1.nameText, entry.2.stringify)) := by
  have hdistinct : Entries.Distinct (stringifyEntries entries) := by
    rw [stringifyEntries_eq_map, Entries.Distinct, Entries.keys, List.map_map]
    exact hd
  rw [stringify, Entries.ofList_of_distinct hdistinct, stringifyEntries_eq_map, ofEntries,
    List.map_map]
  rfl

/-- Data without a repeated name stay reorderings of each other when they are written as
text. -/
theorem Reordered.stringify {first second : Datum} (h : Reordered first second)
    (hfirst : first.NamesDistinct) : Reordered first.stringify second.stringify := by
  induction h using Reordered.induction with
  | same datum => exact .same _
  | list hitems _ => simpa only [Datum.stringify] using Reordered.list hitems
  | @map entries aligned others hkeys hvalues hperm ih =>
      have hsecond := namesDistinct (.map hkeys hvalues hperm) hfirst
      have hparts : ∀ entry ∈ entries, entry.2.NamesDistinct := fun _ hmem => hfirst.of_mem hmem
      rw [NamesDistinct] at hfirst hsecond
      rw [stringify_map hfirst.1, stringify_map hsecond.1]
      refine .of_aligned ?_ (hperm.map _)
      rw [AlignedBy, List.forall₂_map_left_iff, List.forall₂_map_right_iff]
      refine (ih.and_left hparts).imp ?_
      rintro entry other ⟨hkey, hdistinct, -, hstringify⟩
      exact ⟨by rw [hkey], hstringify hdistinct⟩

end Datum

end DesignTokens
