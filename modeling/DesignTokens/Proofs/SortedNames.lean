import DesignTokens.Entries
import Mathlib.Data.List.Nodup

/-!
# Sorted names

Names are sorted by their code points, and two names with the same code points are the same,
so a list of names has one sorted form. Mappings in which every name stands for the same then
have the same sorted names, in whatever order they were written.
-/

namespace DesignTokens

namespace Text

/-- Every character stands for a code point of its own: no character is one of the halves
that others stand for. -/
theorem codePoint_injective : Function.Injective codePoint := by
  intro first second h
  have hvalue (c : Char) : codePoint c = c.toNat ∨
      (codePoint c + surrogateShift = c.toNat ∧ isSurrogate (codePoint c) = true) := by
    unfold codePoint surrogate?
    dsimp only
    split
    · rename_i hhalf
      rw [Bool.and_eq_true, decide_eq_true_eq] at hhalf
      rw [Option.getD_some, Nat.sub_add_cancel hhalf.1]
      exact Or.inr ⟨rfl, hhalf.2⟩
    · exact Or.inl rfl
  have hreal (c : Char) : isSurrogate c.toNat = false := by
    have hvalid := c.valid
    simp only [UInt32.isValidChar, Nat.isValidChar] at hvalid
    simp only [isSurrogate, Bool.and_eq_false_iff, decide_eq_false_iff_not, Char.toNat]
    omega
  apply Char.toNat_inj.mp
  rcases hvalue first with hfirst | ⟨hfirst, hhalf⟩
  · rcases hvalue second with hsecond | ⟨hsecond, hhalf⟩
    · omega
    · rw [← h, hfirst, hreal] at hhalf
      cases hhalf
  · rcases hvalue second with hsecond | ⟨hsecond, -⟩
    · rw [h, hsecond, hreal] at hhalf
      cases hhalf
    · omega

theorem codePoints_injective : Function.Injective codePoints := by
  intro first second h
  exact String.toList_inj.mp (codePoint_injective.list_map h)

end Text

/-- The second name does not go before the first one. -/
def NameLE (first second : String) : Prop :=
  ¬ Text.codePoints second < Text.codePoints first

namespace NameLE

theorem trans {first second third : String} (h : NameLE first second)
    (hbehind : NameLE second third) : NameLE first third := List.le_trans h hbehind

theorem total (first second : String) : NameLE first second ∨ NameLE second first :=
  List.le_total (Text.codePoints first) (Text.codePoints second)

theorem antisymm {first second : String} (h : NameLE first second)
    (hback : NameLE second first) : first = second :=
  Text.codePoints_injective (List.le_antisymm h hback)

end NameLE

theorem nameLE_iff {first second : String} :
    (!(Text.codePoints second).lex (Text.codePoints first) fun m n => m < n) = true ↔
      NameLE first second := by
  rw [Bool.not_eq_true', NameLE, ← List.lex_eq_true_iff_lt, Bool.not_eq_true]

/-- The sorted names are in order. -/
theorem pairwise_sortNames (names : List String) : (sortNames names).Pairwise NameLE := by
  have hsorted : (sortNames names).Pairwise fun first second =>
      (!(Text.codePoints second).lex (Text.codePoints first) fun m n => m < n) = true := by
    apply List.pairwise_mergeSort
    · intro first second third
      simp only [nameLE_iff]
      exact NameLE.trans
    · intro first second
      rw [Bool.or_eq_true, nameLE_iff, nameLE_iff]
      exact NameLE.total first second
  exact hsorted.imp nameLE_iff.mp

/-- Names have one sorted form. -/
theorem sortNames_eq_of_perm {names others : List String} (h : names.Perm others) :
    sortNames names = sortNames others := by
  have hsorted : (sortNames names).Perm (sortNames others) :=
    (List.mergeSort_perm _ _).trans (h.trans (List.mergeSort_perm _ _).symm)
  apply List.Perm.eq_of_pairwise _ (pairwise_sortNames names) (pairwise_sortNames others) hsorted
  intro first second _ _ hle hge
  exact hle.antisymm hge

/-- Names in order are sorted. -/
theorem sortNames_of_pairwise {names : List String} (h : names.Pairwise NameLE) :
    sortNames names = names := by
  apply List.Perm.eq_of_pairwise _ (pairwise_sortNames names) h (List.mergeSort_perm names _)
  intro first second _ _ hle hge
  exact hle.antisymm hge

/-- Names that are left out may be left out before or after sorting. -/
theorem sortNames_filter (keep : String → Bool) (names : List String) :
    sortNames (names.filter keep) = (sortNames names).filter keep := by
  have hperm : (sortNames (names.filter keep)).Perm ((sortNames names).filter keep) :=
    (List.mergeSort_perm _ _).trans ((List.mergeSort_perm names _).filter keep).symm
  apply List.Perm.eq_of_pairwise _ (pairwise_sortNames _)
    ((pairwise_sortNames names).filter keep) hperm
  intro first second _ _ hle hge
  exact hle.antisymm hge

namespace Entries

variable {α : Type u}

/-- Distinct mappings in which every name stands for the same have the same names. -/
theorem keys_perm_of_get?_eq {m n : Entries α} (hm : Distinct m) (hn : Distinct n)
    (h : ∀ name, get? m name = get? n name) : (keys m).Perm (keys n) := by
  rw [List.perm_ext_iff_of_nodup hm hn]
  intro name
  rw [← get?_isSome_iff, ← get?_isSome_iff, h]

/-- In distinct mappings with the same entries every name stands for the same. -/
theorem get?_eq_of_perm {m n : Entries α} (hm : Distinct m) (hn : Distinct n) (h : m.Perm n)
    (name : String) : get? m name = get? n name := by
  apply Option.ext
  intro value
  constructor
  · intro hget
    exact get?_of_mem hn (h.mem_iff.mp (mem_of_get? hget))
  · intro hget
    exact get?_of_mem hm (h.mem_iff.mpr (mem_of_get? hget))

/-! ## Sorted entries -/

/-- The entries of a mapping of texts in the order of their names. -/
def sorted (m : Entries String) : Entries String :=
  (sortNames (keys m)).map fun name => (name, (get? m name).getD "")

/-- Sorting keeps the entries of a distinct mapping. -/
theorem sorted_perm {m : Entries String} (hm : Distinct m) : (sorted m).Perm m := by
  have hself : (keys m).map (fun name => (name, (get? m name).getD "")) = m := by
    have hentries : ∀ entry ∈ m, (entry.1, (get? m entry.1).getD "") = entry := by
      intro entry hentry
      rw [get?_of_mem hm hentry, Option.getD_some]
    rw [keys, List.map_map]
    exact (List.map_congr_left hentries).trans (List.map_id m)
  have hnames : (sortNames (keys m)).Perm (keys m) := List.mergeSort_perm _ _
  calc (sorted m).Perm ((keys m).map fun name => (name, (get? m name).getD "")) :=
        hnames.map _
    _ = m := hself

/-- The names of sorted entries increase strictly, by their code points. -/
theorem pairwise_sorted {m : Entries String} (hm : Distinct m) :
    (sorted m).Pairwise fun first second =>
      Text.codePoints first.1 < Text.codePoints second.1 := by
  have hnodup : (sortNames (keys m)).Nodup := (List.mergeSort_perm _ _).nodup_iff.mpr hm
  have hstrict : (sortNames (keys m)).Pairwise fun first second =>
      Text.codePoints first < Text.codePoints second := by
    refine (pairwise_sortNames (keys m)).imp₂ ?_ hnodup
    intro first second hle hne
    by_contra hlt
    exact hne (NameLE.antisymm hle hlt)
  exact List.pairwise_map.mpr hstrict

end Entries

end DesignTokens
