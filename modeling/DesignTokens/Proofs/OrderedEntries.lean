import DesignTokens.Entries

/-!
# Writing into ordered mappings

What one mapping holds after another one was written over it. The last write of a name
decides, the names stay distinct, and new, distinct names stand behind the others in their
order.
-/

namespace DesignTokens

namespace Entries

variable {α : Type u}

/-- An entry behind a write was there before or is the written one. -/
theorem mem_put {m : Entries α} {key : String} {value : α} {entry : String × α}
    (h : entry ∈ put m key value) : entry ∈ m ∨ entry = (key, value) := by
  induction m with
  | nil => simpa [put] using h
  | cons first rest ih =>
      by_cases hk : first.1 = key
      · simp only [put, hk, if_true, List.mem_cons] at h
        rcases h with h | h
        · exact Or.inr h
        · exact Or.inl (List.mem_cons_of_mem _ h)
      · simp only [put, hk, if_false, List.mem_cons] at h
        rcases h with h | h
        · exact Or.inl (h ▸ List.mem_cons_self)
        · exact (ih h).imp (List.mem_cons_of_mem _) id

/-- An entry of a written mapping is one of those that were written or was there before. -/
theorem mem_putAll {m more : Entries α} {entry : String × α}
    (h : entry ∈ putAll m more) : entry ∈ m ∨ entry ∈ more := by
  induction more generalizing m with
  | nil => exact Or.inl h
  | cons first rest ih =>
      rcases ih h with hm | hr
      · rcases mem_put hm with hm | rfl
        · exact Or.inl hm
        · exact Or.inr List.mem_cons_self
      · exact Or.inr (List.mem_cons_of_mem _ hr)

@[simp] theorem keys_append (m more : Entries α) : keys (m ++ more) = keys m ++ keys more := by
  simp [keys]

/-- A new name is written behind the others. -/
theorem put_of_not_mem {m : Entries α} {key : String} (h : key ∉ keys m) (value : α) :
    put m key value = m ++ [(key, value)] := by
  induction m with
  | nil => rfl
  | cons entry rest ih =>
      rw [keys_cons, List.mem_cons, not_or] at h
      have hne : entry.1 ≠ key := fun heq => h.1 heq.symm
      have hrest := ih h.2
      simp [put, hne, hrest]

theorem putAll_cons (m : Entries α) (entry : String × α) (more : Entries α) :
    putAll m (entry :: more) = putAll (put m entry.1 entry.2) more := rfl

theorem putAll_append (m more others : Entries α) :
    putAll m (more ++ others) = putAll (putAll m more) others := by
  rw [putAll, List.foldl_append]
  rfl

/-- A name of a written mapping was written or there before. -/
theorem mem_keys_putAll {m more : Entries α} {key : String} :
    key ∈ keys (putAll m more) ↔ key ∈ keys m ∨ key ∈ keys more := by
  induction more generalizing m with
  | nil => simp [putAll]
  | cons entry rest ih =>
      rw [putAll_cons, ih, mem_keys_put, keys_cons, List.mem_cons, or_right_comm, or_comm]

/-- New, distinct names are written behind the others in their order. -/
theorem putAll_of_fresh {m more : Entries α} (hd : (keys more).Nodup)
    (hnew : ∀ key ∈ keys more, key ∉ keys m) : putAll m more = m ++ more := by
  induction more generalizing m with
  | nil => simp [putAll]
  | cons entry rest ih =>
      rw [keys_cons, List.nodup_cons] at hd
      have hhere : entry.1 ∉ keys m := hnew entry.1 (by simp)
      have hrest : ∀ key ∈ keys rest, key ∉ keys (m ++ [(entry.1, entry.2)]) := by
        intro key hk hmem
        rw [keys_append, List.mem_append] at hmem
        rcases hmem with hm | hm
        · exact hnew key (by simp [hk]) hm
        · have heq : key = entry.1 := by simpa using hm
          exact hd.1 (heq ▸ hk)
      rw [putAll_cons, put_of_not_mem hhere, ih hd.2 hrest, List.append_assoc]
      rfl

/-- A name that is not written keeps what it stands for. -/
theorem get?_putAll_of_not_mem {m more : Entries α} {key : String} (h : key ∉ keys more) :
    get? (putAll m more) key = get? m key := by
  induction more generalizing m with
  | nil => rfl
  | cons entry rest ih =>
      rw [keys_cons, List.mem_cons, not_or] at h
      rw [putAll_cons, ih h.2, get?_put_of_ne _ _ h.1]

/-- A name that is written once stands for what was written. -/
theorem get?_putAll_of_mem {m more : Entries α} (hd : (keys more).Nodup) {key : String}
    {value : α} (h : (key, value) ∈ more) : get? (putAll m more) key = some value := by
  induction more generalizing m with
  | nil => cases h
  | cons entry rest ih =>
      rw [keys_cons, List.nodup_cons] at hd
      rw [putAll_cons]
      rcases List.mem_cons.mp h with rfl | hr
      · rw [get?_putAll_of_not_mem hd.1, get?_put_self]
      · exact ih hd.2 hr

/-- With distinct names a written mapping goes before the one it is written over. -/
theorem get?_putAll {more : Entries α} (hd : Distinct more) (m : Entries α) (key : String) :
    get? (putAll m more) key = (get? more key).or (get? m key) := by
  cases hmore : get? more key with
  | none => rw [get?_putAll_of_not_mem (get?_eq_none_iff.mp hmore), Option.none_or]
  | some value => rw [get?_putAll_of_mem hd (mem_of_get? hmore), Option.some_or]

/-- Writing names that are there keeps the names. -/
theorem keys_putAll_of_subset {m more : Entries α}
    (h : ∀ key ∈ keys more, key ∈ keys m) : keys (putAll m more) = keys m := by
  induction more generalizing m with
  | nil => rfl
  | cons entry rest ih =>
      have hhere : keys (put m entry.1 entry.2) = keys m := by
        rw [keys_put, if_pos (h entry.1 (by simp))]
      rw [putAll_cons, ih, hhere]
      intro key hk
      rw [hhere]
      exact h key (by simp [hk])

/-- Distinct names that are written into an empty mapping stay as they are. -/
theorem ofList_of_distinct {m : Entries α} (hd : Distinct m) : ofList m = m := by
  rw [ofList, putAll_of_fresh hd (by simp), List.nil_append]

/-- Changing the values before or behind a write is the same. -/
theorem mapValues_put {β : Type v} (f : α → β) (m : Entries α) (key : String) (value : α) :
    mapValues f (put m key value) = put (mapValues f m) key (f value) := by
  induction m with
  | nil => rfl
  | cons entry rest ih =>
      simp only [mapValues, List.map_cons, put] at ih ⊢
      split
      · rfl
      · rw [List.map_cons, ih]

/-- Changing the values before or behind the writes is the same. -/
theorem mapValues_ofList {β : Type v} (f : α → β) (m : Entries α) :
    mapValues f (ofList m) = ofList (mapValues f m) := by
  have hover (base : Entries α) :
      mapValues f (putAll base m) = putAll (mapValues f base) (mapValues f m) := by
    induction m generalizing base with
    | nil => rfl
    | cons entry rest ih => rw [putAll_cons, ih, mapValues_put]; rfl
  exact hover []

/-- A name that is removed stands for nothing, and other names stand for what they did. -/
theorem get?_erase (m : Entries α) (key other : String) :
    get? (erase m key) other = if other = key then none else get? m other := by
  induction m with
  | nil => simp [erase]
  | cons entry rest ih =>
      by_cases hkey : entry.1 = key
      · have herase : erase (entry :: rest) key = erase rest key := by simp [erase, hkey]
        rw [herase, ih]
        by_cases hother : other = key
        · rw [if_pos hother, if_pos hother]
        · rw [if_neg hother, if_neg hother, get?, if_neg (hkey ▸ Ne.symm hother)]
      · have herase : erase (entry :: rest) key = entry :: erase rest key := by
          simp [erase, hkey]
        rw [herase, get?, get?, ih]
        by_cases hentry : entry.1 = other
        · rw [if_pos hentry, if_neg (hentry ▸ hkey), if_pos hentry]
        · rw [if_neg hentry, if_neg hentry]

end Entries

end DesignTokens
