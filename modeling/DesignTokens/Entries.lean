import DesignTokens.Text.Surrogate

/-!
# Ordered mappings

A mapping keeps its names in the order in which they were first written. Writing a name
again replaces its value and keeps its place. The lemmas say what each operation does to
the names (`keys`) and to what a name stands for (`get?`).
-/

namespace DesignTokens

/-- Names with their values, in the order in which the names were first written. -/
abbrev Entries (α : Type u) := List (String × α)

namespace Entries

variable {α : Type u} {β : Type v}

/-- The names in order. -/
def keys (m : Entries α) : List String := m.map Prod.fst

/-- What a name stands for. -/
def get? : Entries α → String → Option α
  | [], _ => none
  | (name, value) :: rest, key => if name = key then some value else get? rest key

/-- A name is in the mapping. -/
def has (m : Entries α) (key : String) : Bool := (get? m key).isSome

/-- Writes a name: in its place if it is there, else at the end. -/
def put : Entries α → String → α → Entries α
  | [], key, value => [(key, value)]
  | (name, old) :: rest, key, value =>
      if name = key then (name, value) :: rest else (name, old) :: put rest key value

/-- Writes one mapping over another. -/
def putAll (m : Entries α) (more : Entries α) : Entries α :=
  more.foldl (fun acc entry => put acc entry.1 entry.2) m

/-- Writes the entries of a list one after the other. -/
def ofList (entries : List (String × α)) : Entries α := putAll [] entries

/-- Removes a name. -/
def erase (m : Entries α) (key : String) : Entries α := m.filter fun entry => entry.1 != key

/-- Changes the values and keeps the names. -/
def mapValues (f : α → β) (m : Entries α) : Entries β := m.map fun entry => (entry.1, f entry.2)

/-- No name occurs twice. -/
def Distinct (m : Entries α) : Prop := (keys m).Nodup

@[simp] theorem get?_nil (key : String) : get? ([] : Entries α) key = none := rfl

@[simp] theorem keys_nil : keys ([] : Entries α) = [] := rfl

@[simp] theorem keys_cons (entry : String × α) (m : Entries α) :
    keys (entry :: m) = entry.1 :: keys m := rfl

theorem get?_put_self (m : Entries α) (key : String) (value : α) :
    get? (put m key value) key = some value := by
  induction m with
  | nil => simp [put, get?]
  | cons entry rest ih =>
      by_cases h : entry.1 = key <;> simp [put, get?, h, ih]

theorem get?_put_of_ne (m : Entries α) {key other : String} (value : α) (h : other ≠ key) :
    get? (put m key value) other = get? m other := by
  induction m with
  | nil => simp [put, get?, Ne.symm h]
  | cons entry rest ih =>
      by_cases hk : entry.1 = key
      · simp [put, get?, hk, Ne.symm h]
      · simp [put, get?, hk, ih]

/-- What a name stands for after a write. -/
theorem get?_put (m : Entries α) (key other : String) (value : α) :
    get? (put m key value) other = if key = other then some value else get? m other := by
  by_cases h : key = other
  · subst h
    simp [get?_put_self]
  · simp [h, get?_put_of_ne m value (Ne.symm h)]

theorem get?_eq_none_iff {m : Entries α} {key : String} : get? m key = none ↔ key ∉ keys m := by
  induction m with
  | nil => simp
  | cons entry rest ih =>
      by_cases h : entry.1 = key
      · simp [get?, h]
      · simp [get?, h, ih, Ne.symm h]

theorem get?_isSome_iff {m : Entries α} {key : String} :
    (get? m key).isSome = true ↔ key ∈ keys m := by
  have h : get? m key = none ↔ key ∉ keys m := get?_eq_none_iff
  cases hg : get? m key <;> simp_all

theorem mem_of_get? {m : Entries α} {key : String} {value : α} (h : get? m key = some value) :
    (key, value) ∈ m := by
  induction m with
  | nil => simp at h
  | cons entry rest ih =>
      by_cases hk : entry.1 = key
      · simp only [get?, hk, if_true, Option.some.injEq] at h
        simp [← hk, ← h]
      · simp only [get?, hk, if_false] at h
        simp [ih h]

/-- With distinct names, an entry of the list is what its name stands for. -/
theorem get?_of_mem {m : Entries α} (hd : Distinct m) {key : String} {value : α}
    (h : (key, value) ∈ m) : get? m key = some value := by
  induction m with
  | nil => simp at h
  | cons entry rest ih =>
      simp only [Distinct, keys_cons, List.nodup_cons] at hd
      rcases List.mem_cons.mp h with rfl | hr
      · simp [get?]
      · have hne : entry.1 ≠ key := by
          rintro rfl
          exact hd.1 (List.mem_map.mpr ⟨_, hr, rfl⟩)
        simp [get?, hne, ih hd.2 hr]

/-- A write adds its name behind the others unless it is there. -/
theorem keys_put (m : Entries α) (key : String) (value : α) :
    keys (put m key value) = if key ∈ keys m then keys m else keys m ++ [key] := by
  induction m with
  | nil => simp [put]
  | cons entry rest ih =>
      by_cases h : entry.1 = key
      · simp [put, h]
      · by_cases hm : key ∈ keys rest <;> simp [put, h, ih, hm, Ne.symm h]

theorem mem_keys_put {m : Entries α} {key other : String} {value : α} :
    other ∈ keys (put m key value) ↔ other = key ∨ other ∈ keys m := by
  rw [keys_put]
  split
  · constructor
    · exact Or.inr
    · rintro (rfl | h)
      · assumption
      · exact h
  · simp [or_comm]

theorem distinct_put {m : Entries α} (h : Distinct m) (key : String) (value : α) :
    Distinct (put m key value) := by
  unfold Distinct at *
  rw [keys_put]
  split
  · exact h
  · rename_i hk
    rw [List.nodup_append]
    refine ⟨h, by simp, ?_⟩
    rintro a ha b hb rfl
    simp only [List.mem_singleton] at hb
    exact hk (hb ▸ ha)

theorem distinct_putAll {m : Entries α} (h : Distinct m) (more : Entries α) :
    Distinct (putAll m more) := by
  induction more generalizing m with
  | nil => exact h
  | cons entry rest ih => exact ih (distinct_put h _ _)

/-- A mapping that is built by writing has distinct names. -/
theorem distinct_ofList (entries : List (String × α)) : Distinct (ofList entries) :=
  distinct_putAll (by simp [Distinct]) entries

@[simp] theorem keys_mapValues (f : α → β) (m : Entries α) : keys (mapValues f m) = keys m := by
  simp [keys, mapValues]

@[simp] theorem get?_mapValues (f : α → β) (m : Entries α) (key : String) :
    get? (mapValues f m) key = (get? m key).map f := by
  induction m with
  | nil => rfl
  | cons entry rest ih =>
      by_cases h : entry.1 = key <;> simp_all [mapValues, get?]

end Entries

/-- Names in the order of their code points. -/
def sortNames (names : List String) : List String :=
  names.mergeSort fun a b => !(Text.codePoints b).lex (Text.codePoints a) fun m n => m < n

end DesignTokens
