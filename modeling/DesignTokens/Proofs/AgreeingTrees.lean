import DesignTokens.Proofs.ContainedListings
import DesignTokens.Tools.Session

/-!
# Trees that agree where it is looked

Two trees agree at some places if they have the same directories and the same files, and the files
at these places hold the same. Walks look at no file, and what is read lies where the names of the
path lead when no directory is looked at. So trees that agree at the places of some paths cannot be
told apart by reading these paths, and they still agree after the same directories have been made
and the same files written.
-/

namespace DesignTokens

/-! ## Changes that end alike -/

/-- Two changes give the same, and what they leave behind is related. -/
inductive Alike {α σ : Type} (related : σ → σ → Prop) : α × σ → α × σ → Prop
  | mk (value : α) {first second : σ} (h : related first second) :
      Alike related (value, first) (value, second)

section Alike

variable {α σ : Type} {related : σ → σ → Prop} {first second : α × σ}

theorem alike_iff : Alike related first second ↔ second.1 = first.1 ∧ related first.2 second.2 := by
  constructor
  · rintro ⟨value, h⟩
    exact ⟨rfl, h⟩
  · obtain ⟨value, before⟩ := first
    obtain ⟨other, after⟩ := second
    rintro ⟨rfl, h⟩
    exact .mk _ h

/-- What is made of the same is the same. -/
theorem Alike.map {β : Type} (h : Alike related first second) (make : α → β) :
    Alike related (make first.1, first.2) (make second.1, second.2) := by
  obtain ⟨value, hrelated⟩ := h
  exact .mk _ hrelated

end Alike

/-! ## Where names lead -/

/-- The place that names lead to when no directory is looked at: two dots lead up, and any other
name leads down. -/
def walk : Place → List String → Place
  | place, [] => place
  | place, name :: rest => walk (if name = ".." then place.dropLast else place ++ [name]) rest

theorem walk_append (place : Place) (names more : List String) :
    walk place (names ++ more) = walk (walk place names) more := by
  induction names generalizing place with
  | nil => rfl
  | cons name rest ih => exact ih _

/-- The place of a path when no directory is looked at. -/
def Path.normalPlace (here : Place) (path : Path) : Place :=
  walk (match path.start with
    | .here => here
    | _ => []) path.parts

theorem Path.normalPlace_entry (here : Place) (directory : Path) {file : String}
    (hfile : file ≠ "..") :
    (directory.entry file).normalPlace here = directory.normalPlace here ++ [file] := by
  unfold normalPlace entry
  rw [walk_append, walk, if_neg hfile]
  rfl

namespace FileTree

variable {tree : FileTree} {path directory : Path} {place target : Place} {names : List String}

/-- A walk that is not stopped ends where the names lead. -/
theorem eq_walk_of_follow (h : tree.follow place names = .ok target) :
    target = walk place names := by
  induction names generalizing place with
  | nil =>
      cases h
      rfl
  | cons name rest ih =>
      obtain ⟨next, hstep, hrest⟩ := follow_cons_eq_ok_iff.mp h
      rw [walk]
      obtain ⟨-, ⟨hup, rfl⟩ | ⟨hdown, -, rfl⟩⟩ := step_eq_ok_iff.mp hstep
      · rw [if_pos hup]
        exact ih hrest
      · rw [if_neg hdown]
        exact ih hrest

theorem eq_normalPlace_of_locate (h : tree.locate path = .ok place) :
    place = path.normalPlace tree.here := by
  have hwalk := eq_walk_of_follow (follow_of_locate h)
  unfold Path.normalPlace
  unfold base at hwalk
  exact hwalk

/-- What is written lies where the names of the path lead, and nothing else changes. -/
theorem item?_of_write_normalPlace {before after : FileTree} {content : FileContent}
    (hwrite : before.write path content = .ok after) (place : Place) :
    after.item? place =
      if path.normalPlace before.here = place then some (.file content)
      else before.item? place := by
  obtain ⟨located, hlocate, rfl, hitem⟩ := item?_of_write hwrite
  rw [item?_put _ (ne_nil_of_not_directory hitem), eq_normalPlace_of_locate hlocate]

/-! ## Agreement -/

/-- Two items are of one kind, and files hold the same where it is looked. -/
inductive IsLike (seen : Prop) : FileItem → FileItem → Prop
  | directory : IsLike seen .directory .directory
  | file {first second : FileContent} (h : seen → first = second) :
      IsLike seen (.file first) (.file second)

theorem IsLike.refl (seen : Prop) (item : FileItem) : IsLike seen item item := by
  cases item with
  | directory => exact .directory
  | file content => exact .file fun _ => rfl

/-- Two trees have the same directories and files, and files at the seen places hold the same. -/
structure AgreeAt (seen : Place → Prop) (first second : FileTree) : Prop where
  here : second.here = first.here
  items : List.Forall₂ (fun entry other => other.1 = entry.1 ∧
    IsLike (seen entry.1) entry.2 other.2) first.items second.items

variable {seen : Place → Prop} {first second : FileTree}

theorem AgreeAt.refl (seen : Place → Prop) (tree : FileTree) : AgreeAt seen tree tree :=
  ⟨rfl, List.forall₂_same.mpr fun _ _ => ⟨rfl, IsLike.refl _ _⟩⟩

namespace AgreeAt

theorem item?_cases (h : AgreeAt seen first second) (place : Place) :
    (first.item? place = none ∧ second.item? place = none) ∨
      ∃ item other, first.item? place = some item ∧ second.item? place = some other ∧
        IsLike (seen place) item other := by
  unfold item?
  split
  · exact Or.inr ⟨_, _, rfl, rfl, .directory⟩
  · have hitems := h.items
    generalize first.items = items at hitems ⊢
    generalize second.items = others at hitems ⊢
    induction hitems with
    | nil => exact Or.inl ⟨rfl, rfl⟩
    | @cons entry other rest more hentry _ ih =>
        obtain ⟨hplace, hitem⟩ := hentry
        rw [itemIn, itemIn, hplace]
        split
        · rename_i hsame
          exact Or.inr ⟨_, _, rfl, rfl, hsame ▸ hitem⟩
        · exact ih

/-- The same item is put in both trees. -/
theorem put (h : AgreeAt seen first second) (place : Place) (item : FileItem) :
    AgreeAt seen (first.put place item) (second.put place item) := by
  refine ⟨h.here, ?_⟩
  have hitems := h.items
  unfold FileTree.put
  dsimp only
  generalize first.items = items at hitems ⊢
  generalize second.items = others at hitems ⊢
  induction hitems with
  | nil => exact .cons ⟨rfl, IsLike.refl _ _⟩ .nil
  | @cons entry other rest more hentry htail ih =>
      obtain ⟨hplace, hitem⟩ := hentry
      rw [putIn, putIn, hplace]
      split
      · exact .cons ⟨rfl, IsLike.refl _ _⟩ htail
      · exact .cons ⟨rfl, hitem⟩ ih

/-! ### Walks -/

theorem step_eq (h : AgreeAt seen first second) (place : Place) (name : String) :
    second.step place name = first.step place name := by
  unfold step
  rcases h.item?_cases place with ⟨hfirst, hsecond⟩ | ⟨item, other, hfirst, hsecond, hitem⟩
  · rw [hfirst, hsecond]
  · rw [hfirst, hsecond]
    cases hitem <;> rfl

theorem follow_eq (h : AgreeAt seen first second) (place : Place) (names : List String) :
    second.follow place names = first.follow place names := by
  induction names generalizing place with
  | nil => rfl
  | cons name rest ih =>
      rw [follow, follow, h.step_eq]
      cases first.step place name with
      | error fault => rfl
      | ok next => exact ih next

theorem locate_eq (h : AgreeAt seen first second) (path : Path) :
    second.locate path = first.locate path := by
  unfold locate
  simp only [h.follow_eq, h.here]

/-- What is found is of one kind, and it is the same where it is looked. -/
theorem find_cases (h : AgreeAt seen first second) (path : Path) :
    (∃ fault, first.find path = .error fault ∧ second.find path = .error fault) ∨
      ∃ item other, first.find path = .ok (path.normalPlace first.here, item) ∧
        second.find path = .ok (path.normalPlace first.here, other) ∧
        IsLike (seen (path.normalPlace first.here)) item other := by
  unfold find
  rw [h.locate_eq]
  cases hlocate : first.locate path with
  | error fault => exact Or.inl ⟨fault, rfl, rfl⟩
  | ok place =>
      dsimp only
      obtain rfl := eq_normalPlace_of_locate hlocate
      rcases h.item?_cases (path.normalPlace first.here) with
        ⟨hfirst, hsecond⟩ | ⟨item, other, hfirst, hsecond, hitem⟩
      · rw [hfirst, hsecond]
        exact Or.inl ⟨.missing, rfl, rfl⟩
      · rw [hfirst, hsecond]
        exact Or.inr ⟨item, other, rfl, rfl, hitem⟩

theorem holds_eq (h : AgreeAt seen first second) (path : Path) :
    second.holds path = first.holds path := by
  unfold holds
  rcases h.find_cases path with ⟨fault, hfirst, hsecond⟩ | ⟨item, other, hfirst, hsecond, -⟩
  · rw [hfirst, hsecond]
  · rw [hfirst, hsecond]

theorem isDirectory_eq (h : AgreeAt seen first second) (path : Path) :
    second.isDirectory path = first.isDirectory path := by
  unfold isDirectory
  rcases h.find_cases path with ⟨fault, hfirst, hsecond⟩ | ⟨item, other, hfirst, hsecond, hitem⟩
  · rw [hfirst, hsecond]
  · rw [hfirst, hsecond]
    cases hitem <;> rfl

/-- Trees cannot be told apart by reading where it is looked. -/
theorem read_eq (h : AgreeAt seen first second) (hseen : seen (path.normalPlace first.here)) :
    second.read path = first.read path := by
  unfold read
  rcases h.find_cases path with ⟨fault, hfirst, hsecond⟩ | ⟨item, other, hfirst, hsecond, hitem⟩
  · rw [hfirst, hsecond]
  · rw [hfirst, hsecond]
    cases hitem with
    | directory => rfl
    | file hcontent => rw [hcontent hseen]

/-! ### Changes -/

/-- One directory is made in both trees or in none. -/
theorem makeDirectory_cases (h : AgreeAt seen first second) (path : Path) :
    (∃ error, first.makeDirectory path = .error error ∧
      second.makeDirectory path = .error error) ∨
    ∃ place, first.makeDirectory path = .ok (first.put place .directory) ∧
      second.makeDirectory path = .ok (second.put place .directory) := by
  unfold makeDirectory
  rw [h.locate_eq]
  cases unnamable? path with
  | some error => exact Or.inl ⟨error, rfl, rfl⟩
  | none =>
      cases first.locate path with
      | error fault => exact Or.inl ⟨_, rfl, rfl⟩
      | ok place =>
          dsimp only
          rcases h.item?_cases place with ⟨hfirst, hsecond⟩ | ⟨item, other, hfirst, hsecond, -⟩
          · rw [hfirst, hsecond]
            exact Or.inr ⟨place, rfl, rfl⟩
          · rw [hfirst, hsecond]
            exact Or.inl ⟨_, rfl, rfl⟩

theorem ensureDirectory (h : AgreeAt seen first second) (path : Path) :
    Alike (AgreeAt seen) (first.ensureDirectory path) (second.ensureDirectory path) := by
  unfold FileTree.ensureDirectory
  rcases h.makeDirectory_cases path with ⟨error, hfirst, hsecond⟩ | ⟨place, hfirst, hsecond⟩
  · rw [hfirst, hsecond]
    cases error with
    | system fault other =>
        cases fault with
        | missing => exact .mk _ h
        | _ =>
            dsimp only
            rw [h.isDirectory_eq]
            exact .mk _ h
    | _ => exact .mk _ h
  · rw [hfirst, hsecond]
    exact .mk _ (h.put place .directory)

theorem makeAll (h : AgreeAt seen first second) (start : PathStart) (names : List String) :
    Alike (AgreeAt seen) (FileTree.makeAll start names first)
      (FileTree.makeAll start names second) := by
  induction names generalizing first second with
  | nil => exact h.ensureDirectory _
  | cons name above ih =>
      unfold FileTree.makeAll
      dsimp only
      have hensure := h.ensureDirectory ⟨start, (name :: above).reverse⟩
      generalize first.ensureDirectory ⟨start, (name :: above).reverse⟩ = one at hensure ⊢
      generalize second.ensureDirectory ⟨start, (name :: above).reverse⟩ = other at hensure ⊢
      obtain ⟨result, hmiddle⟩ := hensure
      cases result with
      | ok done => exact .mk _ hmiddle
      | error error =>
          cases error with
          | system fault missing =>
              cases fault with
              | missing =>
                  have habove := ih hmiddle
                  dsimp only
                  generalize FileTree.makeAll start above _ = one at habove ⊢
                  generalize FileTree.makeAll start above _ = other at habove ⊢
                  obtain ⟨result, hlast⟩ := habove
                  cases result with
                  | ok done => exact hlast.ensureDirectory _
                  | error error => exact .mk _ hlast
              | _ => exact .mk _ hmiddle
          | _ => exact .mk _ hmiddle

theorem makeDirectories (h : AgreeAt seen first second) (path : Path) :
    Alike (AgreeAt seen) (first.makeDirectories path) (second.makeDirectories path) :=
  h.makeAll path.start path.parts.reverse

/-- A file is written to both trees or to none. -/
theorem write_cases (h : AgreeAt seen first second) (path : Path) (content : FileContent) :
    (∃ error, first.write path content = .error error ∧
      second.write path content = .error error) ∨
    ∃ place, first.write path content = .ok (first.put place (.file content)) ∧
      second.write path content = .ok (second.put place (.file content)) := by
  unfold write
  rw [h.locate_eq]
  cases unnamable? path with
  | some error => exact Or.inl ⟨error, rfl, rfl⟩
  | none =>
      cases first.locate path with
      | error fault => exact Or.inl ⟨_, rfl, rfl⟩
      | ok place =>
          dsimp only
          rcases h.item?_cases place with ⟨hfirst, hsecond⟩ | ⟨item, other, hfirst, hsecond, hitem⟩
          · rw [hfirst, hsecond]
            exact Or.inr ⟨place, rfl, rfl⟩
          · rw [hfirst, hsecond]
            cases hitem with
            | directory => exact Or.inl ⟨_, rfl, rfl⟩
            | file _ => exact Or.inr ⟨place, rfl, rfl⟩

theorem writeText (h : AgreeAt seen first second) (path : Path) (text : String) :
    Alike (AgreeAt seen) (first.writeText path text) (second.writeText path text) := by
  unfold FileTree.writeText
  dsimp only
  generalize (FileContent.text _) = content
  rcases h.write_cases path content with ⟨error, hfirst, hsecond⟩ | ⟨place, hfirst, hsecond⟩
  · rw [hfirst, hsecond]
    exact .mk _ h
  · rw [hfirst, hsecond]
    cases Text.surrogateRun? (fun _ => false) text.toList with
    | none => exact .mk _ (h.put place _)
    | some run => exact .mk _ (h.put place _)

end AgreeAt

/-! ### Loading and listing -/

namespace AgreeAt

theorem readRecord_eq (h : AgreeAt seen first second) (purpose : FilePurpose)
    (hseen : seen (path.normalPlace first.here)) :
    second.readRecord purpose path = first.readRecord purpose path := by
  unfold readRecord
  rw [h.read_eq hseen]

theorem loadStore_eq (h : AgreeAt seen first second) (hseen : seen (path.normalPlace first.here)) :
    second.loadStore path = first.loadStore path := by
  unfold loadStore
  rw [h.readRecord_eq .store hseen]

theorem loadBrand_eq (h : AgreeAt seen first second) (hseen : seen (path.normalPlace first.here)) :
    second.loadBrand path = first.loadBrand path := by
  unfold loadBrand
  rw [h.readRecord_eq .brand hseen]

/-- The same names stand in a directory. -/
theorem namesIn_eq (h : AgreeAt seen first second) (directory : Path) :
    second.namesIn directory = first.namesIn directory := by
  have hnames (place : Place) : second.items.filterMap (nameBelow? place) =
      first.items.filterMap (nameBelow? place) := by
    have hitems := h.items
    generalize first.items = items at hitems ⊢
    generalize second.items = others at hitems ⊢
    induction hitems with
    | nil => rfl
    | @cons entry other rest more hentry _ ih =>
        have hname : nameBelow? place other = nameBelow? place entry := by
          rw [nameBelow?, nameBelow?, hentry.1]
        rw [List.filterMap_cons, List.filterMap_cons, hname, ih]
  rcases h.find_cases directory with
    ⟨fault, hfirst, hsecond⟩ | ⟨item, other, hfirst, hsecond, hitem⟩
  · unfold namesIn
    rw [hfirst, hsecond]
  · cases hitem with
    | directory => rw [namesIn_of_find hfirst, namesIn_of_find hsecond, hnames]
    | file _ =>
        unfold namesIn
        rw [hfirst, hsecond]

theorem tokenFiles_eq (h : AgreeAt seen first second) (directory : Path) :
    tokenFiles second directory = tokenFiles first directory := by
  rw [DesignTokens.tokenFiles_eq, DesignTokens.tokenFiles_eq, h.namesIn_eq]

end AgreeAt

end FileTree

end DesignTokens
