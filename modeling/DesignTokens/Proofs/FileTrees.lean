import DesignTokens.Files.Tree
import Mathlib.Data.List.Induction
import Mathlib.Tactic.Push

/-!
# Trees that change

A write puts a file where no directory lies, and directories are only made where nothing lies,
so every walk through directories leads where it led before. Making a directory and those
above it adds directories no deeper than the path and changes nothing else; where the
directory is there already, nothing changes at all.
-/

namespace DesignTokens

/-- Names that each lead one place down and are not too long. -/
def IsDownward (names : List String) : Prop :=
  ∀ name ∈ names, name ≠ ".." ∧ Text.nameSize name ≤ FileTree.maxNameSize

instance : DecidablePred IsDownward := fun names =>
  inferInstanceAs (Decidable (∀ name ∈ names, _ ∧ _))

/-- The path of a file directly in a directory. -/
def Path.entry (directory : Path) (file : String) : Path :=
  { directory with parts := directory.parts ++ [file] }

namespace FileTree

variable {tree before after : FileTree} {path directory : Path} {place target : Place}
  {names : List String} {file : String}

/-! ## Walks -/

/-- The place that a path starts from. -/
def base (tree : FileTree) (path : Path) : Place :=
  match path.start with
  | .here => tree.here
  | _ => []

/-- A path leads to a directory. -/
def LeadsTo (tree : FileTree) (path : Path) (place : Place) : Prop :=
  tree.follow (tree.base path) path.parts = .ok place ∧ tree.item? place = some .directory

theorem locate_eq (tree : FileTree) (path : Path) :
    tree.locate path =
      if maxPathSize < Text.nameSize path.text then .error .nameTooLong
      else tree.follow (tree.base path) path.parts := by
  unfold locate base
  cases path.start <;> rfl

theorem follow_of_locate (h : tree.locate path = .ok place) :
    tree.follow (tree.base path) path.parts = .ok place := by
  rw [locate_eq] at h
  split at h
  · cases h
  · exact h

/-- What is found at a path lies at its place. -/
theorem find_eq_ok_iff {item : FileItem} :
    tree.find path = .ok (place, item) ↔
      tree.locate path = .ok place ∧ tree.item? place = some item := by
  unfold find
  cases tree.locate path with
  | error fault => simp
  | ok located =>
      cases hitem : tree.item? located with
      | none =>
          simp only [hitem, reduceCtorEq, Except.ok.injEq, false_iff, not_and]
          rintro rfl
          rw [hitem]
          exact nofun
      | some found =>
          simp only [hitem, Except.ok.injEq, Prod.mk.injEq]
          constructor
          · rintro ⟨rfl, rfl⟩
            exact ⟨rfl, hitem⟩
          · rintro ⟨rfl, hplace⟩
            exact ⟨rfl, Option.some.inj (hitem.symm.trans hplace)⟩

/-- A step leads from a directory one place up or down. -/
theorem step_eq_ok_iff {name : String} {next : Place} :
    tree.step place name = .ok next ↔
      tree.item? place = some .directory ∧
        (name = ".." ∧ next = place.dropLast ∨
          name ≠ ".." ∧ Text.nameSize name ≤ maxNameSize ∧ next = place ++ [name]) := by
  unfold step
  cases tree.item? place with
  | none => simp
  | some item =>
      cases item with
      | file content => simp
      | directory =>
          by_cases hup : name = ".."
          · simp [hup, eq_comm]
          · by_cases hlong : maxNameSize < Text.nameSize name
            · simp [hup, hlong, Nat.not_le_of_lt hlong]
            · simp [hup, hlong, Nat.le_of_not_lt hlong, eq_comm]

theorem follow_cons_eq_ok_iff {name : String} :
    tree.follow place (name :: names) = .ok target ↔
      ∃ next, tree.step place name = .ok next ∧ tree.follow next names = .ok target := by
  rw [follow]
  cases tree.step place name with
  | error fault => simp
  | ok next => simp

/-- A walk goes on where its first part ends. -/
theorem follow_append (more : List String) :
    tree.follow place (names ++ more) =
      (tree.follow place names).bind fun next => tree.follow next more := by
  induction names generalizing place with
  | nil => rfl
  | cons name rest ih =>
      rw [List.cons_append, follow, follow]
      cases tree.step place name with
      | error fault => rfl
      | ok next => exact ih

/-- Behind a directory a walk goes on from its place. -/
theorem follow_behind {start : PathStart} {front : List String}
    (h : tree.LeadsTo ⟨start, front⟩ place) {more : List String} {rest : List String} :
    tree.follow (tree.base ⟨start, rest⟩) (front ++ more) = tree.follow place more := by
  rw [follow_append]
  change (tree.follow (tree.base ⟨start, front⟩) front).bind _ = _
  rw [h.1]
  rfl

/-- A walk to an entry goes through the place of its directory. -/
theorem follow_entry (file : String) :
    tree.follow (tree.base (directory.entry file)) (directory.entry file).parts =
      (tree.follow (tree.base directory) directory.parts).bind fun place =>
        tree.step place file := by
  change tree.follow (tree.base directory) (directory.parts ++ [file]) = _
  rw [follow_append]
  cases tree.follow (tree.base directory) directory.parts with
  | error fault => rfl
  | ok place =>
      simp only [Except.bind, follow]
      cases tree.step place file <;> rfl

/-- A walk goes down by at most one place with each name. -/
theorem length_le_of_follow (h : tree.follow place names = .ok target) :
    target.length ≤ place.length + names.length := by
  induction names generalizing place with
  | nil =>
      cases h
      exact Nat.le_refl _
  | cons name rest ih =>
      obtain ⟨next, hstep, hrest⟩ := follow_cons_eq_ok_iff.mp h
      have hlength := ih hrest
      rw [List.length_cons]
      obtain ⟨-, ⟨-, rfl⟩ | ⟨-, -, rfl⟩⟩ := step_eq_ok_iff.mp hstep
      · rw [List.length_dropLast] at hlength
        omega
      · rw [List.length_append, List.length_singleton] at hlength
        omega

/-- A walk down ends at the place with the names behind it. -/
theorem eq_append_of_follow (hdown : ∀ name ∈ names, name ≠ "..")
    (h : tree.follow place names = .ok target) : target = place ++ names := by
  induction names generalizing place with
  | nil =>
      cases h
      rw [List.append_nil]
  | cons name rest ih =>
      rw [List.forall_mem_cons] at hdown
      obtain ⟨next, hstep, hrest⟩ := follow_cons_eq_ok_iff.mp h
      obtain ⟨-, ⟨hup, -⟩ | ⟨-, -, rfl⟩⟩ := step_eq_ok_iff.mp hstep
      · exact absurd hup hdown.1
      · rw [ih hdown.2 hrest, List.append_assoc, List.singleton_append]

/-- A walk down does not fail for the length of a name. -/
theorem follow_ne_nameTooLong (hdown : IsDownward names) :
    tree.follow place names ≠ .error .nameTooLong := by
  induction names generalizing place with
  | nil => exact fun h => by cases h
  | cons name rest ih =>
      rw [IsDownward, List.forall_mem_cons] at hdown
      obtain ⟨⟨hup, hsize⟩, hrest⟩ := hdown
      rw [follow, step]
      cases tree.item? place with
      | none => exact fun h => by cases h
      | some item =>
          cases item with
          | file content => exact fun h => by cases h
          | directory =>
              simp only [if_neg hup, if_neg (Nat.not_lt.mpr hsize)]
              exact ih hrest

/-! ## Directories that stay -/

/-- Every directory is still a directory. -/
structure KeepsDirectories (before after : FileTree) : Prop where
  here : after.here = before.here
  item : ∀ place, before.item? place = some .directory → after.item? place = some .directory

namespace KeepsDirectories

theorem base_eq (h : KeepsDirectories before after) (path : Path) :
    after.base path = before.base path := by
  unfold base
  rw [h.here]

/-- A walk leads where it led before. -/
theorem follow_eq (h : KeepsDirectories before after)
    (hfollow : before.follow place names = .ok target) :
    after.follow place names = .ok target := by
  induction names generalizing place with
  | nil => exact hfollow
  | cons name rest ih =>
      obtain ⟨next, hstep, hrest⟩ := follow_cons_eq_ok_iff.mp hfollow
      obtain ⟨hplace, hname⟩ := step_eq_ok_iff.mp hstep
      have hagain := step_eq_ok_iff.mpr ⟨h.item place hplace, hname⟩
      exact follow_cons_eq_ok_iff.mpr ⟨next, hagain, ih hrest⟩

theorem leadsTo (h : KeepsDirectories before after) (hpath : before.LeadsTo path place) :
    after.LeadsTo path place := by
  refine ⟨?_, h.item place hpath.2⟩
  rw [h.base_eq]
  exact h.follow_eq hpath.1

end KeepsDirectories

theorem ne_nil_of_not_directory (h : tree.item? place ≠ some .directory) : place ≠ [] := by
  rintro rfl
  exact h rfl

/-- What is put where no directory lies takes no directory away. -/
theorem keepsDirectories_put (item : FileItem) (h : tree.item? place ≠ some .directory) :
    KeepsDirectories tree (tree.put place item) where
  here := rfl
  item other hother := by
    rw [item?_put tree (ne_nil_of_not_directory h)]
    split
    · rename_i hsame
      exact absurd (hsame ▸ hother) h
    · exact hother

/-! ## Trees that grow -/

/-- Nothing changes but that directories are added no deeper than the given depth. -/
structure Grows (depth : Nat) (before after : FileTree) : Prop where
  here : after.here = before.here
  item : ∀ place, after.item? place = before.item? place ∨
    before.item? place = none ∧ after.item? place = some .directory ∧ place.length ≤ depth

namespace Grows

variable {depth : Nat}

theorem refl (depth : Nat) (tree : FileTree) : Grows depth tree tree :=
  ⟨rfl, fun _ => Or.inl rfl⟩

theorem trans {between : FileTree} (h : Grows depth before between)
    (hnext : Grows depth between after) : Grows depth before after := by
  refine ⟨hnext.here.trans h.here, ?_⟩
  intro place
  rcases hnext.item place with hsame | ⟨hnone, hadded, hdepth⟩
  · rw [hsame]
    exact h.item place
  · rcases h.item place with hbefore | ⟨-, hdirectory, -⟩
    · exact Or.inr ⟨hbefore.symm.trans hnone, hadded, hdepth⟩
    · rw [hnone] at hdirectory
      cases hdirectory

theorem mono {more : Nat} (h : Grows depth before after) (hmore : depth ≤ more) :
    Grows more before after := by
  refine ⟨h.here, ?_⟩
  intro place
  rcases h.item place with hsame | ⟨hnone, hadded, hdepth⟩
  · exact Or.inl hsame
  · exact Or.inr ⟨hnone, hadded, Nat.le_trans hdepth hmore⟩

theorem keepsDirectories (h : Grows depth before after) : KeepsDirectories before after where
  here := h.here
  item place hplace := by
    rcases h.item place with hsame | ⟨-, hadded, -⟩
    · exact hsame.trans hplace
    · exact hadded

end Grows

theorem unnamable?_ne_system {fault : FileFault} {other : Path} :
    unnamable? path ≠ some (.system fault other) := by
  unfold unnamable?
  split
  · exact fun h => by cases h
  · split
    · exact fun h => by cases h
    · exact fun h => by cases h

/-- A directory is made where nothing lies. -/
theorem exists_of_makeDirectory (h : tree.makeDirectory path = .ok after) :
    ∃ place, tree.follow (tree.base path) path.parts = .ok place ∧ tree.item? place = none ∧
      after = tree.put place .directory := by
  unfold makeDirectory at h
  split at h
  · cases h
  · cases h
  · rename_i place _ hlocate
    split at h
    · cases h
    · rename_i hnone
      cases h
      exact ⟨place, follow_of_locate hlocate, hnone, rfl⟩

/-- A fault of the system in making a directory is told of its path. -/
theorem eq_of_makeDirectory_error {fault : FileFault} {other : Path}
    (h : tree.makeDirectory path = .error (.system fault other)) : other = path := by
  unfold makeDirectory at h
  split at h
  · rename_i error _ hname
    cases h
    exact absurd hname unnamable?_ne_system
  · cases h
    rfl
  · split at h
    · cases h
      rfl
    · cases h

theorem leadsTo_of_isDirectory (h : tree.isDirectory path = true) :
    ∃ place, tree.LeadsTo path place := by
  rw [isDirectory, Bool.and_eq_true] at h
  obtain ⟨-, h⟩ := h
  unfold find at h
  cases hlocate : tree.locate path with
  | error fault => rw [hlocate] at h; cases h
  | ok place =>
      rw [hlocate] at h
      refine ⟨place, follow_of_locate hlocate, ?_⟩
      cases hitem : tree.item? place with
      | none => simp only [hitem] at h; cases h
      | some item =>
          cases item with
          | file content => simp only [hitem] at h; cases h
          | directory => rfl

/-- Making a directory adds it at its place, if it changes anything. -/
theorem grows_ensureDirectory {depth : Nat}
    (hdepth : ∀ place, tree.follow (tree.base path) path.parts = .ok place →
      place.length ≤ depth) : Grows depth tree (tree.ensureDirectory path).2 := by
  unfold ensureDirectory
  split
  · rename_i made hmade
    obtain ⟨place, hfollow, hnone, rfl⟩ := exists_of_makeDirectory hmade
    have hplace : tree.item? place ≠ some .directory := by simp [hnone]
    refine ⟨rfl, ?_⟩
    intro other
    rw [item?_put tree (ne_nil_of_not_directory hplace)]
    by_cases hsame : place = other
    · subst hsame
      rw [if_pos rfl]
      exact Or.inr ⟨hnone, rfl, hdepth place hfollow⟩
    · rw [if_neg hsame]
      exact Or.inl rfl
  all_goals exact Grows.refl _ tree

/-- Behind a success the path leads to a directory. -/
theorem leadsTo_of_ensureDirectory (h : (tree.ensureDirectory path).1 = .ok ()) :
    ∃ place, (tree.ensureDirectory path).2.LeadsTo path place := by
  unfold ensureDirectory at h ⊢
  split at h
  · rename_i made hmade
    obtain ⟨place, hfollow, hnone, rfl⟩ := exists_of_makeDirectory hmade
    have hplace : tree.item? place ≠ some .directory := by simp [hnone]
    have hkeeps := keepsDirectories_put .directory hplace
    refine ⟨place, ?_, ?_⟩
    · exact hkeeps.follow_eq hfollow
    · rw [item?_put tree (ne_nil_of_not_directory hplace), if_pos rfl]
  · cases h
  · rename_i fault other _ hfault
    obtain rfl := eq_of_makeDirectory_error hfault
    dsimp only at h ⊢
    split at h
    · rename_i hdirectory
      exact leadsTo_of_isDirectory hdirectory
    · cases h
  · cases h

/-- A directory that is there is not made. -/
theorem makeDirectory_of_leadsTo (h : tree.LeadsTo path place) :
    ∃ error, tree.makeDirectory path = .error error ∧
      ∀ other, error ≠ .system .missing other := by
  unfold makeDirectory
  cases hname : unnamable? path with
  | some error =>
      refine ⟨error, rfl, ?_⟩
      rintro other rfl
      exact unnamable?_ne_system hname
  | none =>
      by_cases hlong : maxPathSize < Text.nameSize path.text
      · rw [locate_eq, if_pos hlong]
        exact ⟨_, rfl, fun other heq => by cases heq⟩
      · rw [locate_eq, if_neg hlong, h.1]
        simp only [h.2]
        exact ⟨_, rfl, fun other heq => by cases heq⟩

/-- A directory that is there stays as it is, and it is not missing. -/
theorem ensureDirectory_of_leadsTo (h : tree.LeadsTo path place) :
    (tree.ensureDirectory path).2 = tree ∧
      ∀ other, (tree.ensureDirectory path).1 ≠ .error (.system .missing other) := by
  obtain ⟨error, herror, hmissing⟩ := makeDirectory_of_leadsTo h
  unfold ensureDirectory
  rw [herror]
  split
  · rename_i hok
    cases hok
  · rename_i other heq
    cases heq
    exact absurd rfl (hmissing other)
  · rename_i fault other hfault heq
    cases heq
    refine ⟨rfl, ?_⟩
    intro last hlast
    dsimp only at hlast
    split at hlast
    · cases hlast
    · cases hlast
      exact hmissing other rfl
  · rename_i other _ _ heq
    cases heq
    refine ⟨rfl, ?_⟩
    rintro last hlast
    cases hlast
    exact hmissing last rfl

/-! ## Making all directories of a path -/

/-- A directory is made at once, or after those above it, or these cannot be made. -/
theorem makeAll_cons_cases (start : PathStart) (name : String) (above : List String)
    (tree : FileTree) :
    (makeAll start (name :: above) tree =
        tree.ensureDirectory ⟨start, (name :: above).reverse⟩ ∧
      ∀ other, (tree.ensureDirectory ⟨start, (name :: above).reverse⟩).1 ≠
        .error (.system .missing other)) ∨
    ∃ other middle,
      tree.ensureDirectory ⟨start, (name :: above).reverse⟩ =
        (.error (.system .missing other), middle) ∧
      ((∃ last, makeAll start above middle = (.ok (), last) ∧
          makeAll start (name :: above) tree =
            last.ensureDirectory ⟨start, (name :: above).reverse⟩) ∨
        ∃ error last, makeAll start above middle = (.error error, last) ∧
          makeAll start (name :: above) tree = (.error error, last)) := by
  rw [makeAll.eq_def]
  dsimp only
  generalize Path.mk start (name :: above).reverse = path
  split
  · rename_i other middle hmissing
    refine Or.inr ⟨other, middle, hmissing, ?_⟩
    generalize makeAll start above middle = made
    obtain ⟨result, last⟩ := made
    cases result with
    | ok done => exact Or.inl ⟨last, rfl, rfl⟩
    | error error => exact Or.inr ⟨error, last, rfl, rfl⟩
  · rename_i hdone
    refine Or.inl ⟨rfl, ?_⟩
    intro other hother
    exact hdone other _ (Prod.ext hother rfl)

/-- Behind a success the path leads to a directory. -/
theorem leadsTo_of_makeAll {start : PathStart} {names : List String}
    (h : (makeAll start names tree).1 = .ok ()) :
    ∃ place, (makeAll start names tree).2.LeadsTo ⟨start, names.reverse⟩ place := by
  cases names with
  | nil => exact leadsTo_of_ensureDirectory h
  | cons name above =>
      rcases makeAll_cons_cases start name above tree with
        ⟨hdone, -⟩ | ⟨-, -, -, ⟨last, -, hdone⟩ | ⟨error, last, -, hdone⟩⟩
      · rw [hdone] at h ⊢
        exact leadsTo_of_ensureDirectory h
      · rw [hdone] at h ⊢
        exact leadsTo_of_ensureDirectory h
      · rw [hdone] at h
        cases h

/-- A directory that is there stays as it is. -/
theorem makeAll_of_leadsTo {start : PathStart} {names : List String}
    (h : tree.LeadsTo ⟨start, names.reverse⟩ place) : (makeAll start names tree).2 = tree := by
  cases names with
  | nil => exact (ensureDirectory_of_leadsTo h).1
  | cons name above =>
      obtain ⟨hsame, hthere⟩ := ensureDirectory_of_leadsTo h
      rcases makeAll_cons_cases start name above tree with
        ⟨hdone, -⟩ | ⟨other, middle, hmissing, -⟩
      · rw [hdone]
        exact hsame
      · rw [hmissing] at hthere
        exact absurd rfl (hthere other)

/-- Making a directory behind one that is there adds it no deeper than the names behind lead. -/
theorem grows_ensureDirectory_behind {start : PathStart} {front : List String}
    (h : tree.LeadsTo ⟨start, front⟩ place) (more : List String) :
    Grows (place.length + more.length) tree (tree.ensureDirectory ⟨start, front ++ more⟩).2 := by
  apply grows_ensureDirectory
  intro target hfollow
  rw [follow_behind h] at hfollow
  exact length_le_of_follow hfollow

/-- Making the directories behind one that is there adds directories no deeper than the last
one. -/
theorem grows_makeAll {start : PathStart} {front : List String}
    (h : tree.LeadsTo ⟨start, front⟩ place) (names : List String) :
    Grows (place.length + names.length) tree (makeAll start (names ++ front.reverse) tree).2 := by
  induction names generalizing tree with
  | nil =>
      have hsame := makeAll_of_leadsTo (List.reverse_reverse front ▸ h)
      rw [List.nil_append, hsame]
      exact Grows.refl _ tree
  | cons name above ih =>
      have hparts : (name :: (above ++ front.reverse)).reverse =
          front ++ (name :: above).reverse := by
        rw [← List.cons_append, List.reverse_append, List.reverse_reverse]
      have hcases := makeAll_cons_cases start name (above ++ front.reverse) tree
      have hensure {tree : FileTree} (h : tree.LeadsTo ⟨start, front⟩ place) :=
        grows_ensureDirectory_behind h (name :: above).reverse
      rw [List.length_reverse] at hensure
      have hfirst := hensure h
      rw [hparts] at hcases
      rw [List.cons_append]
      rcases hcases with ⟨hdone, -⟩ | ⟨other, middle, hmissing, hrest⟩
      · rw [hdone]
        exact hfirst
      · rw [hmissing] at hfirst
        have hmiddle := hfirst.keepsDirectories.leadsTo h
        have hgrown := hfirst.trans ((ih hmiddle).mono (Nat.le_succ _))
        rcases hrest with ⟨last, hmade, hdone⟩ | ⟨error, last, hfailed, hdone⟩
        · rw [hmade] at hgrown
          rw [hdone]
          exact hgrown.trans (hensure (hgrown.keepsDirectories.leadsTo h))
        · rw [hfailed] at hgrown
          rw [hdone]
          exact hgrown

/-- Making the directories of a path adds directories no deeper than the path leads, where a
first part of it leads to a directory. -/
theorem grows_makeDirectories {front tail : List String} (hparts : path.parts = front ++ tail)
    (h : tree.LeadsTo { path with parts := front } place) :
    Grows (place.length + tail.length) tree (tree.makeDirectories path).2 := by
  have hgrows := grows_makeAll h tail.reverse
  rw [List.length_reverse, ← List.reverse_append, ← hparts] at hgrows
  exact hgrows

theorem leadsTo_of_makeDirectories (h : (tree.makeDirectories path).1 = .ok ()) :
    ∃ place, (tree.makeDirectories path).2.LeadsTo path place := by
  have hmade := leadsTo_of_makeAll h
  rw [List.reverse_reverse] at hmade
  exact hmade

theorem makeDirectories_of_leadsTo (h : tree.LeadsTo path place) :
    (tree.makeDirectories path).2 = tree := by
  apply makeAll_of_leadsTo
  rw [List.reverse_reverse]
  exact h

/-! ## Entries of a directory -/

/-- Below a directory that is there, the place of an entry depends on nothing else. -/
theorem locate_entry (h : tree.LeadsTo directory place) (hfile : file ≠ "..") :
    tree.locate (directory.entry file) =
      if maxPathSize < Text.nameSize (directory.entry file).text ∨
          maxNameSize < Text.nameSize file then
        .error .nameTooLong
      else .ok (place ++ [file]) := by
  rw [locate_eq, follow_entry, h.1]
  by_cases hpath : maxPathSize < Text.nameSize (directory.entry file).text
  · rw [if_pos hpath, if_pos (Or.inl hpath)]
  · simp only [hpath, false_or, if_false, Except.bind, step, h.2, if_neg hfile]

/-- In two trees with the directory at the same place, an entry that is the same there is
found as the same. -/
theorem find_entry_congr (hbefore : before.LeadsTo directory place)
    (hafter : after.LeadsTo directory place) (hfile : file ≠ "..")
    (hitem : after.item? (place ++ [file]) = before.item? (place ++ [file])) :
    after.find (directory.entry file) = before.find (directory.entry file) := by
  unfold find
  rw [locate_entry hbefore hfile, locate_entry hafter hfile]
  by_cases hlong : maxPathSize < Text.nameSize (directory.entry file).text ∨
      maxNameSize < Text.nameSize file
  · simp only [if_pos hlong]
  · simp only [if_neg hlong, hitem]

/-- A write leaves directories where they are. -/
theorem leadsTo_of_write {content : FileContent} (h : before.LeadsTo directory place)
    (hwrite : before.write path content = .ok after) : after.LeadsTo directory place := by
  obtain ⟨written, -, rfl, hitem⟩ := item?_of_write hwrite
  exact (keepsDirectories_put (.file content) hitem).leadsTo h

/-- What is written to an entry of a directory lies at its place, and other places are as
before. -/
theorem item?_of_write_entry {content : FileContent} (h : before.LeadsTo directory place)
    (hfile : file ≠ "..") (hwrite : before.write (directory.entry file) content = .ok after)
    (other : Place) :
    after.item? other =
      if place ++ [file] = other then some (.file content) else before.item? other := by
  obtain ⟨written, hlocate, rfl, hitem⟩ := item?_of_write hwrite
  rw [locate_entry h hfile] at hlocate
  split at hlocate
  · cases hlocate
  · cases hlocate
    exact item?_put before (ne_nil_of_not_directory hitem) other _

/-- A write to an entry of a directory changes no other entry. -/
theorem find_entry_of_write {content : FileContent} {other : String}
    (h : before.LeadsTo directory place) (hfile : file ≠ "..") (hother : other ≠ "..")
    (hne : other ≠ file) (hwrite : before.write (directory.entry file) content = .ok after) :
    after.find (directory.entry other) = before.find (directory.entry other) := by
  apply find_entry_congr h (leadsTo_of_write h hwrite) hother
  rw [item?_of_write_entry h hfile hwrite, if_neg]
  intro hsame
  exact hne (List.singleton_inj.mp (List.append_cancel_left hsame)).symm

/-- What is written to an entry of a directory is found there. -/
theorem find_written_entry {content : FileContent} (h : before.LeadsTo directory place)
    (hfile : file ≠ "..") (hwrite : before.write (directory.entry file) content = .ok after) :
    after.find (directory.entry file) = .ok (place ++ [file], .file content) := by
  obtain ⟨written, hlocate, -, -⟩ := item?_of_write hwrite
  rw [locate_entry h hfile] at hlocate
  unfold find
  rw [locate_entry (leadsTo_of_write h hwrite) hfile]
  split at hlocate
  · cases hlocate
  · rename_i hshort
    rw [if_neg hshort]
    simp only [item?_of_write_entry h hfile hwrite, if_true]

/-! ## Directories that are not there -/

/-- A first part of the path leads to a directory, from there it goes down, and nothing lies
directly in the place that it goes to. -/
structure IsVacantBehind (tree : FileTree) (directory : Path) (front tail : List String)
    (place : Place) : Prop where
  parts : directory.parts = front ++ tail
  leadsTo : tree.LeadsTo { directory with parts := front } place
  downward : IsDownward tail
  item : ∀ file, tree.item? (place ++ (tail ++ [file])) = none

/-- Nothing lies directly in the place that a path goes to, at which there may be no directory
yet. -/
def IsVacant (tree : FileTree) (directory : Path) : Prop :=
  ∃ front tail place, tree.IsVacantBehind directory front tail place

/-- Directories that are made on the way leave the place vacant. -/
theorem IsVacant.makeDirectories (h : tree.IsVacant directory) :
    (tree.makeDirectories directory).2.IsVacant directory := by
  obtain ⟨front, tail, place, h⟩ := h
  have hgrows := grows_makeDirectories h.parts h.leadsTo
  refine ⟨front, tail, place, h.parts, hgrows.keepsDirectories.leadsTo h.leadsTo, h.downward, ?_⟩
  intro file
  rcases hgrows.item (place ++ (tail ++ [file])) with hsame | ⟨-, -, hdepth⟩
  · rw [hsame]
    exact h.item file
  · simp only [List.length_append, List.length_singleton] at hdepth
    omega

/-- What lies at a place below the root lies in a directory. -/
def IsRooted (tree : FileTree) : Prop :=
  ∀ place name item, tree.item? (place ++ [name]) = some item →
    tree.item? place = some .directory

theorem mem_items_of_itemIn {place : Place} {item : FileItem} {items : List (Place × FileItem)}
    (h : itemIn place items = some item) : (place, item) ∈ items := by
  induction items with
  | nil => cases h
  | cons entry rest ih =>
      rw [itemIn] at h
      split at h
      · rename_i hplace
        cases h
        exact hplace ▸ List.mem_cons_self
      · exact List.mem_cons_of_mem _ (ih h)

/-- A tree is rooted if the place above each of its items is a directory. -/
theorem isRooted_of_items
    (h : ∀ entry ∈ tree.items, tree.item? entry.1.dropLast = some .directory) : tree.IsRooted := by
  intro place name item hitem
  rw [item?, if_neg (by simp)] at hitem
  have hplace := h _ (mem_items_of_itemIn hitem)
  rwa [List.dropLast_concat] at hplace

namespace IsRooted

theorem item?_of_append (h : tree.IsRooted) {more : List String} (hmore : more ≠ [])
    {item : FileItem} (hitem : tree.item? (place ++ more) = some item) :
    tree.item? place = some .directory := by
  induction more using List.reverseRecOn generalizing item with
  | nil => exact absurd rfl hmore
  | append_singleton front name ih =>
      rw [← List.append_assoc] at hitem
      have hfront := h _ _ _ hitem
      cases front with
      | nil => rwa [List.append_nil] at hfront
      | cons first rest => exact ih (List.cons_ne_nil first rest) hfront

/-- A walk down leads to a directory that is there. -/
theorem follow_eq (h : tree.IsRooted) (hdown : IsDownward names)
    (hitem : tree.item? (place ++ names) = some .directory) :
    tree.follow place names = .ok (place ++ names) := by
  induction names generalizing place with
  | nil => rw [follow, List.append_nil]
  | cons name rest ih =>
      have hplace := h.item?_of_append (List.cons_ne_nil name rest) hitem
      rw [IsDownward, List.forall_mem_cons] at hdown
      have hstep : tree.step place name = .ok (place ++ [name]) :=
        step_eq_ok_iff.mpr ⟨hplace, Or.inr ⟨hdown.1.1, hdown.1.2, rfl⟩⟩
      rw [← List.singleton_append, ← List.append_assoc] at hitem ⊢
      exact follow_cons_eq_ok_iff.mpr ⟨_, hstep, ih hdown.2 hitem⟩

/-- A path that goes down behind a directory leads to a directory, or its place is vacant. -/
theorem leadsTo_or_isVacant (h : tree.IsRooted) {front tail : List String}
    (hparts : directory.parts = front ++ tail)
    (hfront : tree.LeadsTo { directory with parts := front } place) (hdown : IsDownward tail) :
    (∃ place, tree.LeadsTo directory place) ∨ tree.IsVacant directory := by
  by_cases hvacant : ∀ file, tree.item? (place ++ (tail ++ [file])) = none
  · exact Or.inr ⟨front, tail, place, hparts, hfront, hdown, hvacant⟩
  · push Not at hvacant
    obtain ⟨file, hfile⟩ := hvacant
    obtain ⟨item, hitem⟩ := Option.ne_none_iff_exists'.mp hfile
    rw [← List.append_assoc] at hitem
    have hplace := h _ _ _ hitem
    refine Or.inl ⟨place ++ tail, ?_, hplace⟩
    rw [hparts]
    exact (follow_behind hfront).trans (h.follow_eq hdown hplace)

end IsRooted

namespace IsVacant

/-- A walk to an entry of a vacant place goes on behind the directory that is there. -/
theorem follow_entry_eq {front tail : List String}
    (h : tree.IsVacantBehind directory front tail place) (file : String) :
    tree.follow (tree.base (directory.entry file)) (directory.entry file).parts =
      tree.follow place (tail ++ [file]) := by
  change tree.follow (tree.base directory) (directory.parts ++ [file]) = _
  rw [h.parts, List.append_assoc]
  exact follow_behind h.leadsTo

/-- No entry of a vacant place is found. -/
theorem find_ne_ok (h : tree.IsVacant directory) (hfile : file ≠ "..")
    (found : Place × FileItem) : tree.find (directory.entry file) ≠ .ok found := by
  obtain ⟨front, tail, place, h⟩ := h
  intro hfind
  unfold find at hfind
  cases hlocate : tree.locate (directory.entry file) with
  | error fault => rw [hlocate] at hfind; cases hfind
  | ok target =>
      have hdown : ∀ name ∈ tail ++ [file], name ≠ ".." := by
        intro name hname
        rcases List.mem_append.mp hname with hpart | hlast
        · exact (h.downward name hpart).1
        · rw [List.mem_singleton.mp hlast]
          exact hfile
      have hfollow := follow_of_locate hlocate
      rw [follow_entry_eq h] at hfollow
      have hnone : tree.item? target = none := by
        rw [eq_append_of_follow hdown hfollow]
        exact h.item file
      rw [hlocate] at hfind
      simp only [hnone] at hfind
      cases hfind

theorem holds_ne_true (h : tree.IsVacant directory) (hfile : file ≠ "..") :
    tree.holds (directory.entry file) ≠ .ok true := by
  unfold holds
  split
  · exact fun heq => by cases heq
  · split
    · rename_i found hfind
      exact absurd hfind (h.find_ne_ok hfile found)
    · exact fun heq => by cases heq
    · exact fun heq => by cases heq

/-- What the system answers about an entry of a vacant place does not depend on the tree. -/
theorem holds_eq (h : tree.IsVacant directory) (hfile : file ≠ "..")
    (hsize : Text.nameSize file ≤ maxNameSize) :
    tree.holds (directory.entry file) =
      if (unnamable? (directory.entry file)).isSome then .ok false
      else if maxPathSize < Text.nameSize (directory.entry file).text then
        .error (.system .nameTooLong (directory.entry file))
      else .ok false := by
  have hfound := h.find_ne_ok hfile
  obtain ⟨front, tail, place, h⟩ := h
  have hdown : IsDownward (tail ++ [file]) := by
    intro name hname
    rcases List.mem_append.mp hname with hpart | hlast
    · exact h.downward name hpart
    · rw [List.mem_singleton.mp hlast]
      exact ⟨hfile, hsize⟩
  unfold holds
  by_cases hname : (unnamable? (directory.entry file)).isSome = true
  · rw [if_pos hname, if_pos hname]
  rw [if_neg hname, if_neg hname]
  by_cases hlong : maxPathSize < Text.nameSize (directory.entry file).text
  · rw [if_pos hlong, find, locate_eq, if_pos hlong]
  rw [if_neg hlong]
  cases hfind : tree.find (directory.entry file) with
  | ok found => exact absurd hfind (hfound found)
  | error fault =>
      cases fault with
      | nameTooLong =>
          unfold find at hfind
          rw [locate_eq, if_neg hlong, follow_entry_eq h] at hfind
          cases hfollow : tree.follow place (tail ++ [file]) with
          | error fault =>
              rw [hfollow] at hfind
              cases hfind
              exact absurd hfollow (follow_ne_nameTooLong hdown)
          | ok target =>
              rw [hfollow] at hfind
              cases hitem : tree.item? target with
              | none => simp only [hitem] at hfind; cases hfind
              | some item => simp only [hitem] at hfind; cases hfind
      | _ => rfl

end IsVacant

/-- A first part of a path leads to a directory, and from there the path goes down. The
directories that are not there yet can be made. -/
def CanHold (tree : FileTree) (directory : Path) : Prop :=
  ∃ front tail, directory.parts = front ++ tail ∧
    tree.isDirectory { directory with parts := front } = true ∧ IsDownward tail

/-- A directory that is there or can be made is there, or its place is vacant. -/
theorem CanHold.leadsTo_or_isVacant (h : tree.CanHold directory) (htree : tree.IsRooted) :
    (∃ place, tree.LeadsTo directory place) ∨ tree.IsVacant directory := by
  obtain ⟨front, tail, hparts, hfront, hdown⟩ := h
  obtain ⟨place, hplace⟩ := leadsTo_of_isDirectory hfront
  exact htree.leadsTo_or_isVacant hparts hplace hdown

end FileTree

end DesignTokens
