import DesignTokens.Catalog.Basic
import DesignTokens.Proofs.FileTrees
import DesignTokens.Proofs.RestoredStores

/-!
# Catalogs that remember what the files hold

A catalog remembers the stores that it has found, and only its own writes change the files of
the project. A store that is written is no longer remembered, other files stay as they are, and
directories that are made hold no files yet. So whatever is remembered is what a new catalog
finds in the files as they are. Main statement: this holds after every run of calls, and a store
that has been written is found again.
-/

namespace DesignTokens

/-- A name that is that of one file in a directory. -/
def IsPlainName (name : String) : Prop := '/' ∉ name.toList

instance : DecidablePred IsPlainName := fun name =>
  inferInstanceAs (Decidable ('/' ∉ name.toList))

/-- The name under which a store is written. -/
def savedName (store : TokenStore) (name : Option String) : String :=
  match name with
  | some given => if given = "" then store.name else given
  | none => store.name

/-! ## Token files -/

theorem toList_tokenFileName (name : String) :
    (tokenFileName name).toList = name.toList ++ ".yaml".toList := by
  rw [tokenFileName, String.toList_append]

/-- A text is no shorter than its ending. -/
theorem ne_of_suffix_of_length {ending : List Char} {text other : String}
    (h : ending <:+ text.toList) (hlength : other.toList.length < ending.length) :
    text ≠ other := by
  rintro rfl
  exact absurd h.length_le (Nat.not_le.mpr hlength)

theorem isStep_of_suffix {ending : List Char} {text : String} (h : ending <:+ text.toList)
    (hlength : 1 < ending.length) : Path.isStep text = true := by
  rw [Path.isStep, Bool.and_eq_true, bne_iff_ne, bne_iff_ne]
  exact ⟨ne_of_suffix_of_length h (Nat.zero_lt_of_lt hlength), ne_of_suffix_of_length h hlength⟩

theorem suffix_tokenFileName (name : String) : ".yaml".toList <:+ (tokenFileName name).toList := by
  rw [toList_tokenFileName]
  exact List.suffix_append _ _

theorem tokenFileName_ne_up (name : String) : tokenFileName name ≠ ".." :=
  ne_of_suffix_of_length (suffix_tokenFileName name) (by decide)

theorem tokenFileName_inj {name other : String} (h : tokenFileName name = tokenFileName other) :
    name = other := by
  have hlist := congrArg String.toList h
  rw [toList_tokenFileName, toList_tokenFileName] at hlist
  exact String.toList_inj.mp (List.append_cancel_right hlist)

/-- A text without a slash is a path of one name, or of none. -/
theorem ofText_of_not_mem {text : String} (h : '/' ∉ text.toList) :
    Path.ofText text = ⟨.here, [text].filter Path.isStep⟩ := by
  unfold Path.ofText
  rw [Text.splitText, Text.splitAt_of_not_mem h, List.map_singleton, String.ofList_toList]
  split
  · rename_i hslash
    simp [hslash] at h
  · rename_i hslash
    simp [hslash] at h
  · rename_i hslash
    simp [hslash] at h
  · rfl

/-- A plain text that is a step is an entry of the directory. -/
theorem child_of_isPlainName {text : String} (h : IsPlainName text)
    (hstep : Path.isStep text = true) (directory : Path) :
    directory.child text = directory.entry text := by
  have hpath : Path.ofText text = ⟨.here, [text]⟩ := by
    rw [ofText_of_not_mem h, List.filter_cons_of_pos hstep, List.filter_nil]
  rw [Path.child, hpath, Path.join_here, Path.entry]

/-- The token file of a plain name is an entry of the directory. -/
theorem child_tokenFileName {name : String} (h : IsPlainName name) (directory : Path) :
    directory.child (tokenFileName name) = directory.entry (tokenFileName name) := by
  have hplain : IsPlainName (tokenFileName name) := by
    rw [IsPlainName, toList_tokenFileName, List.mem_append, not_or]
    exact ⟨h, by decide⟩
  exact child_of_isPlainName hplain
    (isStep_of_suffix (suffix_tokenFileName name) (by decide)) directory

namespace FileTree

variable {before after : FileTree} {path : Path}

theorem holds_congr (h : after.find path = before.find path) :
    after.holds path = before.holds path := by
  rw [holds, holds, h]

/-- A store is loaded from what is found at its path. -/
theorem loadStore_congr (h : after.find path = before.find path) :
    after.loadStore path = before.loadStore path := by
  have hread : after.read path = before.read path := by
    rw [read, read, h]
  unfold loadStore readRecord
  rw [hread]

theorem unnamable?_of_write {content : FileContent} (h : before.write path content = .ok after) :
    unnamable? path = none := by
  unfold write at h
  split at h
  · cases h
  · rename_i fault hname _
    exact hname
  · rename_i place hname _
    exact hname

/-- A restorable store is loaded from the document that it is written as. -/
theorem loadStore_of_written {store : TokenStore} {place : Place} (hstore : store.IsRestorable)
    (hname : unnamable? path = none)
    (hfind : after.find path = .ok (place, .file (.document store.toDatum))) :
    after.loadStore path = .ok store := by
  have hread : after.read path = .ok (.document store.toDatum) := by
    simp only [read, hname, hfind]
  have hdefault : withDefault "name" path.stem store.written = store.written := rfl
  unfold loadStore readRecord
  simp only [hread, FileContent.datum, TokenStore.toDatum_eq, hdefault,
    TokenStore.ofSource_written hstore]

end FileTree

namespace Catalog

variable {catalog : Catalog} {project : Option Path} {directory : Path}
  {files before after : FileTree} {name : String}

/-! ## What the files hold for a name -/

theorem projectStore_congr (hproject : catalog.project = some directory) (hname : IsPlainName name)
    (h : after.find (directory.entry (tokenFileName name)) =
      before.find (directory.entry (tokenFileName name))) :
    catalog.projectStore after name = catalog.projectStore before name := by
  unfold projectStore tryStore
  rw [hproject]
  simp only [child_tokenFileName hname, FileTree.holds_congr h, FileTree.loadStore_congr h]

/-- The outcome for a name is that of another tree if the project's file is. -/
theorem freshStore_congr (h : catalog.projectStore after name = catalog.projectStore before name) :
    catalog.freshStore after name = catalog.freshStore before name := by
  rw [freshStore, freshStore, h]

/-- What is found depends on the directory of the project only. -/
theorem freshStore_eq_of_project {other : Catalog} (h : other.project = catalog.project) :
    other.freshStore files name = catalog.freshStore files name := by
  rw [freshStore, freshStore, projectStore, projectStore, h]

theorem getStore_of_not_found (h : Entries.get? catalog.foundStores name = none) :
    (catalog.getStore files name).1 = (catalog.freshStore files name).1 := by
  unfold getStore
  rw [h]
  dsimp only
  split
  · rename_i hfresh
    exact hfresh.symm
  · rfl

/-- A store that is loaded from the project's file goes before the built-in one. -/
theorem freshStore_of_loadStore (hproject : catalog.project = some directory)
    (hname : IsPlainName name)
    (hholds : files.holds (directory.entry (tokenFileName name)) = .ok true) {store : TokenStore}
    (hload : files.loadStore (directory.entry (tokenFileName name)) = .ok store) :
    (catalog.freshStore files name).1 = .ok (some store) := by
  have hfound : catalog.projectStore files name = (.ok (some store), []) := by
    unfold projectStore tryStore
    rw [hproject]
    simp only [child_tokenFileName hname, hholds, hload]
  rw [freshStore, hfound]
  rfl

/-- Where the directory is vacant, the project has no file for the name. -/
theorem projectStore_of_isVacant (hproject : catalog.project = some directory)
    (hname : IsPlainName name) (h : files.IsVacant directory) :
    catalog.projectStore files name =
      match files.holds (directory.entry (tokenFileName name)) with
      | .error error => (.error (.path error), [])
      | .ok _ => (.ok none, []) := by
  unfold projectStore
  rw [hproject]
  simp only [child_tokenFileName hname]
  split
  · rename_i error herror
    rw [herror]
  · rename_i hholds
    exact absurd hholds (h.holds_ne_true (tokenFileName_ne_up name))
  · rename_i hholds
    rw [hholds]

/-- In a vacant directory only the built-in store is found, and it is found in every tree in
which the directory is vacant. -/
theorem freshStore_of_isVacant (hproject : catalog.project = some directory)
    (hname : IsPlainName name) (hbefore : before.IsVacant directory)
    (hafter : after.IsVacant directory) {store : TokenStore}
    (h : (catalog.freshStore before name).1 = .ok (some store)) :
    (catalog.freshStore after name).1 = .ok (some store) := by
  have hdefault : name = defaultStoreName := by
    by_contra hne
    unfold freshStore at h
    rw [projectStore_of_isVacant hproject hname hbefore] at h
    simp only [if_neg hne] at h
    split at h <;> cases h
  subst hdefault
  have hfile := tokenFileName_ne_up defaultStoreName
  have hsize : Text.nameSize (tokenFileName defaultStoreName) ≤ FileTree.maxNameSize := by
    decide +kernel
  have hsame : catalog.projectStore after defaultStoreName =
      catalog.projectStore before defaultStoreName := by
    rw [projectStore_of_isVacant hproject hname hbefore,
      projectStore_of_isVacant hproject hname hafter, hbefore.holds_eq hfile hsize,
      hafter.holds_eq hfile hsize]
  rwa [freshStore_congr hsame]

/-! ## Saving a store -/

/-- The catalog that no longer remembers the store of a name. -/
def without (catalog : Catalog) (name : String) : Catalog :=
  { catalog with foundStores := Entries.erase catalog.foundStores name }

theorem saveStore_of_none {store : TokenStore} {given : Option String}
    (h : catalog.project = none) :
    catalog.saveStore files store given = (.error .noProject, files, catalog) := by
  unfold saveStore
  simp only [h]

/-- Saving, once the directories have been made. -/
theorem saveStore_of_makeDirectories {middle : FileTree} {store : TokenStore}
    {name : Option String} (hproject : catalog.project = some directory)
    (hmade : files.makeDirectories directory = (.ok (), middle)) :
    catalog.saveStore files store name =
      match middle.write (directory.child (tokenFileName (savedName store name)))
          (.document (Yaml.reread store.toDatum)) with
      | .error error => (.error (.file error), middle, catalog)
      | .ok after =>
          (.ok (directory.child (tokenFileName (savedName store name))), after,
            catalog.without (savedName store name)) := by
  cases catalog
  cases hproject
  unfold saveStore
  dsimp only
  rewrite [hmade]
  dsimp only
  -- The sides agree whatever the write gives, which must not be evaluated.
  generalize middle.write = write
  rfl

/-- A store is written after the directories have been made, or only these are made. -/
theorem saveStore_cases (hproject : catalog.project = some directory) (files : FileTree)
    (store : TokenStore) (name : Option String) :
    (∃ error, catalog.saveStore files store name =
      (.error error, (files.makeDirectories directory).2, catalog)) ∨
    ∃ after, (files.makeDirectories directory).1 = .ok () ∧
      (files.makeDirectories directory).2.write
          (directory.child (tokenFileName (savedName store name)))
          (.document (Yaml.reread store.toDatum)) = .ok after ∧
      catalog.saveStore files store name =
        (.ok (directory.child (tokenFileName (savedName store name))), after,
          catalog.without (savedName store name)) := by
  cases hmade : files.makeDirectories directory with
  | mk result middle =>
      cases result with
      | error error =>
          refine Or.inl ⟨.file error, ?_⟩
          unfold saveStore
          rw [hproject]
          dsimp only
          rw [hmade]
      | ok done =>
          rw [saveStore_of_makeDirectories hproject hmade]
          cases middle.write (directory.child (tokenFileName (savedName store name)))
              (.document (Yaml.reread store.toDatum)) with
          | error error => exact Or.inl ⟨_, rfl⟩
          | ok after => exact Or.inr ⟨after, rfl, rfl, rfl⟩

/-! ## What is remembered is what is found -/

/-- Whatever is remembered is what the files hold for its name. The directory of the project
is there, or it is vacant. -/
structure IsCurrent (catalog : Catalog) (project : Option Path) (files : FileTree) : Prop where
  project_eq : catalog.project = project
  ready : ∀ directory ∈ project,
    (∃ place, files.LeadsTo directory place) ∨ files.IsVacant directory
  found : ∀ name store, Entries.get? catalog.foundStores name = some store →
    IsPlainName name ∧ (catalog.freshStore files name).1 = .ok (some store)

theorem isCurrent_getStore (h : catalog.IsCurrent project files) (hname : IsPlainName name) :
    (catalog.getStore files name).2.2.IsCurrent project files := by
  unfold getStore
  split
  · exact h
  · dsimp only
    split
    · rename_i store hfresh
      refine ⟨h.project_eq, h.ready, ?_⟩
      intro other held hfound
      rw [rememberStore, Entries.get?_put] at hfound
      split at hfound
      · rename_i hsame
        cases hfound
        subst hsame
        exact ⟨hname, hfresh⟩
      · exact h.found other held hfound
    · exact h

theorem isCurrent_forget (h : catalog.IsCurrent project files) :
    catalog.forget.IsCurrent project files where
  project_eq := h.project_eq
  ready := h.ready
  found name store hfound := by cases hfound

/-- Making the directories of the project changes nothing that is remembered. -/
theorem isCurrent_makeDirectories (h : catalog.IsCurrent project files)
    (hproject : project = some directory) :
    catalog.IsCurrent project (files.makeDirectories directory).2 := by
  rcases h.ready directory hproject with ⟨place, hplace⟩ | hvacant
  · rwa [FileTree.makeDirectories_of_leadsTo hplace]
  · have hafter := hvacant.makeDirectories
    refine ⟨h.project_eq, ?_, ?_⟩
    · intro other hother
      obtain rfl := Option.some.inj (hproject.symm.trans hother)
      exact Or.inr hafter
    · intro name store hfound
      obtain ⟨hname, hfresh⟩ := h.found name store hfound
      exact ⟨hname, freshStore_of_isVacant (h.project_eq.trans hproject) hname hvacant hafter hfresh⟩

/-- A write to the file of a name changes nothing that is remembered for other names. -/
theorem isCurrent_write (h : catalog.IsCurrent project before)
    (hproject : project = some directory) (hname : IsPlainName name) {place : Place}
    (hplace : before.LeadsTo directory place) {content : FileContent}
    (hwrite : before.write (directory.child (tokenFileName name)) content = .ok after) :
    (catalog.without name).IsCurrent project after := by
  rw [child_tokenFileName hname] at hwrite
  refine ⟨h.project_eq, ?_, ?_⟩
  · intro other hother
    obtain rfl := Option.some.inj (hproject.symm.trans hother)
    exact Or.inl ⟨place, FileTree.leadsTo_of_write hplace hwrite⟩
  · intro other store hfound
    rw [without, Entries.get?_erase] at hfound
    split at hfound
    · cases hfound
    rename_i hne
    obtain ⟨hother, hfresh⟩ := h.found other store hfound
    refine ⟨hother, ?_⟩
    have hfind := FileTree.find_entry_of_write hplace (tokenFileName_ne_up name)
      (tokenFileName_ne_up other) (fun hsame => hne (tokenFileName_inj hsame)) hwrite
    have hsame := projectStore_congr (h.project_eq.trans hproject) hother hfind
    change (catalog.freshStore after other).1 = .ok (some store)
    rw [freshStore_congr hsame]
    exact hfresh

/-- Saving a store keeps what is remembered current, whether it succeeds or fails. -/
theorem isCurrent_saveStore (h : catalog.IsCurrent project files) {store : TokenStore}
    {given : Option String} (hname : IsPlainName (savedName store given)) :
    (catalog.saveStore files store given).2.2.IsCurrent project
      (catalog.saveStore files store given).2.1 := by
  cases project with
  | none =>
      rw [saveStore_of_none h.project_eq]
      exact h
  | some directory =>
      have hmiddle := isCurrent_makeDirectories h rfl
      rcases saveStore_cases h.project_eq files store given with
        ⟨error, hsaved⟩ | ⟨after, hmade, hwrite, hsaved⟩
      · rw [hsaved]
        exact hmiddle
      · obtain ⟨place, hplace⟩ := FileTree.leadsTo_of_makeDirectories hmade
        rw [hsaved]
        exact isCurrent_write hmiddle rfl hname hplace hwrite

/-- Copying is saving the built-in store, or changes nothing. -/
theorem isCurrent_copyToProject (h : catalog.IsCurrent project files) :
    (catalog.copyToProject files name).2.2.IsCurrent project
      (catalog.copyToProject files name).2.1 := by
  unfold copyToProject
  split
  · exact h
  · split
    · exact h
    · rename_i hdefault
      rw [not_not] at hdefault
      subst hdefault
      split
      · exact h
      · exact h
      · exact isCurrent_saveStore h (by decide)

/-- A store from data that has been saved is found under its name, if what is written is read
as it was. -/
theorem getStore_of_saveStore {store : TokenStore} {given : Option String}
    (hstore : store.IsFromData)
    (hwritten : Yaml.reread store.toDatum = store.toDatum)
    (hname : IsPlainName (savedName store given)) {path : Path}
    (hsaved : (catalog.saveStore files store given).1 = .ok path) :
    ((catalog.saveStore files store given).2.2.getStore
      (catalog.saveStore files store given).2.1 (savedName store given)).1 =
      .ok (some store) := by
  cases hproject : catalog.project with
  | none =>
      rw [saveStore_of_none hproject] at hsaved
      cases hsaved
  | some directory =>
      rcases saveStore_cases hproject files store given with
        ⟨error, heq⟩ | ⟨after, hmade, hwrite, heq⟩
      · rw [heq] at hsaved
        cases hsaved
      rw [heq]
      have hgone : Entries.get? (catalog.without (savedName store given)).foundStores
          (savedName store given) = none := by
        rw [without, Entries.get?_erase, if_pos rfl]
      rw [getStore_of_not_found hgone]
      obtain ⟨place, hplace⟩ := FileTree.leadsTo_of_makeDirectories hmade
      rw [child_tokenFileName hname, hwritten] at hwrite
      have hnamable := FileTree.unnamable?_of_write hwrite
      have hfind := FileTree.find_written_entry hplace (tokenFileName_ne_up _) hwrite
      have hholds : after.holds (directory.entry (tokenFileName (savedName store given))) =
          .ok true := by
        rw [FileTree.holds, hnamable, hfind]
        rfl
      have hload := FileTree.loadStore_of_written hstore.isRestorable hnamable hfind
      have hkept : (catalog.without (savedName store given)).project = some directory := hproject
      exact freshStore_of_loadStore hkept hname hholds hload

end Catalog

/-! ## Runs of calls -/

/-- What a catalog may be asked for. -/
inductive CatalogCall where
  | getStore (name : String)
  | listStores
  | loadStore (path : Path)
  | saveStore (store : TokenStore) (name : Option String)
  | copyToProject (name : String)
  | forget

namespace CatalogCall

/-- The names that a call uses are plain. -/
def IsPlain : CatalogCall → Prop
  | getStore name => IsPlainName name
  | saveStore store name => IsPlainName (savedName store name)
  | copyToProject name => IsPlainName name
  | _ => True

instance : DecidablePred IsPlain
  | getStore name => inferInstanceAs (Decidable (IsPlainName name))
  | saveStore store name => inferInstanceAs (Decidable (IsPlainName (savedName store name)))
  | copyToProject name => inferInstanceAs (Decidable (IsPlainName name))
  | listStores => inferInstanceAs (Decidable True)
  | loadStore _ => inferInstanceAs (Decidable True)
  | forget => inferInstanceAs (Decidable True)

/-- What a catalog and the files are after a call. Listing the stores and loading a file by its
path change neither. -/
def serve (state : Catalog × FileTree) : CatalogCall → Catalog × FileTree
  | getStore name => ((state.1.getStore state.2 name).2.2, state.2)
  | listStores => state
  | loadStore _ => state
  | saveStore store name =>
      let saved := state.1.saveStore state.2 store name
      (saved.2.2, saved.2.1)
  | copyToProject name =>
      let copied := state.1.copyToProject state.2 name
      (copied.2.2, copied.2.1)
  | forget => (state.1.forget, state.2)

/-- What a catalog and the files are after some calls. -/
def serveAll (calls : List CatalogCall) (state : Catalog × FileTree) : Catalog × FileTree :=
  calls.foldl serve state

/-- A call keeps what is remembered current, whether it succeeds or fails. -/
theorem isCurrent_serve {project : Option Path} {state : Catalog × FileTree}
    (h : state.1.IsCurrent project state.2) {call : CatalogCall} (hcall : call.IsPlain) :
    (serve state call).1.IsCurrent project (serve state call).2 := by
  cases call with
  | getStore name => exact Catalog.isCurrent_getStore h hcall
  | listStores => exact h
  | loadStore path => exact h
  | saveStore store name => exact Catalog.isCurrent_saveStore h hcall
  | copyToProject name => exact Catalog.isCurrent_copyToProject h
  | forget => exact Catalog.isCurrent_forget h

/-- A run of calls keeps what is remembered current. -/
theorem isCurrent_serveAll {project : Option Path} {state : Catalog × FileTree}
    (h : state.1.IsCurrent project state.2) {calls : List CatalogCall}
    (hcalls : ∀ call ∈ calls, call.IsPlain) :
    (serveAll calls state).1.IsCurrent project (serveAll calls state).2 := by
  induction calls generalizing state with
  | nil => exact h
  | cons call rest ih =>
      rw [List.forall_mem_cons] at hcalls
      exact ih (isCurrent_serve h hcalls.1) hcalls.2

/-- After every run of calls, whatever is remembered for a name is what a new catalog finds for
it in the files as they are, and a store from data that is saved then is found under the name
that it was saved under, if what is written is read as it was. At the start nothing is
remembered, and the directory of the project is there or can be made. -/
theorem getStore_serveAll (project brands : Option Path) (files : FileTree)
    (hfiles : files.IsRooted) (hproject : ∀ directory ∈ project, files.CanHold directory)
    (calls : List CatalogCall) (hcalls : ∀ call ∈ calls, call.IsPlain) :
    let start : Catalog := { project, brands }
    let catalog := (serveAll calls (start, files)).1
    let after := (serveAll calls (start, files)).2
    (∀ name store, Entries.get? catalog.foundStores name = some store →
      (start.getStore after name).1 = .ok (some store)) ∧
    ∀ (store : TokenStore) (name : Option String) (path : Path), store.IsFromData →
      Yaml.reread store.toDatum = store.toDatum → IsPlainName (savedName store name) →
      (catalog.saveStore after store name).1 = .ok path →
        ((catalog.saveStore after store name).2.2.getStore
          (catalog.saveStore after store name).2.1 (savedName store name)).1 =
          .ok (some store) := by
  intro start catalog after
  have hstart : start.IsCurrent project files := by
    refine ⟨rfl, ?_, ?_⟩
    · intro directory hdirectory
      exact (hproject directory hdirectory).leadsTo_or_isVacant hfiles
    · intro name store hfound
      cases hfound
  have hcurrent : catalog.IsCurrent project after := isCurrent_serveAll hstart hcalls
  constructor
  · intro name store hfound
    obtain ⟨-, hfresh⟩ := hcurrent.found name store hfound
    have hnew : Entries.get? start.foundStores name = none := rfl
    have hsame : start.project = catalog.project := hcurrent.project_eq.symm
    rw [Catalog.getStore_of_not_found hnew, Catalog.freshStore_eq_of_project hsame]
    exact hfresh
  · intro store name path hstore hwritten hname hsaved
    exact Catalog.getStore_of_saveStore hstore hwritten hname hsaved

end CatalogCall

/-! ## A project that is made by its first copy -/

namespace Sample

/-- A working directory without a project. -/
def bareFiles : FileTree where
  items := [(["work"], .directory)]
  here := ["work"]

/-- The data of a store with a name of its own. -/
def noteEntries : List (Scalar × Datum) :=
  [(.text "name", .text "note"),
    (.text "semantic", .map [(.text "accent", .text "#0ea5e9")])]

/-- The store of these data. -/
def noteStore : TokenStore where
  name := "note"
  semantic := [("accent", .leaf (.plain "#0ea5e9"))]

/-- The built-in store is found, copied, and forgotten by the copy. Another store is saved under
a name that is not its own and found under it. -/
def noteCalls : List CatalogCall :=
  [.getStore "mond", .copyToProject "mond", .saveStore noteStore (some "acme"),
    .getStore "acme", .listStores]

/-- Where the stores of the project are to be. -/
def notePath : Path := ⟨.here, ["tokens"]⟩

/-- The catalog and the files after the calls. -/
def noteState : Catalog × FileTree :=
  CatalogCall.serveAll noteCalls ({ project := some notePath }, bareFiles)

theorem bareFiles_isRooted : bareFiles.IsRooted := by
  intro place name item h
  have hwork : ["work"] = place ++ [name] := by
    by_contra hne
    simp [FileTree.item?, FileTree.itemIn, bareFiles, hne] at h
  have hplace : place = [] := by
    have hlength := congrArg List.length hwork
    rw [List.length_append, List.length_singleton, List.length_singleton] at hlength
    exact List.eq_nil_of_length_eq_zero (by omega)
  rw [hplace]
  rfl

theorem noteStore_isFromData : noteStore.IsFromData := by
  have hraw : Datum.EntriesRaw noteEntries := by
    simp [noteEntries, Datum.EntriesRaw, Datum.IsRaw, Datum.text, Datum.sameKey_text]
  have hread : TokenStore.ofSource noteEntries = .ok noteStore :=
    eq_ok_of_toOption (by decide +kernel)
  exact .source hraw hread

end Sample

namespace CatalogCall

/-- The directory of the project is made by the copy, and the built-in store that was found
before is no longer remembered. The other store is remembered under the name that it was saved
under and is what a new catalog finds. Saved once more under its own name, it is found under
that one too. -/
theorem getStore_serveAll_note :
    Sample.bareFiles.IsRooted ∧ Sample.bareFiles.CanHold Sample.notePath ∧
      Sample.bareFiles.isDirectory Sample.notePath = false ∧
      (∀ call ∈ Sample.noteCalls, call.IsPlain) ∧
      Entries.keys Sample.noteState.1.foundStores = ["acme"] ∧
      (Catalog.getStore { project := some Sample.notePath } Sample.noteState.2 "acme").1 =
        .ok (some Sample.noteStore) ∧
      Sample.noteStore.IsFromData ∧
      Yaml.reread Sample.noteStore.toDatum = Sample.noteStore.toDatum ∧
      (Sample.noteState.1.saveStore Sample.noteState.2 Sample.noteStore none).1 =
        .ok ⟨.here, ["tokens", "note.yaml"]⟩ ∧
      ((Sample.noteState.1.saveStore Sample.noteState.2 Sample.noteStore none).2.2.getStore
        (Sample.noteState.1.saveStore Sample.noteState.2 Sample.noteStore none).2.1 "note").1 =
        .ok (some Sample.noteStore) := by
  have hpath : Sample.bareFiles.CanHold Sample.notePath :=
    ⟨[], ["tokens"], rfl, by decide +kernel, by decide +kernel⟩
  have hproject : ∀ directory ∈ some Sample.notePath, Sample.bareFiles.CanHold directory := by
    rintro directory hdirectory
    cases Option.mem_some_iff.mp hdirectory
    exact hpath
  have hcalls : ∀ call ∈ Sample.noteCalls, call.IsPlain := by decide +kernel
  have hfound : Entries.get? Sample.noteState.1.foundStores "acme" = some Sample.noteStore := by
    decide +kernel
  have hwritten : Yaml.reread Sample.noteStore.toDatum = Sample.noteStore.toDatum := rfl
  have hsaved : (Sample.noteState.1.saveStore Sample.noteState.2 Sample.noteStore none).1 =
      .ok ⟨.here, ["tokens", "note.yaml"]⟩ :=
    Sample.eq_ok_of_toOption (by decide +kernel)
  have hown : savedName Sample.noteStore none = "note" := rfl
  have hplain : IsPlainName (savedName Sample.noteStore none) := by decide
  obtain ⟨hcurrent, hread⟩ := getStore_serveAll (some Sample.notePath) none Sample.bareFiles
    Sample.bareFiles_isRooted hproject Sample.noteCalls hcalls
  have hstate : serveAll Sample.noteCalls ({ project := some Sample.notePath }, Sample.bareFiles) =
      Sample.noteState := rfl
  rw [hstate] at hcurrent hread
  have hagain := hread Sample.noteStore none _ Sample.noteStore_isFromData hwritten hplain hsaved
  rw [hown] at hagain
  exact ⟨Sample.bareFiles_isRooted, hpath, by decide +kernel, hcalls, by decide +kernel,
    hcurrent "acme" Sample.noteStore hfound, Sample.noteStore_isFromData, hwritten, hsaved,
    hagain⟩

end CatalogCall

end DesignTokens
