import DesignTokens.Proofs.CurrentCatalogs
import DesignTokens.Proofs.RefusedFiles
import DesignTokens.Proofs.SortedNames

/-!
# Listings and bad files

Files that are taken out of a tree change no walk through directories and nothing of the other
files, so a listing looks at the same files without them. Main statement: a listing of stores or
brand themes is complete exactly when every token file is read or refused. It then gives what the
files hold that are read and tells once of each other one, and it is the same without the refused
files.
-/

namespace DesignTokens

namespace FileTree

/-! ## Trees without some files -/

/-- The tree with nothing at some places. -/
def without (tree : FileTree) (gone : List Place) : FileTree :=
  { tree with items := tree.items.filter fun entry => entry.1 ∉ gone }

theorem itemIn_filter (gone : List Place) (place : Place) (items : List (Place × FileItem)) :
    itemIn place (items.filter fun entry => entry.1 ∉ gone) =
      if place ∈ gone then none else itemIn place items := by
  induction items with
  | nil => simp [itemIn]
  | cons entry rest ih =>
      by_cases hgone : entry.1 ∈ gone
      · rw [List.filter_cons_of_neg (by simpa using hgone), ih]
        by_cases hplace : entry.1 = place
        · rw [← hplace, if_pos hgone, if_pos hgone]
        · simp only [itemIn, if_neg hplace]
      · rw [List.filter_cons_of_pos (by simpa using hgone)]
        by_cases hplace : entry.1 = place
        · rw [← hplace, if_neg hgone]
          simp only [itemIn, if_pos]
        · simp only [itemIn, if_neg hplace, ih]

variable {tree : FileTree} {gone : List Place} {directory path : Path} {place : Place}

/-- Only files are taken out. -/
def AreFiles (tree : FileTree) (gone : List Place) : Prop :=
  ∀ place ∈ gone, ∃ content, tree.item? place = some (.file content)

theorem item?_without (h : tree.AreFiles gone) (place : Place) :
    (tree.without gone).item? place = if place ∈ gone then none else tree.item? place := by
  by_cases hroot : place = []
  · subst hroot
    rw [if_neg]
    · rfl
    · intro hgone
      obtain ⟨content, hcontent⟩ := h [] hgone
      cases hcontent
  · simp only [item?, if_neg hroot]
    exact itemIn_filter gone place tree.items

/-- The tree has the same directories. -/
theorem item?_without_eq_directory_iff (h : tree.AreFiles gone) {place : Place} :
    (tree.without gone).item? place = some .directory ↔ tree.item? place = some .directory := by
  rw [item?_without h]
  split
  · rename_i hgone
    obtain ⟨content, hcontent⟩ := h place hgone
    rw [hcontent]
    simp
  · rfl

theorem keepsDirectories_without (h : tree.AreFiles gone) :
    KeepsDirectories tree (tree.without gone) :=
  ⟨rfl, fun _ => (item?_without_eq_directory_iff h).mpr⟩

theorem follow_without_eq_ok_iff (h : tree.AreFiles gone) {names : List String} {target : Place} :
    (tree.without gone).follow place names = .ok target ↔ tree.follow place names = .ok target := by
  induction names generalizing place with
  | nil => rfl
  | cons name rest ih =>
      simp only [follow_cons_eq_ok_iff, step_eq_ok_iff, item?_without_eq_directory_iff h, ih]

theorem locate_without_eq_ok_iff (h : tree.AreFiles gone) {target : Place} :
    (tree.without gone).locate path = .ok target ↔ tree.locate path = .ok target := by
  rw [locate_eq, locate_eq]
  split
  · rfl
  · exact follow_without_eq_ok_iff h

/-- A path that leads to a directory leads there without the files too, and no other does. -/
theorem find_without_eq_directory_iff (h : tree.AreFiles gone) {target : Place} :
    (tree.without gone).find path = .ok (target, .directory) ↔
      tree.find path = .ok (target, .directory) := by
  rw [find_eq_ok_iff, find_eq_ok_iff, locate_without_eq_ok_iff h,
    item?_without_eq_directory_iff h]

/-! ## Token files without some files -/

/-- The name of what lies directly in a place, if the entry does. -/
def nameBelow? (place : Place) (entry : Place × FileItem) : Option String :=
  if entry.1 ≠ [] ∧ entry.1.dropLast = place then entry.1.getLast? else none

theorem nameBelow?_eq_some_iff {entry : Place × FileItem} {name : String} :
    nameBelow? place entry = some name ↔ entry.1 = place ++ [name] := by
  unfold nameBelow?
  constructor
  · intro h
    split at h
    · rename_i hbelow
      rw [← List.dropLast_append_getLast? name h, hbelow.2]
    · cases h
  · intro h
    rw [h, List.dropLast_concat, List.getLast?_concat, if_pos ⟨by simp, rfl⟩]

theorem namesIn_of_find (h : tree.find directory = .ok (place, .directory)) :
    tree.namesIn directory = sortNames (tree.items.filterMap (nameBelow? place)) := by
  unfold namesIn
  rw [h]
  rfl

theorem namesIn_of_not_find
    (h : ∀ place, tree.find directory ≠ .ok (place, .directory)) :
    tree.namesIn directory = [] := by
  unfold namesIn
  split
  · rename_i place hfind
    exact absurd hfind (h place)
  · rfl

theorem filterMap_nameBelow?_filter (items : List (Place × FileItem)) :
    (items.filter fun entry => entry.1 ∉ gone).filterMap (nameBelow? place) =
      (items.filterMap (nameBelow? place)).filter fun name => place ++ [name] ∉ gone := by
  induction items with
  | nil => rfl
  | cons entry rest ih =>
      cases hname : nameBelow? place entry with
      | none =>
          by_cases hgone : entry.1 ∈ gone
          · rw [List.filter_cons_of_neg (by simpa using hgone), ih, List.filterMap_cons, hname]
          · rw [List.filter_cons_of_pos (by simpa using hgone), List.filterMap_cons,
              List.filterMap_cons, hname, ih]
      | some name =>
          have hplace := nameBelow?_eq_some_iff.mp hname
          by_cases hgone : entry.1 ∈ gone
          · have hout : place ++ [name] ∈ gone := hplace ▸ hgone
            rw [List.filter_cons_of_neg (by simpa using hgone), ih, List.filterMap_cons, hname,
              List.filter_cons_of_neg (by simpa using hout)]
          · have hin : place ++ [name] ∉ gone := hplace ▸ hgone
            rw [List.filter_cons_of_pos (by simpa using hgone), List.filterMap_cons,
              List.filterMap_cons, hname, List.filter_cons_of_pos (by simpa using hin), ih]

end FileTree

theorem Path.name_entry (directory : Path) (file : String) :
    (directory.entry file).name = file := by
  simp [Path.name, Path.entry]

/-- The name is that of a token file. -/
def isTokenFileName (name : String) : Bool := (tokenFileName "").toList.isSuffixOf name.toList

theorem tokenFiles_eq (files : FileTree) (directory : Path) :
    tokenFiles files directory =
      ((files.namesIn directory).filter isTokenFileName).map directory.entry := rfl

theorem mem_tokenFiles_iff {files : FileTree} {directory path : Path} :
    path ∈ tokenFiles files directory ↔ ∃ name ∈ files.namesIn directory,
      isTokenFileName name = true ∧ directory.entry name = path := by
  simp only [tokenFiles_eq, List.mem_map, List.mem_filter, and_assoc]

/-- A token file does not lead up. -/
theorem ne_up_of_isTokenFileName {name : String} (h : isTokenFileName name = true) :
    name ≠ ".." := by
  rintro rfl
  revert h
  decide

/-- Without some files, the token files of a directory are the other ones. -/
theorem tokenFiles_without {files : FileTree} {gone : List Place} (h : files.AreFiles gone)
    {directory : Path} {place : Place} (hfind : files.find directory = .ok (place, .directory)) :
    tokenFiles (files.without gone) directory =
      (tokenFiles files directory).filter fun path => place ++ [path.name] ∉ gone := by
  have hnames : (files.without gone).namesIn directory =
      (files.namesIn directory).filter fun name => place ++ [name] ∉ gone := by
    rw [FileTree.namesIn_of_find hfind,
      FileTree.namesIn_of_find ((FileTree.find_without_eq_directory_iff h).mpr hfind),
      ← sortNames_filter, ← FileTree.filterMap_nameBelow?_filter]
    rfl
  rw [tokenFiles_eq, tokenFiles_eq, hnames, List.filter_map, List.filter_filter,
    List.filter_filter]
  congr 1
  apply List.filter_congr
  intro name _
  rw [Bool.and_comm, Function.comp_apply, Path.name_entry]

/-! ## Listings -/

namespace FileTree

/-- Some places are those of token files that are refused. -/
def AreRefused {α : Type} (files : FileTree) (load : Path → Except LoadError α)
    (paths : List Path) (gone : List Place) : Prop :=
  ∀ place ∈ gone, ∃ path ∈ paths, (∃ refusal, load path = .error (.refused refusal)) ∧
    ∃ content, files.find path = .ok (place, .file content)

theorem AreRefused.areFiles {α : Type} {files : FileTree} {load : Path → Except LoadError α}
    {paths : List Path} {gone : List Place} (h : files.AreRefused load paths gone) :
    files.AreFiles gone := by
  intro place hplace
  obtain ⟨path, -, -, content, hfind⟩ := h place hplace
  exact ⟨content, (find_eq_ok_iff.mp hfind).2⟩

theorem without_nil (files : FileTree) : files.without [] = files := by
  simp [without]

theorem leadsTo_of_find {files : FileTree} {directory : Path} {place : Place}
    (h : files.find directory = .ok (place, .directory)) : files.LeadsTo directory place := by
  obtain ⟨hlocate, hitem⟩ := find_eq_ok_iff.mp h
  exact ⟨follow_of_locate hlocate, hitem⟩

theorem loadBrand_congr {before after : FileTree} {path : Path}
    (h : after.find path = before.find path) : after.loadBrand path = before.loadBrand path := by
  have hread : after.read path = before.read path := by
    rw [read, read, h]
  unfold loadBrand readRecord
  rw [hread]

end FileTree

/-- The outcome of reading a path comes from what is found there. -/
def IsReading {α : Type} (load : FileTree → Path → Except LoadError α) : Prop :=
  ∀ before after path, after.find path = before.find path → load after path = load before path

section Listing

variable {α β : Type}

/-- A listing of the token files of a directory with what is told about those passed over. -/
def listing (directory : Option Path) (load : FileTree → Path → Except LoadError α)
    (start : String) (summary : List α → β) (files : FileTree) :
    Except LoadError β × List Notice :=
  match Catalog.reachable directory files with
  | .error error => (.error error, [])
  | .ok () =>
      let found := collect (attempt start (load files))
        ((directory.map (tokenFiles files)).getD [])
      (found.1.map summary, found.2)

/-- Bad files harm only themselves: the listing is complete exactly when every token file is read
or refused, it then gives what those hold that are read and tells once of each other one, and
without refused files it is the same. -/
structure IsContainedListing (directory : Option Path)
    (load : FileTree → Path → Except LoadError α) (start : String) (summary : List α → β)
    (list : FileTree → Except LoadError β × List Notice) (files : FileTree) (paths : List Path) :
    Prop where
  complete_iff : (∃ value, (list files).1 = .ok value) ↔
    Catalog.reachable directory files = .ok () ∧ ∀ path ∈ paths, IsContained (load files path)
  complete : ∀ value, (list files).1 = .ok value →
    value = summary (paths.filterMap fun path => (load files path).toOption) ∧
      (list files).2 = paths.filterMap (warning? start (load files))
  without : ∀ gone, files.AreRefused (load files) paths gone →
    (list (files.without gone)).1 = (list files).1

variable {directory : Option Path} {load : FileTree → Path → Except LoadError α}
  {start : String} {summary : List α → β} {files : FileTree} {gone : List Place}

/-- Refused files lie in the directory, which is there, or there are none. -/
theorem exists_find_of_areRefused
    (h : files.AreRefused (load files) ((directory.map (tokenFiles files)).getD []) gone) :
    gone = [] ∨ ∃ path place, directory = some path ∧
      files.find path = .ok (place, .directory) := by
  cases gone with
  | nil => exact Or.inl rfl
  | cons place rest =>
      obtain ⟨path, hpath, -⟩ := h place List.mem_cons_self
      cases directory with
      | none => cases hpath
      | some directory =>
          obtain ⟨name, hname, -⟩ := mem_tokenFiles_iff.mp hpath
          by_cases hfind : ∃ place, files.find directory = .ok (place, .directory)
          · obtain ⟨found, hfound⟩ := hfind
            exact Or.inr ⟨directory, found, rfl, hfound⟩
          · rw [FileTree.namesIn_of_not_find (fun place hplace => hfind ⟨place, hplace⟩)] at hname
            cases hname

/-- What is gathered in a directory is the same without refused files. -/
theorem collect_without (hload : IsReading load) {directory : Path} {place : Place}
    (hfind : files.find directory = .ok (place, .directory))
    (hgone : files.AreRefused (load files) (tokenFiles files directory) gone) :
    (collect (attempt start (load (files.without gone)))
        (tokenFiles (files.without gone) directory)).1 =
      (collect (attempt start (load files)) (tokenFiles files directory)).1 := by
  have hleads := FileTree.leadsTo_of_find hfind
  have hafter := (FileTree.keepsDirectories_without hgone.areFiles).leadsTo hleads
  rw [tokenFiles_without hgone.areFiles hfind]
  have hsame : ∀ path ∈ (tokenFiles files directory).filter fun path =>
      place ++ [path.name] ∉ gone, load (files.without gone) path = load files path := by
    intro path hpath
    obtain ⟨hmem, hkept⟩ := List.mem_filter.mp hpath
    obtain ⟨name, -, hsuffix, rfl⟩ := mem_tokenFiles_iff.mp hmem
    apply hload
    apply FileTree.find_entry_congr hleads hafter (ne_up_of_isTokenFileName hsuffix)
    rw [FileTree.item?_without hgone.areFiles, if_neg]
    simpa [Path.name_entry] using hkept
  rw [collect_attempt_congr hsame]
  apply collect_attempt_filter
  intro path hpath hkeep
  obtain ⟨name, -, hsuffix, rfl⟩ := mem_tokenFiles_iff.mp hpath
  have hout : place ++ [name] ∈ gone := by simpa [Path.name_entry] using hkeep
  -- A refused file at the place of an entry is that entry.
  obtain ⟨other, hother, hrefused, content, hcontent⟩ := hgone _ hout
  obtain ⟨last, -, hlast, rfl⟩ := mem_tokenFiles_iff.mp hother
  have hlocate := (FileTree.find_eq_ok_iff.mp hcontent).1
  rw [FileTree.locate_entry hleads (ne_up_of_isTokenFileName hlast)] at hlocate
  split at hlocate
  · cases hlocate
  · obtain rfl : last = name :=
      List.singleton_inj.mp (List.append_cancel_left (Except.ok.inj hlocate))
    exact hrefused

theorem reachable_without {directory : Path} {place : Place}
    (hfind : files.find directory = .ok (place, .directory)) (hgone : files.AreFiles gone) :
    Catalog.reachable (some directory) (files.without gone) =
      Catalog.reachable (some directory) files := by
  have hafter := (FileTree.find_without_eq_directory_iff hgone).mpr hfind
  simp only [Catalog.reachable, FileTree.holds, hfind, hafter]

/-- Every listing is contained that reads a path as what is found there. -/
theorem isContainedListing_listing (hload : IsReading load) (directory : Option Path)
    (start : String) (summary : List α → β) (files : FileTree) :
    IsContainedListing directory load start summary (listing directory load start summary) files
      ((directory.map (tokenFiles files)).getD []) where
  complete_iff := by
    unfold listing
    cases Catalog.reachable directory files with
    | error error => simp
    | ok done =>
        rw [← collect_attempt_eq_ok_iff start]
        simp only [true_and]
        cases (collect (attempt start (load files))
          ((directory.map (tokenFiles files)).getD [])).1 <;> simp [Except.map]
  complete := by
    intro value hvalue
    unfold listing at hvalue ⊢
    cases hreach : Catalog.reachable directory files with
    | error error =>
        rw [hreach] at hvalue
        cases hvalue
    | ok done =>
        rw [hreach] at hvalue
        dsimp only at hvalue ⊢
        have hall : ∀ path ∈ (directory.map (tokenFiles files)).getD [],
            IsContained (load files path) := by
          rw [← collect_attempt_eq_ok_iff start]
          cases hfound : (collect (attempt start (load files))
              ((directory.map (tokenFiles files)).getD [])).1 with
          | error error =>
              rw [hfound] at hvalue
              cases hvalue
          | ok values => exact ⟨values, rfl⟩
        rw [collect_attempt_of_isContained hall] at hvalue ⊢
        exact ⟨(Except.ok.inj hvalue).symm, rfl⟩
  without := by
    intro gone hgone
    rcases exists_find_of_areRefused hgone with rfl | ⟨path, place, rfl, hfind⟩
    · rw [FileTree.without_nil]
    · unfold listing
      rw [reachable_without hfind hgone.areFiles]
      cases Catalog.reachable (some path) files with
      | error error => rfl
      | ok done => exact congrArg (Except.map summary) (collect_without hload hfind hgone)

end Listing

namespace Catalog

/-- What a listing tells of stores: of the built-in one and the given ones, and of stores with one
name the last counts. -/
def summaries (stores : List TokenStore) : List StoreMetadata :=
  (Entries.ofList ((Builtin.store :: stores).map fun store =>
    (store.name, StoreMetadata.ofStore store))).map Prod.snd

theorem listStores_eq_listing (catalog : Catalog) :
    catalog.listStores =
      listing catalog.project FileTree.loadStore storeNotice summaries := by
  funext files
  unfold listStores listing
  rw [tryStore_eq_attempt]
  rfl

theorem listBrands_eq_listing (catalog : Catalog) :
    catalog.listBrands = listing catalog.brands FileTree.loadBrand brandNotice id := by
  funext files
  unfold listBrands listing
  rw [tryBrand_eq_attempt]
  cases reachable catalog.brands files with
  | error error => rfl
  | ok done =>
      change collect _ _ = (Except.map id (collect _ _).1, (collect _ _).2)
      rw [Except.map_id]
      rfl

/-- Reading a token file gives what it holds, a store with names that do not clash, or refuses it
exactly where the system can be asked about its path, its document has no fault but in its
grammar, and no field that is checked holds itself. A text that is not UTF-8 in its first two
portions is not refused. A listing of stores or brand themes is complete exactly when every token
file is read or refused; it then gives what those hold that are read, tells once of each refused
file, and is the same without refused files. -/
theorem listings_contained (catalog : Catalog) (files : FileTree) :
    (∀ path, (IsContained (files.loadStore path) ↔ files.IsReadable .store path) ∧
      (IsContained (files.loadBrand path) ↔ files.IsReadable .brand path) ∧
      ∀ store, files.loadStore path = .ok store → store.checkNames = .ok ()) ∧
    (∀ path bytes error, files.read path = .ok (.bytes bytes) →
      (Text.decode bytes).error = some error → error.before < 2 * Yaml.portionSize →
        files.loadStore path = .error (.value (.notUnicode error)) ∧
          files.loadBrand path = .error (.value (.notUnicode error))) ∧
    IsContainedListing catalog.project FileTree.loadStore storeNotice summaries
      catalog.listStores files (catalog.storeFiles files) ∧
    IsContainedListing catalog.brands FileTree.loadBrand brandNotice id
      catalog.listBrands files (catalog.brandFiles files) := by
  refine ⟨?_, ?_, ?_, ?_⟩
  · intro path
    exact ⟨FileTree.isContained_loadStore_iff, FileTree.isContained_loadBrand_iff,
      fun store => FileTree.checkNames_of_loadStore⟩
  · intro path bytes error hread herror hbefore
    exact FileTree.loads_of_not_utf8 hread herror hbefore
  · rw [listStores_eq_listing]
    exact isContainedListing_listing (fun _ _ _ => FileTree.loadStore_congr) _ _ _ _
  · rw [listBrands_eq_listing]
    exact isContainedListing_listing (fun _ _ _ => FileTree.loadBrand_congr) _ _ _ _

end Catalog

/-! ## A project with a file that is no text -/

namespace Sample

/-- A project with a store and a token file that holds a list. -/
def mixedFiles : FileTree where
  items := [(["work"], .directory), (["work", "tokens"], .directory),
    (["work", "tokens", "note.yaml"], .file (.document (.map noteEntries))),
    (["work", "tokens", "list.yaml"], .file (.document (.list [])))]
  here := ["work"]

/-- The file of the list. -/
def listPlace : Place := ["work", "tokens", "list.yaml"]

/-- The same project with a token file that is no text. -/
def bytesFiles : FileTree := mixedFiles.put ["work", "tokens", "odd.yaml"] (.file (.bytes [0xff]))

/-- The path of the file that is no text. -/
def bytesPath : Path := ⟨.here, ["tokens", "odd.yaml"]⟩

/-- The catalog of the project. -/
def noteCatalog : Catalog := { project := some notePath }

/-- What is wrong with the file that is no text. -/
def bytesError : Text.Utf8Error := ⟨0, [0xff], .invalidStart, 0⟩

/-- The path of the list. -/
def listPath : Path := notePath.entry "list.yaml"

theorem storeFiles_mixedFiles :
    noteCatalog.storeFiles mixedFiles = [listPath, notePath.entry "note.yaml"] := by
  have hfind : mixedFiles.find notePath = .ok (["work", "tokens"], .directory) := rfl
  have hsorted : sortNames ["note.yaml", "list.yaml"] = ["list.yaml", "note.yaml"] := by
    rw [sortNames_eq_of_perm (List.Perm.swap _ _ _)]
    apply sortNames_of_pairwise
    rw [List.pairwise_pair, ← nameLE_iff]
    decide +kernel
  have hnames : mixedFiles.namesIn notePath = ["list.yaml", "note.yaml"] :=
    (FileTree.namesIn_of_find hfind).trans hsorted
  change tokenFiles mixedFiles notePath = _
  rw [tokenFiles_eq, hnames]
  decide +kernel

theorem loadStore_listPath :
    mixedFiles.loadStore listPath = .error (.refused (.notMapping listPath)) := rfl

theorem loadStore_notePath :
    mixedFiles.loadStore (notePath.entry "note.yaml") = .ok noteStore :=
  eq_ok_of_toOption (by decide +kernel)

theorem mixedFiles_areRefused :
    mixedFiles.AreRefused mixedFiles.loadStore (noteCatalog.storeFiles mixedFiles)
      [listPlace] := by
  intro place hplace
  obtain rfl := List.mem_singleton.mp hplace
  refine ⟨listPath, ?_, ⟨_, loadStore_listPath⟩, _, rfl⟩
  rw [storeFiles_mixedFiles]
  exact List.mem_cons_self

end Sample

namespace Catalog

/-- The file of the list is passed over with a warning, and the listing is the same without it.
With the file that is no text there is no listing at all. -/
theorem listings_contained_bytes :
    Sample.mixedFiles.AreRefused Sample.mixedFiles.loadStore
        (Sample.noteCatalog.storeFiles Sample.mixedFiles) [Sample.listPlace] ∧
      (Sample.noteCatalog.listStores (Sample.mixedFiles.without [Sample.listPlace])).1 =
        (Sample.noteCatalog.listStores Sample.mixedFiles).1 ∧
      Sample.noteCatalog.listStores Sample.mixedFiles =
        (.ok (summaries [Sample.noteStore]),
          [⟨.warning, "Ignoring token store list.yaml: " ++
            "tokens/list.yaml: expected a mapping at the top level"⟩]) ∧
      (summaries [Sample.noteStore]).map (·.name) = ["mond", "note"] ∧
      Sample.bytesFiles.read Sample.bytesPath = .ok (.bytes [0xff]) ∧
      (Text.decode [0xff]).error = some Sample.bytesError ∧
      Sample.bytesError.before < 2 * Yaml.portionSize ∧
      Sample.bytesFiles.loadStore Sample.bytesPath =
        .error (.value (.notUnicode Sample.bytesError)) ∧
      Sample.bytesPath ∈ Sample.noteCatalog.storeFiles Sample.bytesFiles ∧
      ¬ ∃ entries, (Sample.noteCatalog.listStores Sample.bytesFiles).1 = .ok entries := by
  obtain ⟨-, -, hmixed, -⟩ := listings_contained Sample.noteCatalog Sample.mixedFiles
  obtain ⟨-, hbytes, hlisting, -⟩ := listings_contained Sample.noteCatalog Sample.bytesFiles
  have hread : Sample.bytesFiles.read Sample.bytesPath = .ok (.bytes [0xff]) := rfl
  have herror : (Text.decode [0xff]).error = some Sample.bytesError := by decide +kernel
  have hbefore : Sample.bytesError.before < 2 * Yaml.portionSize := by decide
  obtain ⟨hload, -⟩ := hbytes _ _ _ hread herror hbefore
  have hcontained : ∀ path ∈ Sample.noteCatalog.storeFiles Sample.mixedFiles,
      IsContained (Sample.mixedFiles.loadStore path) := by
    rw [Sample.storeFiles_mixedFiles, List.forall_mem_cons, List.forall_mem_singleton,
      Sample.loadStore_listPath, Sample.loadStore_notePath]
    exact ⟨isContained_refused _, isContained_ok _⟩
  have hmixedListing : Sample.noteCatalog.listStores Sample.mixedFiles =
      (.ok (summaries [Sample.noteStore]),
        [⟨.warning, "Ignoring token store list.yaml: " ++
          "tokens/list.yaml: expected a mapping at the top level"⟩]) := by
    obtain ⟨entries, hentries⟩ := hmixed.complete_iff.mpr ⟨rfl, hcontained⟩
    obtain ⟨rfl, hnotices⟩ := hmixed.complete entries hentries
    rw [Sample.storeFiles_mixedFiles] at hentries hnotices
    simp only [List.filterMap_cons, List.filterMap_nil, Sample.loadStore_listPath,
      Sample.loadStore_notePath, warning?, Except.toOption] at hentries hnotices
    refine Prod.ext hentries (hnotices.trans ?_)
    decide +kernel
  have hmem : Sample.bytesPath ∈ Sample.noteCatalog.storeFiles Sample.bytesFiles := by
    have hfind : Sample.bytesFiles.find Sample.notePath = .ok (["work", "tokens"], .directory) :=
      rfl
    refine mem_tokenFiles_iff.mpr ⟨"odd.yaml", ?_, by decide +kernel, rfl⟩
    rw [FileTree.namesIn_of_find hfind, sortNames, List.mem_mergeSort]
    decide +kernel
  refine ⟨Sample.mixedFiles_areRefused, hmixed.without _ Sample.mixedFiles_areRefused,
    hmixedListing, by decide +kernel, hread, herror, hbefore, hload, hmem, ?_⟩
  intro hcomplete
  obtain ⟨-, hall⟩ := hlisting.complete_iff.mp hcomplete
  obtain ⟨refusal, hrefused⟩ := hall _ hmem _ hload
  cases hrefused

end Catalog

end DesignTokens
