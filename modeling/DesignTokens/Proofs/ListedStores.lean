import DesignTokens.Proofs.ContainedListings
import DesignTokens.Proofs.OrderedEntries
import DesignTokens.Proofs.ServedCalls

/-!
# Stores that are listed and fetched

A listing names a store by what its file says, and of files with one name the last counts; a store
is fetched by the name of its file. Main statements: an entry of a listing is that of the last
store with its name, and it is fetched exactly when the file of that name holds a store of which
the listing tells the same, or when there is no such store and the entry is that of the built-in
one. So everything that is listed can be fetched where files are named after their stores, and
tools answer from what is fetched.
-/

namespace DesignTokens

/-! ## Lengths of paths -/

namespace Text

/-- Sizes that are added up one by one can be added to any size. -/
theorem foldl_add_eq (width : Char → Nat) (s : List Char) (size : Nat) :
    s.foldl (fun size c => size + width c) size =
      size + s.foldl (fun size c => size + width c) 0 := by
  induction s generalizing size with
  | nil => rfl
  | cons c rest ih =>
      rw [List.foldl_cons, List.foldl_cons, ih, ih (0 + width c), Nat.zero_add, Nat.add_assoc]

theorem nameSize_append (s t : String) : nameSize (s ++ t) = nameSize s + nameSize t := by
  unfold nameSize
  rw [String.toList_append, List.foldl_append]
  exact foldl_add_eq (fun c => if (surrogate? c).isSome then 1 else c.utf8Size) t.toList _

/-- One more name behind others makes a path longer, by that name at least. -/
theorem nameSize_intercalate_le (names : List String) (last : String) :
    nameSize ("/".intercalate names) ≤ nameSize ("/".intercalate (names ++ [last])) ∧
      nameSize last ≤ nameSize ("/".intercalate (names ++ [last])) := by
  induction names with
  | nil => exact ⟨Nat.zero_le _, Nat.le_refl _⟩
  | cons name rest ih =>
      cases rest with
      | nil =>
          rw [List.cons_append, List.nil_append, String.intercalate_cons_cons,
            String.intercalate_singleton, String.intercalate_singleton, nameSize_append,
            nameSize_append]
          omega
      | cons next others =>
          rw [List.cons_append] at ih
          rw [List.cons_append, List.cons_append, String.intercalate_cons_cons,
            String.intercalate_cons_cons, nameSize_append, nameSize_append, nameSize_append,
            nameSize_append]
          omega

end Text

/-- A path to an entry with a name is at least as long as that of its directory. -/
theorem Path.nameSize_text_le_entry (directory : Path) {file : String}
    (h : 0 < Text.nameSize file) :
    Text.nameSize directory.text ≤ Text.nameSize (directory.entry file).text := by
  obtain ⟨hparts, hfile⟩ := Text.nameSize_intercalate_le directory.parts file
  have hentry : (directory.entry file).text =
      directory.start.text ++ "/".intercalate (directory.parts ++ [file]) := by
    unfold Path.text Path.entry
    dsimp only
    rw [if_neg]
    intro hempty
    rw [beq_iff_eq] at hempty
    have hsize := congrArg Text.nameSize hempty
    rw [Text.nameSize_append] at hsize
    have hzero : Text.nameSize "" = 0 := rfl
    omega
  rw [hentry, Text.nameSize_append]
  unfold Path.text
  dsimp only
  split
  · have hdot : Text.nameSize "." = 1 := by decide
    omega
  · rw [Text.nameSize_append]
    omega

/-- The name of a token file ends like the name of a file without a name. -/
theorem exists_append_of_isTokenFileName {name : String} (h : isTokenFileName name = true) :
    ∃ front, name = front ++ ".yaml" := by
  obtain ⟨front, hfront⟩ := List.isSuffixOf_iff_suffix.mp h
  refine ⟨String.ofList front, String.toList_inj.mp ?_⟩
  rw [String.toList_append, String.toList_ofList]
  exact hfront.symm

theorem isTokenFileName_tokenFileName (name : String) :
    isTokenFileName (tokenFileName name) = true := by
  rw [isTokenFileName, List.isSuffixOf_iff_suffix, toList_tokenFileName, toList_tokenFileName]
  exact ⟨name.toList, rfl⟩

/-! ## Token files that are there -/

namespace FileTree

variable {files : FileTree} {directory : Path} {file : String}

theorem exists_find_of_holds {path : Path} (h : files.holds path = .ok true) :
    ∃ found, files.find path = .ok found := by
  unfold holds at h
  split at h
  · cases h
  · split at h
    · rename_i found hfound
      exact ⟨found, hfound⟩
    · cases h
    · cases h

/-- A token file that is there is one of those of its directory. -/
theorem entry_mem_tokenFiles (hname : isTokenFileName file = true)
    (h : files.holds (directory.entry file) = .ok true) :
    directory.entry file ∈ tokenFiles files directory := by
  obtain ⟨⟨target, item⟩, hfind⟩ := exists_find_of_holds h
  obtain ⟨hlocate, hitem⟩ := find_eq_ok_iff.mp hfind
  have hfollow := follow_of_locate hlocate
  rw [follow_entry] at hfollow
  cases hplace : files.follow (files.base directory) directory.parts with
  | error fault =>
      rw [hplace] at hfollow
      cases hfollow
  | ok place =>
      rw [hplace] at hfollow
      obtain ⟨hdirectory, ⟨hup, -⟩ | ⟨-, -, rfl⟩⟩ := step_eq_ok_iff.mp hfollow
      · exact absurd hup (ne_up_of_isTokenFileName hname)
      have hlength : ¬ maxPathSize < Text.nameSize directory.text := by
        obtain ⟨front, rfl⟩ := exists_append_of_isTokenFileName hname
        have hpositive : 0 < Text.nameSize (front ++ ".yaml") := by
          rw [Text.nameSize_append]
          have hsuffix : Text.nameSize ".yaml" = 5 := by decide
          omega
        have hentry := Path.nameSize_text_le_entry directory hpositive
        rw [locate_eq] at hlocate
        split at hlocate
        · cases hlocate
        · omega
      have hfound : files.find directory = .ok (place, .directory) := by
        refine find_eq_ok_iff.mpr ⟨?_, hdirectory⟩
        rw [locate_eq, if_neg hlength, hplace]
      refine mem_tokenFiles_iff.mpr ⟨file, ?_, hname, rfl⟩
      rw [namesIn_of_find hfound, sortNames, List.mem_mergeSort, List.mem_filterMap]
      refine ⟨(place ++ [file], item), mem_items_of_itemIn ?_, nameBelow?_eq_some_iff.mpr rfl⟩
      rwa [item?, if_neg (by simp)] at hitem

/-- What is read is what a file at the path holds. -/
theorem find_of_read {path : Path} {content : FileContent} (h : files.read path = .ok content) :
    unnamable? path = none ∧ ∃ place, files.find path = .ok (place, .file content) := by
  unfold read at h
  split at h
  · cases h
  · rename_i place found hname hfind
    cases h
    exact ⟨hname, place, hfind⟩
  · cases h
  · cases h

theorem holds_of_read {path : Path} {content : FileContent} (h : files.read path = .ok content) :
    files.holds path = .ok true := by
  obtain ⟨hname, place, hfind⟩ := find_of_read h
  unfold holds
  rw [hname, hfind]
  rfl

theorem exists_read_of_judge {R α : Type} {purpose : FilePurpose} {path : Path}
    {check : List (Scalar × Datum) → Except (List (Issue R)) α}
    {refusal : List (Issue R) → Refusal} {value : α}
    (h : judge (files.readRecord purpose path) check refusal = .ok value) :
    ∃ content, files.read path = .ok content := by
  cases hread : files.read path with
  | ok content => exact ⟨content, rfl⟩
  | error error =>
      unfold readRecord at h
      rw [hread] at h
      cases error <;> cases h

/-- A store is read from a file. -/
theorem exists_read_of_loadStore {path : Path} {store : TokenStore}
    (h : files.loadStore path = .ok store) : ∃ content, files.read path = .ok content := by
  rw [loadStore_eq_judge] at h
  exact exists_read_of_judge h

/-- A brand theme is read from a file. -/
theorem exists_read_of_loadBrand {path : Path} {brand : BrandTheme}
    (h : files.loadBrand path = .ok brand) : ∃ content, files.read path = .ok content := by
  rw [loadBrand_eq_judge] at h
  exact exists_read_of_judge h

theorem holds_of_loadStore {path : Path} {store : TokenStore}
    (h : files.loadStore path = .ok store) : files.holds path = .ok true := by
  obtain ⟨content, hread⟩ := exists_read_of_loadStore h
  exact holds_of_read hread

end FileTree

/-! ## What is listed -/

namespace Entries

variable {α : Type u}

/-- A name stands for what was written last. -/
theorem get?_putAll_eq (m more : Entries α) (name : String) :
    get? (putAll m more) name = (get? more.reverse name).or (get? m name) := by
  have happend (first second : Entries α) :
      get? (first ++ second) name = (get? first name).or (get? second name) := by
    induction first with
    | nil => rfl
    | cons entry rest ih =>
        by_cases hname : entry.1 = name
        · simp [get?, hname]
        · simp [get?, hname, ih]
  induction more generalizing m with
  | nil => rfl
  | cons entry rest ih =>
      rw [putAll_cons, ih, List.reverse_cons, happend, Option.or_assoc, get?_put]
      congr 1
      by_cases hname : entry.1 = name
      · simp [get?, hname]
      · simp [get?, hname]

end Entries

/-- The last store of a name. -/
def lastNamed (stores : List TokenStore) (name : String) : Option TokenStore :=
  stores.reverse.find? fun store => store.name = name

namespace Catalog

/-- A listing has the entry of the last store of each name. -/
theorem mem_summaries_iff {stores : List TokenStore} {entry : StoreMetadata} :
    entry ∈ summaries stores ↔
      (lastNamed (Builtin.store :: stores) entry.name).map StoreMetadata.ofStore = some entry := by
  have hget (stores : List TokenStore) (name : String) :
      Entries.get? (stores.map fun store => (store.name, StoreMetadata.ofStore store)) name =
        (stores.find? fun store => store.name = name).map StoreMetadata.ofStore := by
    induction stores with
    | nil => rfl
    | cons store rest ih =>
        by_cases hname : store.name = name
        · simp [Entries.get?, hname]
        · simp [Entries.get?, hname, ih]
  have hlast (name : String) :
      Entries.get? (Entries.ofList ((Builtin.store :: stores).map fun store =>
        (store.name, StoreMetadata.ofStore store))) name =
        (lastNamed (Builtin.store :: stores) name).map StoreMetadata.ofStore := by
    rw [Entries.ofList, Entries.get?_putAll_eq, ← List.map_reverse, hget, Entries.get?_nil,
      Option.or_none, lastNamed]
  rw [← hlast]
  unfold summaries
  constructor
  · intro hentry
    obtain ⟨⟨name, found⟩, hmem, rfl⟩ := List.mem_map.mp hentry
    have hfound := Entries.get?_of_mem (Entries.distinct_ofList _) hmem
    rw [hlast] at hfound
    obtain ⟨store, hstore, rfl⟩ := Option.map_eq_some_iff.mp hfound
    have hname : store.name = name := by simpa using List.find?_some hstore
    rw [hlast]
    change (lastNamed _ store.name).map _ = _
    rw [hname, hstore]
    rfl
  · intro hentry
    exact List.mem_map.mpr ⟨_, Entries.mem_of_get? hentry, rfl⟩

/-- The stores of the token files that are read, in the order of the files. -/
def readStores (catalog : Catalog) (files : FileTree) : List TokenStore :=
  (catalog.storeFiles files).filterMap fun path => (files.loadStore path).toOption

variable {catalog : Catalog} {files : FileTree} {directory : Path} {name : String}

/-- A listing is complete when the directory can be asked for and every token file is read or
refused, and it is then that of the stores that are read. -/
theorem listStores_eq_ok_iff {entries : List StoreMetadata} :
    (catalog.listStores files).1 = .ok entries ↔
      reachable catalog.project files = .ok () ∧
        (∀ path ∈ catalog.storeFiles files, IsContained (files.loadStore path)) ∧
          entries = summaries (catalog.readStores files) := by
  rw [listStores_eq_listing]
  have hload : IsReading FileTree.loadStore := fun _ _ _ => FileTree.loadStore_congr
  have hlisting :=
    isContainedListing_listing hload catalog.project storeNotice summaries files
  constructor
  · intro h
    obtain ⟨hreach, hcontained⟩ := hlisting.complete_iff.mp ⟨entries, h⟩
    exact ⟨hreach, hcontained, (hlisting.complete entries h).1⟩
  · rintro ⟨hreach, hcontained, rfl⟩
    obtain ⟨entries, hentries⟩ := hlisting.complete_iff.mpr ⟨hreach, hcontained⟩
    obtain ⟨rfl, -⟩ := hlisting.complete entries hentries
    exact hentries

/-! ## What is fetched -/

end Catalog

/-- No store is in the token file at a path: there is no file, or it is refused. -/
def FileTree.HoldsNoStore (files : FileTree) (path : Path) : Prop :=
  files.holds path = .ok false ∨
    files.holds path = .ok true ∧ ∃ refusal, files.loadStore path = .error (.refused refusal)

namespace Catalog

variable {catalog : Catalog} {files : FileTree} {directory : Path} {name : String}

theorem projectStore_eq (hproject : catalog.project = some directory) :
    catalog.projectStore files name =
      match files.holds (tokenPath directory name) with
      | .error error => (.error (.path error), [])
      | .ok true => tryStore files (tokenPath directory name)
      | .ok false => (.ok none, []) := by
  cases catalog
  cases hproject
  rfl

/-- A name gives the store of its file, or the built-in store if it is its name and no store is in
the file. -/
theorem freshStore_eq_ok_some_iff (hproject : catalog.project = some directory)
    {store : TokenStore} :
    (catalog.freshStore files name).1 = .ok (some store) ↔
      files.loadStore (tokenPath directory name) = .ok store ∨
        files.HoldsNoStore (tokenPath directory name) ∧ name = defaultStoreName ∧
          store = Builtin.store := by
  unfold freshStore FileTree.HoldsNoStore
  rw [projectStore_eq hproject]
  -- The built-in store must not be evaluated.
  generalize Builtin.store = builtin
  have hbuiltin : (if name = defaultStoreName then some builtin else none) = some store ↔
      name = defaultStoreName ∧ store = builtin := by
    by_cases hname : name = defaultStoreName <;> simp [hname, eq_comm]
  generalize tokenPath directory name = path
  by_cases hload : ∃ found, files.loadStore path = .ok found
  · obtain ⟨found, hload⟩ := hload
    simp [FileTree.holds_of_loadStore hload, tryStore, hload, Except.map]
  · have hnone : files.loadStore path ≠ .ok store := fun h => hload ⟨store, h⟩
    cases hholds : files.holds path with
    | error fault => simp [Except.map, hnone]
    | ok there =>
        cases there with
        | false => simpa [Except.map, hnone] using hbuiltin
        | true =>
            unfold tryStore
            cases herror : files.loadStore path with
            | ok found => exact absurd ⟨found, herror⟩ hload
            | error error =>
                cases error with
                | refused refusal => simpa [Except.map] using hbuiltin
                | _ => simp [Except.map]

/-- What is fetched from a catalog that remembers no store. -/
theorem getStore_eq_ok_some_iff (hfresh : catalog.foundStores = [])
    (hproject : catalog.project = some directory) {store : TokenStore} :
    (catalog.getStore files name).1 = .ok (some store) ↔
      files.loadStore (tokenPath directory name) = .ok store ∨
        files.HoldsNoStore (tokenPath directory name) ∧ name = defaultStoreName ∧
          store = Builtin.store := by
  have hnone : Entries.get? catalog.foundStores name = none := by
    rw [hfresh]
    rfl
  rw [getStore_of_not_found hnone, freshStore_eq_ok_some_iff hproject]

/-- Token files are named after the stores in them. -/
def AreNamedAfterStores (catalog : Catalog) (files : FileTree) : Prop :=
  ∀ path ∈ catalog.storeFiles files, ∀ store, files.loadStore path = .ok store →
    IsPlainName store.name ∧ path.name = tokenFileName store.name

theorem mem_readStores_iff {store : TokenStore} :
    store ∈ catalog.readStores files ↔
      ∃ path ∈ catalog.storeFiles files, files.loadStore path = .ok store := by
  have htoOption (outcome : Except LoadError TokenStore) :
      outcome.toOption = some store ↔ outcome = .ok store := by
    cases outcome <;> simp [Except.toOption]
  simp only [readStores, List.mem_filterMap, htoOption]

theorem storeFiles_eq (hproject : catalog.project = some directory) :
    catalog.storeFiles files = tokenFiles files directory := by
  unfold storeFiles
  rw [hproject]
  rfl

/-- A file that is named after its store is the one that the name of the store leads to. -/
theorem eq_tokenPath_of_mem (hproject : catalog.project = some directory)
    (hnamed : catalog.AreNamedAfterStores files) {path : Path} {store : TokenStore}
    (hpath : path ∈ catalog.storeFiles files) (hload : files.loadStore path = .ok store) :
    path = tokenPath directory store.name := by
  obtain ⟨hplain, hname⟩ := hnamed path hpath store hload
  rw [storeFiles_eq hproject] at hpath
  obtain ⟨file, -, -, rfl⟩ := mem_tokenFiles_iff.mp hpath
  rw [Path.name_entry] at hname
  rw [tokenPath, child_tokenFileName hplain, hname]

/-- Where files are named after their stores and a listing is complete, the file of the built-in
store's name holds a store of that name, or no store. -/
theorem holdsNoStore_of_areNamedAfterStores (hproject : catalog.project = some directory)
    (hcontained : ∀ path ∈ catalog.storeFiles files, IsContained (files.loadStore path))
    (hnamed : catalog.AreNamedAfterStores files)
    (hthere : ∃ there, files.holds (tokenPath directory defaultStoreName) = .ok there)
    (hnone : ∀ store ∈ catalog.readStores files, store.name ≠ defaultStoreName) :
    files.HoldsNoStore (tokenPath directory defaultStoreName) := by
  obtain ⟨there, hholds⟩ := hthere
  cases there with
  | false => exact Or.inl hholds
  | true =>
      have hentry : tokenPath directory defaultStoreName =
          directory.entry (tokenFileName defaultStoreName) := child_tokenFileName (by decide) _
      have hmem : tokenPath directory defaultStoreName ∈ catalog.storeFiles files := by
        rw [hentry] at hholds ⊢
        rw [storeFiles_eq hproject]
        exact FileTree.entry_mem_tokenFiles (isTokenFileName_tokenFileName _) hholds
      rcases isContained_iff.mp (hcontained _ hmem) with ⟨store, hstore⟩ | hrefused
      · obtain ⟨-, hname⟩ := hnamed _ hmem store hstore
        rw [hentry, Path.name_entry] at hname
        exact absurd (tokenFileName_inj hname).symm
          (hnone store (mem_readStores_iff.mpr ⟨_, hmem, hstore⟩))
      · exact Or.inr ⟨hholds, hrefused⟩

end Catalog

/-- The last store of a name is the first one only if no other one has the name. -/
theorem lastNamed_cons_eq_some_iff {first store : TokenStore} {stores : List TokenStore}
    {name : String} :
    lastNamed (first :: stores) name = some store ↔
      lastNamed stores name = some store ∨
        (∀ other ∈ stores, other.name ≠ name) ∧ first.name = name ∧ store = first := by
  have hnone : lastNamed stores name = none ↔ ∀ other ∈ stores, other.name ≠ name := by
    simp [lastNamed]
  have hcons : lastNamed (first :: stores) name =
      (lastNamed stores name).or (if first.name = name then some first else none) := by
    by_cases hname : first.name = name <;> simp [lastNamed, hname]
  rw [hcons, ← hnone]
  cases lastNamed stores name with
  | some last => simp
  | none => by_cases hname : first.name = name <;> simp [hname, eq_comm]

theorem mem_of_lastNamed {store : TokenStore} {stores : List TokenStore} {name : String}
    (h : lastNamed stores name = some store) : store ∈ stores ∧ store.name = name := by
  have hname : store.name = name := by simpa using List.find?_some h
  exact ⟨List.mem_reverse.mp (List.mem_of_find?_eq_some h), hname⟩

namespace Session

/-- What is fetched under the name of an entry is what the entry tells of. -/
def Fetches (session : Session) (entry : StoreMetadata) : Prop :=
  ∃ store, (session.catalog.getStore session.files entry.name).1 = .ok (some store) ∧
    StoreMetadata.ofStore store = entry

/-- The tools answer for a name from a store, with every brand theme that they find. -/
structure AnswersFrom (session : Session) (name : String) (store : TokenStore) : Prop where
  describe : ∀ time, (session.serve time (.describeStore name)).1 =
    .ok (.description (.ofStore store))
  listPaths : ∀ time above, (session.serve time (.listPaths name above)).1 =
    .ok (.paths ((store.pathsUnder above).map fun path =>
      (path, variableName (splitDotted path))))
  resolve : ∀ time path themeName brandName brand, (session.brand brandName).1 = .ok brand →
    (session.serve time (.resolve path themeName name brandName)).1 =
      resolveIn { store, brand } path themeName
  generate : ∀ time brandName brand, (session.brand brandName).1 = .ok brand →
    (session.serve time (.generateStylesheet name brandName)).1 =
      stylesheetOf { store, brand } time
  write : ∀ time brandName brand outputName css, (session.brand brandName).1 = .ok brand →
    StylesheetSource.generate { store, brand } time = .ok css →
    (session.serve time (.writeStylesheet name brandName outputName)).1 =
      (session.writeCss css outputName).1

variable {session : Session} {directory : Path} {name : String} {store : TokenStore}

theorem store_of_getStore
    (h : (session.catalog.getStore session.files name).1 = .ok (some store)) :
    session.store name = (.ok store,
      { session with catalog := (session.catalog.getStore session.files name).2.2 }) := by
  unfold Session.store
  generalize session.catalog.getStore session.files name = got at h ⊢
  obtain ⟨found, notices, catalog⟩ := got
  cases h
  rfl

/-- What is remembered of stores does not matter for brand themes. -/
theorem brand_congr {session other : Session} (hfiles : other.files = session.files)
    (hbrands : other.catalog.brands = session.catalog.brands)
    (hfound : other.catalog.foundBrands = session.catalog.foundBrands)
    (brandName : Option String) : (other.brand brandName).1 = (session.brand brandName).1 := by
  have hget (name : String) : (other.catalog.getBrand other.files name).1 =
      (session.catalog.getBrand session.files name).1 := by
    unfold Catalog.getBrand Catalog.freshBrand
    rw [hfiles, hbrands, hfound]
    split
    · rfl
    · split <;> rfl
  unfold brand
  cases brandName with
  | none => rfl
  | some name =>
      dsimp only
      split
      · rfl
      · specialize hget name
        generalize other.catalog.getBrand other.files name = got at hget ⊢
        generalize session.catalog.getBrand session.files name = own at hget ⊢
        obtain ⟨found, catalog⟩ := got
        obtain ⟨ownFound, ownCatalog⟩ := own
        cases hget
        cases found with
        | error error => rfl
        | ok brand => cases brand <;> rfl

/-- Fetching a store finds brand themes as before. -/
theorem getStore_brands (catalog : Catalog) (files : FileTree) (name : String) :
    (catalog.getStore files name).2.2.brands = catalog.brands ∧
      (catalog.getStore files name).2.2.foundBrands = catalog.foundBrands := by
  unfold Catalog.getStore
  split
  · exact ⟨rfl, rfl⟩
  · dsimp only
    split <;> exact ⟨rfl, rfl⟩

/-- The source of a call is the store of its name with the brand theme that is found. -/
theorem source_of_getStore
    (h : (session.catalog.getStore session.files name).1 = .ok (some store))
    {brandName : Option String} {brand : Option BrandTheme}
    (hbrand : (session.brand brandName).1 = .ok brand) :
    (session.source name brandName).1 = .ok { store, brand } := by
  obtain ⟨hbrands, hfound⟩ := getStore_brands session.catalog session.files name
  have hfiles :
      { session with catalog := (session.catalog.getStore session.files name).2.2 }.files =
        session.files := rfl
  have hsame := brand_congr hfiles hbrands hfound brandName
  unfold source
  rw [store_of_getStore h]
  dsimp only
  rw [hsame, hbrand]
  rfl

/-- Writing a stylesheet answers from the files and the folder of the output. -/
theorem writeCss_congr {other : Session} (h : IsAsked session other) (css outputName : String) :
    (other.writeCss css outputName).1 = (session.writeCss css outputName).1 := by
  unfold writeCss
  rw [h.output, h.files]
  cases session.files.makeDirectories session.output with
  | mk result files =>
      cases result with
      | error error => rfl
      | ok done =>
          dsimp only
          cases files.writeText (session.output.child (outputName ++ ".css")) css with
          | mk result after => cases result <;> rfl

/-- The tools answer for a name from the store that is fetched. -/
theorem answersFrom_of_getStore
    (h : (session.catalog.getStore session.files name).1 = .ok (some store)) :
    session.AnswersFrom name store where
  describe time := by
    simp only [serve]
    rw [store_of_getStore h]
    rfl
  listPaths time above := by
    simp only [serve]
    rw [store_of_getStore h]
    rfl
  resolve time path themeName brandName brand hbrand := by
    simp only [serve]
    rw [source_of_getStore h hbrand]
    rfl
  generate time brandName brand hbrand := by
    simp only [serve]
    rw [source_of_getStore h hbrand]
    rfl
  write time brandName brand outputName css hbrand hcss := by
    have hsource := source_of_getStore h hbrand
    have hasked := isAsked_source session name brandName
    simp only [serve]
    generalize session.source name brandName = got at hsource hasked ⊢
    obtain ⟨result, middle⟩ := got
    cases hsource
    dsimp only
    rw [hcss]
    exact writeCss_congr hasked css outputName

/-- A listing has one entry for each name, that of the last store with the name, the built-in one
being the first. An entry is fetched exactly when the token file of its name holds a store of
which the entry tells, or holds none and the entry is that of the built-in store; so all are
fetched where token files are named after their stores. The tools answer from what is fetched. -/
theorem fetches_iff_of_listed (session : Session) (directory : Path)
    (hfresh : session.catalog.foundStores = [])
    (hproject : session.catalog.project = some directory) (entries : List StoreMetadata)
    (hlisted : (session.catalog.listStores session.files).1 = .ok entries) :
    (∀ entry, entry ∈ entries ↔
      (lastNamed (Builtin.store :: session.catalog.readStores session.files) entry.name).map
        StoreMetadata.ofStore = some entry) ∧
    (∀ entry ∈ entries, session.Fetches entry ↔
      (∃ store, session.files.loadStore (tokenPath directory entry.name) = .ok store ∧
        StoreMetadata.ofStore store = entry) ∨
      session.files.HoldsNoStore (tokenPath directory entry.name) ∧
        entry = StoreMetadata.ofStore Builtin.store) ∧
    (session.catalog.AreNamedAfterStores session.files →
      (∃ there, session.files.holds (tokenPath directory defaultStoreName) = .ok there) →
        ∀ entry ∈ entries, session.Fetches entry) ∧
    ∀ name store, (session.catalog.getStore session.files name).1 = .ok (some store) →
      session.AnswersFrom name store := by
  obtain ⟨-, hcontained, rfl⟩ := Catalog.listStores_eq_ok_iff.mp hlisted
  have hfetches (entry : StoreMetadata) : session.Fetches entry ↔
      (∃ store, session.files.loadStore (tokenPath directory entry.name) = .ok store ∧
        StoreMetadata.ofStore store = entry) ∨
      session.files.HoldsNoStore (tokenPath directory entry.name) ∧
        entry = StoreMetadata.ofStore Builtin.store := by
    unfold Fetches
    simp only [Catalog.getStore_eq_ok_some_iff hfresh hproject]
    constructor
    · rintro ⟨store, hload | ⟨hnone, -, rfl⟩, rfl⟩
      · exact Or.inl ⟨store, hload, rfl⟩
      · exact Or.inr ⟨hnone, rfl⟩
    · rintro (⟨store, hload, hentry⟩ | ⟨hnone, rfl⟩)
      · exact ⟨store, Or.inl hload, hentry⟩
      · exact ⟨Builtin.store, Or.inr ⟨hnone, rfl, rfl⟩, rfl⟩
  refine ⟨fun entry => Catalog.mem_summaries_iff, fun entry _ => hfetches entry, ?_,
    fun name store => answersFrom_of_getStore⟩
  intro hnamed hthere entry hentry
  obtain ⟨store, hlast, rfl⟩ := Option.map_eq_some_iff.mp (Catalog.mem_summaries_iff.mp hentry)
  rw [hfetches]
  rcases lastNamed_cons_eq_some_iff.mp hlast with hread | ⟨hnone, -, rfl⟩
  · obtain ⟨path, hpath, hload⟩ := Catalog.mem_readStores_iff.mp (mem_of_lastNamed hread).1
    obtain rfl := Catalog.eq_tokenPath_of_mem hproject hnamed hpath hload
    exact Or.inl ⟨store, hload, rfl⟩
  · have hdefault := Catalog.holdsNoStore_of_areNamedAfterStores hproject hcontained hnamed hthere
      hnone
    exact Or.inr ⟨hdefault, rfl⟩

end Session

/-! ## A file that names its store like the built-in one -/

namespace Sample

/-- A project with a token file that is not named after its store. -/
def customFiles : FileTree where
  items := [(["work"], .directory), (["work", "tokens"], .directory),
    (["work", "tokens", "other.yaml"],
      .file (.document (.map
        [(.text "name", .text "mond"), (.text "description", .text "custom")])))]
  here := ["work"]

/-- The store of that file. -/
def customStore : TokenStore where
  name := "mond"
  description := "custom"

/-- The session of the project. -/
def customSession : Session := .start ⟨.here, []⟩ customFiles

/-- The session of a project in which the token file that is read is named after its store. -/
def mixedSession : Session := .start ⟨.here, []⟩ mixedFiles

theorem project_start (files : FileTree) :
    (Session.start ⟨.here, []⟩ files).catalog.project = some notePath := by
  have hpath : Path.child ⟨.here, []⟩ "tokens" = notePath := by decide +kernel
  exact congrArg some hpath

theorem storeFiles_customFiles :
    customSession.catalog.storeFiles customFiles = [notePath.entry "other.yaml"] := by
  have hfind : customFiles.find notePath = .ok (["work", "tokens"], .directory) := rfl
  have hnames : customFiles.namesIn notePath = ["other.yaml"] :=
    (FileTree.namesIn_of_find hfind).trans (sortNames_of_pairwise (List.pairwise_singleton _ _))
  refine (Catalog.storeFiles_eq (project_start customFiles)).trans ?_
  rw [tokenFiles_eq, hnames]
  decide +kernel

theorem loadStore_customPath :
    customFiles.loadStore (notePath.entry "other.yaml") = .ok customStore :=
  eq_ok_of_toOption (by decide +kernel)

theorem readStores_customFiles :
    customSession.catalog.readStores customFiles = [customStore] := by
  rw [Catalog.readStores, storeFiles_customFiles, List.filterMap_cons, loadStore_customPath]
  rfl

theorem listStores_customFiles :
    (customSession.catalog.listStores customFiles).1 = .ok (Catalog.summaries [customStore]) := by
  refine Catalog.listStores_eq_ok_iff.mpr ⟨rfl, ?_, by rw [readStores_customFiles]⟩
  rw [storeFiles_customFiles, List.forall_mem_singleton, loadStore_customPath]
  exact isContained_ok _

theorem storeFiles_mixedSession :
    mixedSession.catalog.storeFiles mixedFiles = [listPath, notePath.entry "note.yaml"] :=
  (Catalog.storeFiles_eq (project_start mixedFiles)).trans storeFiles_mixedFiles

theorem listStores_mixedSession :
    (mixedSession.catalog.listStores mixedFiles).1 = .ok (Catalog.summaries [noteStore]) := by
  refine Catalog.listStores_eq_ok_iff.mpr ⟨rfl, ?_, ?_⟩
  · rw [storeFiles_mixedSession, List.forall_mem_cons, List.forall_mem_singleton,
      loadStore_listPath, loadStore_notePath]
    exact ⟨isContained_refused _, isContained_ok _⟩
  · rw [Catalog.readStores, storeFiles_mixedSession, List.filterMap_cons, loadStore_listPath,
      List.filterMap_cons, loadStore_notePath]
    rfl

theorem areNamedAfterStores_mixedSession :
    mixedSession.catalog.AreNamedAfterStores mixedFiles := by
  intro path hpath store hload
  rw [storeFiles_mixedSession, List.mem_cons, List.mem_singleton] at hpath
  rcases hpath with rfl | rfl
  · rw [loadStore_listPath] at hload
    cases hload
  · rw [loadStore_notePath] at hload
    cases hload
    decide +kernel

end Sample

namespace Session

/-- The store of the file is listed in place of the built-in one, but it is not fetched: tools
answer for its name from the built-in store. Where the token file is named after its store, all
that is listed is fetched. -/
theorem fetches_iff_of_listed_custom :
    (Sample.customSession.catalog.listStores Sample.customSession.files).1 =
        .ok (Catalog.summaries [Sample.customStore]) ∧
      StoreMetadata.ofStore Sample.customStore ∈ Catalog.summaries [Sample.customStore] ∧
      ¬ Sample.customSession.Fetches (StoreMetadata.ofStore Sample.customStore) ∧
      Sample.customSession.AnswersFrom "mond" Builtin.store ∧
      (Sample.mixedSession.catalog.listStores Sample.mixedSession.files).1 =
        .ok (Catalog.summaries [Sample.noteStore]) ∧
      Sample.mixedSession.catalog.AreNamedAfterStores Sample.mixedSession.files ∧
      Sample.mixedSession.files.holds (tokenPath Sample.notePath defaultStoreName) = .ok false ∧
      ∀ entry ∈ Catalog.summaries [Sample.noteStore], Sample.mixedSession.Fetches entry := by
  obtain ⟨hmem, hfetches, -, hanswers⟩ := fetches_iff_of_listed Sample.customSession
    Sample.notePath rfl (Sample.project_start _) _ Sample.listStores_customFiles
  obtain ⟨-, -, hall, -⟩ := fetches_iff_of_listed Sample.mixedSession Sample.notePath rfl
    (Sample.project_start _) _ Sample.listStores_mixedSession
  have hlisted : StoreMetadata.ofStore Sample.customStore ∈
      Catalog.summaries [Sample.customStore] := by
    rw [hmem]
    have hread : Sample.customSession.catalog.readStores Sample.customSession.files =
        [Sample.customStore] := Sample.readStores_customFiles
    rw [hread]
    decide +kernel
  have hfree : Sample.customSession.files.HoldsNoStore
      (tokenPath Sample.notePath defaultStoreName) := Or.inl rfl
  have hnone : ∀ store,
      Sample.customSession.files.loadStore (tokenPath Sample.notePath defaultStoreName) ≠
        .ok store := by
    intro store hload
    have hholds := FileTree.holds_of_loadStore hload
    cases hholds
  refine ⟨Sample.listStores_customFiles, hlisted, ?_, ?_, Sample.listStores_mixedSession,
    Sample.areNamedAfterStores_mixedSession, rfl,
    hall Sample.areNamedAfterStores_mixedSession ⟨false, rfl⟩⟩
  · rw [hfetches _ hlisted]
    rintro (⟨store, hload, -⟩ | ⟨-, hsame⟩)
    · exact hnone store hload
    · exact absurd (congrArg StoreMetadata.description hsame) (by decide +kernel)
  · apply hanswers
    exact (Catalog.getStore_eq_ok_some_iff rfl (Sample.project_start _)).mpr
      (Or.inr ⟨hfree, rfl, rfl⟩)

end Session

end DesignTokens
