import DesignTokens.Proofs.AgreeingTrees
import DesignTokens.Proofs.KeptTokenFiles
import DesignTokens.Proofs.ListedStores

/-!
# Access that is confined

The names of a call lead to places: of token files in the folders of stores and brand themes, and
of a stylesheet in the output. Main statement: a run of calls only depends on what lies at the
places that its calls read, and only changes what lies at those that they write. Where the names
are plain, these places are inside the folders. Another name may lead out of its folder, and what
lies there is read or written all the same.
-/

namespace DesignTokens

/-- What is read lies where the names of the path lead. -/
theorem FileTree.item?_of_read {files : FileTree} {path : Path} {content : FileContent}
    (h : files.read path = .ok content) :
    files.item? (path.normalPlace files.here) = some (.file content) := by
  obtain ⟨-, place, hfind⟩ := FileTree.find_of_read h
  obtain ⟨hlocate, hitem⟩ := FileTree.find_eq_ok_iff.mp hfind
  rw [← FileTree.eq_normalPlace_of_locate hlocate]
  exact hitem

/-! ## The places of a call -/

/-- A place is inside a directory. -/
def IsInside (directory place : Place) : Prop :=
  ∃ names, names ≠ [] ∧ place = directory ++ names

/-- The folder of the stores of a project. -/
def storeFolder (root : Path) : Path := root.child "tokens"

/-- The folder of the brand themes of a project. -/
def brandFolder (root : Path) : Path := root.child "brands"

/-- The folder of the stylesheets of a project. -/
def outputFolder (root : Path) : Path := root.child "dist"

/-- A place is that of the token file of a store. -/
def IsStorePlace (root : Path) (here : Place) (name : String) (place : Place) : Prop :=
  place = (tokenPath (storeFolder root) name).normalPlace here

/-- A place is that of the token file of a brand theme, if there is one of the name. -/
def IsBrandPlace (root : Path) (here : Place) (name : Option String) (place : Place) : Prop :=
  ∃ given, name = some given ∧ given ≠ "" ∧
    place = (tokenPath (brandFolder root) given).normalPlace here

theorem isInside_entry (here : Place) (directory : Path) {file : String} (hfile : file ≠ "..") :
    IsInside (directory.normalPlace here) ((directory.entry file).normalPlace here) :=
  ⟨[file], List.cons_ne_nil _ _, Path.normalPlace_entry here directory hfile⟩

theorem isInside_tokenPath (here : Place) (directory : Path) {name : String}
    (h : IsPlainName name) :
    IsInside (directory.normalPlace here) ((tokenPath directory name).normalPlace here) := by
  rw [tokenPath, child_tokenFileName h]
  exact isInside_entry here directory (tokenFileName_ne_up name)

theorem isInside_stylesheetPath (here : Place) (directory : Path) {name : String}
    (h : IsPlainName name) :
    IsInside (directory.normalPlace here) ((stylesheetPath directory name).normalPlace here) := by
  have hsuffix : ".css".toList <:+ (name ++ ".css").toList := by
    rw [String.toList_append]
    exact List.suffix_append _ _
  have hplain : IsPlainName (name ++ ".css") := by
    rw [IsPlainName, String.toList_append, List.mem_append, not_or]
    exact ⟨h, by decide⟩
  rw [stylesheetPath, child_of_isPlainName hplain (isStep_of_suffix hsuffix (by decide))]
  exact isInside_entry here directory (ne_of_suffix_of_length hsuffix (by decide))

namespace ToolCall

/-- A call reads the file at a place. -/
def Reads (root : Path) (here : Place) : ToolCall → Place → Prop
  | listStores, place => ∃ name, isTokenFileName name = true ∧
      place = ((storeFolder root).entry name).normalPlace here
  | describeStore name, place => IsStorePlace root here name place
  | listPaths store _, place => IsStorePlace root here store place
  | resolve _ _ store brand, place =>
      IsStorePlace root here store place ∨ IsBrandPlace root here brand place
  | copyStore _, _ => False
  | generateStylesheet store brand, place =>
      IsStorePlace root here store place ∨ IsBrandPlace root here brand place
  | writeStylesheet store brand _, place =>
      IsStorePlace root here store place ∨ IsBrandPlace root here brand place

/-- A call writes the file at a place. -/
def Writes (root : Path) (here : Place) : ToolCall → Place → Prop
  | copyStore name, place => name = defaultStoreName ∧ IsStorePlace root here name place
  | writeStylesheet _ _ outputName, place =>
      place = (stylesheetPath (outputFolder root) outputName).normalPlace here
  | _, _ => False

/-- The names of a call are plain. -/
def IsPlain : ToolCall → Prop
  | listStores => True
  | describeStore name => IsPlainName name
  | listPaths store _ => IsPlainName store
  | resolve _ _ store brand => IsPlainName store ∧ ∀ name ∈ brand, IsPlainName name
  | copyStore name => IsPlainName name
  | generateStylesheet store brand => IsPlainName store ∧ ∀ name ∈ brand, IsPlainName name
  | writeStylesheet store brand outputName =>
      IsPlainName store ∧ (∀ name ∈ brand, IsPlainName name) ∧ IsPlainName outputName

variable {root : Path} {here place : Place} {call : ToolCall}

/-- What a call with plain names reads is inside the folders of the stores and brand themes. -/
theorem isInside_of_reads (hplain : call.IsPlain) (h : call.Reads root here place) :
    IsInside ((storeFolder root).normalPlace here) place ∨
      IsInside ((brandFolder root).normalPlace here) place := by
  have hstore {name : String} (hname : IsPlainName name) (h : IsStorePlace root here name place) :
      IsInside ((storeFolder root).normalPlace here) place :=
    h ▸ isInside_tokenPath here (storeFolder root) hname
  have hboth {name : String} {brand : Option String}
      (hnames : IsPlainName name ∧ ∀ given ∈ brand, IsPlainName given)
      (h : IsStorePlace root here name place ∨ IsBrandPlace root here brand place) :
      IsInside ((storeFolder root).normalPlace here) place ∨
        IsInside ((brandFolder root).normalPlace here) place := by
    rcases h with h | ⟨given, rfl, -, rfl⟩
    · exact Or.inl (hstore hnames.1 h)
    · exact Or.inr (isInside_tokenPath here (brandFolder root) (hnames.2 given rfl))
  cases call with
  | listStores =>
      obtain ⟨name, hname, rfl⟩ := h
      exact Or.inl (isInside_entry here _ (ne_up_of_isTokenFileName hname))
  | describeStore name => exact Or.inl (hstore hplain h)
  | listPaths store above => exact Or.inl (hstore hplain h)
  | resolve path themeName store brand => exact hboth hplain h
  | copyStore name => exact h.elim
  | generateStylesheet store brand => exact hboth hplain h
  | writeStylesheet store brand outputName => exact hboth ⟨hplain.1, hplain.2.1⟩ h

/-- What a call with plain names writes is inside the folders of the stores and stylesheets. -/
theorem isInside_of_writes (hplain : call.IsPlain) (h : call.Writes root here place) :
    IsInside ((storeFolder root).normalPlace here) place ∨
      IsInside ((outputFolder root).normalPlace here) place := by
  cases call with
  | copyStore name =>
      obtain ⟨-, rfl⟩ := h
      exact Or.inl (isInside_tokenPath here _ hplain)
  | writeStylesheet store brand outputName =>
      exact Or.inr (h ▸ isInside_stylesheetPath here _ hplain.2.2)
  | _ => exact h.elim

end ToolCall

/-- The trees agree, and the catalogs are the same. -/
def CatalogsAgree (seen : Place → Prop) (first second : FileTree × Catalog) : Prop :=
  FileTree.AgreeAt seen first.1 second.1 ∧ second.2 = first.2

namespace FileTree.AgreeAt

variable {seen : Place → Prop} {first second : FileTree}

/-- A store is saved in both trees or in none. -/
theorem saveStore (h : AgreeAt seen first second) (catalog : Catalog) (store : TokenStore)
    (name : Option String) :
    Alike (CatalogsAgree seen) (catalog.saveStore first store name)
      (catalog.saveStore second store name) := by
  unfold Catalog.saveStore
  cases catalog.project with
  | none => exact .mk _ ⟨h, rfl⟩
  | some directory =>
      have hmade := h.makeDirectories directory
      dsimp only
      generalize first.makeDirectories directory = one at hmade ⊢
      generalize second.makeDirectories directory = other at hmade ⊢
      obtain ⟨result, hmiddle⟩ := hmade
      cases result with
      | error error => exact .mk _ ⟨hmiddle, rfl⟩
      | ok done =>
          dsimp only
          generalize FileContent.document (Yaml.reread store.toDatum) = content
          generalize directory.child _ = path
          rcases hmiddle.write_cases path content with
            ⟨error, hfirst, hsecond⟩ | ⟨place, hfirst, hsecond⟩
          · rw [hfirst, hsecond]
            exact .mk _ ⟨hmiddle, rfl⟩
          · rw [hfirst, hsecond]
            exact .mk _ ⟨hmiddle.put place _, rfl⟩

/-- The built-in store is copied in both trees or in none. -/
theorem copyToProject (h : AgreeAt seen first second) (catalog : Catalog) (name : String) :
    Alike (CatalogsAgree seen) (catalog.copyToProject first name)
      (catalog.copyToProject second name) := by
  unfold Catalog.copyToProject
  cases catalog.project with
  | none => exact .mk _ ⟨h, rfl⟩
  | some directory =>
      dsimp only
      split
      · exact .mk _ ⟨h, rfl⟩
      · rw [h.holds_eq]
        cases first.holds (directory.child (tokenFileName name)) with
        | error error => exact .mk _ ⟨h, rfl⟩
        | ok there =>
            cases there with
            | true => exact .mk _ ⟨h, rfl⟩
            | false =>
                exact (h.saveStore catalog Builtin.store (some name)).map (Except.map some)

end FileTree.AgreeAt

/-! ## Calls on trees that agree -/

namespace Session

variable {root : Path} {here place : Place} {seen : Place → Prop} {first second : Session}
  {time : Moment} {call : ToolCall}

/-- A session has the folders of a project. -/
structure IsAt (root : Path) (here : Place) (session : Session) : Prop where
  project : session.catalog.project = some (storeFolder root)
  brands : session.catalog.brands = some (brandFolder root)
  output : session.output = outputFolder root
  here : session.files.here = here

theorem isAt_start (root : Path) (files : FileTree) : (start root files).IsAt root files.here :=
  ⟨rfl, rfl, rfl, rfl⟩

theorem IsAt.of_isAsked {session after : Session} (h : session.IsAt root here)
    (hasked : IsAsked session after) : after.IsAt root here where
  project := hasked.project.trans h.project
  brands := hasked.brands.trans h.brands
  output := hasked.output.trans h.output
  here := (congrArg FileTree.here hasked.files).trans h.here

/-- Two sessions remember the same, and their trees agree. -/
structure AgreeAt (seen : Place → Prop) (first second : Session) : Prop where
  catalog : second.catalog = first.catalog
  output : second.output = first.output
  files : FileTree.AgreeAt seen first.files second.files

namespace AgreeAt

/-- The same store is fetched. -/
theorem getStore_eq (h : AgreeAt seen first second) (hat : first.IsAt root here) {name : String}
    (hseen : ∀ place, IsStorePlace root here name place → seen place) :
    second.catalog.getStore second.files name = first.catalog.getStore first.files name := by
  have hload : second.files.loadStore (tokenPath (storeFolder root) name) =
      first.files.loadStore (tokenPath (storeFolder root) name) := by
    apply h.files.loadStore_eq
    rw [hat.here]
    exact hseen _ rfl
  have hproject : first.catalog.projectStore second.files name =
      first.catalog.projectStore first.files name := by
    rw [Catalog.projectStore_eq hat.project, Catalog.projectStore_eq hat.project,
      h.files.holds_eq]
    unfold tryStore
    rw [hload]
  unfold Catalog.getStore Catalog.freshStore
  rw [h.catalog, hproject]

/-- The same brand theme is fetched. -/
theorem getBrand_eq (h : AgreeAt seen first second) (hat : first.IsAt root here) {name : String}
    (hname : name ≠ "")
    (hseen : ∀ place, IsBrandPlace root here (some name) place → seen place) :
    second.catalog.getBrand second.files name = first.catalog.getBrand first.files name := by
  have hload : second.files.loadBrand (tokenPath (brandFolder root) name) =
      first.files.loadBrand (tokenPath (brandFolder root) name) := by
    apply h.files.loadBrand_eq
    rw [hat.here]
    exact hseen _ ⟨name, rfl, hname, rfl⟩
  have hholds := h.files.holds_eq (tokenPath (brandFolder root) name)
  have hfresh : first.catalog.freshBrand second.files name =
      first.catalog.freshBrand first.files name := by
    unfold Catalog.freshBrand
    rw [hat.brands]
    unfold tokenPath at hholds hload
    dsimp only
    rw [hholds, hload]
  unfold Catalog.getBrand
  rw [h.catalog, hfresh]

theorem store (h : AgreeAt seen first second) (hat : first.IsAt root here) {name : String}
    (hseen : ∀ place, IsStorePlace root here name place → seen place) :
    Alike (AgreeAt seen) (first.store name) (second.store name) := by
  unfold Session.store
  rw [h.getStore_eq hat hseen]
  generalize first.catalog.getStore first.files name = got
  obtain ⟨found, notices, catalog⟩ := got
  have hagree : AgreeAt seen { first with catalog } { second with catalog } :=
    ⟨rfl, h.output, h.files⟩
  cases found with
  | error error => exact .mk _ hagree
  | ok store => cases store <;> exact .mk _ hagree

theorem brand (h : AgreeAt seen first second) (hat : first.IsAt root here) {name : Option String}
    (hseen : ∀ place, IsBrandPlace root here name place → seen place) :
    Alike (AgreeAt seen) (first.brand name) (second.brand name) := by
  unfold Session.brand
  cases name with
  | none => exact .mk _ h
  | some name =>
      dsimp only
      split
      · exact .mk _ h
      · rename_i hname
        rw [h.getBrand_eq hat hname hseen]
        generalize first.catalog.getBrand first.files name = got
        obtain ⟨found, catalog⟩ := got
        have hagree : AgreeAt seen { first with catalog } { second with catalog } :=
          ⟨rfl, h.output, h.files⟩
        cases found with
        | error error => exact .mk _ hagree
        | ok brand => cases brand <;> exact .mk _ hagree

theorem source (h : AgreeAt seen first second) (hat : first.IsAt root here) {storeName : String}
    {brandName : Option String}
    (hseen : ∀ place, IsStorePlace root here storeName place ∨
      IsBrandPlace root here brandName place → seen place) :
    Alike (AgreeAt seen) (first.source storeName brandName)
      (second.source storeName brandName) := by
  have hstore := h.store hat fun place hplace => hseen place (Or.inl hplace)
  have hasked := isAsked_store first storeName
  unfold Session.source
  generalize first.store storeName = one at hstore hasked ⊢
  generalize second.store storeName = other at hstore ⊢
  obtain ⟨result, hmiddle⟩ := hstore
  cases result with
  | error error => exact .mk _ hmiddle
  | ok store =>
      have hbrand := hmiddle.brand (hat.of_isAsked hasked)
        fun place hplace => hseen place (Or.inr hplace)
      exact hbrand.map (Except.map fun brand => ({ store, brand } : StylesheetSource))

/-- A stylesheet is written to both trees or to none. -/
theorem writeCss (h : AgreeAt seen first second) (css outputName : String) :
    Alike (AgreeAt seen) (first.writeCss css outputName) (second.writeCss css outputName) := by
  have hmade := h.files.makeDirectories first.output
  unfold Session.writeCss
  rw [h.output]
  generalize first.files.makeDirectories first.output = one at hmade ⊢
  generalize second.files.makeDirectories first.output = other at hmade ⊢
  obtain ⟨result, hmiddle⟩ := hmade
  cases result with
  | error error => exact .mk _ ⟨h.catalog, rfl, hmiddle⟩
  | ok done =>
      have hwritten := hmiddle.writeText (first.output.child (outputName ++ ".css")) css
      dsimp only
      generalize FileTree.writeText _ (first.output.child (outputName ++ ".css")) css = one
        at hwritten ⊢
      generalize FileTree.writeText _ (first.output.child (outputName ++ ".css")) css = other
        at hwritten ⊢
      obtain ⟨result, hlast⟩ := hwritten
      cases result with
      | error error => exact .mk _ ⟨h.catalog, rfl, hlast⟩
      | ok done => exact .mk _ ⟨h.catalog, rfl, hlast⟩

/-- The same stores are listed. -/
theorem listStores_eq (h : AgreeAt seen first second) (hat : first.IsAt root here)
    (hseen : ∀ place, ToolCall.listStores.Reads root here place → seen place) :
    second.catalog.listStores second.files = first.catalog.listStores first.files := by
  have hreach : Catalog.reachable (some (storeFolder root)) second.files =
      Catalog.reachable (some (storeFolder root)) first.files := by
    unfold Catalog.reachable
    dsimp only
    rw [h.files.holds_eq]
  rw [h.catalog, Catalog.listStores_eq_listing, hat.project]
  unfold listing
  rw [hreach]
  dsimp only [Option.map_some, Option.getD_some]
  rw [h.files.tokenFiles_eq]
  have hload : ∀ path ∈ tokenFiles first.files (storeFolder root),
      second.files.loadStore path = first.files.loadStore path := by
    intro path hpath
    obtain ⟨name, -, hname, rfl⟩ := mem_tokenFiles_iff.mp hpath
    apply h.files.loadStore_eq
    rw [hat.here]
    exact hseen _ ⟨name, hname, rfl⟩
  rw [collect_attempt_congr hload]

theorem copyStore (h : AgreeAt seen first second) (time : Moment) (name : String) :
    Alike (AgreeAt seen) (first.serve time (.copyStore name))
      (second.serve time (.copyStore name)) := by
  have hcopied := h.files.copyToProject first.catalog name
  unfold Session.serve
  dsimp only
  rw [h.catalog]
  generalize first.catalog.copyToProject first.files name = one at hcopied ⊢
  generalize first.catalog.copyToProject second.files name = other at hcopied ⊢
  obtain ⟨result, hfiles, hcatalog⟩ := hcopied
  cases result with
  | error error => exact .mk _ ⟨hcatalog, h.output, hfiles⟩
  | ok copied => cases copied <;> exact .mk _ ⟨hcatalog, h.output, hfiles⟩

theorem writeStylesheet (h : AgreeAt seen first second) (hat : first.IsAt root here)
    (time : Moment) {storeName : String} {brandName : Option String} (outputName : String)
    (hseen : ∀ place, IsStorePlace root here storeName place ∨
      IsBrandPlace root here brandName place → seen place) :
    Alike (AgreeAt seen) (first.serve time (.writeStylesheet storeName brandName outputName))
      (second.serve time (.writeStylesheet storeName brandName outputName)) := by
  have hsource := h.source hat hseen
  unfold Session.serve
  dsimp only
  generalize first.source storeName brandName = one at hsource ⊢
  generalize second.source storeName brandName = other at hsource ⊢
  obtain ⟨result, hmiddle⟩ := hsource
  cases result with
  | error error => exact .mk _ hmiddle
  | ok source =>
      dsimp only
      cases source.generate time with
      | error error => exact .mk _ hmiddle
      | ok css => exact hmiddle.writeCss css outputName

/-- Sessions whose trees agree where a call reads cannot be told apart by it. -/
theorem serve (h : AgreeAt seen first second) (hat : first.IsAt root here) (time : Moment)
    (call : ToolCall) (hseen : ∀ place, call.Reads root here place → seen place) :
    Alike (AgreeAt seen) (first.serve time call) (second.serve time call) := by
  cases call with
  | listStores =>
      unfold Session.serve
      dsimp only
      rw [h.listStores_eq hat hseen]
      exact .mk _ h
  | describeStore name =>
      exact (h.store hat hseen).map
        (Except.map fun store => ToolReply.description (.ofStore store))
  | listPaths name above =>
      exact (h.store hat hseen).map (Except.map fun store =>
        ToolReply.paths ((store.pathsUnder above).map fun path =>
          (path, variableName (splitDotted path))))
  | resolve path themeName storeName brandName =>
      exact (h.source hat hseen).map fun source =>
        source.bind fun source => resolveIn source path themeName
  | copyStore name => exact h.copyStore time name
  | generateStylesheet storeName brandName =>
      exact (h.source hat hseen).map fun source =>
        source.bind fun source => stylesheetOf source time
  | writeStylesheet storeName brandName outputName =>
      exact h.writeStylesheet hat time outputName hseen

end AgreeAt

/-! ## Runs -/

theorem here_serve (session : Session) (time : Moment) (call : ToolCall) :
    (session.serve time call).2.files.here = session.files.here := by
  have heffect := effect_serve session time call
  have hmade (path : Path) : (session.files.makeDirectories path).2.here = session.files.here :=
    (FileTree.onlyAddsDirectories_makeDirectories session.files path).keepsDirectories.here
  have hwritten {path target : Path} {content : FileContent} {after : FileTree}
      (hwrite : (session.files.makeDirectories path).2.write target content = .ok after) :
      after.here = session.files.here := by
    obtain ⟨place, -, rfl, -⟩ := FileTree.item?_of_write hwrite
    exact hmade path
  generalize (session.serve time call).1 = reply at heffect
  generalize (session.serve time call).2.files = after at heffect ⊢
  cases heffect with
  | asked => rfl
  | copyFailed => exact hmade _
  | copied _ _ _ hwrite => exact hwritten hwrite
  | writeFailed => exact hmade _
  | cut _ _ _ _ hwrite => exact hwritten hwrite
  | written _ _ _ hwrite => exact hwritten hwrite

theorem isAt_serve {session : Session} (h : session.IsAt root here) (time : Moment)
    (call : ToolCall) : (session.serve time call).2.IsAt root here where
  project := (sameFolders_serve session time call).project.trans h.project
  brands := (sameFolders_serve session time call).brands.trans h.brands
  output := (sameFolders_serve session time call).output.trans h.output
  here := (here_serve session time call).trans h.here

/-- Sessions whose trees agree where the calls of a run read cannot be told apart by the run. -/
theorem AgreeAt.run (h : AgreeAt seen first second) (hat : first.IsAt root here)
    (calls : List (Moment × ToolCall))
    (hseen : ∀ time call, (time, call) ∈ calls → ∀ place, call.Reads root here place → seen place) :
    Alike (AgreeAt seen) (Session.run calls first) (Session.run calls second) := by
  induction calls generalizing first second with
  | nil => exact .mk _ h
  | cons start rest ih =>
      obtain ⟨time, call⟩ := start
      obtain ⟨hreply, hafter⟩ :=
        alike_iff.mp (h.serve hat time call (hseen time call List.mem_cons_self))
      obtain ⟨hreplies, hlast⟩ := alike_iff.mp (ih hafter (isAt_serve hat time call)
        fun time call hmem => hseen time call (List.mem_cons_of_mem _ hmem))
      rw [run_cons, run_cons]
      exact alike_iff.mpr ⟨congrArg₂ List.cons hreply hreplies, hlast⟩

/-! ## What is written -/

/-- A call leaves what lies at a place, unless it writes the file there, or adds a directory. -/
theorem item?_serve_of_not_writes {session : Session} (h : session.IsAt root here)
    (time : Moment) (hwrites : ¬ call.Writes root here place) :
    (session.serve time call).2.files.item? place = session.files.item? place ∨
      session.files.item? place = none ∧
        (session.serve time call).2.files.item? place = some .directory := by
  have heffect := effect_serve session time call
  have hmade (path : Path) :=
    (FileTree.onlyAddsDirectories_makeDirectories session.files path).item place
  have hhere (path : Path) : (session.files.makeDirectories path).2.here = here :=
    (FileTree.onlyAddsDirectories_makeDirectories session.files path).keepsDirectories.here.trans
      h.here
  have hwritten {path target : Path} {content : FileContent} {after : FileTree}
      (htarget : target.normalPlace here ≠ place)
      (hwrite : (session.files.makeDirectories path).2.write target content = .ok after) :
      after.item? place = (session.files.makeDirectories path).2.item? place := by
    rw [FileTree.item?_of_write_normalPlace hwrite, hhere, if_neg htarget]
  generalize (session.serve time call).1 = reply at heffect
  generalize (session.serve time call).2.files = after at heffect ⊢
  cases heffect with
  | asked => exact Or.inl rfl
  | copyFailed => exact hmade _
  | copied hproject _ _ hwrite =>
      obtain rfl := Option.some.inj (hproject.symm.trans h.project)
      rw [hwritten (fun hplace => hwrites ⟨rfl, hplace.symm⟩) hwrite]
      exact hmade _
  | writeFailed => exact hmade _
  | cut _ _ _ _ hwrite =>
      rw [h.output] at hwrite
      rw [hwritten (fun hplace => hwrites hplace.symm) hwrite]
      exact hmade _
  | written _ _ _ hwrite =>
      rw [h.output] at hwrite
      rw [hwritten (fun hplace => hwrites hplace.symm) hwrite]
      exact hmade _

/-- A run leaves what lies at a place, unless a call writes the file there, or adds a directory. -/
theorem item?_run_of_not_writes {session : Session} (h : session.IsAt root here)
    {calls : List (Moment × ToolCall)}
    (hwrites : ∀ time call, (time, call) ∈ calls → ¬ call.Writes root here place) :
    (run calls session).2.files.item? place = session.files.item? place ∨
      session.files.item? place = none ∧
        (run calls session).2.files.item? place = some .directory := by
  have hboth := run_induction calls
    (motive := fun middle => middle.IsAt root here ∧
      (middle.files.item? place = session.files.item? place ∨
        session.files.item? place = none ∧ middle.files.item? place = some .directory))
    ?_ ⟨h, Or.inl rfl⟩
  · exact hboth.2
  · rintro middle time call hcall ⟨hmiddle, hplace⟩
    refine ⟨isAt_serve hmiddle time call, ?_⟩
    have hserved := item?_serve_of_not_writes hmiddle time (hwrites time call hcall)
    rcases hplace with hsame | ⟨hnone, hdirectory⟩
    · rw [hsame] at hserved
      exact hserved
    · rw [hdirectory] at hserved
      rcases hserved with hkept | ⟨hgone, -⟩
      · exact Or.inr ⟨hnone, hkept⟩
      · cases hgone

theorem isAt_run {session : Session} (h : session.IsAt root here)
    (calls : List (Moment × ToolCall)) : (run calls session).2.IsAt root here :=
  run_induction (motive := IsAt root here) calls (fun _ time call _ h => isAt_serve h time call) h

/-- A stylesheet that is said to be written lies where the names of its path lead. -/
theorem item?_of_written {session : Session} (h : session.IsAt root here) {storeName : String}
    {brandName : Option String} {outputName : String} {path : Path} {count size : Nat}
    (hreply : (session.serve time (.writeStylesheet storeName brandName outputName)).1 =
      .ok (.written path count size)) :
    ∃ css, (session.serve time (.writeStylesheet storeName brandName outputName)).2.files.item?
      ((stylesheetPath (outputFolder root) outputName).normalPlace here) =
        some (.file (.text css)) := by
  have heffect := effect_serve session time (.writeStylesheet storeName brandName outputName)
  generalize (session.serve time (.writeStylesheet storeName brandName outputName)).2.files = after
    at heffect ⊢
  rw [hreply] at heffect
  cases heffect with
  | asked hasked => exact absurd trivial (hasked _ rfl)
  | @written _ _ _ source css _ _ _ _ hwrite =>
      have hmade := FileTree.onlyAddsDirectories_makeDirectories session.files session.output
      refine ⟨css, ?_⟩
      rw [FileTree.item?_of_write_normalPlace hwrite, hmade.keepsDirectories.here, h.here, h.output,
        if_pos rfl]

/-- A brand theme that is loaded is found. -/
theorem brand_of_loadBrand {session : Session} (h : session.IsAt root here)
    (hfresh : session.catalog.foundBrands = []) {name : String} (hname : name ≠ "")
    {brand : BrandTheme}
    (hload : session.files.loadBrand (tokenPath (brandFolder root) name) = .ok brand) :
    (session.brand (some name)).1 = .ok (some brand) := by
  obtain ⟨content, hread⟩ := FileTree.exists_read_of_loadBrand hload
  have hholds := FileTree.holds_of_read hread
  have hfound : session.catalog.freshBrand session.files name = .ok (some brand) := by
    unfold Catalog.freshBrand
    rw [h.brands]
    unfold tokenPath at hholds hload
    dsimp only
    rw [hholds, hload]
    rfl
  have hnone : Entries.get? session.catalog.foundBrands name = none := by
    rw [hfresh]
    rfl
  simp only [Session.brand, if_neg hname, Catalog.getBrand, hnone, hfound]

/-- A run of calls gives the same replies in every tree that agrees with this one at the places
that its calls read, and the trees still agree after it. At every place that no call writes the
run leaves what is there, but that directories may appear. Where the names of a call are plain,
what it reads is inside the folders of the stores and brand themes, and what it writes inside
those of the stores and stylesheets. But a store or a brand theme is read wherever its name leads,
and a stylesheet is written there. -/
theorem access_confined (root : Path) (files : FileTree) (calls : List (Moment × ToolCall)) :
    let here := files.here
    let seen := fun place => ∃ time call, (time, call) ∈ calls ∧ call.Reads root here place
    let after := (run calls (start root files)).2
    (∀ other, FileTree.AgreeAt seen files other →
      (run calls (start root other)).1 = (run calls (start root files)).1 ∧
        FileTree.AgreeAt seen after.files (run calls (start root other)).2.files) ∧
    (∀ place, (∀ time call, (time, call) ∈ calls → ¬ call.Writes root here place) →
      after.files.item? place = files.item? place ∨
        files.item? place = none ∧ after.files.item? place = some .directory) ∧
    (∀ call : ToolCall, call.IsPlain → ∀ place,
      (call.Reads root here place → IsInside ((storeFolder root).normalPlace here) place ∨
        IsInside ((brandFolder root).normalPlace here) place) ∧
      (call.Writes root here place → IsInside ((storeFolder root).normalPlace here) place ∨
        IsInside ((outputFolder root).normalPlace here) place)) ∧
    (∀ time name store, files.loadStore (tokenPath (storeFolder root) name) = .ok store →
      ((start root files).serve time (.describeStore name)).1 =
          .ok (.description (.ofStore store)) ∧
        ∃ content, files.item? ((tokenPath (storeFolder root) name).normalPlace here) =
          some (.file content)) ∧
    (∀ name brand, name ≠ "" →
      files.loadBrand (tokenPath (brandFolder root) name) = .ok brand →
        ((start root files).brand (some name)).1 = .ok (some brand) ∧
          ∃ content, files.item? ((tokenPath (brandFolder root) name).normalPlace here) =
            some (.file content)) ∧
    ∀ time storeName brandName outputName path count size,
      (after.serve time (.writeStylesheet storeName brandName outputName)).1 =
          .ok (.written path count size) →
        ∃ css, (after.serve time
            (.writeStylesheet storeName brandName outputName)).2.files.item?
          ((stylesheetPath (outputFolder root) outputName).normalPlace here) =
            some (.file (.text css)) := by
  intro here seen after
  have hstart := isAt_start root files
  refine ⟨?_, fun place => item?_run_of_not_writes hstart, ?_, ?_, ?_, ?_⟩
  · intro other hother
    have hagree : AgreeAt seen (start root files) (start root other) := ⟨rfl, rfl, hother⟩
    obtain ⟨hreplies, hafter⟩ := alike_iff.mp (hagree.run hstart calls
      fun time call hcall place hreads => ⟨time, call, hcall, hreads⟩)
    exact ⟨hreplies, hafter.files⟩
  · intro call hplain place
    exact ⟨ToolCall.isInside_of_reads hplain, ToolCall.isInside_of_writes hplain⟩
  · intro time name store hload
    have hfetched : ((start root files).catalog.getStore files name).1 = .ok (some store) :=
      (Catalog.getStore_eq_ok_some_iff rfl hstart.project).mpr (Or.inl hload)
    obtain ⟨content, hread⟩ := FileTree.exists_read_of_loadStore hload
    exact ⟨(answersFrom_of_getStore hfetched).describe time, content, FileTree.item?_of_read hread⟩
  · intro name brand hname hload
    obtain ⟨content, hread⟩ := FileTree.exists_read_of_loadBrand hload
    exact ⟨brand_of_loadBrand hstart rfl hname hload, content, FileTree.item?_of_read hread⟩
  · intro time storeName brandName outputName path count size
    exact item?_of_written (isAt_run hstart calls)

end Session

/-! ## A token file outside the folders -/

namespace Sample

/-- A project with a token file beside the folders of its stores and brand themes. -/
def secretFiles : FileTree where
  items := [(["work"], .directory), (["work", "tokens"], .directory),
    (["work", "brands"], .directory), (["work", "secret.yaml"],
      .file (.document (.map [(.text "name", .text "secret")]))),
    (["work", "note.txt"], .file (.text "first"))]
  here := ["work"]

/-- The same project with another text in a file that is not read. -/
def otherFiles : FileTree := secretFiles.put ["work", "note.txt"] (.file (.text "second"))

/-- The store of that file. -/
def secretStore : TokenStore where
  name := "secret"

/-- The brand theme of that file. -/
def secretBrand : BrandTheme where
  id := "secret"
  name := "secret"

/-- A call that names the store beside its folder. -/
def secretCalls : List (Moment × ToolCall) := [(callTime, .describeStore "../secret")]

/-- The session after the call. -/
def secretSession : Session := (Session.run secretCalls (.start herePath secretFiles)).2

/-- Where the token file is. -/
def secretPlace : Place := ["work", "secret.yaml"]

theorem loadStore_secretFiles :
    secretFiles.loadStore (tokenPath (storeFolder herePath) "../secret") = .ok secretStore :=
  eq_ok_of_toOption (by decide +kernel)

theorem loadBrand_secretFiles :
    secretFiles.loadBrand (tokenPath (brandFolder herePath) "../secret") = .ok secretBrand :=
  eq_ok_of_toOption (by decide +kernel)

/-- The trees differ in a file that the call does not read. -/
theorem agreeAt_otherFiles :
    FileTree.AgreeAt (fun place => ∃ time call, (time, call) ∈ secretCalls ∧
      call.Reads herePath secretFiles.here place) secretFiles otherFiles := by
  have hunread : ¬ ∃ time call, (time, call) ∈ secretCalls ∧
      call.Reads herePath secretFiles.here ["work", "note.txt"] := by
    rintro ⟨time, call, hcall, hreads⟩
    cases List.mem_singleton.mp hcall
    revert hreads
    unfold ToolCall.Reads IsStorePlace
    decide +kernel
  refine ⟨rfl, .cons ⟨rfl, .directory⟩ (.cons ⟨rfl, .directory⟩ (.cons ⟨rfl, .directory⟩
    (.cons ⟨rfl, FileTree.IsLike.refl _ _⟩ (.cons ⟨rfl, .file fun h => ?_⟩ .nil))))⟩
  exact absurd h hunread

end Sample

namespace Session

/-- The replies do not depend on the file that is not read. The token file beside the folders is
read as a store and as a brand theme, and a stylesheet is written outside the project, though all
are asked for by name. A plain name leads into the folder. -/
theorem access_confined_secret :
    (run Sample.secretCalls (start Sample.herePath Sample.otherFiles)).1 =
        (run Sample.secretCalls (start Sample.herePath Sample.secretFiles)).1 ∧
      Sample.secretFiles.loadStore (tokenPath (storeFolder Sample.herePath) "../secret") =
        .ok Sample.secretStore ∧
      ((start Sample.herePath Sample.secretFiles).serve Sample.callTime
        (.describeStore "../secret")).1 = .ok (.description (.ofStore Sample.secretStore)) ∧
      ((start Sample.herePath Sample.secretFiles).brand (some "../secret")).1 =
        .ok (some Sample.secretBrand) ∧
      (tokenPath (storeFolder Sample.herePath) "../secret").normalPlace Sample.secretFiles.here =
        Sample.secretPlace ∧
      ¬ IsInside ["work", "tokens"] Sample.secretPlace ∧
      ¬ IsInside ["work", "brands"] Sample.secretPlace ∧
      (Sample.secretSession.serve Sample.callTime
          (.writeStylesheet "../secret" none "../../leak")).1 =
        .ok (.written ⟨.here, ["dist", "..", "..", "leak.css"]⟩ 0 26) ∧
      (∃ css, (Sample.secretSession.serve Sample.callTime
          (.writeStylesheet "../secret" none "../../leak")).2.files.item? ["leak.css"] =
        some (.file (.text css))) ∧
      (ToolCall.describeStore "secret").IsPlain ∧
      ∀ place, (ToolCall.describeStore "secret").Reads Sample.herePath ["work"] place →
        IsInside ["work", "tokens"] place ∨ IsInside ["work", "brands"] place := by
  obtain ⟨hagree, -, hplain, hread, hbrand, hwritten⟩ :=
    access_confined Sample.herePath Sample.secretFiles Sample.secretCalls
  have hsession : (run Sample.secretCalls (start Sample.herePath Sample.secretFiles)).2 =
      Sample.secretSession := rfl
  rw [hsession] at hwritten
  have houtside (folder : String) (hne : folder ≠ "secret.yaml") :
      ¬ IsInside ["work", folder] Sample.secretPlace := by
    rintro ⟨names, -, hplace⟩
    rw [Sample.secretPlace, List.cons_append, List.cons_append, List.cons.injEq,
      List.cons.injEq] at hplace
    exact hne hplace.2.1.symm
  have hleak : (stylesheetPath (outputFolder Sample.herePath) "../../leak").normalPlace
      Sample.secretFiles.here = ["leak.css"] := by decide +kernel
  have hreply : (Sample.secretSession.serve Sample.callTime
      (.writeStylesheet "../secret" none "../../leak")).1 =
        .ok (.written ⟨.here, ["dist", "..", "..", "leak.css"]⟩ 0 26) := by decide +kernel
  have hcss := hwritten _ _ _ _ _ _ _ hreply
  rw [hleak] at hcss
  have hnamed : (ToolCall.describeStore "secret").IsPlain := by
    unfold ToolCall.IsPlain
    decide
  have hfolders : (storeFolder Sample.herePath).normalPlace Sample.secretFiles.here =
      ["work", "tokens"] ∧ (brandFolder Sample.herePath).normalPlace Sample.secretFiles.here =
        ["work", "brands"] := by decide +kernel
  refine ⟨(hagree _ Sample.agreeAt_otherFiles).1, Sample.loadStore_secretFiles,
    (hread Sample.callTime _ _ Sample.loadStore_secretFiles).1,
    (hbrand _ _ (by decide) Sample.loadBrand_secretFiles).1, by decide +kernel,
    houtside "tokens" (by decide), houtside "brands" (by decide), hreply, hcss, hnamed, ?_⟩
  intro place hplace
  have hinside := (hplain _ hnamed place).1 hplace
  rwa [hfolders.1, hfolders.2] at hinside

end Session

end DesignTokens
