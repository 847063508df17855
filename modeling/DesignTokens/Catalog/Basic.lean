import DesignTokens.Catalog.Loading
import DesignTokens.Notice
import DesignTokens.Store.Builtin
import DesignTokens.Yaml.Written

/-!
# The catalog of a project

A catalog finds the stores and the brand themes of a project by name: each is a token file
in a directory, and a store in the project goes before the built-in one. What has been
found by name is remembered until it is written again or forgotten. A refused file is
passed over with a warning in listings, and so is that of a store that is asked for by
name.
-/

namespace DesignTokens

/-- The name of the token file of a store or brand theme. -/
def tokenFileName (name : String) : String := name ++ ".yaml"

/-- The token files directly in a directory, in the order of their names. -/
def tokenFiles (files : FileTree) (directory : Path) : List Path :=
  let suffix := (tokenFileName "").toList
  ((files.namesIn directory).filter fun name => suffix.isSuffixOf name.toList).map fun name =>
    { directory with parts := directory.parts ++ [name] }

/-- Where the stores and brand themes of a project are, and those found so far. -/
structure Catalog where
  /-- The directory of the project's stores. -/
  project : Option Path := none
  /-- The directory of the brand themes. -/
  brands : Option Path := none
  foundStores : Entries TokenStore := []
  foundBrands : Entries BrandTheme := []

/-- Why a store cannot be put into a project. -/
inductive SaveError where
  | noProject
  | alreadyThere (name : String)
  | file (error : FileError)
deriving Repr, DecidableEq

/-- The wording of a save error. -/
def SaveError.message : SaveError → String
  | noProject => "No project path configured"
  | alreadyThere name => s!"Token store already exists in project: {name}"
  | file error => error.message

/-- The store of a file; none, with a warning, if the file is refused. -/
def tryStore (files : FileTree) (path : Path) :
    Except LoadError (Option TokenStore) × List Notice :=
  match files.loadStore path with
  | .ok store => (.ok (some store), [])
  | .error (.refused refusal) =>
      (.ok none, [⟨.warning, s!"Ignoring token store {path.name}: {refusal.message}"⟩])
  | .error error => (.error error, [])

/-- The brand theme of a file; none, with a warning, if the file is refused. -/
def tryBrand (files : FileTree) (path : Path) :
    Except LoadError (Option BrandTheme) × List Notice :=
  match files.loadBrand path with
  | .ok brand => (.ok (some brand), [])
  | .error (.refused refusal) =>
      (.ok none, [⟨.warning, s!"Ignoring brand theme {path.name}: {refusal.message}"⟩])
  | .error error => (.error error, [])

/-- What the files that are not refused hold, in their order, with the warnings about the
others. -/
def collect {α : Type} (attempt : Path → Except LoadError (Option α) × List Notice) :
    List Path → Except LoadError (List α) × List Notice
  | [] => (.ok [], [])
  | path :: rest =>
      match attempt path with
      | (.error error, notices) => (.error error, notices)
      | (.ok found, notices) =>
          let (others, more) := collect attempt rest
          (others.map (found.toList ++ ·), notices ++ more)

namespace Catalog

/-- The system answers about a directory, whether it is there or not. -/
def reachable (directory : Option Path) (files : FileTree) : Except LoadError Unit :=
  match directory with
  | none => .ok ()
  | some path =>
      match files.holds path with
      | .ok _ => .ok ()
      | .error error => .error (.path error)

/-- The token files of the stores of the project. -/
def storeFiles (catalog : Catalog) (files : FileTree) : List Path :=
  (catalog.project.map (tokenFiles files)).getD []

/-- The token files of the brand themes. -/
def brandFiles (catalog : Catalog) (files : FileTree) : List Path :=
  (catalog.brands.map (tokenFiles files)).getD []

/-- Tells of the built-in store and of the stores of the project; of stores with one name
the last counts. -/
def listStores (catalog : Catalog) (files : FileTree) :
    Except LoadError (List StoreMetadata) × List Notice :=
  match reachable catalog.project files with
  | .error error => (.error error, [])
  | .ok () =>
      let (stores, notices) := collect (tryStore files) (catalog.storeFiles files)
      (stores.map fun stores =>
        let entries := (Builtin.store :: stores).map fun store =>
          (store.name, StoreMetadata.ofStore store)
        (Entries.ofList entries).map Prod.snd, notices)

/-- All brand themes. -/
def listBrands (catalog : Catalog) (files : FileTree) :
    Except LoadError (List BrandTheme) × List Notice :=
  match reachable catalog.brands files with
  | .error error => (.error error, [])
  | .ok () => collect (tryBrand files) (catalog.brandFiles files)

/-- The catalog that remembers a store. -/
def rememberStore (catalog : Catalog) (name : String) (store : TokenStore) : Catalog :=
  { catalog with foundStores := catalog.foundStores.put name store }

/-- The store in the project's file for a name, if there is such a file and it is not
refused. -/
def projectStore (catalog : Catalog) (files : FileTree) (name : String) :
    Except LoadError (Option TokenStore) × List Notice :=
  match catalog.project with
  | none => (.ok none, [])
  | some directory =>
      let path := directory.child (tokenFileName name)
      match files.holds path with
      | .error error => (.error (.path error), [])
      | .ok true => tryStore files path
      | .ok false => (.ok none, [])

/-- The store of a name as the files give it: that of the project, else the built-in one. -/
def freshStore (catalog : Catalog) (files : FileTree) (name : String) :
    Except LoadError (Option TokenStore) × List Notice :=
  let (found, notices) := catalog.projectStore files name
  (found.map fun store =>
    store.or (if name = defaultStoreName then some Builtin.store else none), notices)

/-- The store of a name, which is remembered. -/
def getStore (catalog : Catalog) (files : FileTree) (name : String) :
    Except LoadError (Option TokenStore) × List Notice × Catalog :=
  match Entries.get? catalog.foundStores name with
  | some store => (.ok (some store), [], catalog)
  | none =>
      let (found, notices) := catalog.freshStore files name
      match found with
      | .ok (some store) => (.ok (some store), notices, catalog.rememberStore name store)
      | _ => (found, notices, catalog)

/-- The brand theme of a name as the files give it. -/
def freshBrand (catalog : Catalog) (files : FileTree) (name : String) :
    Except LoadError (Option BrandTheme) :=
  match catalog.brands with
  | none => .ok none
  | some directory =>
      let path := directory.child (tokenFileName name)
      match files.holds path with
      | .error error => .error (.path error)
      | .ok true => (files.loadBrand path).map some
      | .ok false => .ok none

/-- The brand theme of a name, which is remembered. -/
def getBrand (catalog : Catalog) (files : FileTree) (name : String) :
    Except LoadError (Option BrandTheme) × Catalog :=
  match Entries.get? catalog.foundBrands name with
  | some brand => (.ok (some brand), catalog)
  | none =>
      match catalog.freshBrand files name with
      | .ok (some brand) =>
          (.ok (some brand),
            { catalog with foundBrands := catalog.foundBrands.put name brand })
      | found => (found, catalog)

/-- The catalog with nothing remembered. -/
def forget (catalog : Catalog) : Catalog := { catalog with foundStores := [], foundBrands := [] }

/-- Writes a store into the project under its own name or the given one, unless that is
empty. Directories that had to be made stay even if the file cannot be written. -/
def saveStore (catalog : Catalog) (files : FileTree) (store : TokenStore)
    (name : Option String) : Except SaveError Path × FileTree × Catalog :=
  match catalog.project with
  | none => (.error .noProject, files, catalog)
  | some directory =>
      match files.makeDirectories directory with
      | (.error error, files) => (.error (.file error), files, catalog)
      | (.ok (), files) =>
          let name := match name with
            | some given => if given = "" then store.name else given
            | none => store.name
          let path := directory.child (tokenFileName name)
          match files.write path (.document (Yaml.reread store.toDatum)) with
          | .error error => (.error (.file error), files, catalog)
          | .ok files =>
              (.ok path, files,
                { catalog with foundStores := Entries.erase catalog.foundStores name })

/-- Writes the built-in store into the project, where it must not be yet. Other names have
no built-in store. -/
def copyToProject (catalog : Catalog) (files : FileTree) (name : String) :
    Except SaveError (Option Path) × FileTree × Catalog :=
  match catalog.project with
  | none => (.error .noProject, files, catalog)
  | some directory =>
      if name ≠ defaultStoreName then (.ok none, files, catalog)
      else match files.holds (directory.child (tokenFileName name)) with
        | .error error => (.error (.file error), files, catalog)
        | .ok true => (.error (.alreadyThere name), files, catalog)
        | .ok false =>
            let (saved, files, catalog) := catalog.saveStore files Builtin.store (some name)
            (saved.map some, files, catalog)

end Catalog

end DesignTokens
