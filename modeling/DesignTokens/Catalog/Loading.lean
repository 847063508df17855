import DesignTokens.Catalog.Refusal
import DesignTokens.Files.Tree
import DesignTokens.Yaml.Document

/-!
# Reading token files

The record of a token file is the mapping at the top of its document. A store without a
name is named after its file, and so are the identifier and the name of a brand theme. A
field that has no end keeps the record from being checked at all.
-/

namespace DesignTokens

/-- The datum that a file holds. -/
def FileContent.datum (purpose : FilePurpose) (path : Path) :
    FileContent → Except LoadError Datum
  | .document value => .ok value
  | .text content => (Yaml.parse content).mapError refuse
  | .bytes content => (Yaml.parseBytes content).mapError refuse
where
  /-- What comes of a fault of the document. -/
  refuse : Yaml.DocumentError → LoadError
    | .malformed => .refused (.malformed purpose path)
    | error => .value error

namespace FileTree

/-- The entries of the mapping that a token file holds. -/
def readRecord (files : FileTree) (purpose : FilePurpose) (path : Path) :
    Except LoadError (List (Scalar × Datum)) :=
  match files.read path with
  | .error (.system fault path) => .error (.refused (.unreadable purpose path fault))
  | .error error => .error (.path error)
  | .ok content =>
      match content.datum purpose path with
      | .error error => .error error
      | .ok (.map entries) => .ok entries
      | .ok _ => .error (.refused (.notMapping path))

/-- A record with a text for a field that is left out. -/
def withDefault (name text : String) (entries : List (Scalar × Datum)) :
    List (Scalar × Datum) :=
  match Datum.lookup name entries with
  | some _ => entries
  | none => entries ++ [(.text name, .text text)]

/-- The store of a token file. -/
def loadStore (files : FileTree) (path : Path) : Except LoadError TokenStore :=
  match files.readRecord .store path with
  | .error error => .error error
  | .ok entries =>
      match TokenStore.ofSource (withDefault "name" path.stem entries) with
      | .ok store => .ok store
      | .error issues =>
          if issues.any Issue.isEndless then .error .endless
          else .error (.refused (.invalidStore issues))

/-- The brand theme of a token file. -/
def loadBrand (files : FileTree) (path : Path) : Except LoadError BrandTheme :=
  match files.readRecord .brand path with
  | .error error => .error error
  | .ok entries =>
      let entries := withDefault "name" path.stem (withDefault "id" path.stem entries)
      match BrandTheme.ofSource entries with
      | .ok brand => .ok brand
      | .error issues =>
          if issues.any Issue.isEndless then .error .endless
          else .error (.refused (.invalidBrand path issues))

end FileTree

end DesignTokens
