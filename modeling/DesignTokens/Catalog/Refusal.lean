import DesignTokens.Files.Fault
import DesignTokens.Store.Brand
import DesignTokens.Store.Reading
import DesignTokens.Text.Utf8
import DesignTokens.Yaml.Error

/-!
# Token files that cannot be used

A token file is refused when it cannot be opened, is no document, holds no mapping, or
holds a record with issues. A file whose bytes are no text, a value of which promises a
number or a time and gives none, or a field of which has no end, ends the reading without
being refused: a listing that passes over refused files stops there. So does a path that is
too long to ask for.
-/

namespace DesignTokens

/-- What a token file is read for. -/
inductive FilePurpose where
  | store
  | brand
deriving Repr, DecidableEq

/-- How a message about a file starts. -/
def FilePurpose.start : FilePurpose → String
  | store => "Cannot read token store"
  | brand => "Cannot load brand theme"

/-- Why a token file is refused. -/
inductive Refusal where
  | unreadable (purpose : FilePurpose) (path : Path) (fault : FileFault)
  | malformed (purpose : FilePurpose) (path : Path)
  | notMapping (path : Path)
  | invalidStore (issues : StoreIssues)
  | invalidBrand (path : Path) (issues : BrandIssues)
deriving Repr, DecidableEq

/-- The wording of a refusal, with the number of issues instead of each of them. -/
def Refusal.message : Refusal → String
  | unreadable purpose path fault =>
      s!"{purpose.start} {path.text}: {(FileError.system fault path).message}"
  | malformed purpose path => s!"{purpose.start} {path.text}: {Yaml.malformedMark}"
  | notMapping path => s!"{path.text}: expected a mapping at the top level"
  | invalidStore issues => issues.count
  | invalidBrand path issues => s!"{FilePurpose.brand.start} {path.text}: {issues.count}"

/-- Why a token file gives no record. -/
inductive LoadError where
  | refused (refusal : Refusal)
  | value (error : Yaml.DocumentError)
  /-- A mapping in a field holds itself. -/
  | endless
  /-- The path cannot be asked for. -/
  | path (error : FileError)
deriving Repr, DecidableEq

/-- The wording of a load error. -/
def LoadError.message : LoadError → String
  | refused refusal => refusal.message
  | value error => error.message
  | endless => Unwritable.endless.message
  | path error => error.message

end DesignTokens
