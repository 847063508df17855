import DesignTokens.Source.Checked
import DesignTokens.Store.Basic
import DesignTokens.Text.Case

/-!
# Brand themes

A brand theme has an identifier, a display name and a palette that goes before the brand
palette of a store. The display name must not hold what would end the header comment of a
stylesheet or open a block; the identifier consists of letters and numbers, hyphens and
underscores, and is kept in lower case.
-/

namespace DesignTokens

/-- A rule of a brand theme that a source breaks. -/
inductive BrandRule where
  | unsafeName (name : String)
  | invalidId (id : String)
deriving Repr, DecidableEq

/-- The wording of a broken rule. -/
def BrandRule.message : BrandRule → String
  | unsafeName name =>
      s!"Brand name may not contain comment markers or braces: {Text.quoted name}"
  | invalidId id => s!"Invalid brand id: {id}"

/-- What is wrong with the source of a brand theme. -/
abbrev BrandIssues := List (Issue BrandRule)

/-- One line for each issue. -/
def BrandIssues.lines (issues : BrandIssues) : String := issueLines BrandRule.message issues

/-- How many issues there are. -/
def BrandIssues.count (issues : BrandIssues) : String := issueCount "BrandTheme" issues

/-- Texts that would end the header comment of a stylesheet or open a block. -/
def headerUnsafeMarkers : List String := ["/*", "*/", "\x7b", "\x7d"]

/-- One text occurs inside another. -/
def occursIn (part : List Char) : List Char → Bool
  | [] => part.isEmpty
  | c :: rest => part.isPrefixOf (c :: rest) || occursIn part rest

/-- The name can stand in the header comment. -/
def isHeaderSafe (name : String) : Bool :=
  !headerUnsafeMarkers.any fun marker => occursIn marker.toList name.toList

/-- Letters and numbers, hyphens and underscores, at least one of the first two. -/
def isBrandId (id : String) : Bool :=
  let core := id.toList.filter fun c => c != '_' && c != '-'
  !core.isEmpty && core.all Text.isAlphanumeric

/-- A brand identity. -/
structure BrandTheme where
  id : String
  name : String
  description : String := ""
  brand : Palette := []
deriving Repr, DecidableEq, Inhabited

namespace BrandTheme

/-- The format tag of a brand theme. -/
def schema : String := "brand/v1"

/-- The identifier of a source. -/
def idField (entries : List (Scalar × Datum)) : Checked BrandRule String :=
  match requiredText entries "id" with
  | .ok id =>
      if isBrandId id then .ok (String.ofList (Text.lowerChars id.toList))
      else .fail ["id"] (.rejected (.invalidId id))
  | .error issues => .error issues

/-- The display name of a source. -/
def nameField (entries : List (Scalar × Datum)) : Checked BrandRule String :=
  match requiredText entries "name" with
  | .ok name =>
      if isHeaderSafe name then .ok name else .fail ["name"] (.rejected (.unsafeName name))
  | .error issues => .error issues

/-- The brand theme of a source. -/
def ofSource (entries : List (Scalar × Datum)) : Except BrandIssues BrandTheme :=
  (((((Checked.done fun _ => BrandTheme.mk).and (formatField entries schema)).and
    (idField entries)).and (nameField entries)).and (textField entries "description" "")).and
    (optionalField readPalette entries "brand" "brand")

/-- The brand theme of a datum, which must be a mapping. -/
def ofDatum : Datum → Except BrandIssues BrandTheme
  | .map entries => ofSource entries
  | _ => Checked.fail [] (.notRecord "BrandTheme")

end BrandTheme

end DesignTokens
