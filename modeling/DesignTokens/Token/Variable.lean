import DesignTokens.Text.Blank
import DesignTokens.Text.Case

/-!
# Names of custom properties

A path segment is written in kebab case: a hyphen goes between a lower-case ASCII letter or
a digit and the capital behind it, every run of dots, underscores and blanks becomes one
hyphen, and the result is put into lower case. The segments of a path, joined by hyphens
behind a fixed start, name the custom property of the token.
-/

namespace DesignTokens

open Text

/-- A hyphen before every capital that follows a lower-case letter or a digit. -/
def breakCamel : List Char → List Char
  | [] => []
  | [c] => [c]
  | c :: d :: rest =>
      if (isAsciiLower c || isAsciiDigit c) && isAsciiUpper d then
        c :: '-' :: breakCamel (d :: rest)
      else c :: breakCamel (d :: rest)

/-- A character that separates the words of a segment. -/
def isSegmentSeparator (c : Char) : Bool := c == '.' || c == '_' || isBlank c

/-- One hyphen for every run of separators; `inRun` tells that one has been written. -/
def joinSeparators (inRun : Bool) : List Char → List Char
  | [] => []
  | c :: rest =>
      if isSegmentSeparator c then
        if inRun then joinSeparators true rest else '-' :: joinSeparators true rest
      else c :: joinSeparators false rest

/-- A segment in kebab case. -/
def kebabChars (segment : List Char) : List Char :=
  lowerChars (joinSeparators false (breakCamel segment))

/-- A segment in kebab case. -/
def toKebab (segment : String) : String := String.ofList (kebabChars segment.toList)

/-- Every custom property of a stylesheet starts with this text. -/
def variablePrefix : String := "--mond-"

/-- The custom property that a path is compiled to. -/
def variableName (segments : List String) : String :=
  variablePrefix ++ "-".intercalate (segments.map toKebab)

/-- A character that a custom property may hold behind its start. -/
def isNameChar (c : Char) : Bool := isAsciiLower c || isAsciiDigit c || c == '-'

/-- A custom property is well named when something follows the fixed start, and only
lower-case ASCII letters, digits and hyphens do. -/
def isVariableName (name : String) : Bool :=
  let cs := name.toList
  let start := variablePrefix.toList
  start.isPrefixOf cs && !(cs.drop start.length).isEmpty &&
    (cs.drop start.length).all isNameChar

example : variableName ["interactive", "backgroundHover"] =
    "--mond-interactive-background-hover" := by cbv

end DesignTokens
