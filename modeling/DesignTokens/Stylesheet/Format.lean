import DesignTokens.Calendar
import DesignTokens.Store.Brand
import DesignTokens.Stylesheet.VariableSet

/-!
# The text of a stylesheet

Declarations are written one to a line, sorted by name. A block is a selector with its
declarations between braces, and the header is a comment that says how the file was made.
-/

namespace DesignTokens

/-- The text before each declaration. -/
def defaultIndent : String := "  "

/-- One declaration. -/
def declaration (indent name value : String) : String := s!"{indent}{name}: {value};"

/-- The declarations sorted by name, one to a line. -/
def formatVariables (entries : Entries String) (indent : String) : String :=
  let line (name : String) := declaration indent name ((Entries.get? entries name).getD "")
  "\n".intercalate ((sortNames (Entries.keys entries)).map line)

/-- A rule block. -/
def formatBlock (selector : String) (entries : Entries String) (indent : String) : String :=
  let body := formatVariables entries indent
  if body == "" then selector ++ " \x7b\n\x7d" else selector ++ " \x7b\n" ++ body ++ "\n\x7d"

/-- A display name that cannot stand in the header. -/
structure HeaderError where
  brandName : String
deriving Repr, DecidableEq

/-- The wording of a refused display name. -/
def HeaderError.message (error : HeaderError) : String :=
  s!"Brand name cannot be placed in a CSS comment: {Text.quoted error.brandName}"

/-- The lines of the header. -/
def headerLines (generatedAt : Moment) (brandName : String) : List String :=
  ["/**", " * Mond Design System - Theme CSS Variables", " *",
    " * Auto-generated from design tokens.",
    " * Do not edit this file manually - run 'mond-tokens build' to regenerate.", " *"] ++
    (if brandName == "" then [] else [s!" * Brand: {brandName}"]) ++
    [s!" * Generated: {generatedAt.iso}", " */"]

/-- The header comment. A display name that could end the comment is refused. -/
def formatHeader (generatedAt : Moment) (brandName : Option String) :
    Except HeaderError String :=
  let name := brandName.getD ""
  if isHeaderSafe name then .ok ("\n".intercalate (headerLines generatedAt name))
  else .error ⟨name⟩

end DesignTokens
