import DesignTokens.Text.Split

/-!
# Paths

A path starts at the root or at a working directory and goes on by names. Empty names and
single dots are dropped when a path is read; two dots stay, since the name before them may
not be there.
-/

namespace DesignTokens

/-- Where a path starts. -/
inductive PathStart where
  /-- The working directory. -/
  | here
  /-- The root, written with one slash. -/
  | root
  /-- The root, written with exactly two slashes. -/
  | doubleRoot
deriving Repr, DecidableEq, Inhabited

/-- The text of a start. -/
def PathStart.text : PathStart → String
  | here => ""
  | root => "/"
  | doubleRoot => "//"

/-- A start and the names from there on. -/
structure Path where
  start : PathStart
  parts : List String
deriving Repr, DecidableEq, Inhabited

namespace Path

/-- A name that moves along a path. -/
def isStep (name : String) : Bool := name != "" && name != "."

/-- The path of a text. -/
def ofText (text : String) : Path :=
  let start := match text.toList with
    | '/' :: '/' :: '/' :: _ => PathStart.root
    | '/' :: '/' :: _ => .doubleRoot
    | '/' :: _ => .root
    | _ => .here
  { start, parts := (Text.splitText '/' text).filter isStep }

/-- The text of a path; the working directory itself is a dot. -/
def text (path : Path) : String :=
  let text := path.start.text ++ "/".intercalate path.parts
  if text == "" then "." else text

/-- A path seen from another one; a path from the root stays as it is. -/
def join (path more : Path) : Path :=
  match more.start with
  | .here => { path with parts := path.parts ++ more.parts }
  | _ => more

/-- The path of a text seen from another path. -/
def child (path : Path) (text : String) : Path := path.join (ofText text)

/-- The path without its last name. -/
def parent (path : Path) : Path := { path with parts := path.parts.dropLast }

/-- The last name. -/
def name (path : Path) : String := path.parts.getLast?.getD ""

/-- The part of a name before its last dot; the whole name if nothing stands before that dot
or nothing behind it. -/
def stemOf (name : String) : String :=
  let suffix := name.toList.reverse.takeWhile fun c => c != '.'
  let stem := name.toList.take (name.toList.length - suffix.length - 1)
  if stem.isEmpty || suffix.isEmpty then name else String.ofList stem

/-- The last name without its suffix. -/
def stem (path : Path) : String := stemOf path.name

@[simp] theorem join_here (path : Path) (parts : List String) :
    path.join ⟨.here, parts⟩ = { path with parts := path.parts ++ parts } := rfl

end Path

end DesignTokens
