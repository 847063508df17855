import DesignTokens.Text.Split

/-!
# Token paths

A token is addressed by the names of the groups that lead to it and its own name. A path
is given either as these segments or as one dotted text; a dotted text drops its empty
pieces, so leading, trailing and doubled dots do not matter.
-/

namespace DesignTokens

/-- The segments of a dotted text, without the empty ones. -/
def splitDotted (path : String) : List String :=
  (Text.splitText '.' path).filter fun segment => segment != ""

/-- The segments of a path joined by dots. -/
def joinDotted (segments : List String) : String := ".".intercalate segments

/-- A path as it is asked for. -/
inductive TokenPath where
  /-- One text with dots between the segments. -/
  | dotted (text : String)
  /-- The segments themselves, which may hold dots or be empty. -/
  | segments (names : List String)
deriving Repr, DecidableEq

/-- The segments that a path stands for. -/
def TokenPath.parts : TokenPath → List String
  | dotted text => splitDotted text
  | segments names => names

/-- The dotted text under which a path is looked up. -/
def TokenPath.key (path : TokenPath) : String := joinDotted path.parts

instance : Coe String TokenPath := ⟨.dotted⟩

@[simp] theorem parts_dotted (text : String) :
    (TokenPath.dotted text).parts = splitDotted text := rfl

@[simp] theorem parts_segments (names : List String) :
    (TokenPath.segments names).parts = names := rfl

end DesignTokens
