import DesignTokens.Entries
import DesignTokens.Theme

/-!
# Variable sets

The custom properties of one theme with their values, and the tokens that have been left
out. Writing a name again replaces its value.
-/

namespace DesignTokens

/-- A token that was left out, and why. -/
structure SkippedToken where
  path : String
  theme : Theme
  reason : String
deriving Repr, DecidableEq

/-- The custom properties of one theme. -/
structure VariableSet where
  theme : Theme
  entries : Entries String := []
  skipped : List SkippedToken := []
deriving Repr, DecidableEq

namespace VariableSet

/-- Adds or replaces a variable. -/
def set (sink : VariableSet) (name value : String) : VariableSet :=
  { sink with entries := sink.entries.put name value }

/-- The value of a variable. -/
def get? (sink : VariableSet) (name : String) : Option String := Entries.get? sink.entries name

/-- The variable has a value. -/
def contains (sink : VariableSet) (name : String) : Bool := (sink.get? name).isSome

/-- Records a token that was left out. -/
def skip (sink : VariableSet) (path reason : String) : VariableSet :=
  { sink with skipped := sink.skipped ++ [⟨path, sink.theme, reason⟩] }

/-- The names in output order. -/
def names (sink : VariableSet) : List String := sortNames (Entries.keys sink.entries)

/-- The number of variables. -/
def size (sink : VariableSet) : Nat := sink.entries.length

@[simp] theorem theme_set (sink : VariableSet) (name value : String) :
    (sink.set name value).theme = sink.theme := rfl

@[simp] theorem theme_skip (sink : VariableSet) (path reason : String) :
    (sink.skip path reason).theme = sink.theme := rfl

@[simp] theorem skipped_set (sink : VariableSet) (name value : String) :
    (sink.set name value).skipped = sink.skipped := rfl

@[simp] theorem get?_skip (sink : VariableSet) (path reason name : String) :
    (sink.skip path reason).get? name = sink.get? name := rfl

/-- What a variable stands for after another one was written. -/
theorem get?_set (sink : VariableSet) (name value other : String) :
    (sink.set name value).get? other = if name = other then some value else sink.get? other :=
  Entries.get?_put _ _ _ _

end VariableSet

end DesignTokens
