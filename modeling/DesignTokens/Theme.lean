import DesignTokens.Text.Quoted

/-!
# Themes

A token may have one value for the light theme and another for the dark one.
-/

namespace DesignTokens

/-- What a value is resolved for. -/
inductive Theme where
  | light
  | dark
deriving Repr, DecidableEq, Inhabited

namespace Theme

/-- The name of a theme in token sources and messages. -/
def name : Theme → String
  | light => "light"
  | dark => "dark"

/-- Both themes, in the order in which they are written. -/
def all : List Theme := [light, dark]

/-- The theme of a name. -/
def ofName? (text : String) : Option Theme := all.find? fun theme => theme.name == text

theorem ofName?_eq_some_iff {text : String} {theme : Theme} :
    ofName? text = some theme ↔ text = theme.name := by
  cases theme <;> simp [ofName?, all, name, List.find?] <;> grind

/-- What holds of every theme holds of the light and of the dark one. -/
theorem forall_iff {p : Theme → Prop} : (∀ theme, p theme) ↔ p light ∧ p dark := by
  constructor
  · intro h
    exact ⟨h light, h dark⟩
  · rintro ⟨hlight, hdark⟩ theme
    cases theme with
    | light => exact hlight
    | dark => exact hdark

/-- What is said of a name that is no theme. -/
def unknownMessage (text : String) : String := s!"{Text.quoted text} is not a valid Theme"

end Theme

end DesignTokens
