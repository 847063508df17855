import DesignTokens.Yaml.Cursor

/-!
# Tokens of a document

The marks and scalars of a document in the order of the text. Where blocks begin and end is
a token of its own, so that indentation does not matter behind this point.
-/

namespace DesignTokens.Yaml

/-- What a line that starts with a percent sign says. -/
inductive Directive where
  | version (major minor : Nat)
  /-- A handle and the text that it stands for. -/
  | tag (handle text : String)
  | other
deriving Repr, DecidableEq

/-- A tag as it is written: a handle, unless the text is whole, and the text behind it. -/
structure TagText where
  handle : Option String
  text : String
deriving Repr, DecidableEq

/-- A mark or a scalar. -/
inductive Token where
  | directive (directive : Directive)
  | documentStart
  | documentEnd
  | blockSequenceStart
  | blockMappingStart
  | blockEnd
  | flowSequenceStart
  | flowSequenceEnd
  | flowMappingStart
  | flowMappingEnd
  | blockEntry
  | flowEntry
  | key
  | value
  | alias (name : String)
  | anchor (name : String)
  | tag (tag : TagText)
  /-- A scalar; a plain one has neither quotes nor a block mark. -/
  | scalar (text : String) (plain : Bool)
deriving Repr, DecidableEq

end DesignTokens.Yaml
