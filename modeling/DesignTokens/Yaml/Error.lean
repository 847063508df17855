import DesignTokens.Calendar
import DesignTokens.Number.Reading
import DesignTokens.Text.Quoted
import DesignTokens.Text.Utf8

/-!
# Faults of a document

A text that breaks the grammar is malformed, and so is one that uses a tag or a key that
has no meaning. A value whose form promises a number, a truth value or a time, and whose
parts do not give one, is a fault of its own.
-/

namespace DesignTokens.Yaml

/-- Why a text is no document. -/
inductive DocumentError where
  /-- The grammar is broken, or a tag or key has no meaning. -/
  | malformed
  /-- The text ends inside a scalar. -/
  | unfinished
  /-- The text cannot be read on from a place. -/
  | notUnicode (error : Text.Utf8Error)
  /-- A text is not read as an integer of the base. -/
  | notInteger (text : String) (base : Nat) (fault : Number.IntegerFault)
  /-- A text is no decimal. -/
  | notDecimal (text : String)
  /-- A number without a single character. -/
  | emptyNumber
  /-- A place in base sixty is beyond the range of floats. -/
  | weightTooLarge
  /-- A text is no truth value. -/
  | notTruth (text : String)
  /-- A text is not of the form of a time. -/
  | notTime
  /-- A mapping stands for a time. -/
  | timeOfMapping
  /-- The parts of a time are out of range. -/
  | calendar (error : CalendarError)
  /-- An escape names no code point. -/
  | noCodePoint
  /-- An escape names a number beyond thirty-one bits. -/
  | codeTooLarge
  /-- A mapping stands for its own default value. -/
  | endless
deriving Repr, DecidableEq

/-- Stands in messages for what is wrong with a malformed text. -/
def malformedMark : String := "<yaml>"

/-- The wording of a fault. -/
def DocumentError.message : DocumentError → String
  | malformed => malformedMark
  | unfinished => malformedMark
  | notUnicode error => error.message
  | notInteger text base fault => fault.message text base
  | notDecimal text => s!"could not convert string to float: {Text.quoted text}"
  | emptyNumber => "string index out of range"
  | weightTooLarge => "int too large to convert to float"
  | notTruth text => Text.quoted text
  | notTime => "'NoneType' object has no attribute 'groupdict'"
  | timeOfMapping => "expected string or bytes-like object, got 'list'"
  | calendar error => error.message
  | noCodePoint => "chr() arg not in range(0x110000)"
  | codeTooLarge => "Python int too large to convert to C int"
  | endless => "maximum recursion depth exceeded"

/-- What may be read from a text. -/
abbrev Read (α : Type) := Except DocumentError α

/-- The text breaks the grammar. -/
def malformed {α : Type} : Read α := .error .malformed

end DesignTokens.Yaml
