import DesignTokens.Number.Reading
import DesignTokens.Text.Utf8
import DesignTokens.Yaml.Token

/-!
# Tags, names and directives

A tag is a handle and a suffix, or a whole text between angle brackets; percent escapes in
it are bytes of UTF-8. Anchors and handles consist of ASCII letters, digits, hyphens and
underscores.
-/

namespace DesignTokens.Yaml

open Text

/-- A character of an anchor, an alias, a handle or a directive. -/
def isNameLetter (c : Char) : Bool := isAsciiAlphanumeric c || c == '-' || c == '_'

/-- A character of a tag. -/
def isTagChar (c : Char) : Bool :=
  isAsciiAlphanumeric c || "-;/?:@&=+$,_.!~*'()[]".toList.contains c

/-- The bytes of a run of percent escapes. -/
def percentBytes : Nat → Cursor → Read (List UInt8 × Cursor)
  | 0, cursor => .ok ([], cursor)
  | fuel + 1, cursor =>
      match cursor.rest with
      | '%' :: a :: b :: _ =>
          match Number.readNat? 16 [a, b] with
          | none => malformed
          | some n => do
              let (bytes, behind) ← percentBytes fuel (cursor.skip 3)
              return (UInt8.ofNat n :: bytes, behind)
      | '%' :: _ => malformed
      | _ => .ok ([], cursor)

/-- The characters of a tag from here on. -/
def tagChars : Nat → Cursor → Read (List Char × Cursor)
  | 0, cursor => .ok ([], cursor)
  | fuel + 1, cursor => do
      let (run, behind) := cursor.span isTagChar
      if behind.seesChar '%' then
        let (bytes, next) ← percentBytes fuel behind
        match decodeUtf8 bytes with
        | .error _ => malformed
        | .ok text =>
            let (others, last) ← tagChars fuel next
            return (run ++ text.toList ++ others, last)
      else return (run, behind)

/-- The text of a tag, which must not be empty. -/
def scanTagText (cursor : Cursor) : Read (String × Cursor) := do
  let (text, behind) ← tagChars (cursor.rest.length + 1) cursor
  if text.isEmpty && behind.index == cursor.index then malformed
  else return (String.ofList text, behind)

/-- A handle: an exclamation mark, or a name between two of them. -/
def scanHandle (cursor : Cursor) : Read (String × Cursor) :=
  if !cursor.seesChar '!' then malformed
  else if cursor.next.seesChar ' ' then .ok ("!", cursor.next)
  else
    let (name, behind) := cursor.next.span isNameLetter
    if behind.seesChar '!' then
      .ok (String.ofList ('!' :: (name ++ ['!'])), behind.next)
    else malformed

/-- A second exclamation mark stands before the next space. -/
def hasHandle (cursor : Cursor) : Bool :=
  (cursor.rest.takeWhile fun c => c != ' ' && !isBreak c).contains '!'

/-- The tag at a place and what lies behind it. -/
def scanTag (cursor : Cursor) : Read (Token × Cursor) := do
  let (tag, behind) ←
    if cursor.next.seesChar '<' then do
      let (text, close) ← scanTagText (cursor.skip 2)
      if close.seesChar '>' then pure (⟨none, text⟩, close.next) else malformed
    else if cursor.gapAt 1 then pure (⟨none, "!"⟩, cursor.next)
    else do
      let (handle, start) ← if hasHandle cursor.next then scanHandle cursor
        else pure ("!", cursor.next)
      let (text, close) ← scanTagText start
      pure (⟨some handle, text⟩, close)
  if behind.atSpace then return (.tag tag, behind) else malformed

/-- What may follow the name of an anchor or an alias. -/
def endsName (cursor : Cursor) : Bool :=
  cursor.peek.all fun c => isGap c || isBreak c || "?:,]\x7d%@\x60".toList.contains c

/-- The name behind an anchor or alias mark. -/
def scanName (cursor : Cursor) : Read (String × Cursor) :=
  let (name, behind) := cursor.next.span isNameLetter
  if name.isEmpty || !endsName behind then malformed else .ok (String.ofList name, behind)

/-- A decimal number. -/
def scanNumber (cursor : Cursor) : Read (Nat × Cursor) :=
  let (digits, behind) := cursor.span isAsciiDigit
  if digits.isEmpty then malformed
  else match Number.readInteger 10 digits with
    | .ok n => .ok (n.toNat, behind)
    | .error fault => .error (.notInteger (String.ofList digits) 10 fault)

/-- The directive at a place and what lies behind its line. -/
def scanDirective (cursor : Cursor) : Read (Token × Cursor) := do
  let (name, behind) := cursor.next.span isNameLetter
  if name.isEmpty || !behind.atSpace then malformed
  else
    let (directive, last) ←
      if name == ['Y', 'A', 'M', 'L'] then do
        let (major, dot) ← scanNumber behind.skipSpaces
        if !dot.seesChar '.' then malformed
        else
          let (minor, last) ← scanNumber dot.next
          if last.atSpace then pure (.version major minor, last) else malformed
      else if name == ['T', 'A', 'G'] then do
        let (handle, space) ← scanHandle behind.skipSpaces
        if !space.seesChar ' ' then malformed
        else
          let (text, last) ← scanTagText space.skipSpaces
          if last.atSpace then pure (.tag handle text, last) else malformed
      else pure (.other, behind.skipWhile fun c => !isBreak c)
    return (.directive directive, ← last.finishLine)

end DesignTokens.Yaml
