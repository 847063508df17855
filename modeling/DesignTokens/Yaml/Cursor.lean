import DesignTokens.Yaml.Error

/-!
# Places in a document

A cursor holds what has not been read, with its line, its column and the number of
characters before it. Line feed and next line are read as one line feed; the line and
paragraph separators are breaks too and stay themselves.
-/

namespace DesignTokens.Yaml

/-- The characters that a document may hold. -/
def isAllowed (c : Char) : Bool :=
  let n := c.toNat
  n == 9 || n == 10 || n == 13 || (0x20 ≤ n && n ≤ 0x7e) || n == 0x85 ||
    (0xa0 ≤ n && n ≤ 0xd7ff) || (0xe000 ≤ n && n ≤ 0xfffd) || 0x10000 ≤ n

/-- The mark that may stand at the start of a document and has no width. -/
def byteOrderMark : Char := '\ufeff'

/-- A character that ends a line. -/
def isBreak (c : Char) : Bool :=
  c == '\n' || c == '\x85' || c == '\u2028' || c == '\u2029'

/-- A space or a tab. -/
def isGap (c : Char) : Bool := c == ' ' || c == '\t'

/-- What a line break is read as. -/
def breakText (c : Char) : Char := if c == '\x85' then '\n' else c

/-- A place in a document. -/
structure Cursor where
  rest : List Char
  index : Nat := 0
  line : Nat := 0
  column : Nat := 0

namespace Cursor

/-- The next character. -/
def peek (cursor : Cursor) : Option Char := cursor.rest.head?

/-- The character some places further. -/
def peekAt (cursor : Cursor) (n : Nat) : Option Char := cursor.rest[n]?

/-- The place behind the next character. -/
def next (cursor : Cursor) : Cursor :=
  match cursor.rest with
  | [] => cursor
  | c :: rest =>
      let index := cursor.index + 1
      if isBreak c then { rest, index, line := cursor.line + 1, column := 0 }
      else if c == byteOrderMark then { cursor with rest, index }
      else { cursor with rest, index, column := cursor.column + 1 }

/-- The place some characters further. -/
def skip (cursor : Cursor) : Nat → Cursor
  | 0 => cursor
  | n + 1 => cursor.next.skip n

/-- The longest run of characters of a kind, and the place behind it. -/
def span (cursor : Cursor) (kind : Char → Bool) : List Char × Cursor :=
  let run := cursor.rest.takeWhile kind
  (run, cursor.skip run.length)

/-- The place behind a run of characters of a kind. -/
def skipWhile (cursor : Cursor) (kind : Char → Bool) : Cursor := (cursor.span kind).2

/-- The place behind a run of spaces. -/
def skipSpaces (cursor : Cursor) : Cursor := cursor.skipWhile fun c => c == ' '

/-- What a line break here is read as, and the place behind it. -/
def lineBreak? (cursor : Cursor) : Option (Char × Cursor) :=
  match cursor.rest with
  | c :: _ => if isBreak c then some (breakText c, cursor.next) else none
  | [] => none

/-- The next character is of a kind. -/
def sees (cursor : Cursor) (kind : Char → Bool) : Bool := cursor.peek.any kind

/-- The next character is the given one. -/
def seesChar (cursor : Cursor) (c : Char) : Bool := cursor.peek == some c

/-- Nothing is left. -/
def atEnd (cursor : Cursor) : Bool := cursor.rest.isEmpty

/-- The line ends here. -/
def atLineEnd (cursor : Cursor) : Bool := cursor.peek.all isBreak

/-- A space, a line break or the end. -/
def atSpace (cursor : Cursor) : Bool := cursor.peek.all fun c => c == ' ' || isBreak c

/-- A space, a tab, a line break or the end stands some places further. -/
def gapAt (cursor : Cursor) (n : Nat) : Bool :=
  (cursor.peekAt n).all fun c => isGap c || isBreak c

/-- Three times the character, with a gap behind. -/
def seesMarker (cursor : Cursor) (c : Char) : Bool :=
  cursor.rest.take 3 == [c, c, c] && cursor.gapAt 3

/-- The start or the end of a document is marked here. -/
def seesSeparator (cursor : Cursor) : Bool := cursor.seesMarker '-' || cursor.seesMarker '.'

/-- The place behind the spaces and the comment at the end of a line. -/
def skipComment (cursor : Cursor) : Cursor :=
  let cursor := cursor.skipSpaces
  if cursor.seesChar '#' then cursor.skipWhile fun c => !isBreak c else cursor

/-- The place behind a line of which only spaces and a comment are left. -/
def finishLine (cursor : Cursor) : Read Cursor :=
  let cursor := cursor.skipComment
  if cursor.atEnd then .ok cursor
  else match cursor.lineBreak? with
    | some (_, next) => .ok next
    | none => malformed

end Cursor

end DesignTokens.Yaml
