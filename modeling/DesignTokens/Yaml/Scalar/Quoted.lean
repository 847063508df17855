import DesignTokens.Number.Reading
import DesignTokens.Yaml.Token

/-!
# Quoted scalars

Between single quotes a doubled quote is the only escape; between double quotes a backslash
starts one. Line breaks are folded as in plain scalars, and a document must not be marked to
start or end inside.
-/

namespace DesignTokens.Yaml

/-- The escapes of one character. -/
def shortEscapes : List (Char × Char) :=
  [('0', '\x00'), ('a', '\x07'), ('b', '\x08'), ('t', '\t'), ('\t', '\t'), ('n', '\n'),
    ('v', '\x0b'), ('f', '\x0c'), ('r', '\r'), ('e', '\x1b'), (' ', ' '), ('"', '"'),
    ('\\', '\\'), ('/', '/'), ('N', '\x85'), ('_', '\xa0'), ('L', '\u2028'), ('P', '\u2029')]

/-- The number of hexadecimal digits behind the mark of a numeric escape. -/
def escapeWidth? (c : Char) : Option Nat :=
  if c == 'x' then some 2 else if c == 'u' then some 4 else if c == 'U' then some 8 else none

/-- The character of a code point, which may be a lone surrogate. -/
def charOfCode (n : Nat) : Read Char :=
  if 0x7fffffff < n then .error .codeTooLarge
  else if 0x10ffff < n then .error .noCodePoint
  else if Text.isSurrogate n then .ok (Text.surrogateChar n)
  else .ok (Char.ofNat n)

/-- The empty lines from here on. -/
def quotedBreaks : Nat → Cursor → Read (List Char × Cursor)
  | 0, cursor => .ok ([], cursor)
  | fuel + 1, cursor =>
      if cursor.seesSeparator then malformed
      else
        let cursor := cursor.skipWhile isGap
        match cursor.lineBreak? with
        | none => .ok ([], cursor)
        | some (c, next) => do
            let (breaks, behind) ← quotedBreaks fuel next
            return (c :: breaks, behind)

/-- What an escape behind a backslash is read as. -/
def scanEscape (cursor : Cursor) : Read (List Char × Cursor) :=
  match cursor.peek with
  | none => .error .unfinished
  | some c =>
      match shortEscapes.lookup c with
      | some d => .ok ([d], cursor.next)
      | none =>
          match escapeWidth? c with
          | some width =>
              let digits := cursor.next.rest.take width
              if digits.length < width then .error .unfinished
              else match Number.readNat? 16 digits with
                | none => malformed
                | some n => do return ([← charOfCode n], cursor.next.skip width)
          | none =>
              match cursor.lineBreak? with
              | none => malformed
              | some (_, next) => quotedBreaks (next.rest.length + 1) next

/-- What a gap inside a quoted scalar is read as. -/
def quotedGap (cursor : Cursor) : Read (List Char × Cursor) :=
  let (gap, behind) := cursor.span isGap
  if behind.atEnd then .error .unfinished
  else match behind.lineBreak? with
    | none => .ok (gap, behind)
    | some (c, next) => do
        let (breaks, last) ← quotedBreaks (next.rest.length + 1) next
        let first := if c != '\n' then [c] else if breaks.isEmpty then [' '] else []
        return (first ++ breaks, last)

/-- A quoted scalar from here on, up to its end quote. -/
def quotedFrom (double : Bool) : Nat → Cursor → Read (List Char × Cursor)
  | 0, _ => malformed
  | fuel + 1, cursor => do
      let quote := if double then '"' else '\''
      match cursor.rest with
      | [] => .error .unfinished
      | c :: rest =>
          if c == quote then
            if !double && rest.head? == some '\'' then
              let (text, behind) ← quotedFrom double fuel (cursor.skip 2)
              return ('\'' :: text, behind)
            else return ([], cursor.next)
          else
            let (part, next) ←
              if double && c == '\\' then scanEscape cursor.next
              else if isGap c || isBreak c then quotedGap cursor
              else .ok ([c], cursor.next)
            let (text, behind) ← quotedFrom double fuel next
            return (part ++ text, behind)

/-- The quoted scalar at a place and what lies behind it. -/
def scanQuoted (double : Bool) (cursor : Cursor) : Read (Token × Cursor) := do
  let (text, behind) ← quotedFrom double (cursor.rest.length + 1) cursor.next
  return (.scalar (String.ofList text) false, behind)

end DesignTokens.Yaml
