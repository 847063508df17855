import DesignTokens.Yaml.Token

/-!
# Block scalars

The header of a block scalar may give its indentation and say whether the line breaks at the
end are dropped, kept to one, or all kept. A literal scalar keeps its line breaks; a folded
one reads a single break between two lines that start with text as a space.
-/

namespace DesignTokens.Yaml

/-- What becomes of the line breaks at the end. -/
inductive Chomping where
  | clip
  | strip
  | keep
deriving Repr, DecidableEq

/-- The header of a block scalar. -/
structure BlockHeader where
  chomping : Chomping := .clip
  /-- The indentation relative to the block around, if it is given. -/
  indent : Option Nat := none

/-- A mark for the line breaks at the end. -/
def chompingMark? (cursor : Cursor) : Option Chomping :=
  match cursor.peek with
  | some '+' => some .keep
  | some '-' => some .strip
  | _ => none

/-- A digit for the indentation, which must not be zero. -/
def indentMark? (cursor : Cursor) : Read (Option Nat) :=
  match cursor.peek with
  | some c =>
      if '1' ≤ c && c ≤ '9' then .ok (some (c.toNat - 0x30))
      else if c == '0' then malformed
      else .ok none
  | none => .ok none

/-- The header at a place and what lies behind it: a mark and a digit in either order. -/
def scanBlockHeader (cursor : Cursor) : Read (BlockHeader × Cursor) := do
  let (header, behind) ← match chompingMark? cursor with
    | some chomping => do
        let indent ← indentMark? cursor.next
        pure ({ chomping, indent : BlockHeader },
          if indent.isSome then cursor.next.next else cursor.next)
    | none => do
        match ← indentMark? cursor with
        | none => pure ({}, cursor)
        | some n =>
            match chompingMark? cursor.next with
            | some chomping => pure ({ chomping, indent := some n }, cursor.next.next)
            | none => pure ({ indent := some n }, cursor.next)
  if behind.atSpace then return (header, behind) else malformed

/-- The line breaks before the first line with text, the deepest column of a space on the
way, and the place behind. -/
def leadingBreaks : Nat → Nat → Cursor → List Char × Nat × Cursor
  | 0, deepest, cursor => ([], deepest, cursor)
  | fuel + 1, deepest, cursor =>
      if cursor.seesChar ' ' then leadingBreaks fuel (max deepest cursor.next.column) cursor.next
      else match cursor.lineBreak? with
        | none => ([], deepest, cursor)
        | some (c, next) =>
            let (breaks, deepest, behind) := leadingBreaks fuel deepest next
            (c :: breaks, deepest, behind)

/-- The place behind at most the spaces of the indentation. -/
def skipIndent (indent : Nat) : Nat → Cursor → Cursor
  | 0, cursor => cursor
  | fuel + 1, cursor =>
      if cursor.column < indent && cursor.seesChar ' ' then skipIndent indent fuel cursor.next
      else cursor

/-- The empty lines from here on, and the place behind them. -/
def blockBreaks (indent : Nat) : Nat → Cursor → List Char × Cursor
  | 0, cursor => ([], cursor)
  | fuel + 1, cursor =>
      let cursor := skipIndent indent indent cursor
      match cursor.lineBreak? with
      | none => ([], cursor)
      | some (c, next) =>
          let (breaks, behind) := blockBreaks indent fuel next
          (c :: breaks, behind)

/-- The lines of a block scalar from here on, with the empty lines before them, and the
line breaks at the end: that of the last line and those of the empty lines behind it. -/
def blockLines (folded : Bool) (indent : Nat) :
    Nat → List Char → Cursor → List Char × List Char × List Char × Cursor
  | 0, breaks, cursor => ([], [], breaks, cursor)
  | fuel + 1, breaks, cursor =>
      if cursor.column != indent || cursor.atEnd then ([], [], breaks, cursor)
      else
        let startsWithText := !cursor.sees isGap
        let (line, behind) := cursor.span fun c => !isBreak c
        let (lineBreak, next) := match behind.lineBreak? with
          | some (c, next) => ([c], next)
          | none => ([], behind)
        let (more, start) := blockBreaks indent (next.rest.length + 1) next
        if start.column == indent && !start.atEnd then
          let join :=
            if folded && lineBreak == ['\n'] && startsWithText && !start.sees isGap then
              if more.isEmpty then [' '] else []
            else lineBreak
          let (others, final, tail, last) := blockLines folded indent fuel more start
          (breaks ++ line ++ join ++ others, final, tail, last)
        else (breaks ++ line, lineBreak, more, start)

/-- The block scalar at a place inside a block of the given indentation. -/
def scanBlock (folded : Bool) (blockIndent : Int) (cursor : Cursor) : Read (Token × Cursor) := do
  let (header, behind) ← scanBlockHeader cursor.next
  let start ← behind.finishLine
  let least := max 1 (blockIndent + 1).toNat
  let fuel := start.rest.length + 1
  let (breaks, indent, first) := match header.indent with
    | none =>
        let (breaks, deepest, first) := leadingBreaks fuel 0 start
        (breaks, max least deepest, first)
    | some n =>
        let indent := least + n - 1
        let (breaks, first) := blockBreaks indent fuel start
        (breaks, indent, first)
  let (text, lineBreak, tail, last) := blockLines folded indent fuel breaks first
  let ending := match header.chomping with
    | .strip => []
    | .clip => lineBreak
    | .keep => lineBreak ++ tail
  return (.scalar (String.ofList (text ++ ending)) false, last)

end DesignTokens.Yaml
