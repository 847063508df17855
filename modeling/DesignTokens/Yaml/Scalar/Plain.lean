import DesignTokens.Yaml.Token

/-!
# Plain scalars

A plain scalar goes on over spaces and line breaks as long as its lines are indented enough.
One line break between two lines becomes a space, more of them keep all but the first.
-/

namespace DesignTokens.Yaml

/-- The characters that end a plain scalar inside brackets. -/
def flowMarks : List Char := [',', '?', '[', ']', '\x7b', '\x7d']

/-- The characters that make a colon before them end a plain scalar inside brackets. -/
def flowMarksBehindColon : List Char := [',', '[', ']', '\x7b', '\x7d']

/-- A colon with this text behind it ends a plain scalar. -/
def endsAtColon (inFlow : Bool) (rest : List Char) : Bool :=
  match rest with
  | [] => true
  | c :: _ => isGap c || isBreak c || (inFlow && flowMarksBehindColon.contains c)

/-- The characters of a plain scalar up to the next gap. -/
def plainRun (inFlow : Bool) : List Char → List Char
  | [] => []
  | c :: rest =>
      if isGap c || isBreak c || (c == ':' && endsAtColon inFlow rest) ||
          (inFlow && flowMarks.contains c) then []
      else c :: plainRun inFlow rest

/-- The line breaks from here on, over spaces, and the place behind them; nothing when a
document is marked to start or end on the way. -/
def plainBreaks : Nat → Cursor → Option (List Char × Cursor)
  | 0, cursor => some ([], cursor)
  | fuel + 1, cursor =>
      if cursor.seesChar ' ' then plainBreaks fuel cursor.next
      else match cursor.lineBreak? with
        | none => some ([], cursor)
        | some (c, next) =>
            if next.seesSeparator then none
            else (plainBreaks fuel next).map fun (breaks, behind) => (c :: breaks, behind)

/-- What a gap inside a plain scalar is read as, the place behind it, and whether a line has
ended. -/
def plainGap (cursor : Cursor) : List Char × Cursor × Bool :=
  let (spaces, behind) := cursor.span fun c => c == ' '
  match behind.lineBreak? with
  | none => (spaces, behind, false)
  | some (c, next) =>
      if next.seesSeparator then ([], next, true)
      else match plainBreaks (next.rest.length + 1) next with
        | none => ([], next.skipWhile fun c => c == ' ' || isBreak c, true)
        | some (breaks, last) =>
            let first := if c != '\n' then [c] else if breaks.isEmpty then [' '] else []
            (first ++ breaks, last, true)

/-- A plain scalar from here on behind the text `before`. The last part tells whether a line
has ended behind the last character. -/
def plainFrom (inFlow : Bool) (indent : Int) :
    Nat → List Char → Bool → Cursor → List Char × Cursor × Bool
  | 0, _, ended, cursor => ([], cursor, ended)
  | fuel + 1, before, ended, cursor =>
      let run := plainRun inFlow cursor.rest
      if cursor.seesChar '#' || run.isEmpty then ([], cursor, ended)
      else
        let (gap, behind, lineEnded) := plainGap (cursor.skip run.length)
        let here := before ++ run
        if gap.isEmpty || behind.seesChar '#' || (!inFlow && behind.column < indent) then
          (here, behind, lineEnded)
        else
          let (others, last, ended) := plainFrom inFlow indent fuel gap lineEnded behind
          (here ++ others, last, ended)

/-- The plain scalar at a place, what lies behind it, and whether a line has ended there. -/
def scanPlain (inFlow : Bool) (indent : Int) (cursor : Cursor) : Token × Cursor × Bool :=
  let (text, behind, ended) :=
    plainFrom inFlow indent (cursor.rest.length + 1) [] false cursor
  (.scalar (String.ofList text) true, behind, ended)

end DesignTokens.Yaml
