import DesignTokens.Yaml.Scalar.Block
import DesignTokens.Yaml.Scalar.Plain
import DesignTokens.Yaml.Scalar.Quoted
import DesignTokens.Yaml.Tag

/-!
# From text to tokens

Indentation opens and closes blocks. A scalar, an alias or a bracket may turn out to be the
key of a mapping when a colon follows on the same line, not more than 1024 characters
further; the key token, and the start of the mapping, are then put in front of it. The
lexer remembers one such candidate for each level of brackets. Where a text cannot be read
further, the tokens before that place are still of use: a fault of their order comes first.
A text is looked at in portions, so that faults of its characters do not come before the
faults of the portions before them.
-/

namespace DesignTokens.Yaml

/-- The tokens of a text in order, up to the fault if there is one. -/
structure TokenList where
  tokens : List Token
  fault : Option DocumentError := none

/-- A token that may turn out to be a key. -/
structure KeyCandidate where
  /-- The place of the token among all tokens. -/
  token : Nat
  /-- The indentation allows nothing but a key here. -/
  required : Bool
  index : Nat
  line : Nat
  column : Nat

/-- What the lexer knows at a place. -/
structure Lexer where
  cursor : Cursor
  tokens : Array Token := #[]
  /-- The number of open brackets. -/
  flow : Nat := 0
  /-- The column of the innermost block, or -1 outside all blocks. -/
  indent : Int := -1
  /-- The columns of the blocks around. -/
  outer : List Int := []
  /-- A key without a mark may start here. -/
  keyAllowed : Bool := true
  candidates : List (Nat × KeyCandidate) := []

namespace Lexer

/-- Adds a token and goes on behind it. -/
def push (lexer : Lexer) (token : Token) (cursor : Cursor) : Lexer :=
  { lexer with tokens := lexer.tokens.push token, cursor }

/-- No open bracket is around. -/
def inBlock (lexer : Lexer) : Bool := lexer.flow == 0

/-- Drops spaces, comments and line breaks; behind a line break in a block a key may start. -/
def skipBlank : Nat → Lexer → Lexer
  | 0, lexer => lexer
  | fuel + 1, lexer =>
      let start := if lexer.cursor.index == 0 && lexer.cursor.seesChar byteOrderMark
        then lexer.cursor.next else lexer.cursor
      let cursor := start.skipComment
      match cursor.lineBreak? with
      | some (_, next) =>
          skipBlank fuel
            { lexer with cursor := next, keyAllowed := lexer.keyAllowed || lexer.inBlock }
      | none => { lexer with cursor }

/-- A candidate lies on another line or too far back. -/
def isStale (lexer : Lexer) (key : KeyCandidate) : Bool :=
  key.line != lexer.cursor.line || 1024 < lexer.cursor.index - key.index

/-- Drops the candidates that are too old. -/
def dropStale (lexer : Lexer) : Read Lexer :=
  let isStale := lexer.isStale
  if lexer.candidates.any fun entry => isStale entry.2 && entry.2.required then malformed
  else .ok { lexer with candidates := lexer.candidates.filter fun entry => !isStale entry.2 }

/-- Drops the candidate of the current level. -/
def dropCandidate (lexer : Lexer) : Read Lexer :=
  match lexer.candidates.lookup lexer.flow with
  | none => .ok lexer
  | some key =>
      if key.required then malformed
      else .ok { lexer with
        candidates := lexer.candidates.filter fun entry => entry.1 != lexer.flow }

/-- Remembers that the next token may be a key. -/
def saveCandidate (lexer : Lexer) : Read Lexer :=
  if !lexer.keyAllowed then .ok lexer
  else do
    let lexer ← lexer.dropCandidate
    let cursor := lexer.cursor
    let key : KeyCandidate :=
      { token := lexer.tokens.size, required := lexer.inBlock && lexer.indent == cursor.column,
        index := cursor.index, line := cursor.line, column := cursor.column }
    return { lexer with candidates := (lexer.flow, key) :: lexer.candidates }

/-- Closes the blocks that are indented more than a column. -/
def closeBlocks (column : Int) : Nat → Lexer → Lexer
  | 0, lexer => lexer
  | fuel + 1, lexer =>
      if lexer.indent ≤ column then lexer
      else
        let tokens := lexer.tokens.push .blockEnd
        match lexer.outer with
        | indent :: outer => closeBlocks column fuel { lexer with tokens, indent, outer }
        | [] => { lexer with tokens, indent := -1 }

/-- Closes the blocks that end at a column; between brackets indentation does not matter. -/
def unwind (lexer : Lexer) (column : Int) : Lexer :=
  if lexer.inBlock then closeBlocks column (lexer.outer.length + 1) lexer else lexer

/-- Opens a block at a column unless one is open there; `place` is where its start goes among
the tokens. -/
def openBlock (lexer : Lexer) (column : Nat) (start : Token) (place : Nat) : Lexer :=
  if lexer.indent < column then
    { lexer with
      tokens := lexer.tokens.insertIdxIfInBounds place start
      outer := lexer.indent :: lexer.outer
      indent := column }
  else lexer

/-- A document starts, ends, or is about to. -/
def endDocument (lexer : Lexer) : Read Lexer := do
  let lexer ← (lexer.unwind (-1)).dropCandidate
  return { lexer with keyAllowed := false }

/-- An opening bracket. -/
def openFlow (lexer : Lexer) (token : Token) : Read Lexer := do
  let lexer ← lexer.saveCandidate
  let lexer := lexer.push token lexer.cursor.next
  return { lexer with flow := lexer.flow + 1, keyAllowed := true }

/-- A closing bracket. -/
def closeFlow (lexer : Lexer) (token : Token) : Read Lexer := do
  let lexer ← lexer.dropCandidate
  if lexer.flow == 0 then malformed
  else
    let lexer := lexer.push token lexer.cursor.next
    return { lexer with flow := lexer.flow - 1, keyAllowed := false }

/-- A comma between brackets. -/
def flowEntry (lexer : Lexer) : Read Lexer := do
  let lexer ← { lexer with keyAllowed := true }.dropCandidate
  return lexer.push .flowEntry lexer.cursor.next

/-- A mark that starts an entry of a block. -/
def blockMark (lexer : Lexer) (start token : Token) (keyAllowed : Bool) : Read Lexer := do
  if lexer.inBlock && !lexer.keyAllowed then malformed
  else
    let lexer := if lexer.inBlock
      then lexer.openBlock lexer.cursor.column start lexer.tokens.size else lexer
    let lexer ← { lexer with keyAllowed }.dropCandidate
    return lexer.push token lexer.cursor.next

/-- A colon: behind a candidate it makes a key of it, else it belongs to a marked key. -/
def valueMark (lexer : Lexer) : Read Lexer :=
  match lexer.candidates.lookup lexer.flow with
  | some key =>
      let lexer := { lexer with
        candidates := lexer.candidates.filter fun entry => entry.1 != lexer.flow
        tokens := lexer.tokens.insertIdxIfInBounds key.token .key
        keyAllowed := false }
      let lexer := if lexer.inBlock
        then lexer.openBlock key.column .blockMappingStart key.token else lexer
      .ok (lexer.push .value lexer.cursor.next)
  | none => lexer.blockMark .blockMappingStart .value lexer.inBlock

/-- A token that may be a key. -/
def keyToken (lexer : Lexer) (scan : Cursor → Read (Token × Cursor)) : Read Lexer := do
  let lexer ← lexer.saveCandidate
  let (token, behind) ← scan lexer.cursor
  return { lexer.push token behind with keyAllowed := false }

/-- A plain scalar, behind which a key may start if it ends with its line. -/
def plainToken (lexer : Lexer) : Read Lexer := do
  let lexer ← lexer.saveCandidate
  let (token, behind, ended) := scanPlain (!lexer.inBlock) (lexer.indent + 1) lexer.cursor
  return { lexer.push token behind with keyAllowed := ended }

/-- A block scalar. -/
def blockToken (lexer : Lexer) (folded : Bool) : Read Lexer := do
  let lexer ← { lexer with keyAllowed := true }.dropCandidate
  let (token, behind) ← scanBlock folded lexer.indent lexer.cursor
  return lexer.push token behind

/-- The characters that start no plain scalar. -/
def isIndicator (c : Char) : Bool :=
  "-?:,[]\x7b\x7d#&*!|>'\"%@\x60".toList.contains c

/-- A plain scalar can start here. -/
def startsPlain (lexer : Lexer) (c : Char) : Bool :=
  (!isGap c && !isIndicator c) ||
    (!lexer.cursor.gapAt 1 && (c == '-' || (lexer.inBlock && (c == '?' || c == ':'))))

/-- Reads the token that starts with the given character. -/
def step (lexer : Lexer) (c : Char) : Read Lexer :=
  let cursor := lexer.cursor
  let lineStart := cursor.column == 0
  if c == '%' && lineStart then do
    let lexer ← lexer.endDocument
    let (token, behind) ← scanDirective cursor
    return lexer.push token behind
  else if lineStart && cursor.seesMarker '-' then
    lexer.endDocument.map fun lexer => lexer.push .documentStart (cursor.skip 3)
  else if lineStart && cursor.seesMarker '.' then
    lexer.endDocument.map fun lexer => lexer.push .documentEnd (cursor.skip 3)
  else match c with
    | '[' => lexer.openFlow .flowSequenceStart
    | '\x7b' => lexer.openFlow .flowMappingStart
    | ']' => lexer.closeFlow .flowSequenceEnd
    | '\x7d' => lexer.closeFlow .flowMappingEnd
    | ',' => lexer.flowEntry
    | '*' => lexer.keyToken fun start =>
        (scanName start).map fun (name, behind) => (.alias name, behind)
    | '&' => lexer.keyToken fun start =>
        (scanName start).map fun (name, behind) => (.anchor name, behind)
    | '!' => lexer.keyToken scanTag
    | '\'' => lexer.keyToken (scanQuoted false)
    | '"' => lexer.keyToken (scanQuoted true)
    | _ =>
        if c == '-' && cursor.gapAt 1 then lexer.blockMark .blockSequenceStart .blockEntry true
        else if c == '?' && (!lexer.inBlock || cursor.gapAt 1) then
          lexer.blockMark .blockMappingStart .key lexer.inBlock
        else if c == ':' && (!lexer.inBlock || cursor.gapAt 1) then lexer.valueMark
        else if c == '|' && lexer.inBlock then lexer.blockToken false
        else if c == '>' && lexer.inBlock then lexer.blockToken true
        else if lexer.startsPlain c then lexer.plainToken
        else malformed

/-- What is read next, and nothing behind the last token. -/
def advance (lexer : Lexer) : Read (Lexer × Bool) := do
  let lexer ← (skipBlank (lexer.cursor.rest.length + 1) lexer).dropStale
  let lexer := lexer.unwind lexer.cursor.column
  match lexer.cursor.peek with
  | none => return (← (lexer.unwind (-1)).dropCandidate, false)
  | some c => return (← lexer.step c, true)

/-- The tokens that stay what they are whatever follows: those before the first one that may
still turn out to be a key. -/
def settled (lexer : Lexer) : List Token :=
  let places := (lexer.candidates.filter fun entry => !lexer.isStale entry.2).map fun entry =>
    entry.2.token
  lexer.tokens.toList.take (places.foldl min lexer.tokens.size)

/-- The tokens that are settled, and why there are no more. -/
def stop (lexer : Lexer) (fault : DocumentError) : TokenList :=
  { tokens := lexer.settled, fault := some fault }

/-- Reads tokens to the end of the text or to the first fault. Where the text goes on but
cannot be read, which `behind` then gives the reason for, a token that reaches its end is
not known. -/
def run (behind : Option DocumentError) : Nat → Lexer → TokenList
  | 0, lexer => { tokens := lexer.tokens.toList }
  | fuel + 1, lexer =>
      match lexer.advance, behind with
      | .error .unfinished, _ => lexer.stop (behind.getD .malformed)
      | .error fault, _ => lexer.stop fault
      | .ok (next, true), none => run behind fuel next
      | .ok (next, true), some fault =>
          if next.cursor.atEnd then lexer.stop fault else run behind fuel next
      | .ok (last, false), none => { tokens := last.tokens.toList }
      | .ok (_, false), some fault => lexer.stop fault

end Lexer

/-- The number of characters that are looked at together. -/
def portionSize : Nat := 0x1000

/-- The portions of a text that are whole among its first `count` characters. The first two
of them are one. -/
def wholePortions (count : Nat) (text : List Char) : List Char :=
  let portions := count / portionSize
  if portions < 2 then [] else text.take (portionSize * portions)

/-- The tokens of a text; `behind` tells why it cannot be read on, unless it ends there. -/
def tokenize (text : List Char) (behind : Option DocumentError) : TokenList :=
  let allowed := (text.takeWhile isAllowed).length
  let (text, behind) := if allowed < text.length
    then (wholePortions allowed text, some .malformed) else (text, behind)
  Lexer.run behind (text.length + 1) { cursor := { rest := text } }

end DesignTokens.Yaml
