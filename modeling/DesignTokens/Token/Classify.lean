import DesignTokens.Source.Datum
import DesignTokens.Text.Blank
import DesignTokens.Token.Path

/-!
# Classification of a token source

A text or a number is a plain token. A mapping is a token with one value for each theme
when it has a key named like a theme and all such keys hold texts or numbers; it must then
have no other key. Any other mapping is a group. Blank values are refused, and so is
whatever is neither a text, a number nor a mapping. Names are written as text before
anything else, and numbers where they are met.
-/

namespace DesignTokens

/-- Why a part of a token source is no tree. -/
inductive NodeError where
  /-- The value of a plain token is blank. -/
  | emptyValue (path : List String)
  /-- The value of a token is blank in one theme. -/
  | emptyThemeValue (theme : Theme) (path : List String)
  /-- A token with values for the themes has other keys too. -/
  | unexpectedKeys (path : List String) (keys : List String)
  /-- Neither a text, a number nor a mapping. -/
  | unsupported (kind : String) (path : List String)
  /-- A name or a number cannot be written as text. -/
  | unwritable (reason : Unwritable)
deriving Repr, DecidableEq

/-- How a path is called in messages. -/
def describePath (path : List String) : String :=
  let dotted := joinDotted path
  if dotted == "" then "<root>" else dotted

/-- The wording of a classification error. -/
def NodeError.message : NodeError → String
  | emptyValue path => s!"Empty token value at '{describePath path}'"
  | emptyThemeValue theme path => s!"Empty '{theme.name}' value at '{describePath path}'"
  | unexpectedKeys path keys =>
      s!"Theme-variant token '{describePath path}' has unexpected keys: " ++ Text.quotedList keys
  | unsupported kind path => s!"Unsupported token value of type {kind} at '{describePath path}'"
  | unwritable reason => reason.message

namespace Node

/-- The themes that a mapping has a key for, with what they hold. -/
def themeEntries (entries : List (Scalar × Datum)) : List (Theme × Datum) :=
  Theme.all.filterMap fun theme => (Datum.lookup theme.name entries).map (theme, ·)

/-- A mapping that is one token: some theme has a key, and every such key holds a text or a
number. -/
def isVariantSource (entries : List (Scalar × Datum)) : Bool :=
  let themed := themeEntries entries
  !themed.isEmpty && themed.all fun entry => entry.2.tokenText?.isSome

/-- The names of a mapping that are not themes, in order and each once. -/
def extraKeys (entries : List (Scalar × Datum)) : List String :=
  let names := entries.map fun entry => entry.1.nameText
  sortNames (names.filter fun name => (Theme.ofName? name).isNone).eraseDups

/-- What a mapping holds for a theme. -/
def themeText? (entries : List (Scalar × Datum)) (theme : Theme) : Option String :=
  (Datum.lookup theme.name entries).bind Datum.tokenText?

/-- The token of a mapping that is one. -/
def buildVariant (path : List String) (entries : List (Scalar × Datum)) :
    Except NodeError Leaf :=
  let extra := extraKeys entries
  if !extra.isEmpty then .error (.unexpectedKeys path extra)
  else if (themeEntries entries).any fun entry => entry.2.unwritable?.isSome then
    .error (.unwritable .tooLong)
  else
    let blank := Theme.all.find? fun theme => (themeText? entries theme).any Text.isBlankText
    match blank with
    | some theme => .error (.emptyThemeValue theme path)
    | none => .ok (.variant (themeText? entries .light) (themeText? entries .dark))

mutual

/-- The tree of a datum that lies at `path`. -/
def build (path : List String) : Datum → Except NodeError Node
  | .node tree => .ok tree
  | .scalar value =>
      match value.tokenText? with
      | some text =>
          if !value.isWritable then .error (.unwritable .tooLong)
          else if Text.isBlankText text then .error (.emptyValue path)
          else .ok (leaf (.plain text))
      | none => .error (.unsupported value.kind path)
  | .map entries =>
      if entries.any fun entry => !entry.1.isWritable then .error (.unwritable .tooLong)
      else if isVariantSource entries then (buildVariant path entries).map leaf
      else (buildChildren path entries).map fun children => group (Entries.ofList children)
  | .list _ => .error (.unsupported "list" path)
  | .set _ => .error (.unsupported "set" path)
  | .endless => .error (.unwritable .endless)

/-- The trees of the entries of a mapping that lies at `path`. -/
def buildChildren (path : List String) :
    List (Scalar × Datum) → Except NodeError (List (String × Node))
  | [] => .ok []
  | (key, value) :: rest =>
      match build (path ++ [key.nameText]) value with
      | .error e => .error e
      | .ok child =>
          match buildChildren path rest with
          | .error e => .error e
          | .ok children => .ok ((key.nameText, child) :: children)

end

/-- The entries that a leaf is written as. -/
def leafDatum : Leaf → Datum
  | .plain text => .text text
  | .variant light dark =>
      let entry (theme : Theme) (value : Option String) : Entries Datum :=
        match value with
        | some text => [(theme.name, .text text)]
        | none => []
      .ofEntries (entry .light light ++ entry .dark dark)

mutual

/-- The datum that a tree is written as. -/
def toDatum : Node → Datum
  | leaf value => leafDatum value
  | group children => .ofEntries (childrenData children)

/-- The data that the children of a group are written as. -/
def childrenData : List (String × Node) → Entries Datum
  | [] => []
  | (name, node) :: rest => (name, toDatum node) :: childrenData rest

end

end Node

end DesignTokens
