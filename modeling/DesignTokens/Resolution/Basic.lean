import DesignTokens.Notice
import DesignTokens.Store.Brand
import DesignTokens.Token.Value

/-!
# Resolution of a token

A resolver follows the text of a token until a literal is reached. `target` says what a
reference points at: an entry of the brand palette, an entry of the raw palettes, or another
token. `resolveText` takes a number of remaining steps and gives up when none is left, so a
cycle of references fails like a chain that is too long. References inside a gradient are
resolved in their places.
-/

namespace DesignTokens

/-- Why a token has no value. -/
inductive ResolutionCause where
  | pathNotFound (path : String)
  | notALeaf (path : String)
  | themeNotDefined (theme : Theme) (path : String)
  | referenceNotFound (reference : String)
  | aliasTooDeep (limit : Int)
  | emptyValue
  /-- A cause that is stated by the caller. -/
  | stated (message : String)
deriving Repr, DecidableEq

/-- A failed resolution: the cause, and the path and theme that were asked for. -/
structure ResolutionError where
  cause : ResolutionCause
  path : String := ""
  theme : Option Theme := none
deriving Repr, DecidableEq

/-- The wording of a failed resolution. -/
def ResolutionError.message (error : ResolutionError) : String :=
  match error.cause with
  | .pathNotFound path => s!"Token path '{path}' not found."
  | .notALeaf path => s!"Token path '{path}' is a group, not a value."
  | .themeNotDefined theme path => s!"Theme '{theme.name}' not defined for token '{path}'."
  | .referenceNotFound reference =>
      s!"Reference '{reference}' not found (from token '{error.path}')."
  | .aliasTooDeep limit =>
      s!"Alias chain for '{error.path}' exceeds {Number.intText limit} levels (cyclic reference?)."
  | .emptyValue => s!"Token '{error.path}' resolved to an empty value."
  | .stated message => message

/-- The outcome of resolving one path in one theme. -/
structure Resolution where
  path : String
  theme : Theme
  value : Option String := none
  error : Option ResolutionError := none
deriving Repr, DecidableEq

namespace Resolution

/-- A value was found and nothing failed. -/
def ok (resolution : Resolution) : Bool :=
  resolution.error.isNone && resolution.value.isSome

/-- The value, or why there is none. -/
def unwrap (resolution : Resolution) : Except ResolutionError String :=
  match resolution.error, resolution.value with
  | some error, _ => .error error
  | none, some value => .ok value
  | none, none => .error ⟨.emptyValue, resolution.path, some resolution.theme⟩

/-- What is told of a resolution that failed. -/
def notices (resolution : Resolution) : List Notice :=
  match resolution.error with
  | none => []
  | some error =>
      [⟨.debug, s!"Could not resolve '{resolution.path}' ({resolution.theme.name}): " ++
        error.message⟩]

end Resolution

/-- Chains of references that are longer count as cycles. -/
def maxAliasDepth : Int := 8

/-- What tokens are resolved against. -/
structure Resolver where
  store : TokenStore
  brand : Option BrandTheme := none
  /-- The number of references that may be followed one after the other. -/
  maxDepth : Int := maxAliasDepth

/-- Replaces the references of a gradient and keeps its other characters. -/
def expandPieces {ε : Type} (resolve : List Char → Except ε String) :
    List Piece → Except ε (List Char)
  | [] => .ok []
  | .char c :: rest => (expandPieces resolve rest).map (c :: ·)
  | .reference name :: rest =>
      match resolve name with
      | .error e => .error e
      | .ok value => (expandPieces resolve rest).map (value.toList ++ ·)

/-- The start of a reference that leads to a token past all palettes. -/
def semanticStart : String := "semantic."

/-- A reference without the start that names the semantic tree. -/
def withoutSemantic (reference : String) : String :=
  let cs := reference.toList
  let start := semanticStart.toList
  if start.isPrefixOf cs then String.ofList (cs.drop start.length) else reference

namespace Resolver

/-- The color of a family and shade, the brand theme going before the store. -/
def brandColor? (resolver : Resolver) (family shade : String) : Option String :=
  let own := resolver.brand.bind fun brand => TokenStore.paletteColor? brand.brand family shade
  own.or (TokenStore.paletteColor? resolver.store.brand family shade)

/-- The text of the token at a dotted path in a theme. -/
def textAt (resolver : Resolver) (theme : Theme) (path : String) :
    Except ResolutionCause String :=
  match resolver.store.find? (splitDotted path) with
  | none => .error (.pathNotFound path)
  | some (.group _) => .error (.notALeaf path)
  | some (.leaf leaf) =>
      match leaf.textFor theme with
      | some text => .ok text
      | none => .error (.themeNotDefined theme path)

/-- The color that a reference names, if it names one. -/
def colorTarget? (resolver : Resolver) (reference : String) : Option String :=
  match Text.splitText '.' reference with
  | ["brand", family, shade] => resolver.brandColor? family shade
  | [_, _] => resolver.store.lookupColor? reference
  | _ => none

/-- The text that a reference points at. -/
def target (resolver : Resolver) (theme : Theme) (reference : String) :
    Except ResolutionCause String :=
  match resolver.colorTarget? reference with
  | some color => .ok color
  | none =>
      let path := withoutSemantic reference
      if (resolver.store.find? (splitDotted path)).isSome then resolver.textAt theme path
      else .error (.referenceNotFound reference)

/-- The literal that a text stands for, with a number of steps left. -/
def resolveText (resolver : Resolver) (theme : Theme) :
    Nat → String → Except ResolutionCause String
  | 0, _ => .error (.aliasTooDeep resolver.maxDepth)
  | steps + 1, raw =>
      let value := Text.strip raw
      if value == "" then .error .emptyValue
      else if isGradient value then
        (expandPieces (fun name =>
          match resolver.target theme (String.ofList name) with
          | .error cause => .error cause
          | .ok next => resolveText resolver theme steps next) (pieces value.toList)).map
          String.ofList
      else if isReference value then
        match resolver.target theme value with
        | .error cause => .error cause
        | .ok next => resolveText resolver theme steps next
      else .ok value

/-- The number of texts that may be looked at one after the other. -/
def steps (resolver : Resolver) : Nat := (resolver.maxDepth + 1).toNat

/-- The literal of the token at a dotted path. -/
def resolvePath (resolver : Resolver) (theme : Theme) (path : String) :
    Except ResolutionCause String :=
  match resolver.textAt theme path with
  | .error cause => .error cause
  | .ok text => resolver.resolveText theme resolver.steps text

/-- Resolves a token path in a theme. -/
def resolve (resolver : Resolver) (path : TokenPath) (theme : Theme) : Resolution :=
  match resolver.resolvePath theme path.key with
  | .ok value => { path := path.key, theme, value := some value }
  | .error cause => { path := path.key, theme, error := some ⟨cause, path.key, some theme⟩ }

/-- The value of a token, or why there is none. -/
def resolveValue (resolver : Resolver) (path : TokenPath) (theme : Theme) :
    Except ResolutionError String := (resolver.resolve path theme).unwrap

/-- Resolves for use at render time. With a text to fall back on, a failure gives that text
and a warning. -/
def resolveOr (resolver : Resolver) (theme : Theme) (fallback : Option String) (path : String) :
    Except ResolutionError String × List Notice :=
  let result := resolver.resolve path theme
  match result.unwrap, fallback with
  | .ok value, _ => (.ok value, [])
  | .error error, none => (.error error, result.notices)
  | .error error, some text =>
      (.ok text, result.notices ++
        [⟨.warning, s!"Falling back to {text} for '{path}': {error.message}"⟩])

end Resolver

end DesignTokens
