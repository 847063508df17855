import DesignTokens.Stylesheet.Filling
import DesignTokens.Stylesheet.Format

/-!
# Building a stylesheet

The brand palette, the semantic tree and the scales fill the light set, the semantic tree
alone fills the dark one. The stylesheet is the header and one block for each set.
-/

namespace DesignTokens

/-- What a stylesheet is built from. -/
structure StylesheetSource where
  store : TokenStore
  brand : Option BrandTheme := none
  indent : String := defaultIndent

/-- Both variable sets of a stylesheet. -/
structure VariableSets where
  light : VariableSet
  dark : VariableSet
deriving Repr, DecidableEq

namespace VariableSets

/-- The number of declarations in both blocks. -/
def count (sets : VariableSets) : Nat := sets.light.size + sets.dark.size

/-- The tokens that are left out of either block. -/
def skipped (sets : VariableSets) : List SkippedToken := sets.light.skipped ++ sets.dark.skipped

/-- The set of a theme. -/
def forTheme (sets : VariableSets) : Theme → VariableSet
  | .light => sets.light
  | .dark => sets.dark

end VariableSets

/-- Why no stylesheet is made. -/
inductive BuildError where
  | filling (error : FillingError)
  | header (error : HeaderError)
deriving Repr, DecidableEq

/-- The wording of a build error. -/
def BuildError.message : BuildError → String
  | filling error => error.message
  | header error => error.message

/-- A palette with the colors of another one written over it, family by family. -/
def mergePalettes (base added : Palette) : Palette :=
  added.foldl (fun acc family =>
    acc.put family.1 (((Entries.get? acc family.1).getD []).putAll family.2)) base

namespace StylesheetSource

/-- What the tokens are resolved against. -/
def resolver (source : StylesheetSource) : Resolver :=
  { store := source.store, brand := source.brand }

/-- The brand palette of the store with the brand theme written over it. -/
def brandPalette (source : StylesheetSource) : Palette :=
  match source.brand with
  | none => source.store.brand
  | some brand => mergePalettes source.store.brand brand.brand

/-- Fills both variable sets. -/
def build (source : StylesheetSource) : Except FillingError VariableSets := do
  let light ← VariableSet.flattenBrand { theme := .light } source.brandPalette
  let light ← source.resolver.traverse source.store.semantic [] .light light
  let dark ← source.resolver.traverse source.store.semantic [] .dark { theme := .dark }
  let light ← light.flattenScales source.store
  return { light, dark }

/-- What is told while the sets are filled. -/
def buildNotices (source : StylesheetSource) (sets : VariableSets) : List Notice :=
  source.resolver.traverseNotices source.store.semantic [] .light ++
    source.resolver.traverseNotices source.store.semantic [] .dark ++
    if sets.skipped.isEmpty then []
    else [⟨.info, s!"Skipped {sets.skipped.length} unresolvable token(s)"⟩]

/-- The selector of a theme's block. -/
def selector : Theme → String
  | .light => ":root,\n[data-theme=\"light\"]"
  | .dark => "[data-theme=\"dark\"]"

/-- The text of the stylesheet with the given sets. -/
def render (source : StylesheetSource) (sets : VariableSets) (generatedAt : Moment) :
    Except HeaderError String := do
  let header ← formatHeader generatedAt (source.brand.map BrandTheme.name)
  let block (theme : Theme) :=
    formatBlock (selector theme) (sets.forTheme theme).entries source.indent
  return "\n\n".intercalate [header, block .light, block .dark] ++ "\n"

/-- Builds the sets and writes the stylesheet. -/
def generate (source : StylesheetSource) (generatedAt : Moment) : Except BuildError String := do
  let sets ← source.build.mapError .filling
  (source.render sets generatedAt).mapError .header

end StylesheetSource

/-! ## Measures of a stylesheet -/

/-- How often one text occurs in another from the left, without overlap; `skip` characters
belong to an occurrence that has been counted. -/
def countFrom (part : List Char) (skip : Nat) : List Char → Nat
  | [] => 0
  | c :: rest =>
      match skip with
      | left + 1 => countFrom part left rest
      | 0 =>
          if part.isPrefixOf (c :: rest) then countFrom part (part.length - 1) rest + 1
          else countFrom part 0 rest

/-- The number of custom properties that a stylesheet names. -/
def countVariables (css : String) : Nat := countFrom variablePrefix.toList 0 css.toList

/-- A quotient rounded to the nearest whole number, a tie to the even one. -/
def roundDiv (num den : Nat) : Nat :=
  let low := num / den
  let rest := num % den
  if 2 * rest < den || (2 * rest == den && low % 2 == 0) then low else low + 1

/-- The size of a stylesheet in hundredths of 1024 characters. -/
def sizeHundredths (css : String) : Nat := roundDiv (css.length * 100) 1024

/-- A number of hundredths with two places. -/
def hundredthsText (n : Nat) : String := s!"{n / 100}.{padded 2 (n % 100)}"

end DesignTokens
