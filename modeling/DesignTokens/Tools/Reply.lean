import DesignTokens.Catalog.Basic
import DesignTokens.Stylesheet.Build

/-!
# Replies of tools

A tool replies with what it found or wrote, or with the reason why it could not.
-/

namespace DesignTokens

/-- Why a tool fails. -/
inductive ToolError where
  | storeNotFound (name : String)
  | brandNotFound (name : String)
  | unknownTheme (name : String)
  /-- A token of the given path has no value. -/
  | unresolved (path : String) (error : ResolutionError)
  | load (error : LoadError)
  | save (error : SaveError)
  | file (error : FileError)
  | build (error : BuildError)
deriving Repr, DecidableEq

/-- The wording of a failure. -/
def ToolError.message : ToolError → String
  | storeNotFound name => s!"Token store '{name}' not found."
  | brandNotFound name => s!"Brand theme '{name}' not found."
  | unknownTheme name => Theme.unknownMessage name
  | unresolved _ error => error.message
  | load error => error.message
  | save error => error.message
  | file error => error.message
  | build error => error.message

/-- The path that a failure is about, where the reply names one. -/
def ToolError.path? : ToolError → Option String
  | unresolved path _ => some path
  | _ => none

/-- What a description tells of a store. -/
structure StoreDescription where
  name : String
  description : String
  palettes : List String
  brandFamilies : List String
  semanticGroups : List String
  semanticTokens : Nat
  /-- The number of entries of each scale. -/
  scales : List (String × Nat)
deriving Repr, DecidableEq

/-- The description of a store. -/
def StoreDescription.ofStore (store : TokenStore) : StoreDescription where
  name := store.name
  description := store.description
  palettes := sortNames (Entries.keys store.colors)
  brandFamilies := sortNames (Entries.keys store.brand)
  semanticGroups := store.semantic.map Prod.fst
  semanticTokens := store.semanticPaths.length
  scales := store.staticScales.map fun scale => (scale.1, scale.2.length)

/-- What a tool answers when it does not fail. -/
inductive ToolReply where
  | stores (stores : List StoreMetadata)
  | description (store : StoreDescription)
  /-- Dotted paths with their custom properties. -/
  | paths (tokens : List (String × String))
  | resolved (path : String) (theme : Theme) (variableName value : String)
  | copied (path : Path)
  | stylesheet (lightCount darkCount : Nat) (skipped : List SkippedToken) (css : String)
  /-- A stylesheet was written; its size is in hundredths of 1024 characters. -/
  | written (path : Path) (variableCount sizeHundredths : Nat)
deriving Repr, DecidableEq

end DesignTokens
