import DesignTokens.Store.Basic

/-!
# Listing token paths

A listing shows the dotted paths of the tokens of a store, all of them or those at and
below one path.
-/

namespace DesignTokens

/-- A dotted path is the given one or lies below it. -/
def liesUnder (above path : String) : Bool :=
  path == above || (above ++ ".").toList.isPrefixOf path.toList

/-- The dotted paths of a store at and below a path; the empty path and no path stand for
all of them. -/
def TokenStore.pathsUnder (store : TokenStore) (above : Option String) : List String :=
  match above with
  | none => store.semanticPaths
  | some path =>
      if path = "" then store.semanticPaths else store.semanticPaths.filter (liesUnder path)

end DesignTokens
