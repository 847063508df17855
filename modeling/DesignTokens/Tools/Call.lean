import DesignTokens.Entries
import DesignTokens.Store.Basic

/-!
# Calls of tools

A tool is called by name with named texts. What is left out takes the value that the tool
falls back on: the built-in store, the light theme, no brand theme.
-/

namespace DesignTokens

/-- A call of one of the tools. -/
inductive ToolCall where
  | listStores
  | describeStore (name : String)
  | listPaths (store : String) (above : Option String)
  | resolve (path theme store : String) (brand : Option String)
  | copyStore (name : String)
  | generateStylesheet (store : String) (brand : Option String)
  | writeStylesheet (store : String) (brand : Option String) (outputName : String)
deriving Repr, DecidableEq

/-- The name under which the tools are served. -/
def serverName : String := "mond-tokens"

namespace ToolCall

/-- The names of the tools in order. -/
def toolNames : List String :=
  ["tokens_copy_store_to_project", "tokens_describe_store", "tokens_generate_css",
    "tokens_list_paths", "tokens_list_stores", "tokens_resolve", "tokens_write_css"]

/-- The call of the tool of a name with the given texts, if there is such a tool and nothing
that it needs is left out. -/
def ofArguments? (tool : String) (arguments : Entries String) : Option ToolCall :=
  let given := Entries.get? arguments
  let textOr (name default : String) := (given name).getD default
  let store := textOr "store" defaultStoreName
  let name := textOr "name" defaultStoreName
  match tool with
  | "tokens_list_stores" => some .listStores
  | "tokens_describe_store" => some (.describeStore name)
  | "tokens_list_paths" => some (.listPaths store (given "prefix"))
  | "tokens_resolve" =>
      (given "path").map fun path =>
        .resolve path (textOr "theme" Theme.light.name) store (given "brand")
  | "tokens_copy_store_to_project" => some (.copyStore name)
  | "tokens_generate_css" => some (.generateStylesheet store (given "brand"))
  | "tokens_write_css" =>
      some (.writeStylesheet store (given "brand") (textOr "output_name" "theme"))
  | _ => none

end ToolCall

end DesignTokens
