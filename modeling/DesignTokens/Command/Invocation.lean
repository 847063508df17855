import DesignTokens.Command.Arguments
import DesignTokens.Files.Path
import DesignTokens.Theme

/-!
# Invocations

The command line names one of three commands: to build the stylesheet, to resolve one
token, or to list the tokens. Each of them may be given a store and a brand theme.
-/

namespace DesignTokens

/-- The token files that a command works on. -/
structure CommandInputs where
  /-- The file of the store, unless it is the built-in one. -/
  store : Option Path := none
  brand : Option Path := none
deriving Repr, DecidableEq

/-- What is to be done. -/
inductive Command where
  /-- Builds the stylesheet, if there is a place for it. -/
  | build (inputs : CommandInputs) (output : Option Path)
  /-- Resolves a token, if there is a theme for it. -/
  | resolve (inputs : CommandInputs) (path : String) (theme : Option Theme)
  | list (inputs : CommandInputs) (above : Option String)
deriving Repr, DecidableEq

/-- A command, and whether everything that it does is told. -/
structure Invocation where
  debug : Bool
  command : Command
deriving Repr, DecidableEq

namespace Command

/-- The name of a command. -/
def name : Command → String
  | build _ _ => "build"
  | resolve _ _ _ => "resolve"
  | list _ _ => "list"

/-- The token files that a command works on. -/
def inputs : Command → CommandInputs
  | build inputs _ => inputs
  | resolve inputs _ _ => inputs
  | list inputs _ => inputs

/-- Where a stylesheet goes that is given no other place. -/
def defaultOutput : String := "dist/theme.css"

/-- The options that every command has. -/
def inputRules : List OptionRule := [.free "--store", .free "--brand"]

/-- The names of the commands. -/
def names : List String := ["build", "resolve", "list"]

/-- The options of each command besides those. -/
def ownRules : String → List OptionRule
  | "build" => [.free "--output"]
  | "resolve" => [.limited "--theme" fun name => (Theme.ofName? name).isSome]
  | "list" => [.free "--prefix"]
  | _ => []

/-- The command of a name with the arguments behind it. Nothing that was given may be too
much, and a token to resolve must be named. -/
def ofArguments (name : String) (arguments : List String) : Except ArgumentStop Command := do
  let shape : OperandShape := if name == "resolve" then .single else .nothing
  if !names.contains name then .error .refused
  else
    let reading ← readArguments (inputRules ++ ownRules name) shape arguments
    let option (name : String) (default : Option String) : Option String :=
      (Entries.get? reading.options name).getD default
    let inputs : CommandInputs :=
      { store := (option "--store" none).map .ofText, brand := (option "--brand" none).map .ofText }
    if reading.excess then .error .refused
    else match name, reading.operand with
      | "build", _ => .ok (.build inputs ((option "--output" defaultOutput).map .ofText))
      | "resolve", some path =>
          .ok (.resolve inputs path ((option "--theme" Theme.light.name).bind Theme.ofName?))
      | "list", _ => .ok (.list inputs (option "--prefix" none))
      | _, _ => .error .refused

end Command

/-- The invocation of a whole command line. -/
def Invocation.ofArguments (arguments : List String) : Except ArgumentStop Invocation := do
  let reading ← readArguments [.flag "--debug"] .command arguments
  match reading.operand with
  | none => .error .refused
  | some name =>
      let command ← Command.ofArguments name reading.behind
      if reading.excess then .error .refused
      else .ok { debug := Entries.has reading.options "--debug", command }

end DesignTokens
