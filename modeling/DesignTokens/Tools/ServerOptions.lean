import DesignTokens.Command.Arguments
import DesignTokens.Files.Path
import DesignTokens.Number.Reading

/-!
# Options of the server

The server speaks over standard streams, or over HTTP at a numbered endpoint, and serves
the project at a path.
-/

namespace DesignTokens

/-- How the server is reached. -/
inductive Transport where
  | stdio
  /-- The number of the endpoint may be left empty. -/
  | http (endpoint : Option Int)
deriving Repr, DecidableEq

/-- What the server is started with. -/
structure ServerOptions where
  transport : Transport
  root : Option Path
  debug : Bool
deriving Repr, DecidableEq

namespace ServerOptions

/-- Where the server is reached over HTTP if no number is given. -/
def defaultEndpoint : String := "8000"

/-- The number of an endpoint as it is typed. -/
def endpoint? (text : String) : Option Int := (Number.readInteger 10 text.toList).toOption

/-- The options of the server. -/
def rules : List OptionRule :=
  [.limited "--transport" fun text => ["stdio", "http"].contains text,
    .limited "--port" fun text => (endpoint? text).isSome, .free "--root", .flag "--debug"]

/-- The options of a command line. -/
def ofArguments (arguments : List String) : Except ArgumentStop ServerOptions := do
  let reading ← readArguments rules .nothing arguments
  let option (name : String) (default : Option String) : Option String :=
    (Entries.get? reading.options name).getD default
  if reading.excess then .error .refused
  else
    let endpoint := (option "--port" defaultEndpoint).bind endpoint?
    .ok {
      transport := if option "--transport" none == some "http" then .http endpoint else .stdio
      root := (option "--root" none).map .ofText
      debug := Entries.has reading.options "--debug" }

end ServerOptions

end DesignTokens
