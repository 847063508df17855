import DesignTokens.Catalog.Loading
import DesignTokens.Command.Invocation
import DesignTokens.Store.Builtin
import DesignTokens.Store.Listing
import DesignTokens.Stylesheet.Build

/-!
# Running a command

A command reads its token files, does its work on a tree of files, and ends with an exit
code, the text that it prints and the notices that it gives. A refused token file and a
system fault end it with a notice; a token file that cannot be read as text ends it without
an outcome.
-/

namespace DesignTokens

/-- Why a command ends early. -/
inductive CommandError where
  | load (error : LoadError)
  | file (error : FileError)
  | build (error : BuildError)
  /-- The stylesheet has no place to go. -/
  | noPlace
  /-- The token has no theme to be resolved for. -/
  | noTheme
deriving Repr, DecidableEq

namespace CommandError

/-- The wording of a failure. -/
def message : CommandError → String
  | load error => error.message
  | file error => error.message
  | build error => error.message
  | noPlace => "'list' object has no attribute 'parent'"
  | noTheme => "[] is not a valid Theme"

/-- The failure is told by a notice. -/
def isReported : CommandError → Bool
  | load (.refused _) => true
  | file (.system _ _) => true
  | _ => false

end CommandError

/-- How a command ends. -/
structure CommandOutcome where
  code : Nat
  output : String := ""
  notices : List Notice := []
deriving Repr, DecidableEq

/-- What a command has done so far: the notices in order, and the files as they are now. -/
structure CommandTrace where
  notices : List Notice := []
  files : FileTree

namespace Command

/-- What a stylesheet is built from, and tokens are resolved against. -/
def source (inputs : CommandInputs) (files : FileTree) :
    Except LoadError StylesheetSource := do
  let store ← match inputs.store with
    | some path => files.loadStore path
    | none => .ok Builtin.store
  let brand ← match inputs.brand with
    | some path => (files.loadBrand path).map some
    | none => .ok none
  return { store, brand }

/-- What is told of a stylesheet that has been written. -/
def buildReport (output : Path) (css : String) (skipped : List SkippedToken) : List Notice :=
  [⟨.info, s!"Generated {output.text}"⟩, ⟨.info, s!"  Variables: {countVariables css}"⟩,
    ⟨.info, s!"  Size: {hundredthsText (sizeHundredths css)} KB"⟩] ++
    skipped.map fun token => ⟨.info, s!"  Skipped: {token.path} ({token.theme.name})"⟩

/-- Builds a stylesheet and writes it, with the directories above it. -/
def runBuild (source : StylesheetSource) (output : Option Path) (time : Moment)
    (files : FileTree) : Except CommandError (Nat × String) × CommandTrace :=
  match source.build with
  | .error error => (.error (.build (.filling error)), { files })
  | .ok sets =>
      let notices := source.buildNotices sets
      match source.render sets time with
      | .error error => (.error (.build (.header error)), { notices, files })
      | .ok css =>
          match output with
          | none => (.error .noPlace, { notices, files })
          | some output =>
              match files.makeDirectories output.parent with
              | (.error error, files) => (.error (.file error), { notices, files })
              | (.ok (), files) =>
                  match files.writeText output css with
                  | (.error error, files) => (.error (.file error), { notices, files })
                  | (.ok (), files) =>
                      (.ok (0, ""),
                        { notices := notices ++ buildReport output css sets.skipped, files })

/-- Resolves one token and prints its value. -/
def runResolve (source : StylesheetSource) (path : String) (theme : Theme) :
    (Nat × String) × List Notice :=
  let resolution := source.resolver.resolve (.dotted path) theme
  match resolution.unwrap with
  | .ok value => ((0, value ++ "\n"), resolution.notices)
  | .error error => ((1, ""), resolution.notices ++ [⟨.error, error.message⟩])

/-- A line for each token with its path and its custom property. -/
def listing (store : TokenStore) (above : Option String) : String :=
  String.join ((store.pathsUnder above).map fun path =>
    path ++ "\t" ++ variableName (Text.splitText '.' path) ++ "\n")

/-- Runs a command at a given time. -/
def run (command : Command) (time : Moment) (files : FileTree) :
    Except CommandError (Nat × String) × CommandTrace :=
  match source command.inputs files with
  | .error error => (.error (.load error), { files })
  | .ok source =>
      match command with
      | .build _ output => runBuild source output time files
      | .resolve _ _ none => (.error .noTheme, { files })
      | .resolve _ path (some theme) =>
          let (result, notices) := runResolve source path theme
          (.ok result, { notices, files })
      | .list _ above => (.ok (0, listing source.store above), { files })

end Command

/-- Runs an invocation. -/
def Invocation.run (invocation : Invocation) (time : Moment) (files : FileTree) :
    Except CommandError CommandOutcome × FileTree :=
  let least := if invocation.debug then Level.debug else .info
  let (result, trace) := invocation.command.run time files
  match result with
  | .ok (code, output) =>
      (.ok { code, output, notices := noticesFrom least trace.notices }, trace.files)
  | .error error =>
      if error.isReported then
        let failure : Notice :=
          ⟨.error, s!"Failed to {invocation.command.name}: {error.message}"⟩
        (.ok { code := 1, notices := noticesFrom least (trace.notices ++ [failure]) },
          trace.files)
      else (.error error, trace.files)

/-- Runs a command line. -/
def runCommandLine (arguments : List String) (time : Moment) (files : FileTree) :
    Except CommandError CommandOutcome × FileTree :=
  match Invocation.ofArguments arguments with
  | .error stop => (.ok { code := stop.code }, files)
  | .ok invocation => invocation.run time files

end DesignTokens
