import Std.Time.DateTime
import DesignTokens.Command.Running

/-!
# The command line

Reads what lies at the paths that the command names, runs the command on that, and then
makes the directories and writes the files that are new. The exit code is that of the
command; what it prints goes to standard output and its notices to standard error.
-/

namespace DesignTokens

/-- The moment at which the command runs, in universal time. -/
def currentMoment : IO Moment := do
  let now := Std.Time.DateTime.ofTimestampWithZone (← Std.Time.Timestamp.now) Std.Time.TimeZone.UTC
  return {
    date := ⟨now.year.toInt.toNat, now.month.val.toNat, now.day.val.toNat⟩
    hour := now.hour.val.toNat
    minute := now.minute.val.toNat
    second := now.second.val.toNat
    microsecond := now.nanosecond.val.toNat / 1000
    offset := some 0 }

/-- The directories from the root down to a place. -/
def directoriesTo (place : Place) : List (Place × FileItem) :=
  (List.range place.length).map fun n => (place.take (n + 1), .directory)

/-- The tree with what the system has at one path. -/
def lookAt (tree : FileTree) (path : Path) : IO FileTree := do
  match tree.locate path with
  | .error _ => return tree
  | .ok place =>
      let real := (← IO.currentDir) / path.text
      if (tree.item? place).isSome then return tree
      else if ← real.isDir then return tree.put place .directory
      else if ← real.pathExists then
        return tree.put place (.file (.bytes (← IO.FS.readBinFile real).toList))
      else return tree

/-- The tree with what the system has along a path. -/
def lookAlong (tree : FileTree) (path : Path) : IO FileTree :=
  (List.range (path.parts.length + 1)).foldlM
    (fun tree n => lookAt tree { path with parts := path.parts.take n }) tree

/-- The paths that a command reads or writes. -/
def Command.paths (command : Command) : List Path :=
  let inputs := command.inputs.store.toList ++ command.inputs.brand.toList
  match command with
  | .build _ output => inputs ++ output.toList
  | _ => inputs

/-- The working directory and what lies along the paths of a command. -/
def filesFor (command : Command) : IO FileTree := do
  let here := (Path.ofText (← IO.currentDir).toString).parts
  command.paths.foldlM lookAlong { items := directoriesTo here, here }

/-- Brings to the system what a tree has and another one has not. -/
def writeChanges (before after : FileTree) : IO Unit :=
  after.items.forM fun (place, item) => do
    let real := "/" ++ "/".intercalate place
    match item with
    | .directory => if (before.item? place).isNone then IO.FS.createDirAll real
    | .file (.text text) => IO.FS.writeFile real text
    | .file _ => pure ()

/-- Runs a command line and gives its exit code. -/
def runMain (arguments : List String) : IO UInt32 := do
  match Invocation.ofArguments arguments with
  | .error stop => return UInt32.ofNat stop.code
  | .ok invocation =>
      let before ← filesFor invocation.command
      let (result, after) := invocation.run (← currentMoment) before
      writeChanges before after
      match result with
      | .error error =>
          IO.eprintln error.message
          return 1
      | .ok outcome =>
          outcome.notices.forM fun notice => IO.eprintln s!"{notice.level.name} {notice.text}"
          IO.print outcome.output
          return UInt32.ofNat outcome.code

end DesignTokens

/-- Runs the command line. -/
def main (arguments : List String) : IO UInt32 := DesignTokens.runMain arguments
