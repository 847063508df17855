import DesignTokens.Files.Path
import DesignTokens.Text.Quoted

/-!
# Faults of file access

What keeps a path from being read, written or made, with the number and the wording that
the operating system gives it. A path that holds a zero character or a lone surrogate is
refused before the system is asked, and a text with lone surrogates while it is being
written.
-/

namespace DesignTokens

/-- What the system answers about a path. -/
inductive FileFault where
  | missing
  | alreadyThere
  | notDirectory
  | isDirectory
  | nameTooLong
deriving Repr, DecidableEq

namespace FileFault

/-- The number of a fault. -/
def number : FileFault → Nat
  | missing => 2
  | alreadyThere => 17
  | notDirectory => 20
  | isDirectory => 21
  | nameTooLong => 36

/-- The wording of a fault. -/
def reason : FileFault → String
  | missing => "No such file or directory"
  | alreadyThere => "File exists"
  | notDirectory => "Not a directory"
  | isDirectory => "Is a directory"
  | nameTooLong => "File name too long"

end FileFault

/-- Why a file operation fails. -/
inductive FileError where
  | system (fault : FileFault) (path : Path)
  /-- The name of a file or directory holds a zero character. -/
  | zeroInName
  /-- The path, or the text to be written, holds lone surrogates. -/
  | surrogates (run : Text.SurrogateRun)
deriving Repr, DecidableEq

/-- The wording of a file error. -/
def FileError.message : FileError → String
  | system fault path => s!"[Errno {fault.number}] {fault.reason}: {Text.quoted path.text}"
  | zeroInName => "embedded null byte"
  | surrogates run => run.message

end DesignTokens
