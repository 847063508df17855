import DesignTokens.Files.Fault
import DesignTokens.Source.Datum

/-!
# Trees of files

A tree says what lies at a place, which is the list of the names from the root down to it.
A path is followed name by name: every name but the last must lead to a directory, and two
dots lead one place up. Reading never changes a tree; writing a file and making a directory
change what lies at one place.
-/

namespace DesignTokens

/-- The names from the root down. -/
abbrev Place := List String

/-- What a file holds. -/
inductive FileContent where
  | text (text : String)
  | bytes (bytes : List UInt8)
  /-- A text whose meaning as a document is the given datum. -/
  | document (value : Datum)
deriving Repr, Inhabited

/-- What lies at a place. -/
inductive FileItem where
  | file (content : FileContent)
  | directory
deriving Repr, Inhabited

/-- Files and directories below the root, and the working directory. -/
structure FileTree where
  items : List (Place × FileItem) := []
  here : Place := []
deriving Repr, Inhabited

namespace FileTree

/-- What a place holds in a list of items. -/
def itemIn (place : Place) : List (Place × FileItem) → Option FileItem
  | [] => none
  | (other, item) :: rest => if other = place then some item else itemIn place rest

/-- What lies at a place; the root is a directory. -/
def item? (tree : FileTree) (place : Place) : Option FileItem :=
  if place = [] then some .directory else itemIn place tree.items

/-- Puts an item at a place. -/
def putIn (place : Place) (item : FileItem) : List (Place × FileItem) → List (Place × FileItem)
  | [] => [(place, item)]
  | (other, old) :: rest =>
      if other = place then (other, item) :: rest else (other, old) :: putIn place item rest

/-- The tree with an item at a place. -/
def put (tree : FileTree) (place : Place) (item : FileItem) : FileTree :=
  { tree with items := putIn place item tree.items }

theorem itemIn_putIn (place other : Place) (item : FileItem)
    (items : List (Place × FileItem)) :
    itemIn other (putIn place item items) =
      if place = other then some item else itemIn other items := by
  induction items with
  | nil => simp [putIn, itemIn]
  | cons entry rest ih =>
      by_cases h : entry.1 = place
      · by_cases ho : place = other
        · simp [putIn, itemIn, h, ho]
        · simp [putIn, itemIn, h, ho]
      · by_cases ho : entry.1 = other
        · subst ho
          simp [putIn, itemIn, h, Ne.symm h]
        · simp [putIn, itemIn, h, ho, ih]

/-- What lies at a place after something was put at one below the root. -/
theorem item?_put (tree : FileTree) {place : Place} (hp : place ≠ []) (other : Place)
    (item : FileItem) :
    (tree.put place item).item? other = if place = other then some item else tree.item? other := by
  by_cases ho : other = []
  · simp [item?, ho, hp]
  · simp [item?, put, ho, itemIn_putIn]

/-- The longest name in bytes. -/
def maxNameSize : Nat := 255

/-- The longest path in bytes. -/
def maxPathSize : Nat := 4095

/-- The place that a name leads to from a place. -/
def step (tree : FileTree) (place : Place) (name : String) : Except FileFault Place :=
  match tree.item? place with
  | none => .error .missing
  | some (.file _) => .error .notDirectory
  | some .directory =>
      if name = ".." then .ok place.dropLast
      else if maxNameSize < Text.nameSize name then .error .nameTooLong
      else .ok (place ++ [name])

/-- The place that names lead to from a place. -/
def follow (tree : FileTree) : Place → List String → Except FileFault Place
  | place, [] => .ok place
  | place, name :: rest =>
      match tree.step place name with
      | .ok next => follow tree next rest
      | .error fault => .error fault

/-- The place of a path, at which there may be nothing. -/
def locate (tree : FileTree) (path : Path) : Except FileFault Place :=
  if maxPathSize < Text.nameSize path.text then .error .nameTooLong
  else
    match path.start with
    | .here => tree.follow tree.here path.parts
    | _ => tree.follow [] path.parts

/-- The place of a path and what lies there. -/
def find (tree : FileTree) (path : Path) : Except FileFault (Place × FileItem) :=
  match tree.locate path with
  | .error fault => .error fault
  | .ok place =>
      match tree.item? place with
      | none => .error .missing
      | some item => .ok (place, item)

/-- Why the system cannot even be asked about a path. -/
def unnamable? (path : Path) : Option FileError :=
  match Text.surrogateRun? Text.isByteHalf path.text.toList with
  | some run => some (.surrogates run)
  | none => if path.text.toList.contains '\x00' then some .zeroInName else none

/-- Whether something lies at a path. A name that is too long gives no answer. -/
def holds (tree : FileTree) (path : Path) : Except FileError Bool :=
  if (unnamable? path).isSome then .ok false
  else match tree.find path with
    | .ok _ => .ok true
    | .error .nameTooLong => .error (.system .nameTooLong path)
    | .error _ => .ok false

/-- A directory lies at a path. -/
def isDirectory (tree : FileTree) (path : Path) : Bool :=
  (unnamable? path).isNone && match tree.find path with
    | .ok (_, .directory) => true
    | _ => false

/-- What the file at a path holds. -/
def read (tree : FileTree) (path : Path) : Except FileError FileContent :=
  match unnamable? path, tree.find path with
  | some error, _ => .error error
  | none, .ok (_, .file content) => .ok content
  | none, .ok (_, .directory) => .error (.system .isDirectory path)
  | none, .error fault => .error (.system fault path)

/-- The tree in which the file at a path holds the given content. -/
def write (tree : FileTree) (path : Path) (content : FileContent) : Except FileError FileTree :=
  match unnamable? path, tree.locate path with
  | some error, _ => .error error
  | none, .error fault => .error (.system fault path)
  | none, .ok place =>
      match tree.item? place with
      | some .directory => .error (.system .isDirectory path)
      | _ => .ok (tree.put place (.file content))

/-- What was written is what lies at the place of the path. -/
theorem item?_of_write {tree after : FileTree} {path : Path} {content : FileContent}
    (h : tree.write path content = .ok after) :
    ∃ place, tree.locate path = .ok place ∧ after = tree.put place (.file content) ∧
      tree.item? place ≠ some .directory := by
  unfold write at h
  split at h
  · cases h
  · cases h
  · rename_i place _ hl
    split at h
    · cases h
    · rename_i hd
      cases h
      exact ⟨place, hl, rfl, hd⟩

/-- Writes a text to the file at a path. A text with lone surrogates leaves the file empty. -/
def writeText (tree : FileTree) (path : Path) (text : String) :
    Except FileError Unit × FileTree :=
  let run? := Text.surrogateRun? (fun _ => false) text.toList
  match tree.write path (.text (if run?.isSome then "" else text)), run? with
  | .error error, _ => (.error error, tree)
  | .ok after, none => (.ok (), after)
  | .ok after, some run => (.error (.surrogates run), after)

/-- The tree without the file at a path. -/
def remove (tree : FileTree) (path : Path) : Except FileError FileTree :=
  match unnamable? path, tree.find path with
  | some error, _ => .error error
  | none, .ok (place, .file _) =>
      .ok { tree with items := tree.items.filter fun entry => entry.1 != place }
  | none, .ok (_, .directory) => .error (.system .isDirectory path)
  | none, .error fault => .error (.system fault path)

/-- The tree with a directory at a path at which nothing lies. -/
def makeDirectory (tree : FileTree) (path : Path) : Except FileError FileTree :=
  match unnamable? path, tree.locate path with
  | some error, _ => .error error
  | none, .error fault => .error (.system fault path)
  | none, .ok place =>
      match tree.item? place with
      | some _ => .error (.system .alreadyThere path)
      | none => .ok (tree.put place .directory)

/-- Makes the directory at a path unless one is there. -/
def ensureDirectory (tree : FileTree) (path : Path) : Except FileError Unit × FileTree :=
  match tree.makeDirectory path with
  | .ok tree => (.ok (), tree)
  | .error (.system .missing path) => (.error (.system .missing path), tree)
  | .error (.system fault path) =>
      (if tree.isDirectory path then .ok () else .error (.system fault path), tree)
  | .error error => (.error error, tree)

/-- Makes the directory at a path, given by its names from the last to the first, and the
directories above it. A directory that is there stays; those that have been made stay even
if a later one fails. -/
def makeAll (start : PathStart) : List String → FileTree → Except FileError Unit × FileTree
  | [], tree => tree.ensureDirectory ⟨start, []⟩
  | name :: above, tree =>
      let path : Path := ⟨start, (name :: above).reverse⟩
      match tree.ensureDirectory path with
      | (.error (.system .missing _), tree) =>
          match makeAll start above tree with
          | (.ok (), tree) => tree.ensureDirectory path
          | failed => failed
      | done => done

/-- Makes the directory at a path and the directories above it. -/
def makeDirectories (tree : FileTree) (path : Path) : Except FileError Unit × FileTree :=
  makeAll path.start path.parts.reverse tree

/-- The names in the directory at a path, in the order of their code points. -/
def namesIn (tree : FileTree) (path : Path) : List String :=
  match tree.find path with
  | .ok (place, .directory) =>
      sortNames (tree.items.filterMap fun entry =>
        if entry.1 ≠ [] ∧ entry.1.dropLast = place then entry.1.getLast? else none)
  | _ => []

/-- The paths of all files below the working directory, in the order of their texts. -/
def files (tree : FileTree) : List String :=
  sortNames (tree.items.filterMap fun entry =>
    match entry.2 with
    | .file _ =>
        if tree.here.isPrefixOf entry.1 then
          some ("/".intercalate (entry.1.drop tree.here.length))
        else none
    | .directory => none)

end FileTree

end DesignTokens
