import TaskPipeline.Workspace.Place

/-!
# File trees

A `FileTree` is the part of a file system that a command works on: directories and files, each at a
path of names from the top.  The top is a directory.  It may have directories above it; then a path can
leave the tree upward and come to places of which nothing is known.

`FileTree.trace` follows a path from name to name, so a path leads somewhere only if all directories on
its way are there, also those that it leaves again.
-/

namespace TaskPipeline

/-- What stands at a path. -/
inductive Entry where
  /-- A directory. -/
  | directory
  /-- A file. -/
  | file (contents : FileContents)

/-- A tree of directories and files. -/
structure FileTree where
  /-- The entries apart from the top, each with the names that lead straight to it: first the ways up
  that leave the tree, if any, then the ways down. -/
  entries : List (Path × Entry)
  /-- Whether the top has directories above it. -/
  hasAbove : Bool

namespace FileTree

/-- The tree with nothing in it. -/
def empty (hasAbove : Bool) : FileTree := ⟨[], hasAbove⟩

/-! ### Following paths -/

/-- Whether names lead straight up from the top, or nowhere. -/
def isAbove (names : List String) : Bool := names.all (· == "..")

/-- What the names that lead straight to a place lead to; at the top and above it stand directories. -/
def entryAt? (t : FileTree) (names : List String) : Option Entry :=
  if isAbove names then some .directory else (t.entries.find? (·.1 == names)).map (·.2)

/-- The number of bytes that a name may have. -/
def longestName : Nat := 255

/-- Follows one name. -/
def follow (t : FileTree) (names : List String) (name : String) : Except FileFault (List String) :=
  match t.entryAt? names with
  | none => .error .missing
  | some (.file _) => .error .notDirectory
  | some .directory =>
    if Path.isIdle name then .ok names
    else if name == ".." then .ok (if t.hasAbove && isAbove names then names ++ [name] else names.dropLast)
    else if longestName < name.utf8ByteSize then .error .nameTooLong
    else .ok (names ++ [name])

/-- The names that lead straight to where a path leads; the last of them need not be there. -/
def trace (t : FileTree) (path : Path) : Except FileFault (List String) := path.foldlM t.follow []

/-- The names that lead straight to a place, if the file system takes its text. -/
def locate (t : FileTree) (p : Place) : Except FileFault (List String) := do
  p.check
  t.trace p.path

/-- What stands at a place. -/
def entry? (t : FileTree) (p : Place) : Option Entry := (t.locate p).toOption >>= t.entryAt?

/-- Whether a directory stands at a place. -/
def isDirectory (t : FileTree) (p : Place) : Bool :=
  match t.entry? p with
  | some .directory => true
  | _ => false

/-- The contents of the file at a place. -/
def contents? (t : FileTree) (p : Place) : Option FileContents :=
  match t.entry? p with
  | some (.file contents) => some contents
  | _ => none

/-- Reads the text at a place; nothing if there is no entry. -/
def readText? (t : FileTree) (p : Place) : Except FileFault (Option String) :=
  match t.entry? p with
  | none => .ok none
  | some .directory => .error .isDirectory
  | some (.file (.text s)) => .ok (some s)
  | some (.file (.binary _)) => .error .notText

/-- The names in a directory, in ascending order. -/
def names (t : FileTree) (p : Place) : List String :=
  match t.locate p with
  | .error _ => []
  | .ok directory =>
    (t.entries.filterMap fun (path, _) =>
      if path.length = directory.length + 1 ∧ directory.isPrefixOf path then path.getLast?
      else none).mergeSort fun a b => a ≤ b

/-! ### Changing the tree -/

/-- Puts an entry where straight names lead, unless a directory is always there. -/
def putAt (t : FileTree) (names : List String) (e : Entry) : FileTree :=
  if isAbove names then t else { t with entries := (names, e) :: t.entries.filter (·.1 != names) }

/-- Puts an entry where a path leads, if it leads somewhere. -/
def put (t : FileTree) (path : Path) (e : Entry) : FileTree :=
  match t.trace path with
  | .error _ => t
  | .ok names => t.putAt names e

/-- Writes a text into the file at a place, which it makes if need be. -/
def writeText (t : FileTree) (p : Place) (text : String) : Except FileFault FileTree := do
  let names ← t.locate p
  match t.entryAt? names with
  | some .directory => .error .isDirectory
  | _ => .ok (t.putAt names (.file (.text text)))

/-- Makes a directory inside a directory that is there. -/
def makeDirectory (t : FileTree) (path : Path) : Except FileFault FileTree := do
  let names ← t.trace path
  match t.entryAt? names with
  | some _ => .error .inTheWay
  | none => .ok (t.putAt names .directory)

/-- Makes a directory unless it is there. -/
def ensureDirectory (t : FileTree) (path : Path) : Except FileFault FileTree :=
  match t.makeDirectory path with
  | .ok t => .ok t
  | .error fault =>
    match (t.trace path).toOption >>= t.entryAt? with
    | some .directory => .ok t
    | _ => .error fault

/-- Makes a directory and the directories that are missing on the way to it; the names of the path are
given last first.  Gives the tree as far as it got. -/
def makeUpward (t : FileTree) : List String → Except FileFault Unit × FileTree
  | [] => (.ok (), t)
  | name :: above =>
    match t.ensureDirectory (name :: above).reverse with
    | .ok t => (.ok (), t)
    | .error .missing =>
      match t.makeUpward above with
      | (.error fault, t) => (.error fault, t)
      | (.ok (), t) =>
        match t.ensureDirectory (name :: above).reverse with
        | .ok t => (.ok (), t)
        | .error fault => (.error fault, t)
    | .error fault => (.error fault, t)

/-- Makes a directory and the directories that are missing on the way to it; gives the tree as far as
it got. -/
def makeDirectories (t : FileTree) (p : Place) : Except FileFault Unit × FileTree :=
  match p.check with
  | .error fault => (.error fault, t)
  | .ok () => t.makeUpward (p.path.filter (!Path.isIdle ·)).reverse

end FileTree

end TaskPipeline
