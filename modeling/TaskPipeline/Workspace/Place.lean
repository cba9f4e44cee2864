import TaskPipeline.Store.File

/-!
# Paths and places

A `Path` is a list of names from the top of a tree.  It may go up again with the name `..`, and it may
have names that lead nowhere: `.` and, where two slashes follow each other or a slash ends a path, the
empty name.

A `Place` is a path together with the text by which messages call it and by which the file system is
asked for it.  Many texts lead to one place, but the file system takes only some of them, whatever they
lead to (`Place.check`).
-/

namespace TaskPipeline

/-- A path: names from the top of the tree. -/
abbrev Path := List String

namespace Path

/-- The path in a text, cut at slashes. -/
def ofText (s : String) : Path := if s.isEmpty then [] else s.splitOn "/"

/-- Whether a name leads nowhere. -/
def isIdle (name : String) : Bool := name.isEmpty || name == "."

/-- The names at which one arrives by going up from a path, given last name first: one name at a time,
together with the names before it that lead nowhere. -/
def above : List String → List Path
  | [] => []
  | name :: rest =>
    if isIdle name then above rest else (rest.dropWhile isIdle).reverse :: above rest

/-- A path and the paths above it, up to the top. -/
def upward (path : Path) : List Path := path :: above path.reverse

/-- The beginnings of a path, from the top to the path itself. -/
def beginnings (path : Path) : List Path := (List.range (path.length + 1)).map (path.take ·)

/-- A path with an ending after its last name. -/
def withEnding (path : Path) (ending : String) : Path :=
  path.dropLast ++ [path.getLastD "" ++ ending]

end Path

/-- A path and the text by which messages and calls to the file system name it. -/
structure Place where
  /-- Where it leads. -/
  path : Path
  /-- What it is called. -/
  shown : String

namespace Place

/-- The place to which a path leads, seen from a top that messages call `top`. -/
def below (top : String) (path : Path) : Place :=
  ⟨path, path.foldl (fun s name => s ++ "/" ++ name) top⟩

/-- Something in the place. -/
def inside (p : Place) (names : List String) : Place :=
  ⟨p.path ++ names, names.foldl
    (fun s name => if s.isEmpty || s.endsWith "/" then s ++ name else s ++ "/" ++ name) p.shown⟩

/-- The place with an ending after its last name. -/
def withEnding (p : Place) (ending : String) : Place :=
  ⟨p.path.withEnding ending, p.shown ++ ending⟩

/-- The number of bytes that the text of a path may have. -/
def longestText : Nat := 4095

/-- Whether the file system takes the text at all. -/
def check (p : Place) : Except FileFault Unit :=
  if p.shown.contains '\x00' then .error .zeroInPath
  else if longestText < p.shown.utf8ByteSize then .error .nameTooLong
  else .ok ()

end Place

end TaskPipeline
