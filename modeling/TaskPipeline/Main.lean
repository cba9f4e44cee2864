import Std.Time.DateTime.Timestamp
import TaskPipeline.Cli.Run
import TaskPipeline.Ident.Fresh

/-!
# The program

`main` brings the command line, the clock and the files around the working directory to `Cli.run`, and
then puts the files, the output and the log where they belong.  It decides nothing itself.

The stores of a workspace are locked while a command works on them, and a file is replaced by renaming
a finished one over it, so that no reader ever sees half of it.
-/

namespace TaskPipeline.Program

/-! ### The clock -/

/-- What the clock shows now. -/
def readClock : IO (Nat × Instant) := do
  let nanos := (← Std.Time.Timestamp.now).toNanosecondsSinceUnixEpoch.val.toNat
  return (nanos, (Instant.epoch.plusNanos? nanos).getD .epoch)

/-- Readings and identifiers for the attempts of a command that begins at a reading of the clock: later
readings are later, and no identifier comes twice. -/
def ambients (nanos : Nat) (start : Instant) (attempt : Nat) : Ambient where
  now i := (start.plusNanos? (1000 * attempt + i)).getD start
  fresh i := Ident.minted (nanos + 1000 * attempt + i)

/-! ### Files -/

/-- How the file system calls a path. -/
def nameOf (path : Path) : String := "/" ++ String.intercalate "/" path

/-- The path of the working directory. -/
def workingDirectory : IO Path := do
  return ((← IO.currentDir).toString.splitOn "/").filter (!·.isEmpty)

/-- What stands at a path of the file system. -/
def entryAt? (path : Path) : IO (Option Entry) := do
  let place := (← IO.currentDir) / nameOf path
  if ← place.isDir then return some .directory
  else if ← place.pathExists then return some (.file (.ofBytes (← IO.FS.readBinFile place)))
  else return none

/-- Takes paths of the file system into a tree, as far as something stands there. -/
def takeIn (tree : FileTree) (paths : List Path) : IO FileTree :=
  paths.foldlM (fun tree path => do
    return ((← entryAt? path).map (tree.put path)).getD tree) tree

/-- A path and what it begins with, from the top, each with the directory of a workspace in it. -/
def surroundingsOf (path : Path) : List Path :=
  (Path.beginnings path).flatMap fun p => [p, p ++ [Workspace.directoryName]]

/-- The paths that a command looks at before it finds its workspace. -/
def lookedAt (s : Cli.Surroundings) (args : List String) : List Path :=
  let target := match Cli.Invocation.read args with
    | .ok ⟨_, _, .init path⟩ => surroundingsOf (s.placeOf path).path
    | _ => []
  surroundingsOf s.directory ++ target

/-- The stores of a workspace. -/
def stores : List (List String) := [Workspace.tasksFile, Workspace.usersFile]

/-- The files that a command works on. -/
def workFiles (root : Path) : List Path :=
  (root ++ Workspace.settingsFile) :: stores.flatMap fun file =>
    ["", ".lock", ".tmp"].map (Path.withEnding (root ++ file))

/-- Locks the stores of a workspace until the handles are gone; a store whose lock cannot be opened
refuses every call. -/
def lockStores (root : Path) : IO (List IO.FS.Handle) :=
  stores.filterMapM fun file => do
    let place := (← IO.currentDir) / nameOf (Path.withEnding (root ++ file) ".lock")
    if ← place.isDir then return none
    let handle ← IO.FS.Handle.mk place .append
    handle.lock
    return some handle

/-- Whether an entry is not what stood there before. -/
def isNew (before : Option Entry) (now : Entry) : Bool :=
  match before, now with
  | some .directory, .directory => false
  | some (.file a), .file b => a.bytes != b.bytes
  | _, _ => true

/-- Puts an entry into the file system. -/
def putOut (path : Path) : Entry → IO Unit
  | .directory => IO.FS.createDirAll (nameOf path)
  | .file contents => do
    let draft := nameOf path ++ ".tmp"
    IO.FS.writeBinFile draft contents.bytes
    IO.FS.rename draft (nameOf path)

/-- Puts what is new in a tree into the file system, directories before what is in them. -/
def putOutNew (before after : FileTree) : IO Unit := do
  let new := after.entries.filter fun (path, e) => isNew (before.entryAt? path) e
  for (path, e) in new.mergeSort fun a b => a.1.length ≤ b.1.length do
    putOut path e

/-! ### Settings of the user -/

/-- The text of the settings of the user, if there are any. -/
def readUserSettings : IO (Option String) := do
  let home := ((← IO.getEnv "HOME").getD "") ++ "/.config"
  let directory := ((← IO.getEnv "XDG_CONFIG_HOME").filter (·.startsWith "/")).getD home
  let file := (← IO.currentDir) / (directory ++ "/tasker/config.toml")
  if ← file.pathExists then return some (← IO.FS.readFile file) else return none

end TaskPipeline.Program

open TaskPipeline Program in
/-- Carries out the command line. -/
def main (args : List String) : IO UInt32 := do
  let (nanos, start) ← readClock
  let s : Cli.Surroundings :=
    ⟨"", ← workingDirectory, ← readUserSettings, ← IO.getEnv "TASKER_LOG", ambients nanos start⟩
  let places ← takeIn (.empty false) (lookedAt s args)
  let root? := (Workspace.find? places s.place s.directory).map (·.path)
  let locks ← ((root?.map lockStores).getD (pure []))
  let before ← takeIn places ((root?.map workFiles).getD [])
  let outcome := Cli.run s args before
  putOutNew before outcome.tree
  for lock in locks do lock.unlock
  for line in outcome.log do IO.eprintln (line.level.label ++ " " ++ line.text)
  IO.print outcome.output
  if let some complaint := outcome.complaint then IO.eprintln complaint
  return outcome.exitCode.toUInt32
