import TaskPipeline.Json.Printer
import TaskPipeline.Json.Reader
import TaskPipeline.Record.User
import TaskPipeline.Store.File
import TaskPipeline.Store.Memory

/-!
# A store in a file

A `Journal` is a file with one JSON record per line.  Reading goes line by line, leaves out blank
lines, and lets a later record win over an earlier one with the same key, so a line appended by hand
takes effect.  Writing puts all records into the file in the order of their keys.  `journal` is the
store of tasks in such a file; a refused batch leaves the file as it is.

While a journal is at work, a lock file stands beside its file, and a draft takes the place of the file
when it is finished.  A directory at one of these three places is one of its `Obstacles`.
-/

namespace TaskPipeline

/-- Entries that can be written as records. -/
class Recorded (α : Type) extends Keyed α where
  /-- The record of an entry. -/
  encode : α → Json.Value
  /-- Reads a record. -/
  decode : Json.Decoder α

instance : Recorded Task := ⟨Task.encode, Task.decode⟩

instance : Recorded User := ⟨User.encode, User.decode⟩

/-- The places of a journal at which a directory stands instead of a file. -/
structure Obstacles where
  /-- A directory stands in the place of the file. -/
  file : Bool := false
  /-- A directory stands in the place of the lock file. -/
  lock : Bool := false
  /-- A directory stands in the place of the draft. -/
  draft : Bool := false

/-- A file of records; it may not exist yet. -/
structure Journal (α : Type) where
  /-- The path, as error messages show it. -/
  path : String
  /-- What is in the file. -/
  contents : Option FileContents
  /-- What stands in the way. -/
  obstacles : Obstacles := {}
  /-- Whether the lock file has been opened, which makes it. -/
  isEntered : Bool := false

namespace Journal

variable {α : Type} [Recorded α]

/-- The record on a line. -/
def readLine? (line : String) : Option α := Json.read? line >>= Recorded.decode

/-- A record as a line. -/
def writeLine (a : α) : String := (Recorded.encode a).print ++ "\n"

/-- The error for a directory in the place of a file. -/
def obstructed (attempt : String) : StoreError := .backend attempt [FileFault.isDirectory.message]

/-- The journal after its lock file has been opened, unless a directory stands there. -/
def entered (j : Journal α) : Journal α := { j with isEntered := j.isEntered || !j.obstacles.lock }

/-- Reads the records of lines one after the other; `n` is the number of the first of them. -/
def readLines (path : String) (n : Nat) (records : Catalog α) :
    List (Option String) → Except StoreError (Catalog α)
  | [] => .ok records
  | none :: _ =>
    .error (.backend ("Failed to read line " ++ toString n) [FileFault.notText.message])
  | some line :: rest =>
    if Text.isBlankText line then readLines path (n + 1) records rest
    else
      match readLine? line with
      | none => .error (.backend ("Failed to parse record at " ++ path ++ ":" ++ toString n) [])
      | some a => readLines path (n + 1) (records.insert a) rest

/-- The records in the file; a file that does not exist has none. -/
def read (j : Journal α) : Except StoreError (Catalog α) :=
  if j.obstacles.lock then .error (obstructed ("Failed to open lock file: " ++ j.path ++ ".lock"))
  else if j.obstacles.file then .error (obstructed "Failed to read line 1")
  else
    match j.contents with
    | none => .ok .empty
    | some contents => readLines j.path 1 .empty contents.lines

/-- The text of a file with these records. -/
def render (records : Catalog α) : String := String.join (records.toList.map writeLine)

/-- The file with these records and no others. -/
def write (j : Journal α) (records : Catalog α) : Except StoreError (Journal α) :=
  if j.obstacles.draft then
    .error (obstructed ("Failed to create temp file: " ++ j.path ++ ".tmp"))
  else .ok { j with contents := some (.text (render records)) }

/-- Takes tasks out of a map one after the other; a task that is not there any more is the error. -/
def takeAll (tasks : TaskMap) : List TaskId → Answer
  | [] => .ok []
  | id :: ids =>
    match tasks.require id with
    | .error e => .error e
    | .ok t =>
      match takeAll (tasks.remove id) ids with
      | .error e => .error e
      | .ok ts => .ok (t :: ts)

/-- Reads the file unless the caller's time is up. -/
def readUnlessExpired (j : Journal α) (expired : Bool) : Except StoreError (Catalog α) :=
  unlessExpired expired j.read

/-- Adds a record; an earlier one with the same key gives way. -/
def upsert (j : Journal α) (a : α) : Except StoreError Unit × Journal α :=
  match j.read >>= fun records => j.entered.write (records.insert a) with
  | .ok j => (.ok (), j)
  | .error e => (.error e, j.entered)

end Journal

/-- The store of tasks in a file. -/
def journal : Repository (Journal Task) where
  perform expired c j :=
    let j := if expired then j else j.entered
    match c with
    | .get id => (j.readUnlessExpired expired >>= fun tasks => (TaskMap.require tasks id).map ([·]), j)
    | .list => ((j.readUnlessExpired expired).map Catalog.toList, j)
    | .getMany ids => (j.readUnlessExpired expired >>= fun tasks => Journal.takeAll tasks ids, j)
    | .commit changes =>
      match j.readUnlessExpired expired >>= changes.apply with
      | .error e => (.error e, j)
      | .ok (written, tasks) =>
        match j.write tasks with
        | .ok j => (.ok written, j)
        | .error e => (.error e, j)

end TaskPipeline
