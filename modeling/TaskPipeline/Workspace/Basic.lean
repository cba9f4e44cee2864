import TaskPipeline.Settings.Reader
import TaskPipeline.Store.Journal
import TaskPipeline.Workspace.Tree

/-!
# Workspaces

A workspace is a directory with a directory `.tasker` in it, which holds the store of tasks, the
directory of users if there is one, and the settings.  A command works on the workspace that is
nearest above it (`Workspace.find?`).
-/

namespace TaskPipeline

/-- Why a workspace cannot be opened or made. -/
inductive WorkspaceError where
  /-- There is one already. -/
  | alreadyExists (place : String)
  /-- There is none. -/
  | notInWorkspace
  /-- The file system refuses. -/
  | failed (attempt : String) (fault : FileFault)
  /-- A configuration text is not understood. -/
  | unreadable (settings : String)
  /-- The settings make no sense. -/
  | invalid (file : String) (fault : WorkspaceSettings.Fault)

namespace WorkspaceError

/-- What the user is told. -/
def message : WorkspaceError → String
  | alreadyExists place => "Workspace already exists at " ++ place
  | notInWorkspace => "Not in a tasker workspace. Run 'tasker init' first."
  | failed attempt _ => attempt
  | unreadable settings => "Failed to parse " ++ settings
  | invalid file _ => "Invalid workspace config: " ++ file

/-- What lies behind it. -/
def cause? : WorkspaceError → Option String
  | failed _ fault => some fault.message
  | invalid _ fault => some fault.message
  | _ => none

/-- The message and what lies behind it. -/
def fullMessage (e : WorkspaceError) : String :=
  match e.cause? with
  | some cause => e.message ++ ": " ++ cause
  | none => e.message

end WorkspaceError

/-- An open workspace. -/
structure Workspace where
  /-- The directory. -/
  root : Place
  /-- Its settings. -/
  settings : WorkspaceSettings
  /-- The settings of the user. -/
  userSettings : UserSettings

namespace Workspace

/-- The name of the directory that makes a workspace. -/
def directoryName : String := ".tasker"

/-- The names down to the settings. -/
def settingsFile : List String := [directoryName, "config.toml"]

/-- The names down to the store of tasks. -/
def tasksFile : List String := [directoryName, "tasks.jsonl"]

/-- The names down to the directory of users. -/
def usersFile : List String := [directoryName, "users.jsonl"]

/-- Whether a place is a workspace. -/
def isAt (t : FileTree) (p : Place) : Bool := t.isDirectory (p.inside [directoryName])

/-- The nearest workspace at or above a path; `call` says how messages call it. -/
def find? (t : FileTree) (call : Path → Place) (start : Path) : Option Place :=
  (start.upward.map call).find? (isAt t)

/-! ### Settings -/

/-- The settings of the user, given the text of their file if there is one. -/
def loadUser (global : Option String) : Except WorkspaceError UserSettings :=
  match global with
  | none => .ok .default
  | some text =>
    match UserSettings.read? text with
    | some s => .ok s
    | none => .error (.unreadable "global config")

/-- The settings of the workspace in a directory. -/
def loadSettings (t : FileTree) (root : Place) : Except WorkspaceError WorkspaceSettings :=
  let file := root.inside settingsFile
  match t.readText? file with
  | .error fault => .error (.failed ("Failed to read workspace config: " ++ file.shown) fault)
  | .ok none => .ok .default
  | .ok (some text) =>
    match WorkspaceSettings.read? text with
    | none => .error (.unreadable "workspace config")
    | some s =>
      match s.check with
      | .ok () => .ok s
      | .error fault => .error (.invalid file.shown fault)

/-- The settings of the user and then those of the workspace. -/
def load (t : FileTree) (global : Option String) (root : Place) : Except WorkspaceError Workspace := do
  let userSettings ← loadUser global
  let settings ← loadSettings t root
  return ⟨root, settings, userSettings⟩

/-! ### Opening and making -/

/-- Opens the workspace in a directory. -/
def openAt (t : FileTree) (global : Option String) (root : Place) : Except WorkspaceError Workspace :=
  if isAt t root then load t global root else .error .notInWorkspace

/-- The lines of the settings that a new workspace gets. -/
def defaultSettingsLines : List String :=
  ["# tasker workspace configuration", "", "[engine]",
    "# Maximum number of tasks allowed in the inbox", "max_inbox_size = 5",
    "# Tasks with no declared points complete as soon as they are stopped",
    "zero_point_tasks_complete = true",
    "# On merge, which task's tag wins a key collision: keep_destination | take_source",
    "merge_tag_collision = \"keep_destination\"", "default_user = \"default-user\"", "",
    "[background]", "timeout_ms = 5000", "reminder_interval_secs = 3600", "calendar_sync = true", "",
    "[logging]", "level = \"info\""]

/-- The text of the settings that a new workspace gets. -/
def defaultSettingsText : String := String.join (defaultSettingsLines.map (· ++ "\n"))

/-- The text that keeps locks and temporary files out of version control. -/
def ignoreText : String := "*.lock\n*.tmp\n"

/-- Writes a text into a file of a new workspace; `what` says in messages what it is. -/
def writeNew (t : FileTree) (what text : String) (file : Place) :
    Except WorkspaceError Unit × FileTree :=
  match t.writeText file text with
  | .ok t => (.ok (), t)
  | .error fault => (.error (.failed ("Failed to write " ++ what ++ ": " ++ file.shown) fault), t)

/-- Makes the directory of a workspace with what belongs into it; gives the tree as far as it got. -/
def layOut (t : FileTree) (root : Place) : Except WorkspaceError Unit × FileTree :=
  let directory := root.inside [directoryName]
  if t.isDirectory directory then (.error (.alreadyExists root.shown), t)
  else
    match t.makeDirectories directory with
    | (.error fault, t) =>
      (.error (.failed ("Failed to create " ++ directoryName ++ ": " ++ directory.shown) fault), t)
    | (.ok (), t) =>
      match writeNew t "config" defaultSettingsText (root.inside settingsFile) with
      | (.error e, t) => (.error e, t)
      | (.ok (), t) => writeNew t ".gitignore" ignoreText (root.inside [directoryName, ".gitignore"])

/-- Makes a workspace in a directory and opens it; gives the tree as far as it got. -/
def init (t : FileTree) (global : Option String) (root : Place) :
    Except WorkspaceError Workspace × FileTree :=
  match layOut t root with
  | (.error e, t) => (.error e, t)
  | (.ok (), t) => (openAt t global root, t)

/-! ### Stores -/

/-- The journal in a file of the workspace. -/
def journalIn {α : Type} (w : Workspace) (t : FileTree) (file : List String) : Journal α :=
  let place := w.root.inside file
  let isDirectory (ending : String) : Bool := t.isDirectory (place.withEnding ending)
  { path := place.shown
    contents := t.contents? place
    obstacles := ⟨isDirectory "", isDirectory ".lock", isDirectory ".tmp"⟩ }

/-- The store of tasks. -/
def tasks (w : Workspace) (t : FileTree) : Journal Task := w.journalIn t tasksFile

/-- The directory of users. -/
def users (w : Workspace) (t : FileTree) : Journal User := w.journalIn t usersFile

/-- Whether there is a directory of users. -/
def hasUsers (w : Workspace) (t : FileTree) : Bool := (t.entry? (w.root.inside usersFile)).isSome

/-- Puts the files of a journal back into the tree: its lock file, and what is in its file. -/
def putBack {α : Type} (w : Workspace) (t : FileTree) (file : List String) (j : Journal α) :
    FileTree :=
  let lock := (w.root.inside file).withEnding ".lock"
  let t :=
    if j.isEntered && (t.entry? lock).isNone then t.put lock.path (.file (.text "")) else t
  match j.contents with
  | some contents => t.put (w.root.inside file).path (.file contents)
  | none => t

end Workspace

end TaskPipeline
