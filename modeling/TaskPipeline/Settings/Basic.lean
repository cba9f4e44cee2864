import TaskPipeline.Engine.Policy
import TaskPipeline.Text.Blank

/-!
# Settings

The settings of a workspace and the settings of a user across workspaces.  Everything has a default,
and a workspace's settings must make sense (`WorkspaceSettings.check`).
-/

namespace TaskPipeline

/-- The settings for work off the request path. -/
structure BackgroundSettings where
  /-- How many milliseconds a job may wait for an answer. -/
  timeout : Nat
  /-- The seconds between two sweeps for reminders. -/
  reminderInterval : Nat
  /-- Whether started tasks go into the calendar. -/
  calendarSync : Bool
deriving DecidableEq

/-- The settings where nothing else is said. -/
def BackgroundSettings.default : BackgroundSettings := ⟨5000, 3600, true⟩

/-- The settings of a workspace. -/
structure WorkspaceSettings where
  /-- How the engine acts. -/
  policy : Policy
  /-- Work off the request path. -/
  background : BackgroundSettings
  /-- From which level on log lines are written. -/
  logLevel : String
deriving DecidableEq

/-- The form in which commands print their results. -/
inductive OutputFormat where
  /-- For people. -/
  | text
  /-- For programs. -/
  | json
deriving DecidableEq

namespace OutputFormat

/-- Both forms. -/
def all : List OutputFormat := [text, json]

/-- The name of a form. -/
def name : OutputFormat → String
  | text => "text"
  | json => "json"

/-- The form with exactly this name. -/
def ofName? (s : String) : Option OutputFormat := all.find? (·.name == s)

end OutputFormat

/-- The settings of a user across workspaces. -/
structure UserSettings where
  /-- The form of output where a command names none. -/
  format : OutputFormat
deriving DecidableEq

/-- The settings where nothing else is said. -/
def UserSettings.default : UserSettings := ⟨.text⟩

namespace WorkspaceSettings

/-- The settings where nothing else is said. -/
def default : WorkspaceSettings := ⟨.default, .default, "info"⟩

instance : Inhabited WorkspaceSettings := ⟨default⟩

/-- What is wrong with settings. -/
inductive Fault where
  /-- The user that stands in where none is given has no name. -/
  | blankDefaultUser
  /-- Requests would have no time. -/
  | noTimeout
  /-- Reminders would come without a pause. -/
  | noReminderInterval
deriving DecidableEq

/-- What the user is told. -/
def Fault.message : Fault → String
  | blankDefaultUser => "Invalid configuration: engine.default_user must not be empty"
  | noTimeout => "Invalid configuration: background.timeout_ms must be greater than zero"
  | noReminderInterval =>
    "Invalid configuration: background.reminder_interval_secs must be greater than zero"

/-- Refuses settings that make no sense. -/
def check (s : WorkspaceSettings) : Except Fault Unit :=
  if Text.isBlankText s.policy.defaultUser then .error .blankDefaultUser
  else if s.background.timeout = 0 then .error .noTimeout
  else if s.background.reminderInterval = 0 then .error .noReminderInterval
  else .ok ()

end WorkspaceSettings

end TaskPipeline
