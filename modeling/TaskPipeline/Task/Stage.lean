import TaskPipeline.Text.Blank
import TaskPipeline.Text.LowerCase

/-!
# Stages and statuses

A task's stage says where it stands in the pipeline, and its status what has become of the work.
-/

namespace TaskPipeline

/-- Where a task stands in the pipeline. -/
inductive Stage where
  | pending
  | inbox
  | staging
  | active
  | archived
deriving DecidableEq

namespace Stage

/-- All stages in the order of the pipeline. -/
def all : List Stage := [pending, inbox, staging, active, archived]

/-- The name of a stage. -/
def text : Stage → String
  | pending => "pending"
  | inbox => "inbox"
  | staging => "staging"
  | active => "active"
  | archived => "archived"

/-- Whether no task leaves the stage. -/
def isTerminal (s : Stage) : Bool := s == archived

/-- The stage with exactly this name. -/
def ofText? (s : String) : Option Stage := all.find? (·.text == s)

/-- The stage that a text names, blanks around it and the case of its letters aside. -/
def read? (s : String) : Option Stage :=
  all.find? fun stage => Text.eqIgnoringAsciiCase stage.text (Text.trim s)

/-- The mark that stands for a stage in the rendered graph. -/
def icon : Stage → String
  | pending => "○"
  | inbox => "□"
  | staging => "◇"
  | active => "●"
  | archived => "✓"

end Stage

/-- What has become of the work on a task. -/
inductive Status where
  | todo
  | inProgress
  | paused
  | blocked
  | completed
  | cancelled
deriving DecidableEq

namespace Status

/-- All statuses. -/
def all : List Status := [todo, inProgress, paused, blocked, completed, cancelled]

/-- The name of a status. -/
def text : Status → String
  | todo => "todo"
  | inProgress => "in_progress"
  | paused => "paused"
  | blocked => "blocked"
  | completed => "completed"
  | cancelled => "cancelled"

/-- The status with exactly this name. -/
def ofText? (s : String) : Option Status := all.find? (·.text == s)

/-- Whether the work is done. -/
def isComplete (s : Status) : Bool := s == completed

/-- Whether nothing more is to be done. -/
def isTerminal (s : Status) : Bool := s == completed || s == cancelled

end Status

end TaskPipeline
