import TaskPipeline.Cli.Command
import TaskPipeline.Json.Printer
import TaskPipeline.Task.Points

/-!
# Reports

What commands print: a record for programs, or lines for people.
-/

namespace TaskPipeline.Cli

open Json (Value)

/-- A text with spaces behind it up to a width. -/
def padRight (width : Nat) (s : String) : String :=
  s ++ String.ofList (List.replicate (width - s.length) ' ')

/-- Lines, each with its line end. -/
def asLines (lines : List String) : String := String.join (lines.map (· ++ "\n"))

/-- The record or the text, as the format asks. -/
def inFormat (format : OutputFormat) (record : Value) (text : String) : String :=
  match format with
  | .json => record.print ++ "\n"
  | .text => text

/-- A plain message. -/
def success (format : OutputFormat) (message : String) : String :=
  inFormat format (.object [("message", .string message), ("success", .bool true)])
    (message ++ "\n")

/-! ### Tasks -/

/-- A task on one line, after what happened to it. -/
def taskLine (verb : String) (t : Task) : String :=
  verb ++ " " ++ t.id.text ++ ": " ++ t.name ++ " [" ++ t.stage.text ++ "/" ++ t.status.text ++ "]"

/-- The completed and the declared points of a task. -/
def pointsText (t : Task) : String := toString t.completedPoints ++ "/" ++ toString t.totalPoints

/-- A row of the table of tasks. -/
def row (id stage status points name : String) : String :=
  padRight 12 id ++ " " ++ padRight 9 stage ++ " " ++ padRight 12 status ++ " " ++
    padRight 8 points ++ " " ++ name

/-- The table of tasks. -/
def table (ts : List Task) : String :=
  if ts.isEmpty then "No tasks\n"
  else
    asLines (row "ID" "STAGE" "STATUS" "POINTS" "NAME" :: String.ofList (List.replicate 60 '-') ::
      ts.map fun t => row t.id.text t.stage.text t.status.text (pointsText t) t.name)

/-- A heading with lines under it; nothing without lines. -/
def block (heading : String) (lines : List String) : List String :=
  if lines.isEmpty then [] else "" :: (heading ++ ":") :: lines

/-- Everything about a task. -/
def details (t : Task) : String :=
  let indented (s : String) : String := "  " ++ s
  asLines (
    ["Task: " ++ t.id.text, "Name: " ++ t.name, "Owner: " ++ t.owner.text,
      "Stage: " ++ t.stage.text, "Status: " ++ t.status.text] ++
    (if t.location.isEmpty then [] else ["Location: " ++ t.locationPath]) ++
    ["Points: " ++ pointsText t] ++
    (t.schedule.due.map fun due => "Due: " ++ due.minuteText).toList ++
    ["Created: " ++ t.createdAt.minuteText, "Updated: " ++ t.updatedAt.minuteText] ++
    block "Description" (if t.description.isEmpty then [] else [t.description]) ++
    block "Depends on" (t.inflows.ids.map fun i => indented i.text) ++
    block "Enables" (t.outflows.ids.map fun i => indented i.text) ++
    block "Tags" (t.tags.toList.map fun g => indented (g.key ++ ": " ++ g.value.display)) ++
    block "History" (t.history.map fun u => indented (u.time.minuteText ++ "  " ++ u.note)))

/-- What a command did to a task. -/
def TaskCommand.verb : TaskCommand → String
  | add _ _ _ => "Added"
  | stage _ _ _ _ _ => "Staged"
  | start _ => "Started"
  | stop _ _ => "Stopped"
  | complete _ => "Completed"
  | merge _ _ => "Merged into"
  | split _ _ _ => "Created"
  | advertise _ _ => "Advertised"
  | stitch _ _ => "Linked"
  | tag _ _ => "Tagged"
  | due _ _ => "Updated"
  | _ => "Found"

/-- What is printed about a task on which work was stopped. -/
def stopText (t : Task) : String :=
  if t.status.isComplete then asLines [taskLine "Stopped and completed" t]
  else asLines [taskLine "Stopped" t, "Progress: " ++ pointsText t ++ " points"]

/-- What a command on tasks prints. -/
def TaskCommand.report (c : TaskCommand) (format : OutputFormat) : Service.Response → String
  | .task t =>
    match c with
    | view _ => inFormat format t.encode (details t)
    | _ => inFormat format t.encode (asLines [taskLine c.verb t])
  | .tasks ts =>
    match c with
    | list _ _ => inFormat format (.array (ts.map Task.encode)) (table ts)
    | _ => inFormat format (.array (ts.map Task.encode)) (asLines (ts.map (taskLine c.verb)))
  | .stopped t => inFormat format (Service.Response.encodeStopped t) (stopText t)
  | .dag d =>
    inFormat format (Service.Response.encodeNodes d)
      (if d.tasks.isEmpty then "No tasks\n" else d.render)
  | .resolved id => inFormat format id.encode (asLines [id.text])
  | .integrity violations =>
    inFormat format (Service.Response.encodeIntegrity violations)
      (if violations.isEmpty then "Task graph is consistent\n"
      else asLines (violations.map fun v => "  " ++ v.message))

/-- The complaint that follows a report. -/
def complaint? : Service.Response → Option String
  | .integrity violations =>
    if violations.isEmpty then none
    else some ("integrity check found " ++ toString violations.length ++ " violation(s)")
  | _ => none

/-! ### Users -/

/-- The table of users. -/
def userTable (us : List User) : String :=
  if us.isEmpty then "No users\n"
  else asLines (us.map fun u => padRight 16 u.id.text ++ " " ++ padRight 28 u.email ++ " " ++ u.name)

end TaskPipeline.Cli
