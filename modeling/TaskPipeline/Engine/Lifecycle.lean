import TaskPipeline.Engine.Error
import TaskPipeline.Engine.Policy
import TaskPipeline.Task.Points

/-!
# Life of a task

What the operations on a single task do to it: add, stage, start, stop, complete, tag, set the due
date.  Each is a function on the task and the time, with no store in sight.

    (new) -> inbox -> staging -> active -> staging     stopped before all points are completed
                                        -> archived    stopped with all points completed, or completed
-/

namespace TaskPipeline

/-- The tasks in the inbox. -/
def TaskMap.inboxCount (tasks : TaskMap) : Nat := (tasks.toList.filter (·.stage = .inbox)).length

namespace Task

/-- A new task in the inbox. -/
def added (id : TaskId) (name description : String) (owner : UserId) (now : Instant) : Task :=
  note { create id name description owner now with stage := .inbox } now "Added to inbox"

/-- The task moved to staging at a location.  Points replace the declared ones if there are any, and
tags are added. -/
def staged (t : Task) (now : Instant) (location : List String) (points : List Point) (tags : Tags) :
    Task :=
  let t := { t with location := location, points := if points.isEmpty then t.points else points }
  let t := if tags.isEmpty then t else t.mergeTags now tags true
  let t := { t with stage := .staging }
  t.note now ("Moved to staging at /" ++ t.locationPath)

/-- The task with work begun. -/
def started (t : Task) (now : Instant) : Task :=
  note { t.openInterval now with stage := .active, status := .inProgress } now "Started"

/-- The error for an active task without an open work interval. -/
def noWork (t : Task) : EngineError :=
  .integrity ("active task " ++ t.id.text ++ " has no open work interval")

/-- Moves a task to where it belongs after work on it has stopped: to the archive if its points are
completed, else back to staging. -/
def settled (t : Task) (now : Instant) (zeroIsComplete : Bool) : Task :=
  if t.isComplete zeroIsComplete then
    note { t with status := .completed, stage := .archived } now "Stopped; all points completed"
  else
    note { t with status := .todo, stage := .staging } now
      ("Stopped; " ++ toString t.completedPoints ++ " of " ++ toString t.totalPoints ++
        " points completed")

/-- The task with work stopped and the points completed in it. -/
def stopped? (t : Task) (now : Instant) (points : List Point) (zeroIsComplete : Bool) :
    Except EngineError Task :=
  match t.closeInterval? now points with
  | none => .error t.noWork
  | some t => .ok (t.settled now zeroIsComplete)

/-- The task marked complete, with everything that is outstanding credited to its last work
interval. -/
def completed? (t : Task) (now : Instant) : Except EngineError Task :=
  match t.closeInterval? now t.outstanding with
  | none => .error t.noWork
  | some t => .ok (note { t with stage := .archived, status := .completed } now "Marked complete")

/-- The task with a due time, or without one. -/
def withDue (t : Task) (now : Instant) (due : Option Instant) : Task :=
  let text :=
    match due with
    | some due => "Due date set to " ++ due.date.text
    | none => "Due date cleared"
  note { t with schedule := { t.schedule with due := due } } now text

/-- The task with a calendar event. -/
def withEvent (t : Task) (event : String) : Task := { t with calendarEvent := some event }

/-- The first inflow that keeps a task from being started, as an error. -/
def checkInflows (t : Task) (tasks : TaskMap) : List TaskId → Except EngineError Unit
  | [] => .ok ()
  | inflow :: rest =>
    match tasks.get? inflow with
    | none =>
      .error (.integrity ("task " ++ t.id.text ++ " has a dangling inflow: " ++ inflow.text))
    | some p =>
      if p.status.isComplete then t.checkInflows tasks rest
      else .error (.dependencyNotSatisfied t.id inflow)

end Task

/-- Turns a refused change into an engine error. -/
def refusing {α : Type} : Except TransitionError α → Except EngineError α :=
  Except.mapError .invalidState

/-- The task with an identifier. -/
def TaskMap.demand (tasks : TaskMap) (id : TaskId) : Except EngineError Task :=
  match tasks.get? id with
  | some t => .ok t
  | none => .error (.taskNotFound id)

end TaskPipeline
