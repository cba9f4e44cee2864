import TaskPipeline.Task.Flows
import TaskPipeline.Task.Stage
import TaskPipeline.Task.Tag
import TaskPipeline.Task.Work

/-!
# Tasks

A `Task` with its place in the pipeline, its effort and work, its neighbours in the dependency graph
and its history.  The functions here change one task; every change by a user leaves a history entry
or at least the time of the change.
-/

namespace TaskPipeline

/-- A history entry. -/
structure StatusUpdate where
  /-- When it was written. -/
  time : Instant
  /-- What happened. -/
  note : String
deriving DecidableEq

/-- A task. -/
structure Task where
  /-- The task's identifier. -/
  id : TaskId
  /-- The owner. -/
  owner : UserId
  /-- The name. -/
  name : String
  /-- A longer description, or nothing. -/
  description : String
  /-- Where the task stands in the pipeline. -/
  stage : Stage
  /-- What has become of the work. -/
  status : Status
  /-- The segments of the path at which the task is staged. -/
  location : List String
  /-- The declared effort. -/
  points : List Point
  /-- The due time and the work. -/
  schedule : Schedule
  /-- The history, oldest entry first. -/
  history : List StatusUpdate
  /-- The tags. -/
  tags : Tags
  /-- The tasks that this one depends on. -/
  inflows : Flows
  /-- The tasks that depend on this one. -/
  outflows : Flows
  /-- The calendar event of the work under way. -/
  calendarEvent : Option String
  /-- When the task was created. -/
  createdAt : Instant
  /-- When the task was last changed. -/
  updatedAt : Instant
  /-- The number of times the task was written to the store. -/
  version : Nat
deriving DecidableEq

instance : Keyed Task := ⟨fun t => t.id.text⟩

/-- Tasks by identifier. -/
abbrev TaskMap := Catalog Task

namespace TaskMap

/-- The task with an identifier. -/
def get? (tasks : TaskMap) (id : TaskId) : Option Task := tasks.find? id.text

/-- Whether there is a task with an identifier. -/
def has (tasks : TaskMap) (id : TaskId) : Bool := tasks.contains id.text

/-- Removes a task. -/
def remove (tasks : TaskMap) (id : TaskId) : TaskMap := tasks.erase id.text

/-- The identifiers in ascending order. -/
def ids (tasks : TaskMap) : List TaskId := tasks.toList.map Task.id

end TaskMap

namespace Task

/-- A new task, not yet written to the store. -/
def create (id : TaskId) (name description : String) (owner : UserId) (now : Instant) : Task where
  id := id
  owner := owner
  name := name
  description := description
  stage := .pending
  status := .todo
  location := []
  points := []
  schedule := .empty
  history := []
  tags := .empty
  inflows := .empty
  outflows := .empty
  calendarEvent := none
  createdAt := now
  updatedAt := now
  version := 0

/-- Notes the time of a change. -/
def touch (t : Task) (now : Instant) : Task := { t with updatedAt := now }

/-- Adds a history entry. -/
def note (t : Task) (now : Instant) (text : String) : Task :=
  { t with history := t.history ++ [⟨now, text⟩], updatedAt := now }

/-- Begins a work interval. -/
def openInterval (t : Task) (now : Instant) : Task :=
  { t with schedule := t.schedule.openInterval now, updatedAt := now }

/-- Ends the open work interval with the points completed in it; `none` if no interval is open. -/
def closeInterval? (t : Task) (now : Instant) (points : List Point) : Option Task :=
  (t.schedule.closeInterval? now points).map fun s => { t with schedule := s, updatedAt := now }

/-- Adds tags; where both sides have a name, `overwrite` lets the added tag win. -/
def mergeTags (t : Task) (now : Instant) (added : Tags) (overwrite : Bool) : Task :=
  { t with tags := Tags.merge t.tags added overwrite, updatedAt := now }

/-- Whether two tasks have the same values; the tags are compared by `Tags.same`. -/
def same (t other : Task) : Bool :=
  decide ({ t with tags := other.tags } = other) && t.tags.same other.tags

/-- Whether two tasks are staged at the same place. -/
def sameChain (t other : Task) : Bool := t.location == other.location

/-- The location as a path. -/
def locationPath (t : Task) : String := String.intercalate "/" t.location

end Task

/-- Whether a task is there with the values that another has. -/
def TaskMap.holds (tasks : TaskMap) (t : Task) : Bool := (tasks.get? t.id).any (·.same t)

end TaskPipeline
