import TaskPipeline.Engine.Error
import TaskPipeline.Graph.Integrity
import TaskPipeline.Ident.Resolve
import TaskPipeline.Order.Levels
import TaskPipeline.Order.Sort
import TaskPipeline.Store.Script

/-!
# Queries

Operations that read the store and change nothing: one task, lists, the dependency order, full
identifiers from abbreviated ones, the integrity scan.
-/

namespace TaskPipeline

/-- Whether the first task was created before the second; of tasks created at the same time the one
with the smaller identifier comes first. -/
def Task.isOlder (a b : Task) : Bool :=
  match a.createdAt.compare b.createdAt with
  | .lt => true
  | .gt => false
  | .eq => a.id.text ≤ b.id.text

/-- Tasks in dependency order, each with the shortest text that identifies it. -/
structure DagView where
  /-- The tasks. -/
  tasks : List Task
  /-- The shortest text for each task, in the same order. -/
  labels : List (TaskId × String)

namespace DagView

/-- The shortest text for a task. -/
def label (view : DagView) (id : TaskId) : String :=
  match view.labels.find? (·.1 = id) with
  | some (_, s) => s
  | none => id.text

/-- The order as a text. -/
def render (view : DagView) : String := Order.render view.tasks view.label

/-- The view of a user's tasks, or of all tasks.  The shortest texts identify a task among all
tasks. -/
def ofTasks (all : List Task) (user : Option UserId) : Except EngineError DagView :=
  let selected :=
    match user with
    | some user => all.filter (·.owner = user)
    | none => all
  match Order.sort selected with
  | .error e => .error (.ofIncomplete e)
  | .ok tasks =>
    let known := all.map Task.id
    .ok ⟨tasks, tasks.map fun t => (t.id, t.id.shortest known)⟩

end DagView

namespace Query

/-- Reads every task for an operation. -/
def everyTask (title : String) : Script (Except EngineError (List Task)) := do
  return (← Script.ask .list).mapError (.ofStore title)

/-- One task. -/
def task (id : TaskId) : Script (Except EngineError Task) := do
  return (← Script.getTask id).mapError (.ofStore "get task")

/-- The tasks of a stage and of a user, oldest first. -/
def tasks (stage : Option Stage) (user : Option UserId) : Script (Except EngineError (List Task)) := do
  let wanted (t : Task) : Bool :=
    stage.all (t.stage = ·) && user.all (t.owner = ·)
  return (← everyTask "list tasks").map fun ts => (ts.filter wanted).mergeSort Task.isOlder

/-- The dependency order of a user's tasks, or of all tasks. -/
def dag (user : Option UserId) : Script (Except EngineError DagView) := do
  return (← everyTask "load graph") >>= fun ts => DagView.ofTasks ts user

/-- The task that a text names, among all tasks or among one user's. -/
def resolve (given : String) (user : Option UserId) : Script (Except EngineError TaskId) := do
  return (← everyTask "resolve task id") >>= fun ts =>
    let known := (ts.filter fun t => user.all (t.owner = ·)).map Task.id
    (Ident.resolve known given).mapError .ofIdent

/-- Everything that is wrong with the stored graph. -/
def violations : Script (Except EngineError (List Graph.Violation)) := do
  return (← everyTask "check integrity").map fun ts => Graph.violations (.ofList ts)

end Query

end TaskPipeline
