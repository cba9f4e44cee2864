import TaskPipeline.Engine.Query
import TaskPipeline.Record.Task

/-!
# Requests and responses

What a caller sends to the service and gets back.  Tasks are named by texts, which may be
abbreviated; the service resolves them.
-/

namespace TaskPipeline.Service

open Json (Value Decoder Fields)

/-- A request. -/
inductive Request where
  /-- A new task; a blank user stands for the default user. -/
  | addTask (name description user : String)
  /-- Staging behind a task or at a location. -/
  | moveToStaging (source : String) (destination : Option String) (location : List String)
      (points : List Point) (tags : Tags)
  | startTask (id : String)
  | stopTask (id : String) (points : List Point)
  | completeTask (id : String)
  | mergeTasks (source target : String)
  | splitTask (id : String) (names descriptions : List String)
  | advertiseTask (id : String) (targets : List String)
  | stitchTasks (sources : List String) (target : String)
  | listTasks (stage : Option Stage) (user : Option String)
  | getTask (id : String)
  | getTaskDag (user : Option String)
  | updateTaskTags (id : String) (tags : Tags)
  | setDueDate (id : String) (due : Option Instant)
  | resolveTaskId (given : String) (user : Option String)
  | checkIntegrity

namespace Request

/-- The name of the request in logs and errors. -/
def title : Request → String
  | addTask _ _ _ => "AddTask"
  | moveToStaging _ _ _ _ _ => "MoveToStaging"
  | startTask _ => "StartTask"
  | stopTask _ _ => "StopTask"
  | completeTask _ => "CompleteTask"
  | mergeTasks _ _ => "MergeTasks"
  | splitTask _ _ _ => "SplitTask"
  | advertiseTask _ _ => "AdvertiseTask"
  | stitchTasks _ _ => "StitchTasks"
  | listTasks _ _ => "ListTasks"
  | getTask _ => "GetTask"
  | getTaskDag _ => "GetTaskDAG"
  | updateTaskTags _ _ => "UpdateTaskTags"
  | setDueDate _ _ => "SetDueDate"
  | resolveTaskId _ _ => "ResolveTaskID"
  | checkIntegrity => "CheckIntegrity"

/-- A text. -/
def text : Decoder String := Json.Decode.string

/-- Several texts. -/
def texts : Decoder (List String) := Json.Decode.list text

/-- A text that may be `null`. -/
def textOrNull : Decoder (Option String) := Json.Decode.option text

/-- Reads a request that names one task. -/
def ofId (f : String → Request) : Decoder Request := fun v => do
  let r ← Fields.ofValue? ["id"] v
  return f (← r.required "id" text)

/-- Reads the request of a method. -/
def decode (method : String) : Decoder Request := fun v =>
  match method with
  | "add_task" => do
    let r ← Fields.ofValue? ["name", "description", "user_id"] v
    return addTask (← r.required "name" text) (← r.defaulted "description" text "")
      (← r.defaulted "user_id" text "")
  | "move_to_staging" => do
    let r ← Fields.ofValue? ["source_id", "destination_id", "new_location", "points", "tags"] v
    return moveToStaging (← r.required "source_id" text)
      (← r.defaulted "destination_id" textOrNull none) (← r.defaulted "new_location" texts [])
      (← r.defaulted "points" Point.decodeAll []) (← r.defaulted "tags" Tags.decode .empty)
  | "start_task" => ofId startTask v
  | "stop_task" => do
    let r ← Fields.ofValue? ["id", "points_completed"] v
    return stopTask (← r.required "id" text) (← r.defaulted "points_completed" Point.decodeAll [])
  | "complete_task" => ofId completeTask v
  | "merge_tasks" => do
    let r ← Fields.ofValue? ["from_id", "to_id"] v
    return mergeTasks (← r.required "from_id" text) (← r.required "to_id" text)
  | "split_task" => do
    let r ← Fields.ofValue? ["id", "new_names", "new_descriptions"] v
    return splitTask (← r.required "id" text) (← r.required "new_names" texts)
      (← r.defaulted "new_descriptions" texts [])
  | "advertise_task" => do
    let r ← Fields.ofValue? ["id", "target_ids"] v
    return advertiseTask (← r.required "id" text) (← r.required "target_ids" texts)
  | "stitch_tasks" => do
    let r ← Fields.ofValue? ["source_ids", "target_id"] v
    return stitchTasks (← r.required "source_ids" texts) (← r.required "target_id" text)
  | "list_tasks" => do
    let r ← Fields.ofValue? ["stage", "user_id"] v
    return listTasks (← r.defaulted "stage" (Json.Decode.option Stage.decode) none)
      (← r.defaulted "user_id" textOrNull none)
  | "get_task" => ofId getTask v
  | "get_task_dag" => do
    let r ← Fields.ofValue? ["user_id"] v
    return getTaskDag (← r.defaulted "user_id" textOrNull none)
  | "update_task_tags" => do
    let r ← Fields.ofValue? ["id", "tags"] v
    return updateTaskTags (← r.required "id" text) (← r.required "tags" Tags.decode)
  | "set_due_date" => do
    let r ← Fields.ofValue? ["id", "due"] v
    return setDueDate (← r.required "id" text)
      (← r.defaulted "due" (Json.Decode.option Instant.decode) none)
  | "resolve_task_id" => do
    let r ← Fields.ofValue? ["partial_id", "user_id"] v
    return resolveTaskId (← r.required "partial_id" text) (← r.defaulted "user_id" textOrNull none)
  | "check_integrity" => some checkIntegrity
  | _ => none

end Request

/-- A response. -/
inductive Response where
  /-- One task. -/
  | task (t : Task)
  /-- Several tasks. -/
  | tasks (ts : List Task)
  /-- A task on which work was stopped. -/
  | stopped (t : Task)
  /-- The dependency order. -/
  | dag (view : DagView)
  /-- A full identifier. -/
  | resolved (id : TaskId)
  /-- The findings of the integrity scan. -/
  | integrity (violations : List Graph.Violation)

namespace Response

/-- The nodes of a dependency order. -/
def encodeNodes (view : DagView) : Value :=
  .array (view.tasks.map fun t =>
    .object [("task", t.encode), ("short_id", .string (view.label t.id))])

/-- The findings of the integrity scan as a record. -/
def encodeIntegrity (violations : List Graph.Violation) : Value :=
  .object [("healthy", .bool violations.isEmpty),
    ("violations", .strings (violations.map (·.message)))]

/-- A task on which work was stopped, and whether it is complete. -/
def encodeStopped (t : Task) : Value :=
  .object [("task", t.encode), ("completed", .bool t.status.isComplete)]

/-- The response as a record. -/
def encode : Response → Value
  | task t => .object [("task", t.encode)]
  | tasks ts => .object [("tasks", .array (ts.map Task.encode))]
  | stopped t => encodeStopped t
  | dag view => .object [("nodes", encodeNodes view), ("rendered", .string view.render)]
  | resolved id => .object [("id", id.encode)]
  | integrity violations => encodeIntegrity violations

end Response

end TaskPipeline.Service
