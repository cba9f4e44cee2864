import TaskPipeline.Log.Level
import TaskPipeline.Service.Failure
import TaskPipeline.Service.Handle

/-!
# What the log says

The lines that requests leave in the log: that they begin and end, what they changed, what they found
and whom they told.  A line is a message with named values after it, and values stand in it as they
are.  So a value that goes over several lines makes several lines of the log.
-/

namespace TaskPipeline.LogLine

/-- A message with named values. -/
def ofValues (level : LogLevel) (message : String) (values : List (String × String)) : LogLine :=
  ⟨level, String.join (message :: values.map fun (name, value) => " " ++ name ++ "=" ++ value)⟩

/-- The line of a message to a user. -/
def ofDelivery : Delivery → LogLine
  | .assigned u t =>
    ofValues .info "notify: task assigned"
      [("user_id", u.id.text), ("email", u.email), ("task_id", t.id.text)]
  | .started u t =>
    ofValues .info "notify: task started"
      [("user_id", u.id.text), ("email", u.email), ("task_id", t.id.text)]
  | .due r =>
    ofValues .info "notify: task due soon"
      [("user_id", r.user.text), ("task_id", r.task.text),
        ("days_before", toString r.daysBefore.toNat)]
  | .event t => ofValues .info "calendar: task started" [("task_id", t.id.text)]

/-- The beginning of a request. -/
def requestStarted : LogLine := ⟨.info, "request started"⟩

/-- The end of a request that did what it should. -/
def requestSucceeded : LogLine := ⟨.info, "request succeeded"⟩

/-- The end of a request that failed. -/
def ofFailure (f : Service.Failure) : LogLine :=
  ofValues (if f.code = .internal then .error else .warn) "request failed"
    [("code", f.code.text), ("error", f.message)]

/-- A finding of the integrity scan. -/
def ofViolation (v : Graph.Violation) : LogLine :=
  ofValues .error "integrity violation" [("violation", v.message)]

/-- What a request changed; `fullId` completes the identifiers that it names. -/
def ofChange (fullId : String → String) : Service.Request → Service.Response → List LogLine
  | .addTask _ _ _, .task t =>
    [ofValues .info "task added" [("task_id", t.id.text), ("user_id", t.owner.text)]]
  | .moveToStaging _ _ _ _ _, .task t =>
    [ofValues .info "task staged" [("task_id", t.id.text), ("location", t.locationPath)]]
  | .startTask _, .task t => [ofValues .info "task started" [("task_id", t.id.text)]]
  | .stopTask _ _, .stopped t =>
    [ofValues .info "task stopped"
      [("task_id", t.id.text), ("completed", toString t.status.isComplete)]]
  | .completeTask _, .task t => [ofValues .info "task completed" [("task_id", t.id.text)]]
  | .updateTaskTags _ _, .task t =>
    [ofValues .debug "tags updated"
      [("task_id", t.id.text), ("tags", toString t.tags.toList.length)]]
  | .setDueDate _ _, .task t => [ofValues .debug "due date updated" [("task_id", t.id.text)]]
  | .advertiseTask _ targets, .task t =>
    [ofValues .info "task advertised"
      [("task_id", t.id.text), ("targets", toString targets.length)]]
  | .stitchTasks sources target, .tasks _ =>
    [ofValues .info "tasks stitched"
      [("task_id", fullId target), ("sources", toString sources.length)]]
  | .mergeTasks source _, .task t =>
    [ofValues .info "tasks merged" [("from", fullId source), ("to", t.id.text)]]
  | .splitTask id names _, .tasks _ =>
    [ofValues .info "task split"
      [("task_id", fullId id), ("parts", toString names.length)]]
  | _, _ => []

/-- Why a user is not told about a task. -/
def ofUnknownOwner (parties : Collaborators) (t : Task) : List LogLine :=
  let line (e : StoreError) : LogLine :=
    ofValues .debug "no user to notify" [("task_id", t.id.text), ("error", e.message)]
  match parties.directory with
  | none => []
  | some (.error e) => [line e]
  | some (.ok users) =>
    if users.contains t.owner.text then [] else [line (.userNotFound t.owner)]

/-- What a response says about users who are not told. -/
def ofUntold (parties : Collaborators) : Service.Request → Service.Response → List LogLine
  | .addTask _ _ _, .task t => ofUnknownOwner parties t
  | .startTask _, .task t => ofUnknownOwner parties t
  | _, _ => []

/-- What a request found. -/
def ofFindings : Service.Response → List LogLine
  | .integrity violations => violations.map ofViolation
  | _ => []

/-- The lines of a request with its outcome and the messages to users. -/
def ofRequest (parties : Collaborators) (fullId : String → String) (request : Service.Request)
    (outcome : Except EngineError Service.Response) (delivered : List Delivery) : List LogLine :=
  requestStarted ::
    match outcome with
    | .error e => [ofFailure (.ofError e)]
    | .ok response =>
      ofChange fullId request response ++ ofUntold parties request response ++
        delivered.map ofDelivery ++ ofFindings response ++ [requestSucceeded]

end TaskPipeline.LogLine
