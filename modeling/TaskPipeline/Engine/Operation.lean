import TaskPipeline.Engine.Structure

/-!
# Operations

`Operation` lists the operations that change tasks, and `Operation.edit` says what each does to a set
of tasks: it gives the changed set and the tasks to return, or an error.  An operation reads either
one task, or one task and its inflows, or the whole store (`Operation.scope`); its edit looks at
nothing else, so it may be applied to the part that was read.

Times and new identifiers come from an `Ambient`, so that an edit is a function.
-/

namespace TaskPipeline

/-- What an operation takes from its surroundings: readings of the clock and fresh identifiers. -/
structure Ambient where
  /-- The readings of the clock, in their order. -/
  now : Nat → Instant
  /-- Identifiers that no task ever had. -/
  fresh : Nat → TaskId

/-- Where a task is staged. -/
inductive Destination where
  /-- Behind another task, at its location. -/
  | behind (id : TaskId)
  /-- At a location. -/
  | location (segments : List String)
deriving DecidableEq

/-- The destination given by a task or a location, of which exactly one must be there. -/
def Destination.ofParts (task : Option TaskId) (location : List String) :
    Except EngineError Destination :=
  match task, location with
  | some _, _ :: _ =>
    .error (.validation "give either a destination task or a new location, not both")
  | none, [] => .error (.validation "a destination task or a new location is required")
  | some id, [] => .ok (.behind id)
  | none, segments =>
    if segments.any Text.isBlankText then
      .error (.validation "location segments must not be empty")
    else .ok (.location segments)

/-- An operation that changes tasks. -/
inductive Operation where
  /-- Creates a task in the inbox. -/
  | add (name description : String) (owner : UserId)
  /-- Moves a task to staging. -/
  | stage (id : TaskId) (destination : Destination) (points : List Point) (tags : Tags)
  /-- Begins work on a task. -/
  | start (id : TaskId)
  /-- Stops work on a task, with the points completed in it. -/
  | stop (id : TaskId) (points : List Point)
  /-- Marks a task complete. -/
  | complete (id : TaskId)
  /-- Adds tags to a task. -/
  | tag (id : TaskId) (tags : Tags)
  /-- Sets or clears the due time of a task. -/
  | setDue (id : TaskId) (due : Option Instant)
  /-- Makes several tasks depend on one. -/
  | advertise (source : TaskId) (targets : List TaskId)
  /-- Makes one task depend on several. -/
  | stitch (sources : List TaskId) (target : TaskId)
  /-- Folds a task into another. -/
  | merge (source target : TaskId)
  /-- Replaces a task with a chain of new ones. -/
  | split (id : TaskId) (names descriptions : List String)
  /-- Notes the calendar event of a task. -/
  | recordEvent (id : TaskId) (event : String)

/-- The part of the store that an operation reads. -/
inductive Scope where
  /-- One task. -/
  | task (id : TaskId)
  /-- One task, and its inflows once the task allows the change. -/
  | withInflows (id : TaskId)
  /-- Every task. -/
  | whole
deriving DecidableEq

namespace Operation

/-- The part of the store that the operation reads. -/
def scope : Operation → Scope
  | add _ _ _ => .whole
  | stage _ (.behind _) _ _ => .whole
  | stage id (.location _) _ _ => .task id
  | start id => .withInflows id
  | stop id _ => .task id
  | complete id => .task id
  | tag id _ => .task id
  | setDue id _ => .task id
  | advertise _ _ => .whole
  | stitch _ _ => .whole
  | merge _ _ => .whole
  | split _ _ _ => .whole
  | recordEvent id _ => .task id

/-- What the operation is called in error messages. -/
def title : Operation → String
  | add _ _ _ => "add task"
  | stage _ _ _ _ => "move to staging"
  | start _ => "start task"
  | stop _ _ => "stop task"
  | complete _ => "complete task"
  | tag _ _ => "update tags"
  | setDue _ _ => "set due date"
  | advertise _ _ => "advertise task"
  | stitch _ _ => "stitch tasks"
  | merge _ _ => "merge tasks"
  | split _ _ _ => "split task"
  | recordEvent _ _ => "store calendar event"

/-- Refuses arguments that make no sense whatever the store holds. -/
def checkArguments : Operation → Except EngineError Unit
  | add name _ _ =>
    if Text.isBlankText name then .error (.validation "task name must not be empty") else .ok ()
  | advertise _ targets =>
    if targets.isEmpty then .error (.validation "at least one target is required") else .ok ()
  | stitch sources _ =>
    if sources.isEmpty then .error (.validation "at least one source is required") else .ok ()
  | merge source target =>
    if source = target then .error (.validation "cannot merge a task into itself") else .ok ()
  | split _ names descriptions =>
    if names.isEmpty then .error (.validation "at least one new name is required")
    else if names.length ≠ descriptions.length then
      .error (.validation ("got " ++ toString names.length ++ " names but " ++
        toString descriptions.length ++ " descriptions"))
    else if names.any Text.isBlankText then
      .error (.validation "task names must not be empty")
    else .ok ()
  | _ => .ok ()

/-! ### Edits -/

/-- The changed tasks and the tasks to return, in their order. -/
abbrev Edited := TaskMap × List TaskId

/-- The tasks that an edit created: an operation that creates tasks returns just these. -/
def created (op : Operation) (edited : Edited) : List TaskId :=
  match op with
  | add _ _ _ | split _ _ _ => edited.2
  | _ => []

/-- Changes one task. -/
def editTask (tasks : TaskMap) (id : TaskId) (f : Task → Except EngineError Task) :
    Except EngineError Edited := do
  let t ← tasks.demand id
  let t ← f t
  return (tasks.insert t, [id])

/-- Creates a task in the inbox, unless the inbox is full. -/
def editAdd (policy : Policy) (name description : String) (owner : UserId) (ambient : Ambient)
    (tasks : TaskMap) : Except EngineError Edited :=
  let held := tasks.inboxCount
  if policy.maxInbox ≤ held then
    .error (.validation ("inbox is full (" ++ toString held ++ " of " ++ toString policy.maxInbox ++
      " tasks)"))
  else
    let id := ambient.fresh 0
    let t := Task.added id (Text.trim name) description owner (ambient.now 0)
    .ok (tasks.insert t, [id])

/-- Moves a task to staging at a location. -/
def editStageAt (id : TaskId) (location : List String) (points : List Point) (tags : Tags)
    (now : Instant) (tasks : TaskMap) : Except EngineError Edited :=
  editTask tasks id fun t => do
    refusing t.canStage
    return t.staged now location points tags

/-- Moves a task to staging behind another one. -/
def editStageBehind (id other : TaskId) (points : List Point) (tags : Tags) (now : Instant)
    (tasks : TaskMap) : Except EngineError Edited := do
  let t ← tasks.demand id
  refusing t.canStage
  let o ← tasks.demand other
  let tasks ← tasks.linked other id now
  editTask tasks id fun t => .ok (t.staged now o.location points tags)

/-- Begins work on a task whose inflows are all completed. -/
def editStart (id : TaskId) (now : Instant) (tasks : TaskMap) : Except EngineError Edited :=
  editTask tasks id fun t => do
    refusing t.canStart
    t.checkInflows tasks t.inflows.ids
    return t.started now

/-- Stops work on a task. -/
def editStop (policy : Policy) (id : TaskId) (points : List Point) (now : Instant)
    (tasks : TaskMap) : Except EngineError Edited :=
  editTask tasks id fun t => do
    refusing t.canStop
    t.stopped? now points policy.zeroPointsComplete

/-- Marks a task complete. -/
def editComplete (id : TaskId) (now : Instant) (tasks : TaskMap) : Except EngineError Edited :=
  editTask tasks id fun t => do
    refusing t.canComplete
    t.completed? now

/-- Links a task to several others. -/
def editAdvertise (source : TaskId) (targets : List TaskId) (now : Instant) (tasks : TaskMap) :
    Except EngineError Edited := do
  let _ ← tasks.demand source
  let tasks ← tasks.linkedAll now (targets.eraseDups.map fun t => (source, t))
  return (tasks, [source])

/-- Links several tasks to one. -/
def editStitch (sources : List TaskId) (target : TaskId) (now : Instant) (tasks : TaskMap) :
    Except EngineError Edited := do
  let _ ← tasks.demand target
  let tasks ← tasks.linkedAll now (sources.eraseDups.map fun s => (s, target))
  return (tasks, sources.eraseDups ++ [target])

/-- The parts of a task that is split, each created after the one before it. -/
def parts (task : Task) (ambient : Ambient) (names descriptions : List String) : List Task :=
  (names.zip descriptions).zipIdx.map fun ((name, description), i) =>
    task.part (ambient.fresh i) name description (ambient.now i)

/-- Replaces a task with a chain of new ones. -/
def editSplit (policy : Policy) (id : TaskId) (names descriptions : List String) (ambient : Ambient)
    (tasks : TaskMap) : Except EngineError Edited := do
  let task ← tasks.demand id
  tasks.checkSplit task names.length policy.maxInbox
  let parts := parts task ambient names descriptions
  let tasks ← tasks.splitInto task parts (ambient.now names.length)
  return (tasks, parts.map Task.id)

/-- What the operation does to the tasks. -/
def edit (policy : Policy) (op : Operation) (ambient : Ambient) (tasks : TaskMap) :
    Except EngineError Edited :=
  let now := ambient.now 0
  match op with
  | add name description owner => editAdd policy name description owner ambient tasks
  | stage id (.location segments) points tags => editStageAt id segments points tags now tasks
  | stage id (.behind other) points tags => editStageBehind id other points tags now tasks
  | start id => editStart id now tasks
  | stop id points => editStop policy id points now tasks
  | complete id => editComplete id now tasks
  | tag id tags => editTask tasks id fun t => .ok (t.mergeTags now tags true)
  | setDue id due => editTask tasks id fun t => .ok (t.withDue now due)
  | advertise source targets => editAdvertise source targets now tasks
  | stitch sources target => editStitch sources target now tasks
  | merge source target =>
    (tasks.merged source target now policy.tagCollision).map fun tasks => (tasks, [target])
  | split id names descriptions => editSplit policy id names descriptions ambient tasks
  | recordEvent id event => (editTask tasks id fun t => .ok (t.withEvent event)).map fun e => (e.1, [])

end Operation

end TaskPipeline
