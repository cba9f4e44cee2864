import TaskPipeline.Engine.Background
import TaskPipeline.Engine.Query
import TaskPipeline.Service.Message

/-!
# Handling requests

`Service.handle` turns a request into store calls: it resolves the identifiers that the request
names, one after the other, runs the operation or the query, and starts the background jobs of a
successful operation.
-/

namespace TaskPipeline.Service

/-- The outcome of a request: the response and the jobs it starts, or the error. -/
abbrev Outcome := Except EngineError (Response × List Job)

/-- Everything that the handling of requests depends on besides the store. -/
structure Setup where
  /-- The settings of the engine. -/
  policy : Policy
  /-- The parties outside the engine. -/
  parties : Collaborators

/-- Goes on with the result of a script unless it is an error. -/
def andThen {α β : Type} (s : Script (Except EngineError α))
    (f : α → Script (Except EngineError β)) : Script (Except EngineError β) :=
  s.bind fun
    | .error e => .done (.error e)
    | .ok a => f a

/-- Goes on with a value unless it is an error. -/
def andGo {α β : Type} (x : Except EngineError α) (f : α → Script (Except EngineError β)) :
    Script (Except EngineError β) := andThen (.done x) f

/-- The task that a text names. -/
def resolve (given : String) : Script (Except EngineError TaskId) := Query.resolve given none

/-- The tasks that texts name. -/
def resolveAll : List String → Script (Except EngineError (List TaskId))
  | [] => .done (.ok [])
  | s :: rest =>
    andThen (resolve s) fun id => andThen (resolveAll rest) fun ids => .done (.ok (id :: ids))

/-- The user that a text names. -/
def userOf (s : String) : Except EngineError UserId := (Ident.parse s).mapError .ofIdent

/-- The user that a text names; a blank text names the default user. -/
def userOrDefault (policy : Policy) (s : String) : Except EngineError UserId :=
  userOf (if Text.isBlankText s then policy.defaultUser else s)

/-- The user that a text names, if it is there and not blank. -/
def optionalUser : Option String → Except EngineError (Option UserId)
  | none => .ok none
  | some s => if Text.isBlankText s then .ok none else (userOf s).map some

/-- Refuses an owner whom the directory does not know, unless there is no directory. -/
def checkOwner (expired : Bool) (parties : Collaborators) (id : UserId) : Except EngineError Unit :=
  match parties.directory with
  | none => .ok ()
  | some users =>
    match unlessExpired expired users with
    | .error e => .error (.ofStore "get user" e)
    | .ok users =>
      if users.contains id.text then .ok () else .error (.ofStore "get user" (.userNotFound id))

/-- Runs an operation; the owner of a new task must be known. -/
def operate (expired : Bool) (setup : Setup) (ambients : Nat → Ambient) (op : Operation) :
    Script (Except EngineError (List Task × List Job)) :=
  let check : Except EngineError Unit := do
    op.checkArguments
    match op with
    | .add _ _ owner => checkOwner expired setup.parties owner
    | _ => .ok ()
  andGo check fun () =>
    andThen (op.script setup.policy ambients) fun results =>
      .done (.ok (results, Job.after setup.parties op results))

/-- Runs an operation and answers with its only result. -/
def answerTask (setup : Setup) (ambients : Nat → Ambient) (op : Operation)
    (respond : Task → Response := .task) : Script Outcome :=
  andThen (operate false setup ambients op) fun
    | (t :: _, jobs) => .done (.ok (respond t, jobs))
    | ([], jobs) => .done (.ok (.tasks [], jobs))

/-- Runs an operation and answers with all its results. -/
def answerTasks (setup : Setup) (ambients : Nat → Ambient) (op : Operation) : Script Outcome :=
  andThen (operate false setup ambients op) fun (ts, jobs) => .done (.ok (.tasks ts, jobs))

/-- The destination that a request names. -/
def destination (given : Option String) (location : List String) :
    Script (Except EngineError Destination) :=
  match given with
  | some s =>
    if Text.isBlankText s then .done (Destination.ofParts none location)
    else andThen (resolve s) fun id => .done (Destination.ofParts (some id) location)
  | none => .done (Destination.ofParts none location)

/-- Handles a request whose caller has time left. -/
def handleInTime (setup : Setup) (ambients : Nat → Ambient) : Request → Script Outcome
  | .addTask name description user =>
    andGo (userOrDefault setup.policy user) fun user =>
      answerTask setup ambients (.add name description user)
  | .moveToStaging source given location points tags =>
    andThen (resolve source) fun id =>
      andThen (destination given location) fun d =>
        answerTask setup ambients (.stage id d points tags)
  | .startTask id => andThen (resolve id) fun id => answerTask setup ambients (.start id)
  | .stopTask id points =>
    andThen (resolve id) fun id => answerTask setup ambients (.stop id points) .stopped
  | .completeTask id => andThen (resolve id) fun id => answerTask setup ambients (.complete id)
  | .mergeTasks source target =>
    andThen (resolve source) fun source =>
      andThen (resolve target) fun target => answerTask setup ambients (.merge source target)
  | .splitTask id names descriptions =>
    andThen (resolve id) fun id => answerTasks setup ambients (.split id names descriptions)
  | .advertiseTask id targets =>
    andThen (resolve id) fun id =>
      andThen (resolveAll targets) fun targets => answerTask setup ambients (.advertise id targets)
  | .stitchTasks sources target =>
    andThen (resolveAll sources) fun sources =>
      andThen (resolve target) fun target => answerTasks setup ambients (.stitch sources target)
  | .listTasks stage user =>
    andGo (optionalUser user) fun user =>
      andThen (Query.tasks stage user) fun ts => .done (.ok (.tasks ts, []))
  | .getTask id =>
    andThen (resolve id) fun id => andThen (Query.task id) fun t => .done (.ok (.task t, []))
  | .getTaskDag user =>
    andGo (optionalUser user) fun user =>
      andThen (Query.dag user) fun view => .done (.ok (.dag view, []))
  | .updateTaskTags id tags => andThen (resolve id) fun id => answerTask setup ambients (.tag id tags)
  | .setDueDate id due => andThen (resolve id) fun id => answerTask setup ambients (.setDue id due)
  | .resolveTaskId given user =>
    andGo (optionalUser user) fun user =>
      andThen (Query.resolve given user) fun id => .done (.ok (.resolved id, []))
  | .checkIntegrity =>
    andThen Query.violations fun violations => .done (.ok (.integrity violations, []))

/-- Handles a request.  A caller whose time is up is told so before anything is read. -/
def handle (setup : Setup) (ambients : Nat → Ambient) (expired : Bool) (request : Request) :
    Script Outcome :=
  if expired then .done (.error (.storage request.title .deadlineExceeded))
  else handleInTime setup ambients request

end TaskPipeline.Service
