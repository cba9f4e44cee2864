import TaskPipeline.Engine.Run
import TaskPipeline.User.Reminder

/-!
# Background jobs

Work that a request starts and does not wait for: notifications to the owner of a task, and a calendar
event for a task that was started.  Jobs never fail the request; each ends with an outcome of its own.
The notifier and the calendar are outside the engine and may answer, fail or never answer at all; a
job that waits too long is given up.
-/

namespace TaskPipeline

/-- What the notifier or the calendar answers. -/
inductive Reply (α : Type) where
  /-- An answer, or the reason for a failure. -/
  | answer (a : Except String α)
  /-- No answer ever. -/
  | hang

/-- A message to the notifier or the calendar. -/
inductive Delivery where
  /-- A task was assigned to a user. -/
  | assigned (user : User) (task : Task)
  /-- A user's task was started. -/
  | started (user : User) (task : Task)
  /-- A task is due soon. -/
  | due (reminder : Reminder)
  /-- A task was started and belongs into the calendar. -/
  | event (task : Task)

/-- The name of the task that a message is about. -/
def Delivery.taskName : Delivery → String
  | .assigned _ t | .started _ t | .event t => t.name
  | .due r => r.taskName

/-- The parties outside the engine, as far as there are any. -/
structure Collaborators where
  /-- Takes messages to users. -/
  notifier : Option (Delivery → Reply Unit)
  /-- Takes started tasks and may give the identifier of a calendar event. -/
  calendar : Option (Task → Reply (Option String))
  /-- The users, or why they cannot be read; an engine may know no users. -/
  directory : Option (Except StoreError (Catalog User))

/-- How a job ended. -/
inductive JobOutcome where
  /-- It has done its work. -/
  | completed
  /-- It gave up. -/
  | failed (reason : String)
  /-- Its time ran out. -/
  | timedOut
  /-- It was told to stop. -/
  | cancelled
deriving DecidableEq

/-- Work off the request path. -/
inductive Job where
  /-- Tells the owner of a task. -/
  | notify (kind : NotificationKind) (task : Task)
  /-- Puts a started task into the calendar. -/
  | calendar (task : Task)

namespace Job

/-- The jobs that a successful operation starts. -/
def after (parties : Collaborators) (op : Operation) (results : List Task) : List Job :=
  let notify (kind : NotificationKind) : List Job :=
    if parties.notifier.isSome && parties.directory.isSome then results.map (notify kind) else []
  match op with
  | .add _ _ _ => notify .onAssign
  | .start _ => notify .onStart ++ if parties.calendar.isSome then results.map calendar else []
  | _ => []

/-- The message about a task, if the owner wants it. -/
def message? (parties : Collaborators) (kind : NotificationKind) (task : Task) : Option Delivery := do
  let users ← parties.directory
  let users ← users.toOption
  let user ← users.find? task.owner.text
  if !user.wants kind then none
  else
    match kind with
    | .onAssign => some (.assigned user task)
    | .onStart => some (.started user task)
    | .daysBeforeDue => none

/-- How a job ends on an answer. -/
def outcomeOf {α : Type} : Reply α → JobOutcome
  | .answer (.ok _) => .completed
  | .answer (.error reason) => .failed reason
  | .hang => .timedOut

/-- The deliveries of a message: one that was never answered is none. -/
def deliveryOf {α : Type} (d : Delivery) : Reply α → List Delivery
  | .answer _ => [d]
  | .hang => []

/-- Runs a job: its outcome and what was delivered. -/
def run (parties : Collaborators) (policy : Policy) (ambient : Ambient) :
    Job → Script (JobOutcome × List Delivery)
  | notify kind task =>
    match parties.notifier, message? parties kind task with
    | some send, some d => let reply := send d; .done (outcomeOf reply, deliveryOf d reply)
    | _, _ => .done (.completed, [])
  | calendar task =>
    match parties.calendar with
    | none => .done (.completed, [])
    | some push =>
      let reply := push task
      let delivered := deliveryOf (.event task) reply
      match reply with
      | .answer (.ok (some event)) => do
        match ← (Operation.recordEvent task.id event).script policy fun _ => ambient with
        | .ok _ => return (.completed, delivered)
        | .error e => return (.failed e.message, delivered)
      | reply => .done (outcomeOf reply, delivered)

end Job

/-! ### Reminders -/

/-- Sends reminders one after the other; a failure does not keep the others from being sent. -/
def sendReminders (send : Delivery → Reply Unit) : List Reminder → Nat × List Delivery
  | [] => (0, [])
  | r :: rest =>
    let reply := send (.due r)
    let (sent, delivered) := sendReminders send rest
    ((if outcomeOf reply = .completed then sent + 1 else sent),
      Job.deliveryOf (.due r) reply ++ delivered)
where
  /-- How one reminder ends. -/
  outcomeOf (reply : Reply Unit) : JobOutcome := Job.outcomeOf reply

/-- Sends the reminders that are due now; gives the number of those that went through and everything
that was delivered. -/
def sweep (users : Except StoreError (Catalog User)) (send : Delivery → Reply Unit) (now : Instant) :
    Script (Except StoreError (Nat × List Delivery)) :=
  match users with
  | .error e => .done (.error e)
  | .ok users => do
    match ← Script.ask .list with
    | .error e => return .error e
    | .ok tasks => return .ok (sendReminders send (dueReminders users.toList tasks now))

end TaskPipeline
