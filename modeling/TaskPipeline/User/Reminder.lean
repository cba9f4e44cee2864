import TaskPipeline.Task.Basic
import TaskPipeline.User.Basic

/-!
# Reminders

`dueReminders` selects the reminders to send now: one for each task that is due in exactly as many
whole days as its owner wants to be reminded before.
-/

namespace TaskPipeline

/-- A reminder to send. -/
structure Reminder where
  /-- The owner of the task. -/
  user : UserId
  /-- The owner's mail address. -/
  email : String
  /-- The task. -/
  task : TaskId
  /-- The task's name. -/
  taskName : String
  /-- When the task is due. -/
  due : Instant
  /-- The whole days until then. -/
  daysBefore : UInt32
deriving DecidableEq

/-- The reminders about one task, given its owner. -/
def remindersFor (user : User) (task : Task) (now : Instant) : List Reminder :=
  match task.schedule.due with
  | none => []
  | some due =>
    (user.reminderDays.filter fun days => (days.toNat : Int) == due.daysUntil now).map fun days =>
      ⟨user.id, user.email, task.id, task.name, due, days⟩

/-- The reminders to send now, in the order of the tasks.  Tasks that are completed or cancelled have
none, and neither has a task whose owner is unknown; of users with the same identifier the last
counts. -/
def dueReminders (users : List User) (tasks : List Task) (now : Instant) : List Reminder :=
  let owners := Catalog.ofList users
  tasks.flatMap fun task =>
    if task.status.isTerminal then []
    else
      match owners.find? task.owner.text with
      | some user => remindersFor user task now
      | none => []

end TaskPipeline
