import TaskPipeline.Task.Basic

/-!
# Stage transitions

Which stage changes a task allows.  A task is staged from pending or inbox, started from pending or
staging, and stopped, completed or kept whole while it is active.
-/

namespace TaskPipeline

/-- Why a task does not allow a change. -/
inductive Refusal where
  /-- It is not in a stage from which tasks are staged. -/
  | notStageable
  /-- It is not in a stage from which work is begun. -/
  | notStartable
  /-- Work on it has begun. -/
  | alreadyInProgress
  /-- It is done. -/
  | alreadyCompleted
  /-- It was called off. -/
  | cancelled
  /-- Nobody works on it, so work cannot stop. -/
  | notStoppable
  /-- Nobody works on it, so it cannot be marked complete. -/
  | notCompletable
  /-- The last work interval has an end. -/
  | noOpenInterval
  /-- Somebody works on it, so it cannot be split. -/
  | notSplittable
deriving DecidableEq

/-- The reason as the user is told it. -/
def Refusal.reason : Refusal → String
  | notStageable => "only pending or inbox tasks can be staged"
  | notStartable => "only pending or staging tasks can be started"
  | alreadyInProgress => "task is already in progress"
  | alreadyCompleted => "task is already completed"
  | cancelled => "task is cancelled"
  | notStoppable => "only active tasks can be stopped"
  | notCompletable => "only active tasks can be completed"
  | noOpenInterval => "task has no open work interval"
  | notSplittable => "stop the task before splitting it"

/-- A change that a task does not allow in its stage. -/
structure TransitionError where
  /-- The task. -/
  task : TaskId
  /-- Its stage. -/
  stage : Stage
  /-- Why the change is refused. -/
  refusal : Refusal
deriving DecidableEq

/-- What the user is told. -/
def TransitionError.message (e : TransitionError) : String :=
  "task " ++ e.task.text ++ " is in stage " ++ e.stage.text ++ ": " ++ e.refusal.reason

namespace Task

/-- Refuses a change. -/
def refuse (t : Task) (refusal : Refusal) : Except TransitionError Unit :=
  .error ⟨t.id, t.stage, refusal⟩

/-- Whether the task can be moved to staging. -/
def canStage (t : Task) : Except TransitionError Unit :=
  match t.stage with
  | .pending | .inbox => .ok ()
  | _ => t.refuse .notStageable

/-- Whether work on the task can be started, its dependencies aside. -/
def canStart (t : Task) : Except TransitionError Unit :=
  match t.stage with
  | .pending | .staging =>
    match t.status with
    | .inProgress => t.refuse .alreadyInProgress
    | .completed => t.refuse .alreadyCompleted
    | .cancelled => t.refuse .cancelled
    | _ => .ok ()
  | _ => t.refuse .notStartable

/-- Whether work on the task can be stopped. -/
def canStop (t : Task) : Except TransitionError Unit :=
  if t.stage ≠ .active then t.refuse .notStoppable
  else if !t.schedule.hasOpenInterval then t.refuse .noOpenInterval
  else .ok ()

/-- Whether the task can be marked complete. -/
def canComplete (t : Task) : Except TransitionError Unit :=
  if t.stage ≠ .active then t.refuse .notCompletable
  else if !t.schedule.hasOpenInterval then t.refuse .noOpenInterval
  else .ok ()

end Task

end TaskPipeline
