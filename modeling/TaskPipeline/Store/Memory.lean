import TaskPipeline.Store.Script

/-!
# A store in memory

The state is the tasks themselves.
-/

namespace TaskPipeline

/-- Fails if the caller's time is up. -/
def unlessExpired {α : Type} (expired : Bool) (x : Except StoreError α) : Except StoreError α :=
  if expired then .error .deadlineExceeded else x

/-- The task with an identifier. -/
def TaskMap.require (tasks : TaskMap) (id : TaskId) : Except StoreError Task :=
  match tasks.get? id with
  | some t => .ok t
  | none => .error (.taskNotFound id)

/-- The tasks with the identifiers of a list, in its order; the first one missing is the error. -/
def TaskMap.requireAll (tasks : TaskMap) : List TaskId → Answer
  | [] => .ok []
  | id :: ids =>
    match tasks.require id with
    | .error e => .error e
    | .ok t =>
      match tasks.requireAll ids with
      | .error e => .error e
      | .ok ts => .ok (t :: ts)

/-- The store in memory.  Reading no tasks at all never fails, not even when the time is up. -/
def memory : Repository TaskMap where
  perform expired c tasks :=
    match c with
    | .get id => (unlessExpired expired ((tasks.require id).map ([·])), tasks)
    | .list => (unlessExpired expired (.ok tasks.toList), tasks)
    | .getMany ids => (unlessExpired (expired && !ids.isEmpty) (tasks.requireAll ids), tasks)
    | .commit changes =>
      match unlessExpired expired (changes.apply tasks) with
      | .ok (written, tasks) => (.ok written, tasks)
      | .error e => (.error e, tasks)

end TaskPipeline
