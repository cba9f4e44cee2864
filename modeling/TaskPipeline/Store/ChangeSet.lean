import TaskPipeline.Task.Basic

/-!
# Change sets

A `ChangeSet` is a batch of writes that is applied in whole or not at all.  Updates, deletions and
reads carry the version that the writer saw; `ChangeSet.check` refuses the batch if one of them is no
longer the stored version, or if the batch was computed from the whole store and the store now holds
a task that the writer never saw.  `ChangeSet.between` is the batch that leads from one set of tasks to
another.
-/

namespace TaskPipeline

/-- Why the store refuses a call. -/
inductive StoreError where
  /-- There is no task or user with the identifier. -/
  | notFound (kind : IdentKind) (id : String)
  /-- The task to create exists. -/
  | alreadyExists (id : TaskId)
  /-- The stored version is not the expected one. -/
  | conflict (id : TaskId) (expected actual : Nat)
  /-- The batch contradicts itself. -/
  | invalidChangeSet (reason : String)
  /-- The caller's time is up. -/
  | deadlineExceeded
  /-- The medium failed: what was attempted, and what went wrong, from the outside in. -/
  | backend (message : String) (causes : List String)
deriving DecidableEq

namespace StoreError

/-- The word for what is missing. -/
def kindText : IdentKind → String
  | .task => "task"
  | .user => "user"

/-- A task that is missing. -/
def taskNotFound (id : TaskId) : StoreError := .notFound .task id.text

/-- A user that is missing. -/
def userNotFound (id : UserId) : StoreError := .notFound .user id.text

/-- Whether something is missing. -/
def isNotFound : StoreError → Bool
  | notFound _ _ => true
  | _ => false

/-- What the user is told. -/
def message : StoreError → String
  | notFound kind id => kindText kind ++ " not found: " ++ id
  | alreadyExists id => "Task already exists: " ++ id.text
  | conflict id expected actual =>
    "Version conflict on " ++ id.text ++ ": expected " ++ toString expected ++ ", found " ++
      toString actual
  | invalidChangeSet reason => "Invalid change set: " ++ reason
  | deadlineExceeded => "Deadline exceeded"
  | backend message _ => message

/-- The message and what lies behind it. -/
def fullMessage : StoreError → String
  | backend message causes => String.intercalate ": " (message :: causes)
  | e => e.message

end StoreError

/-- A batch of writes. -/
structure ChangeSet where
  /-- The tasks to create. -/
  creates : List Task
  /-- The tasks to write anew, each with the version that was read. -/
  updates : List Task
  /-- The tasks to delete, each with the version that was read. -/
  deletes : List (TaskId × Nat)
  /-- The tasks that were read and are not written, each with its version. -/
  reads : List (TaskId × Nat)
  /-- Whether the writer read every task of the store. -/
  wholeStore : Bool

namespace ChangeSet

/-- The batch without changes. -/
def empty : ChangeSet := ⟨[], [], [], [], false⟩

/-- Whether nothing is written. -/
def isEmpty (c : ChangeSet) : Bool := c.creates.isEmpty && c.updates.isEmpty && c.deletes.isEmpty

/-- The batch that leads from the tasks that were read to the tasks that are wanted, of which some
were created.  Tasks that are the same in both, as `Task.same` compares them, count as read. -/
def between (before after : TaskMap) (created : List TaskId) (wholeStore : Bool) : ChangeSet where
  creates := after.toList.filter fun t => created.contains t.id
  updates := after.toList.filter fun t => !created.contains t.id && !before.holds t
  deletes := (before.toList.filter fun t => !after.has t.id).map fun t => (t.id, t.version)
  reads := (before.toList.filter fun t => after.holds t).map fun t => (t.id, t.version)
  wholeStore := wholeStore

/-! ### Checks -/

/-- The error for a batch that names a task twice. -/
def repeated (id : TaskId) : StoreError := .invalidChangeSet (id.text ++ " appears more than once")

/-- Checks the tasks to create; gives the tasks named so far. -/
def checkCreates (tasks : TaskMap) (seen : List TaskId) : List Task → Except StoreError (List TaskId)
  | [] => .ok seen
  | t :: rest =>
    if tasks.has t.id then .error (.alreadyExists t.id)
    else if seen.contains t.id then .error (repeated t.id)
    else checkCreates tasks (t.id :: seen) rest

/-- Checks the tasks to update and to delete; gives the tasks named so far. -/
def checkWrites (tasks : TaskMap) (seen : List TaskId) :
    List (TaskId × Nat) → Except StoreError (List TaskId)
  | [] => .ok seen
  | (id, expected) :: rest =>
    if seen.contains id then .error (repeated id)
    else
      match tasks.get? id with
      | none => .error (.taskNotFound id)
      | some t =>
        if t.version = expected then checkWrites tasks (id :: seen) rest
        else .error (.conflict id expected t.version)

/-- The stored version of a task; a task that is gone counts as version 0. -/
def versionOf (tasks : TaskMap) (id : TaskId) : Nat :=
  match tasks.get? id with
  | some t => t.version
  | none => 0

/-- Checks the tasks that were read. -/
def checkReads (tasks : TaskMap) : List (TaskId × Nat) → Except StoreError Unit
  | [] => .ok ()
  | (id, expected) :: rest =>
    if versionOf tasks id = expected then checkReads tasks rest
    else .error (.conflict id expected (versionOf tasks id))

/-- Checks that the writer has seen every task of the store. -/
def checkWhole (tasks : TaskMap) (seen : List TaskId) : Except StoreError Unit :=
  match tasks.toList.find? fun t => !seen.contains t.id with
  | some t => .error (.conflict t.id 0 t.version)
  | none => .ok ()

/-- Checks the whole batch against the store. -/
def check (c : ChangeSet) (tasks : TaskMap) : Except StoreError Unit := do
  let seen ← checkCreates tasks [] c.creates
  let seen ← checkWrites tasks seen (c.updates.map (fun t => (t.id, t.version)) ++ c.deletes)
  checkReads tasks c.reads
  if c.wholeStore then checkWhole tasks (c.reads.map (·.1) ++ seen) else .ok ()

/-! ### Writing -/

/-- The tasks as they are written: a new task has version 1 and an update has the next version. -/
def written (c : ChangeSet) : List Task :=
  c.creates.map (fun t => { t with version := 1 }) ++
    c.updates.map (fun t => { t with version := t.version + 1 })

/-- The store after the batch. -/
def write (c : ChangeSet) (tasks : TaskMap) : TaskMap :=
  (c.deletes.map (·.1)).foldl TaskMap.remove (tasks.insertAll c.written)

/-- Applies the batch: the tasks as they were written and the store after it, or the first error and
no change at all. -/
def apply (c : ChangeSet) (tasks : TaskMap) : Except StoreError (List Task × TaskMap) :=
  match c.check tasks with
  | .ok () => .ok (c.written, c.write tasks)
  | .error e => .error e

end ChangeSet

end TaskPipeline
