import TaskPipeline.Engine.Run

/-!
# Transactions

A `Transaction` reads tasks, lets its caller change a working copy of them, and commits the difference
in one batch.  The batch carries the versions of the tasks that were read and are not written, so
that a decision made on tasks that another writer has changed since is refused.

What the caller may do is listed by `Transaction.Action`: read more tasks, change a task in place, add
a new one, take one out.  An action that fails leaves the working copy as it is.
-/

namespace TaskPipeline

/-- A change of a task in place, which leaves alone what the store goes by. -/
structure Revision where
  /-- The task after the change. -/
  apply : Task → Task
  /-- The task keeps its identifier. -/
  id_apply : ∀ t, (apply t).id = t.id
  /-- The task keeps its version, which is the store's to change. -/
  version_apply : ∀ t, (apply t).version = t.version

/-- A transaction under way. -/
structure Transaction where
  /-- What the operation is called in error messages. -/
  title : String
  /-- The tasks as they were read. -/
  original : TaskMap
  /-- The working copy. -/
  tasks : TaskMap
  /-- The tasks of the working copy that are new. -/
  created : List TaskId
  /-- Whether every task of the store was read. -/
  wholeStore : Bool

namespace Transaction

/-! ### Reading -/

/-- The transaction with the tasks that were read. -/
def ofTasks (title : String) (tasks : List Task) (wholeStore : Bool) : Transaction :=
  ⟨title, .ofList tasks, .ofList tasks, [], wholeStore⟩

/-- Which tasks a transaction reads when it begins. -/
inductive Start where
  /-- Every task. -/
  | all
  /-- The tasks with these identifiers. -/
  | named (ids : List TaskId)

/-- Begins a transaction. -/
def begin (title : String) : Start → Script (Except EngineError Transaction)
  | .all =>
    .call .list fun
      | .error e => .done (.error (.ofStore title e))
      | .ok tasks => .done (.ok (ofTasks title tasks true))
  | .named ids =>
    .call (.getMany ids) fun
      | .error e => .done (.error (.ofStore title e))
      | .ok tasks => .done (.ok (ofTasks title tasks false))

/-- Reads more tasks.  Those that were read already stay as they are. -/
def load (tx : Transaction) (ids : List TaskId) : Script (Except EngineError Unit × Transaction) :=
  match ids.filter fun id => !tx.original.has id with
  | [] => .done (.ok (), tx)
  | missing =>
    .call (.getMany missing) fun
      | .error e => .done (.error (.ofStore tx.title e), tx)
      | .ok loaded =>
        .done (.ok (), { tx with
          original := tx.original.insertAll loaded
          tasks := tx.tasks.insertAll loaded })

/-! ### Changing the working copy -/

/-- Changes a task in place. -/
def modify (tx : Transaction) (id : TaskId) (revision : Revision) :
    Except EngineError Unit × Transaction :=
  match tx.tasks.demand id with
  | .error e => (.error e, tx)
  | .ok t => (.ok (), { tx with tasks := tx.tasks.insert (revision.apply t) })

/-- Adds a new task. -/
def insertNew (tx : Transaction) (t : Task) : Transaction :=
  { tx with created := t.id :: tx.created, tasks := tx.tasks.insert t }

/-- Takes a task out. -/
def remove (tx : Transaction) (id : TaskId) : Except EngineError Task × Transaction :=
  (tx.tasks.demand id,
    { tx with created := tx.created.filter (· ≠ id), tasks := tx.tasks.remove id })

/-- What a caller does with a transaction. -/
inductive Action where
  /-- Reads more tasks. -/
  | load (ids : List TaskId)
  /-- Changes a task in place. -/
  | modify (id : TaskId) (revision : Revision)
  /-- Adds a new task. -/
  | insertNew (t : Task)
  /-- Takes a task out. -/
  | remove (id : TaskId)

/-- The transaction after an action, whether the action succeeds or fails. -/
def act (tx : Transaction) : Action → Script Transaction
  | .load ids => (·.2) <$> tx.load ids
  | .modify id revision => return (tx.modify id revision).2
  | .insertNew t => return tx.insertNew t
  | .remove id => return (tx.remove id).2

/-- The transaction after actions. -/
def actAll (tx : Transaction) : List Action → Script Transaction
  | [] => return tx
  | action :: rest => do (← tx.act action).actAll rest

/-- A transaction from its beginning to the point where it could be committed. -/
def prepare (title : String) (start : Start) (actions : List Action) :
    Script (Except EngineError Transaction) := do
  match ← begin title start with
  | .error e => return .error e
  | .ok tx => return .ok (← tx.actAll actions)

/-! ### Committing -/

/-- The batch that leads from the tasks that were read to the working copy. -/
def changeSet (tx : Transaction) : ChangeSet :=
  .between tx.original tx.tasks tx.created tx.wholeStore

/-- Writes all changes in one batch and gives the working copy with the versions that were assigned.
Without changes there is nothing to write. -/
def commit (tx : Transaction) : Script (Except EngineError TaskMap) :=
  if tx.changeSet.isEmpty then .done (.ok tx.tasks)
  else
    .call (.commit tx.changeSet) fun
      | .error e => .done (.error (.ofStore tx.title e))
      | .ok written => .done (.ok (tx.tasks.insertAll written))

end Transaction

end TaskPipeline
