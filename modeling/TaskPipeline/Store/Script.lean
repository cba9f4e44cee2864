import TaskPipeline.Store.ChangeSet

/-!
# Store calls

A `Repository` answers four calls on a state of its own.  A `Script` is a program that makes such
calls: each call waits for its answer and then goes on.  The script says nothing about the repository,
so the same script can run over a store in memory, over a file, and over a store that others write to
between the calls.
-/

namespace TaskPipeline

/-- A call to the store. -/
inductive Call where
  /-- Reads one task. -/
  | get (id : TaskId)
  /-- Reads every task. -/
  | list
  /-- Reads several tasks, all of which must exist. -/
  | getMany (ids : List TaskId)
  /-- Applies a batch of writes. -/
  | commit (changes : ChangeSet)

/-- The answer to a call: the tasks that were read or written. -/
abbrev Answer := Except StoreError (List Task)

/-- A store with states `σ`. -/
structure Repository (σ : Type) where
  /-- Answers a call and gives the state after it; `expired` says whether the caller's time is up. -/
  perform : (expired : Bool) → Call → σ → Answer × σ

/-- A program that makes store calls. -/
inductive Script (α : Type) where
  /-- Ends with a result. -/
  | done (a : α)
  /-- Makes a call and goes on with the answer. -/
  | call (c : Call) (next : Answer → Script α)

namespace Script

/-- Goes on with another script. -/
def bind {α β : Type} : Script α → (α → Script β) → Script β
  | done a, f => f a
  | call c next, f => call c fun answer => (next answer).bind f

instance : Monad Script where
  pure := done
  bind := bind

/-- Makes one call. -/
def ask (c : Call) : Script Answer := call c done

/-- Runs the script over a store. -/
def run {σ α : Type} (repo : Repository σ) (expired : Bool) : Script α → σ → α × σ
  | done a, s => (a, s)
  | call c next, s =>
    let (answer, s) := repo.perform expired c s
    (next answer).run repo expired s

/-! ### Reading and writing single tasks -/

/-- Reads one task. -/
def getTask (id : TaskId) : Script (Except StoreError Task) := do
  match ← ask (.get id) with
  | .ok (t :: _) => return .ok t
  | .ok [] => return .error (.taskNotFound id)
  | .error e => return .error e

/-- Reads the tasks with a property. -/
def listWhere (p : Task → Bool) : Script Answer := do
  match ← ask .list with
  | .ok ts => return .ok (ts.filter p)
  | .error e => return .error e

/-- Commits a batch that writes one task and gives that task. -/
def commitOne (id : TaskId) (changes : ChangeSet) : Script (Except StoreError Task) := do
  match ← ask (.commit changes) with
  | .ok ts =>
    match ts.getLast? with
    | some t => return .ok t
    | none => return .error (.taskNotFound id)
  | .error e => return .error e

/-- Creates a task. -/
def createTask (t : Task) : Script (Except StoreError Task) :=
  commitOne t.id { ChangeSet.empty with creates := [t] }

/-- Writes a task that was read at its version. -/
def updateTask (t : Task) : Script (Except StoreError Task) :=
  commitOne t.id { ChangeSet.empty with updates := [t] }

/-- Deletes a task at the version that is stored now. -/
def deleteTask (id : TaskId) : Script (Except StoreError Unit) := do
  match ← getTask id with
  | .error e => return .error e
  | .ok t =>
    match ← ask (.commit { ChangeSet.empty with deletes := [(id, t.version)] }) with
    | .ok _ => return .ok ()
    | .error e => return .error e

end Script

end TaskPipeline
