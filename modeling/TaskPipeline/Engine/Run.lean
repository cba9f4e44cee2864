import TaskPipeline.Engine.Operation
import TaskPipeline.Store.Journal

/-!
# Running operations

An operation reads its part of the store, edits a copy, and commits the difference in one batch.  A
batch that lost a race is refused by the store; an operation that reads the whole store is then tried
again from the beginning, as often as the policy allows.  Every try has its own readings of the clock
and its own fresh identifiers.
-/

namespace TaskPipeline

namespace Operation

/-- Commits the difference between the tasks that were read and the edited ones, and gives the edited
tasks with the versions they got.  Without a difference there is nothing to commit. -/
def commit (op : Operation) (before : TaskMap) (edited : Edited) :
    Script (Except EngineError Edited) :=
  let changes := ChangeSet.between before edited.1 (op.created edited) (op.scope = .whole)
  if changes.isEmpty then .done (.ok edited)
  else
    .call (.commit changes) fun
      | .ok written => .done (.ok (edited.1.insertAll written, edited.2))
      | .error e => .done (.error (.ofStore op.title e))

/-- Edits the tasks that were read and commits the difference. -/
def editAndCommit (policy : Policy) (op : Operation) (ambient : Ambient) (before : TaskMap) :
    Script (Except EngineError Edited) :=
  match op.edit policy ambient before with
  | .error e => .done (.error e)
  | .ok edited => op.commit before edited

/-- One try over the whole store. -/
def tryWhole (policy : Policy) (op : Operation) (ambient : Ambient) :
    Script (Except EngineError Edited) :=
  .call .list fun
    | .error e => .done (.error (.ofStore op.title e))
    | .ok tasks => op.editAndCommit policy ambient (.ofList tasks)

/-- Tries over the whole store, up to `retries` more times as long as another writer is faster;
`n` is the number of the first try. -/
def retrying (policy : Policy) (op : Operation) (ambients : Nat → Ambient) (n : Nat) :
    Nat → Script (Except EngineError Edited)
  | 0 => op.tryWhole policy (ambients n)
  | retries + 1 => do
    match ← op.tryWhole policy (ambients n) with
    | .error (.conflict _) => op.retrying policy ambients (n + 1) retries
    | outcome => return outcome

/-- Reads one task and runs the operation on it. -/
def runTask (policy : Policy) (op : Operation) (ambient : Ambient) (id : TaskId) :
    Script (Except EngineError Edited) :=
  .call (.getMany [id]) fun
    | .error e => .done (.error (.ofStore op.title e))
    | .ok tasks => op.editAndCommit policy ambient (.ofList tasks)

/-- The error of an inflow that cannot be read: one that is missing means that the graph is broken. -/
def inflowError (op : Operation) (id : TaskId) (e : StoreError) : EngineError :=
  match EngineError.ofStore op.title e with
  | .notFound _ missing =>
    .integrity ("task " ++ id.text ++ " has a dangling inflow: " ++ missing)
  | e => e

/-- Reads one task, then its inflows if the task can be started, and runs the operation on them. -/
def runWithInflows (policy : Policy) (op : Operation) (ambient : Ambient) (id : TaskId) :
    Script (Except EngineError Edited) :=
  .call (.getMany [id]) fun
    | .error e => .done (.error (.ofStore op.title e))
    | .ok tasks =>
      let before : TaskMap := .ofList tasks
      match before.demand id >>= fun t => (refusing t.canStart).map fun _ => t with
      | .error e => .done (.error e)
      | .ok t =>
        match t.inflows.ids.filter fun i => !before.has i with
        | [] => op.editAndCommit policy ambient before
        | missing =>
          .call (.getMany missing) fun
            | .error e => .done (.error (op.inflowError id e))
            | .ok inflows => op.editAndCommit policy ambient (before.insertAll inflows)

/-- Takes the tasks to return out of the committed ones. -/
def results (edited : Edited) : Except EngineError (List Task) :=
  (Journal.takeAll edited.1 edited.2).mapError (.ofStore "")

/-- The operation as a program over a store. -/
def script (policy : Policy) (op : Operation) (ambients : Nat → Ambient) :
    Script (Except EngineError (List Task)) := do
  match op.checkArguments with
  | .error e => return .error e
  | .ok () =>
    let outcome ←
      match op.scope with
      | .whole => op.retrying policy ambients 0 policy.retries
      | .task id => op.runTask policy (ambients 0) id
      | .withInflows id => op.runWithInflows policy (ambients 0) id
    return outcome >>= results

end Operation

end TaskPipeline
