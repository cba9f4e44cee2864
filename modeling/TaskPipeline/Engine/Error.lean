import TaskPipeline.Graph.Link
import TaskPipeline.Ident.Resolve
import TaskPipeline.Order.Sort
import TaskPipeline.Store.ChangeSet
import TaskPipeline.Task.Transition

/-!
# Engine errors

Why an operation on the task graph fails.  The errors of the layers below are turned into these; a
missing task and a lost race keep their own kinds, and everything else that the store reports is
wrapped with the name of the operation.
-/

namespace TaskPipeline

/-- Why an operation fails. -/
inductive EngineError where
  /-- The request makes no sense. -/
  | validation (reason : String)
  /-- The task does not allow the change in its stage. -/
  | invalidState (e : TransitionError)
  /-- A task that must be completed first is not. -/
  | dependencyNotSatisfied (task dependency : TaskId)
  /-- The edge would close a cycle. -/
  | cycle (source target : TaskId)
  /-- The tasks are staged at different places. -/
  | chainMismatch (source target : TaskId)
  /-- There is no task or user with the identifier. -/
  | notFound (kind : IdentKind) (id : String)
  /-- The stored graph is broken. -/
  | integrity (reason : String)
  /-- Another writer was faster. -/
  | conflict (id : TaskId)
  /-- The store failed in an operation. -/
  | storage (operation : String) (e : StoreError)
deriving DecidableEq

namespace EngineError

/-- A task that is missing. -/
def taskNotFound (id : TaskId) : EngineError := .notFound .task id.text

/-- The error of the store in an operation. -/
def ofStore (operation : String) : StoreError → EngineError
  | .notFound kind id => .notFound kind id
  | .conflict id _ _ => .conflict id
  | e => .storage operation e

/-- An error of the store is no finding about the graph. -/
theorem ofStore_ne_integrity (operation : String) (e : StoreError) (reason : String) :
    ofStore operation e ≠ .integrity reason := by
  cases e <;> exact nofun

/-- The error of an edge that cannot be added. -/
def ofEdge : Graph.EdgeError → EngineError
  | .cycle source target => .cycle source target
  | .selfDependency id => .cycle id id
  | .taskNotFound id => .taskNotFound id

/-- The error of a dependency order that cannot be completed. -/
def ofIncomplete (e : Order.Incomplete) : EngineError := .integrity e.message

/-- The error of a text that does not name a task or a user. -/
def ofIdent : IdentError → EngineError
  | .noMatch given => .notFound .task given
  | e => .validation e.message

/-- Whether the caller's time was up. -/
def isDeadlineExceeded : EngineError → Bool
  | storage _ .deadlineExceeded => true
  | _ => false

/-- What the user is told. -/
def message : EngineError → String
  | validation reason => "Invalid argument: " ++ reason
  | invalidState e =>
    "Task " ++ e.task.text ++ " is in stage " ++ e.stage.text ++ ": " ++ e.refusal.reason
  | dependencyNotSatisfied task dependency =>
    "Task " ++ task.text ++ " depends on " ++ dependency.text ++ ", which is not completed"
  | cycle source target => "Edge " ++ source.text ++ " -> " ++ target.text ++ " would create a cycle"
  | chainMismatch source target =>
    "Cannot merge " ++ source.text ++ " into " ++ target.text ++ ": tasks are on different chains"
  | notFound kind id => StoreError.kindText kind ++ " not found: " ++ id
  | integrity reason => "Integrity violation: " ++ reason
  | conflict id => "Concurrent modification of task " ++ id.text
  | storage operation e => operation ++ " failed: " ++ e.message

end EngineError

end TaskPipeline
