import TaskPipeline.Graph.Search

/-!
# Linking tasks

An edge from one task to another stands on both: among the outflows of the first and among the
inflows of the second.  `Graph.tryLink` adds both halves unless the edge would close a cycle, and
answers whether the edge is new; `Graph.link` is for those who only want the tasks afterwards.
`Graph.rename` puts one identifier in the place of another in every task.
-/

namespace TaskPipeline.Graph

/-- Why an edge cannot be added. -/
inductive EdgeError where
  /-- The edge would close a cycle. -/
  | cycle (source target : TaskId)
  /-- There is no such task. -/
  | taskNotFound (id : TaskId)
  /-- The edge would link a task to itself. -/
  | selfDependency (id : TaskId)
deriving DecidableEq

/-- What the user is told. -/
def EdgeError.message : EdgeError → String
  | cycle source target => "Adding " ++ source.text ++ " -> " ++ target.text ++ " would create a cycle"
  | taskNotFound id => "Task not found: " ++ id.text
  | selfDependency id => "Self-dependency not allowed: " ++ id.text

/-- Whether both halves of an edge are there. -/
def hasEdge (tasks : TaskMap) (source target : TaskId) : Bool :=
  (outflowsOf tasks source).contains target && (inflowsOf tasks target).contains source

/-- Whether an edge may be added.  It would close a cycle if its source depended on its target
already. -/
def checkEdge (tasks : TaskMap) (source target : TaskId) : Except EdgeError Unit :=
  if source = target then .error (.selfDependency source)
  else if !tasks.has source then .error (.taskNotFound source)
  else if !tasks.has target then .error (.taskNotFound target)
  else if isAncestor tasks target source then .error (.cycle source target)
  else .ok ()

/-- A task with the half of an edge that belongs to it. -/
def withHalf (source target : TaskId) (now : Instant) (t : Task) : Task :=
  if t.id = source then { t with outflows := t.outflows.add target, updatedAt := now }
  else if t.id = target then { t with inflows := t.inflows.add source, updatedAt := now }
  else t

theorem id_withHalf (source target : TaskId) (now : Instant) (t : Task) :
    (withHalf source target now t).id = t.id := by
  simp only [withHalf]; split
  · rfl
  · split <;> rfl

/-- The tasks with both halves of an edge. -/
def addEdge (tasks : TaskMap) (source target : TaskId) (now : Instant) : TaskMap :=
  tasks.map (withHalf source target now) fun t => congrArg Ident.text (id_withHalf source target now t)

/-- Links two tasks.  Besides the tasks afterwards it gives the answer: whether the edge is new, or why
it was not added. -/
def tryLink (tasks : TaskMap) (source target : TaskId) (now : Instant) :
    Except EdgeError Bool × TaskMap :=
  if hasEdge tasks source target then (.ok false, tasks)
  else
    match checkEdge tasks source target with
    | .error e => (.error e, tasks)
    | .ok () => (.ok true, addEdge tasks source target now)

/-- The tasks after two of them are linked.  An edge that is there already changes nothing. -/
def link (tasks : TaskMap) (source target : TaskId) (now : Instant) : Except EdgeError TaskMap :=
  match tryLink tasks source target now with
  | (.error e, _) => .error e
  | (.ok _, tasks) => .ok tasks

theorem link_eq (tasks : TaskMap) (source target : TaskId) (now : Instant) :
    link tasks source target now =
      if hasEdge tasks source target then .ok tasks
      else (checkEdge tasks source target).map fun _ => addEdge tasks source target now := by
  unfold link tryLink
  by_cases h : hasEdge tasks source target = true
  · rw [if_pos h, if_pos h]
  · rw [if_neg h, if_neg h]
    cases checkEdge tasks source target <;> rfl

/-- Whether one of the task's flows has an identifier. -/
def mentions (id : TaskId) (t : Task) : Bool := t.inflows.contains id || t.outflows.contains id

/-- A task that refers to `new` where it referred to `old`. -/
def renamed (old new : TaskId) (now : Instant) (t : Task) : Task :=
  if t.id ≠ old ∧ mentions old t then
    { t with
      inflows := t.inflows.replace old new t.id
      outflows := t.outflows.replace old new t.id
      updatedAt := now }
  else t

theorem id_renamed (old new : TaskId) (now : Instant) (t : Task) :
    (renamed old new now t).id = t.id := by
  simp only [renamed]; split <;> rfl

/-- Puts `new` in the place of `old` in the flows of every task but `old` itself. -/
def rename (tasks : TaskMap) (old new : TaskId) (now : Instant) : TaskMap :=
  tasks.map (renamed old new now) fun t => congrArg Ident.text (id_renamed old new now t)

/-- The tasks that a renaming changes, in ascending order. -/
def referrers (tasks : TaskMap) (old : TaskId) : List TaskId :=
  (tasks.toList.filter fun t => t.id ≠ old ∧ mentions old t).map Task.id

end TaskPipeline.Graph
