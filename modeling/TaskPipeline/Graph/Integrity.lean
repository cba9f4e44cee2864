import TaskPipeline.Graph.Adjacency

/-!
# Integrity

What can be wrong with the flows of a set of tasks: an edge with one half only, a reference to a task
that is not there, a task that lists itself, a cycle.  `Graph.violations` lists all of it, task by
task, outflows before inflows.
-/

namespace TaskPipeline.Graph

/-- Something wrong with the flows of a set of tasks. -/
inductive Violation where
  /-- An edge whose target does not list the source. -/
  | missingInflow (source target : TaskId)
  /-- An edge whose source does not list the target. -/
  | missingOutflow (source target : TaskId)
  /-- A reference to a task that is not there. -/
  | dangling (task missing : TaskId)
  /-- A task that lists itself. -/
  | selfReference (task : TaskId)
  /-- A cycle somewhere. -/
  | cyclic
deriving DecidableEq

/-- What the user is told. -/
def Violation.message : Violation → String
  | missingInflow source target =>
    source.text ++ " -> " ++ target.text ++ ": " ++ target.text ++ " is missing the inflow"
  | missingOutflow source target =>
    source.text ++ " -> " ++ target.text ++ ": " ++ source.text ++ " is missing the outflow"
  | dangling task missing => task.text ++ " references unknown task " ++ missing.text
  | selfReference task => task.text ++ " references itself"
  | cyclic => "dependency graph contains a cycle"

/-- What is wrong with one outflow of a task. -/
def outflowViolation? (tasks : TaskMap) (id out : TaskId) : Option Violation :=
  if out = id then some (.selfReference id)
  else
    match tasks.get? out with
    | none => some (.dangling id out)
    | some t => if t.inflows.contains id then none else some (.missingInflow id out)

/-- What is wrong with one inflow of a task. -/
def inflowViolation? (tasks : TaskMap) (id inflow : TaskId) : Option Violation :=
  if inflow = id then some (.selfReference id)
  else
    match tasks.get? inflow with
    | none => some (.dangling id inflow)
    | some t => if t.outflows.contains id then none else some (.missingOutflow inflow id)

/-- Everything that is wrong with the flows of the tasks. -/
def violations (tasks : TaskMap) : List Violation :=
  let perTask := tasks.toList.flatMap fun t =>
    t.outflows.ids.filterMap (outflowViolation? tasks t.id) ++
      t.inflows.ids.filterMap (inflowViolation? tasks t.id)
  perTask ++ if (Adjacency.ofTasks tasks.toList).isCyclic then [.cyclic] else []

end TaskPipeline.Graph
