import TaskPipeline.Task.Basic
import TaskPipeline.Text.Quoted

/-!
# Dependency order

`Order.sort` puts tasks into an order in which every task comes after the tasks it depends on.  Only
dependencies inside the set count, so that one user's tasks can be ordered even if they wait for
someone else's.  Each round places the ready task with the smallest identifier and counts down the
open dependencies of the tasks that wait for it; a task whose count reaches zero becomes ready.
-/

namespace TaskPipeline.Order

/-- The tasks that could not be placed, because they depend on themselves or on such a task. -/
structure Incomplete where
  /-- How many tasks were placed. -/
  ordered : Nat
  /-- How many tasks there are. -/
  total : Nat
  /-- The tasks that were not placed, in ascending order. -/
  unresolved : List TaskId
deriving DecidableEq

/-- What the user is told. -/
def Incomplete.message (e : Incomplete) : String :=
  "topological sort covered " ++ toString e.ordered ++ " of " ++ toString e.total ++
    " tasks; unresolved: " ++
    Text.bracketed (e.unresolved.map fun id => "TaskId(" ++ Text.quote id.text ++ ")")

/-- A sort under way. -/
structure State where
  /-- For each task the number of its dependencies that are not placed yet. -/
  waiting : TaskId → Nat
  /-- The tasks that wait for nothing and are not placed yet, in ascending order. -/
  ready : List TaskId
  /-- The tasks placed so far, the last one first. -/
  placed : List TaskId

/-- The dependencies of a task inside the set, with repetitions. -/
def dependencies (tasks : TaskMap) (t : Task) : List TaskId := t.inflows.ids.filter tasks.has

/-- The tasks that wait for a task, in ascending order, once for each time they list it. -/
def waiters (tasks : TaskMap) (id : TaskId) : List TaskId :=
  tasks.toList.flatMap fun t =>
    ((dependencies tasks t).filter fun p => p = id).map fun _ => t.id

/-- Puts an identifier at its place in an ascending list without repetitions. -/
def insertReady (id : TaskId) : List TaskId → List TaskId
  | [] => [id]
  | r :: ready =>
    if id.text < r.text then id :: r :: ready
    else if id = r then r :: ready
    else r :: insertReady id ready

/-- Counts down one dependency of a task. -/
def State.release (s : State) (id : TaskId) : State :=
  let left := s.waiting id - 1
  { s with
    waiting := fun i => if i = id then left else s.waiting i
    ready := if left = 0 then insertReady id s.ready else s.ready }

/-- Places the smallest ready task. -/
def State.place (tasks : TaskMap) (s : State) : State :=
  match s.ready with
  | [] => s
  | id :: ready =>
    let s := (waiters tasks id).foldl State.release { s with ready := ready }
    { s with placed := id :: s.placed }

/-- Where the sort begins: nothing is placed, and tasks without dependencies are ready. -/
def State.start (tasks : TaskMap) : State where
  waiting id :=
    match tasks.get? id with
    | some t => (dependencies tasks t).length
    | none => 0
  ready := (tasks.toList.filter fun t => (dependencies tasks t).isEmpty).map Task.id
  placed := []

/-- Places tasks for a number of rounds. -/
def State.rounds (tasks : TaskMap) : Nat → State → State
  | 0, s => s
  | n + 1, s => rounds tasks n (s.place tasks)

/-- The tasks in dependency order; of tasks with the same identifier the last counts.  As many rounds
as there are tasks place every task that can be placed. -/
def sort (tasks : List Task) : Except Incomplete (List Task) :=
  let tasks : TaskMap := .ofList tasks
  let placed := (State.rounds tasks tasks.size (.start tasks)).placed.reverse
  if placed.length < tasks.size then
    .error ⟨placed.length, tasks.size, tasks.ids.filter fun id => !placed.contains id⟩
  else .ok (placed.filterMap tasks.get?)

end TaskPipeline.Order
