import TaskPipeline.Task.Basic

/-!
# Reachability

`Graph.reaches` decides whether one task can be reached from another along edges.  It keeps a queue
of tasks to look at and a list of those it has seen, so it ends on every graph, with cycles or
without; the measure is the number of unseen nodes, then the length of the queue.

The edges come from the tasks: `isAncestor` follows inflows and `hasCycleThrough` outflows.  A
neighbour that is no task of the map is reached but leads nowhere.  A task can stand in the queue
several times; `isAncestor` at least adds none that it has seen.
-/

namespace TaskPipeline.Graph

/-- The nodes that have not been seen. -/
def unseen (nodes seen : List TaskId) : List TaskId := nodes.filter fun n => !seen.contains n

theorem unseen_cons (nodes seen : List TaskId) (n : TaskId) :
    unseen nodes (n :: seen) = (unseen nodes seen).filter (· ≠ n) := by
  simp [unseen, List.filter_filter]

theorem length_unseen_cons_le (nodes seen : List TaskId) (n : TaskId) :
    (unseen nodes (n :: seen)).length ≤ (unseen nodes seen).length := by
  rw [unseen_cons]
  exact List.length_filter_le _ _

theorem length_unseen_cons_lt {nodes seen : List TaskId} {n : TaskId} (hn : n ∈ nodes)
    (hs : n ∉ seen) : (unseen nodes (n :: seen)).length < (unseen nodes seen).length := by
  rw [unseen_cons, List.length_filter_lt_length_iff_exists]
  exact ⟨n, by simp [unseen, hn, hs], by simp⟩

/-- The neighbours of a node that are added to the queue: all of them, or only unseen ones. -/
def queued (next : TaskId → List TaskId) (onlyUnseen : Bool) (seen : List TaskId) (n : TaskId) :
    List TaskId :=
  if onlyUnseen then unseen (next n) seen else next n

/-- Whether the target is met when the tasks in the queue are looked at one after the other, each
unseen node adding neighbours at the end of the queue. -/
def search (nodes : List TaskId) (next : TaskId → List TaskId) (onlyUnseen : Bool)
    (target : TaskId) : List TaskId → List TaskId → Bool
  | _, [] => false
  | seen, n :: queue =>
    if n = target then true
    else if _hs : seen.contains n then search nodes next onlyUnseen target seen queue
    else if _hn : nodes.contains n then
      search nodes next onlyUnseen target (n :: seen)
        (queue ++ queued next onlyUnseen (n :: seen) n)
    else search nodes next onlyUnseen target (n :: seen) queue
termination_by seen queue => ((unseen nodes seen).length, queue.length)
decreasing_by
  · exact Prod.Lex.right _ (by simp)
  · exact Prod.Lex.left _ _ (length_unseen_cons_lt (by simpa using _hn) (by simpa using _hs))
  · have h := length_unseen_cons_le nodes seen n
    rcases Nat.lt_or_eq_of_le h with h | h
    · exact Prod.Lex.left _ _ h
    · rw [h]; exact Prod.Lex.right _ (by simp)

/-- Whether the target can be reached from the start along at least one edge. -/
def reaches (nodes : List TaskId) (next : TaskId → List TaskId) (onlyUnseen : Bool)
    (start target : TaskId) : Bool :=
  search nodes next onlyUnseen target [] (if nodes.contains start then next start else [])

/-- The tasks that a task depends on; none if the map does not have the task. -/
def inflowsOf (tasks : TaskMap) (id : TaskId) : List TaskId :=
  match tasks.get? id with
  | some t => t.inflows.ids
  | none => []

/-- The tasks that depend on a task; none if the map does not have the task. -/
def outflowsOf (tasks : TaskMap) (id : TaskId) : List TaskId :=
  match tasks.get? id with
  | some t => t.outflows.ids
  | none => []

/-- Whether a task depends on another, directly or through others. -/
def isAncestor (tasks : TaskMap) (ancestor id : TaskId) : Bool :=
  reaches tasks.ids (inflowsOf tasks) true id ancestor

/-- Whether a task depends on itself. -/
def hasCycleThrough (tasks : TaskMap) (id : TaskId) : Bool :=
  reaches tasks.ids (outflowsOf tasks) false id id

end TaskPipeline.Graph
