import TaskPipeline.Graph.Search

/-!
# Adjacency

A list of tasks seen as a directed graph by its outflows alone.  Edges to tasks outside the list are
left out and an edge listed twice counts once.  Neighbours are given with the newest edge first.
-/

namespace TaskPipeline.Graph

/-- A directed graph on tasks. -/
structure Adjacency where
  /-- The nodes. -/
  nodes : List TaskId
  /-- The edges, newest first. -/
  edges : List (TaskId × TaskId)

namespace Adjacency

/-- Adds an edge unless it is there. -/
def addEdge (g : Adjacency) (e : TaskId × TaskId) : Adjacency :=
  if g.edges.contains e then g else { g with edges := e :: g.edges }

/-- The graph of a list of tasks. -/
def ofTasks (tasks : List Task) : Adjacency :=
  let nodes := (tasks.map Task.id).eraseDups
  let edges := tasks.flatMap fun t => (t.outflows.ids.filter nodes.contains).map fun o => (t.id, o)
  edges.foldl addEdge ⟨nodes, []⟩

/-- The number of nodes. -/
def size (g : Adjacency) : Nat := g.nodes.length

/-- The nodes at the ends of the edges that leave a node. -/
def successors (g : Adjacency) (id : TaskId) : List TaskId :=
  (g.edges.filter fun e => e.1 = id).map (·.2)

/-- The nodes at the beginnings of the edges that enter a node. -/
def predecessors (g : Adjacency) (id : TaskId) : List TaskId :=
  (g.edges.filter fun e => e.2 = id).map (·.1)

/-- Whether some node can be reached from itself. -/
def isCyclic (g : Adjacency) : Bool :=
  g.nodes.any fun n => reaches g.nodes g.successors false n n

end Adjacency

end TaskPipeline.Graph
