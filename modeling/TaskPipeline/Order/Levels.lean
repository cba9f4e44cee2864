import TaskPipeline.Task.Basic

/-!
# Levels

The level of a task in a dependency order is the length of the longest chain of dependencies in the
list that leads to it.  `Order.render` shows the tasks level by level.
-/

namespace TaskPipeline.Order

/-- The level of a task, if it has one yet. -/
def levelOf? (levels : List (TaskId × Nat)) (id : TaskId) : Option Nat :=
  (levels.find? (·.1 = id)).map (·.2)

/-- One more than the highest level of a dependency that has one, or zero. -/
def depth (levels : List (TaskId × Nat)) (t : Task) : Nat :=
  ((t.inflows.ids.filterMap (levelOf? levels)).map (· + 1)).foldl max 0

/-- The levels of the tasks of a list, given one after the other; the last one stands first. -/
def levels (ordered : List Task) : List (TaskId × Nat) :=
  ordered.foldl (fun ls t => (t.id, depth ls t) :: ls) []

/-- The name of a task of the list, or its identifier; of tasks with the same identifier the last
counts. -/
def nameIn (ordered : List Task) (id : TaskId) : String :=
  match ordered.reverse.find? (·.id = id) with
  | some t => t.name
  | none => id.text

/-- The lines about one task. -/
def taskLines (ordered : List Task) (label : TaskId → String) (t : Task) : String :=
  let names (f : Flows) := String.intercalate ", " (f.ids.map (nameIn ordered))
  "  " ++ t.stage.icon ++ " [" ++ label t.id ++ "] " ++ t.name ++ " (" ++ t.stage.text ++ ")\n" ++
    (if t.inflows.isEmpty then "" else "    ↑ depends on: " ++ names t.inflows ++ "\n") ++
    (if t.outflows.isEmpty then "" else "    ↓ enables: " ++ names t.outflows ++ "\n")

/-- The tasks with their levels, in the order of the list. -/
def ranked (ordered : List Task) : List (Nat × Task) :=
  let ls := levels ordered
  ordered.map fun t => ((levelOf? ls t.id).getD 0, t)

/-- The lines about one level; `lines` gives those about a task. -/
def levelLines (ranks : List (Nat × Task)) (lines : Task → String) (level : Nat) : String :=
  match ranks.filter (·.1 = level) with
  | [] => ""
  | ts => "\nLevel " ++ toString level ++ ":\n" ++ String.join (ts.map fun (_, t) => lines t)

/-- The highest level. -/
def topLevel (ranks : List (Nat × Task)) : Nat := (ranks.map (·.1)).foldl max 0

/-- A dependency order as a text, level by level; `label` is what stands for a task's identifier. -/
def render (ordered : List Task) (label : TaskId → String) : String :=
  if ordered.isEmpty then "No tasks to display\n"
  else
    let ranks := ranked ordered
    "Task Dependency Graph:\n" ++ String.ofList (List.replicate 50 '=') ++ "\n" ++
      String.join ((List.range (topLevel ranks + 1)).map (levelLines ranks (taskLines ordered label)))

end TaskPipeline.Order
