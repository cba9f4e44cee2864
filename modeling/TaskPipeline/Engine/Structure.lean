import TaskPipeline.Engine.Lifecycle

/-!
# Shape of the graph

What the operations on the dependency graph do to the whole set of tasks: link a task to several
others, merge two tasks, split a task into a chain.  Nothing is changed when a step fails, because
each works on a copy and gives it back only at the end.
-/

namespace TaskPipeline

namespace TaskMap

/-- Links two tasks. -/
def linked (tasks : TaskMap) (source target : TaskId) (now : Instant) : Except EngineError TaskMap :=
  (Graph.link tasks source target now).mapError .ofEdge

/-- Links pairs of tasks one after the other. -/
def linkedAll (now : Instant) : TaskMap → List (TaskId × TaskId) → Except EngineError TaskMap
  | tasks, [] => .ok tasks
  | tasks, (source, target) :: rest =>
    match linked tasks source target now with
    | .error e => .error e
    | .ok tasks => linkedAll now tasks rest

end TaskMap

/-- The task that is left when `source` is folded into `t`.  Points, history and work of both are
kept, open work ends now, and the neighbours of both are linked. -/
def Task.absorb (t source : Task) (now : Instant) (collision : TagCollision) : Task :=
  let descriptions := [t.description, source.description].filter fun d => !Text.isBlankText d
  let due := if t.schedule.due.isSome then t.schedule.due else source.schedule.due
  let work := source.schedule.intervals.map (·.closeIfOpen now)
  let others (f : Flows) := f.ids.filter (· ≠ t.id)
  Task.note
    { t with
      description := String.intercalate "\n" descriptions
      points := t.points ++ source.points
      history := t.history ++ source.history
      schedule := ⟨due, t.schedule.intervals ++ work⟩
      tags := Tags.merge t.tags source.tags (collision = .takeSource)
      inflows := t.inflows.addAll (others source.inflows)
      outflows := t.outflows.addAll (others source.outflows) }
    now ("Merged with task " ++ source.id.text)

/-- The tasks after one is folded into another, which takes over its neighbours.  The merge fails if
it would put the task that remains on a cycle. -/
def TaskMap.merged (tasks : TaskMap) (source target : TaskId) (now : Instant)
    (collision : TagCollision) : Except EngineError TaskMap := do
  let s ← tasks.demand source
  let t ← tasks.demand target
  if !s.sameChain t then .error (.chainMismatch source target)
  else
    let tasks := TaskMap.remove (tasks.insert (t.absorb s now collision)) source
    let tasks := Graph.rename tasks source target now
    if Graph.hasCycleThrough tasks target then .error (.cycle source target) else .ok tasks

/-- A part of a task that is split: it stands where the task stood. -/
def Task.part (task : Task) (id : TaskId) (name description : String) (now : Instant) : Task :=
  Task.note
    { Task.create id (Text.trim name) description task.owner now with
      stage := task.stage
      status := task.status
      location := task.location
      tags := task.tags }
    now ("Split from task " ++ task.id.text)

/-- The tasks after one is replaced by a chain of parts.  The first part takes over all neighbours of
the task, and each part depends on the one before it. -/
def TaskMap.splitInto (tasks : TaskMap) (task : Task) (parts : List Task) (now : Instant) :
    Except EngineError TaskMap :=
  match parts with
  | [] => .ok (tasks.remove task.id)
  | first :: rest =>
    let first := { first with inflows := task.inflows, outflows := task.outflows }
    let tasks := (tasks.remove task.id).insertAll (first :: rest)
    let tasks := Graph.rename tasks task.id first.id now
    let later := rest.map Task.id
    TaskMap.linkedAll now tasks ((first.id :: later).zip later)

/-- Whether a task can be split into a number of parts: not while it is active, and not if the parts
would overflow the inbox. -/
def TaskMap.checkSplit (tasks : TaskMap) (task : Task) (parts maxInbox : Nat) :
    Except EngineError Unit :=
  if task.stage = .active then .error (.invalidState ⟨task.id, .active, .notSplittable⟩)
  else
    let others := TaskMap.inboxCount (tasks.remove task.id)
    if task.stage = .inbox ∧ maxInbox < others + parts then
      .error (.validation ("splitting into " ++ toString parts ++
        " tasks would overflow the inbox (" ++ toString others ++ " of " ++ toString maxInbox ++ ")"))
    else .ok ()

end TaskPipeline
