import TaskPipeline.Task.Basic

/-!
# Declared and completed points

A task is done when the points completed in its work intervals reach the declared ones.  Completion
compares the totals and does not look at titles; `Task.outstanding` goes title by title and says what
is missing of each declared point.
-/

namespace TaskPipeline

/-- The sum of the amounts under one title. -/
def titleSum (points : List Point) (title : String) : Nat :=
  pointSum (points.filter (·.title = title))

/-- What is left of declared points after the credit under each title is used up, point by point in
the order of declaration.  Points that are covered in full are left out. -/
def uncovered (credit : String → Nat) : List Point → List Point
  | [] => []
  | p :: ps =>
    let used := min (credit p.title) p.value.toNat
    let rest := uncovered (fun title => if title = p.title then credit title - used else credit title) ps
    if used < p.value.toNat then ⟨p.title, .ofNat (p.value.toNat - used)⟩ :: rest else rest

namespace Task

/-- The sum of the declared points. -/
def totalPoints (t : Task) : Nat := pointSum t.points

/-- The sum of the points completed in all work intervals. -/
def completedPoints (t : Task) : Nat := t.schedule.intervals.foldr (·.completedValue + ·) 0

/-- What is missing of each declared point. -/
def outstanding (t : Task) : List Point := uncovered (titleSum t.schedule.completed) t.points

/-- Whether the completed points reach the declared ones; `zeroIsComplete` decides for a task without
declared effort. -/
def isComplete (t : Task) (zeroIsComplete : Bool) : Bool :=
  if t.totalPoints = 0 then zeroIsComplete else t.totalPoints ≤ t.completedPoints

end Task

end TaskPipeline
