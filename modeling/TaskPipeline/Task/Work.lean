import TaskPipeline.Time.Instant

/-!
# Effort and work

The effort of a task is declared in points with titles.  Work on it is recorded in intervals, and
each interval says how many points of which title were completed in it.  Only the last interval of a
schedule can be open.
-/

namespace TaskPipeline

/-- An amount of effort under a title. -/
structure Point where
  /-- What the effort is for. -/
  title : String
  /-- How much. -/
  value : UInt32
deriving DecidableEq

/-- The sum of the amounts of points. -/
def pointSum (points : List Point) : Nat := points.foldr (·.value.toNat + ·) 0

/-- A stretch of work. -/
structure WorkInterval where
  /-- When the work began. -/
  start : Instant
  /-- When it ended; an open interval has not ended yet. -/
  stop : Option Instant
  /-- The points completed in it. -/
  completed : List Point
deriving DecidableEq

namespace WorkInterval

/-- The open interval that begins now. -/
def opened (now : Instant) : WorkInterval := ⟨now, none, []⟩

/-- Whether the work goes on. -/
def isOpen (i : WorkInterval) : Bool := !i.stop.isSome

/-- The sum of the completed points. -/
def completedValue (i : WorkInterval) : Nat := pointSum i.completed

/-- Ends the work and adds completed points. -/
def close (i : WorkInterval) (now : Instant) (points : List Point) : WorkInterval :=
  { i with stop := some now, completed := i.completed ++ points }

/-- Ends the work if it goes on. -/
def closeIfOpen (i : WorkInterval) (now : Instant) : WorkInterval :=
  if i.isOpen then { i with stop := some now } else i

end WorkInterval

/-- When a task is due and when it was worked on. -/
structure Schedule where
  /-- When the task is due. -/
  due : Option Instant
  /-- The work done, oldest first. -/
  intervals : List WorkInterval
deriving DecidableEq

namespace Schedule

/-- A schedule without a due time and without work. -/
def empty : Schedule := ⟨none, []⟩

instance : Inhabited Schedule := ⟨empty⟩

/-- Whether work goes on: the last interval is open. -/
def hasOpenInterval (s : Schedule) : Bool :=
  match s.intervals.getLast? with
  | some i => i.isOpen
  | none => false

/-- Begins an interval. -/
def openInterval (s : Schedule) (now : Instant) : Schedule :=
  { s with intervals := s.intervals ++ [.opened now] }

/-- Ends the last interval, with the points completed in it; `none` if it is not open. -/
def closeInterval? (s : Schedule) (now : Instant) (points : List Point) : Option Schedule :=
  match s.intervals.getLast? with
  | some i =>
    if i.isOpen then some { s with intervals := s.intervals.dropLast ++ [i.close now points] }
    else none
  | none => none

/-- The points completed in all intervals, in order. -/
def completed (s : Schedule) : List Point := s.intervals.flatMap (·.completed)

end Schedule

end TaskPipeline
