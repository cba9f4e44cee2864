/-!
# Policy

The settings that decide how the engine acts.
-/

namespace TaskPipeline

/-- Which side keeps its tag when both merged tasks have one with the same name. -/
inductive TagCollision where
  /-- The task that remains. -/
  | keepDestination
  /-- The task that is folded in. -/
  | takeSource
deriving DecidableEq

namespace TagCollision

/-- Both choices. -/
def all : List TagCollision := [keepDestination, takeSource]

/-- The name of a choice. -/
def text : TagCollision → String
  | keepDestination => "keep_destination"
  | takeSource => "take_source"

/-- The choice with exactly this name. -/
def ofText? (s : String) : Option TagCollision := all.find? (·.text == s)

end TagCollision

/-- The settings of the engine. -/
structure Policy where
  /-- How many tasks the inbox may hold. -/
  maxInbox : Nat
  /-- Whether a task without declared points is complete when it is stopped. -/
  zeroPointsComplete : Bool
  /-- Which side of a merge keeps its tag. -/
  tagCollision : TagCollision
  /-- The owner of a task for which no user is named. -/
  defaultUser : String
  /-- How often an operation on the graph is tried again after it lost a race. -/
  retries : Nat
deriving DecidableEq

/-- The settings where nothing else is said. -/
def Policy.default : Policy where
  maxInbox := 5
  zeroPointsComplete := true
  tagCollision := .keepDestination
  defaultUser := "default-user"
  retries := 3

instance : Inhabited Policy := ⟨.default⟩

end TaskPipeline
