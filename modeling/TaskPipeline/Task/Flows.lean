import TaskPipeline.Ident.Basic

/-!
# Flows

The neighbours of a task on one side of the dependency graph, in the order in which they were linked.
`Flows.add` keeps the list free of repetitions; a list read from a file is kept as it is.
-/

namespace TaskPipeline

/-- The neighbours of a task on one side. -/
structure Flows where
  /-- The neighbours' identifiers. -/
  ids : List TaskId
deriving DecidableEq

namespace Flows

/-- No neighbours. -/
def empty : Flows := ⟨[]⟩

instance : Inhabited Flows := ⟨empty⟩

/-- Whether there is no neighbour. -/
def isEmpty (f : Flows) : Bool := f.ids.isEmpty

/-- The number of entries. -/
def size (f : Flows) : Nat := f.ids.length

/-- Whether a task is among the neighbours. -/
def contains (f : Flows) (id : TaskId) : Bool := f.ids.contains id

instance : Membership TaskId Flows := ⟨fun f id => id ∈ f.ids⟩

/-- Adds a neighbour at the end unless it is there already. -/
def add (f : Flows) (id : TaskId) : Flows := if f.contains id then f else ⟨f.ids ++ [id]⟩

/-- Adds neighbours one after the other. -/
def addAll (f : Flows) (ids : List TaskId) : Flows := ids.foldl add f

/-- The neighbours of a list, each once. -/
def ofList (ids : List TaskId) : Flows := empty.addAll ids

/-- Removes every entry of a neighbour. -/
def remove (f : Flows) (id : TaskId) : Flows := ⟨f.ids.filter (· ≠ id)⟩

/-- Puts `new` in the place of the first entry of `old`.  The entry goes away instead if `new` is the
owner of the list or is listed already. -/
def replace (f : Flows) (old new owner : TaskId) : Flows :=
  if f.contains old then
    if new = owner || f.contains new then ⟨f.ids.erase old⟩ else ⟨f.ids.replace old new⟩
  else f

end Flows

end TaskPipeline
