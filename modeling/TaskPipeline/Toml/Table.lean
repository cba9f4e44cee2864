import TaskPipeline.Json.Value

/-!
# Tables under construction

The statements of a configuration text build one table of tables.  Each table remembers how it came to
be, because the ways do not mix: a table has at most one header, a table that was given a header or
written out as a value is not added to by dotted names, and a value is never written twice.
-/

namespace TaskPipeline.Toml

open Json (Value)

/-- How a table came to be. -/
inductive Origin where
  /-- By a header of its own. -/
  | header
  /-- By a header of a table within it. -/
  | implied
  /-- By a dotted name. -/
  | dotted
deriving DecidableEq

/-- What a name stands for. -/
inductive Node where
  /-- A value; nothing is added to it. -/
  | value (v : Value)
  /-- A table. -/
  | table (origin : Origin) (members : List (String × Node))
  /-- A list of tables, of which the last one grows. -/
  | tables (items : List (List (String × Node)))

/-- Named nodes. -/
abbrev Members := List (String × Node)

/-- What a name stands for. -/
def find? (members : Members) (name : String) : Option Node :=
  (members.find? (·.1 == name)).map (·.2)

/-- Lets a name stand for a node; new names come last. -/
def put (name : String) (node : Node) : Members → Members
  | [] => [(name, node)]
  | (k, old) :: rest => if k == name then (k, node) :: rest else (k, old) :: put name node rest

/-- Changes the last item of a list. -/
def alterLast {α : Type} (f : α → Option α) : List α → Option (List α)
  | [] => none
  | [a] => (f a).map ([·])
  | a :: as => (alterLast f as).map (a :: ·)

/-- Changes what a path of a header stands for.  The tables on the way come to be if they are missing,
and of a list of tables the last one is meant. -/
def alter (f : Option Node → Option Node) (members : Members) : List String → Option Members
  | [] => none
  | [name] => (f (find? members name)).map (put name · members)
  | name :: rest =>
    match find? members name with
    | none => (alter f [] rest).map fun ms => put name (.table .implied ms) members
    | some (.table origin ms) => (alter f ms rest).map fun ms => put name (.table origin ms) members
    | some (.tables items) =>
      (alterLast (alter f · rest) items).map fun items => put name (.tables items) members
    | some (.value _) => none

/-- Writes a value under a name, which may be dotted.  The tables on the way come to be if they are
missing; none of them may have a header, and the last one must have come to be by dotted names. -/
def assign (v : Value) (inDotted : Bool) (members : Members) : List String → Option Members
  | [] => none
  | [name] =>
    if !inDotted || (find? members name).isSome then none else some (put name (.value v) members)
  | name :: rest =>
    match find? members name with
    | none => (assign v true [] rest).map fun ms => put name (.table .dotted ms) members
    | some (.table origin ms) =>
      if origin = .header then none
      else
        (assign v (origin = .dotted) ms rest).map fun ms => put name (.table origin ms) members
    | some (.tables items) =>
      (alterLast (assign v false · rest) items).map fun items => put name (.tables items) members
    | some (.value _) => none

/-- Writes values under names one after the other. -/
def assignAll : Members → List (List String × Value) → Option Members
  | members, [] => some members
  | members, (path, v) :: rest => do assignAll (← assign v true members path) rest

/-- The table that a header begins. -/
def openTable (rows : List (List String × Value)) : Option Node → Option Node
  | none => (assignAll [] rows).map (.table .header)
  | some (.table .implied ms) => (assignAll ms rows).map (.table .header)
  | some _ => none

/-- The list of tables to which a header in double brackets adds one. -/
def openItem (rows : List (List String × Value)) : Option Node → Option Node
  | none => (assignAll [] rows).map fun ms => .tables [ms]
  | some (.tables items) => (assignAll [] rows).map fun ms => .tables (items ++ [ms])
  | some _ => none

mutual

/-- The value of a node. -/
def Node.toValue : Node → Value
  | .value v => v
  | .table _ members => .object (membersToValues members)
  | .tables items => .array (itemsToValues items)

/-- The values of named nodes. -/
def membersToValues : List (String × Node) → List (String × Value)
  | [] => []
  | (name, node) :: rest => (name, node.toValue) :: membersToValues rest

/-- The values of tables. -/
def itemsToValues : List (List (String × Node)) → List Value
  | [] => []
  | members :: rest => .object (membersToValues members) :: itemsToValues rest

end

end TaskPipeline.Toml
