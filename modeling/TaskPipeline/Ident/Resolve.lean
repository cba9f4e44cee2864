import TaskPipeline.Ident.Basic
import TaskPipeline.Text.LowerCase
import TaskPipeline.Text.Quoted

/-!
# Abbreviated identifiers

A task may be named by the beginning of its identifier, in either case.  `Ident.resolve` finds the
one task that is meant; the full identifier always names its task, whatever else begins with it.
`Ident.shortest` goes the other way and gives the shortest beginning of an identifier that no other
identifier shares.
-/

namespace TaskPipeline

/-- What the user is told. -/
def IdentError.message : IdentError → String
  | .emptyTaskId => "Invalid task ID: must not be empty"
  | .emptyUserId => "Invalid user ID: must not be empty"
  | .noMatch given => "No task matches '" ++ given ++ "'"
  | .ambiguous given candidates =>
    "Task ID prefix '" ++ given ++ "' is ambiguous: " ++ Text.bracketed (candidates.map Text.quote)

namespace Text

/-- Whether a text begins with another. -/
def beginsWith (s front : String) : Bool := front.toList.isPrefixOf s.toList

end Text

namespace Ident

/-- Whether the identifier begins with a text, in either case. -/
def matchesFront (given : String) (id : TaskId) : Bool :=
  Text.beginsWith (Text.lowerCase id.text) (Text.lowerCase given)

/-- Texts in ascending order. -/
def sortedTexts (ss : List String) : List String := ss.mergeSort fun a b => a ≤ b

/-- The task that a text names among the known ones: the one with this identifier, else the only one
whose identifier begins with it. -/
def resolve (known : List TaskId) (given : String) : Except IdentError TaskId :=
  let given := Text.trim given
  if given = "" then .error .emptyTaskId
  else
    match known.find? (·.text == given) with
    | some id => .ok id
    | none =>
      match known.filter (matchesFront given) with
      | [] => .error (.noMatch given)
      | [id] => .ok id
      | ids => .error (.ambiguous given (sortedTexts (ids.map Ident.text)))

/-- The first characters of an identifier. -/
def front (id : TaskId) (n : Nat) : String := String.ofList (id.text.toList.take n)

/-- The shortest beginning of an identifier with which no other known identifier begins, or the whole
identifier if there is none. -/
def shortest (known : List TaskId) (id : TaskId) : String :=
  let others := known.filter (· ≠ id)
  let fronts := (List.range id.text.length).map fun n => id.front (n + 1)
  (fronts.find? fun f => !others.any (matchesFront f)).getD id.text

end Ident

end TaskPipeline
