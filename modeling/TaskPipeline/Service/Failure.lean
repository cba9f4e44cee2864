import TaskPipeline.Engine.Error
import TaskPipeline.Json.Value

/-!
# Failures

What a caller of the service is told when a request fails: a code and a message.
-/

namespace TaskPipeline.Service

/-- The kind of a failure, as far as the caller can act on it. -/
inductive Code where
  | invalidArgument
  | failedPrecondition
  | notFound
  | aborted
  | deadlineExceeded
  | unavailable
  | internal
deriving DecidableEq

namespace Code

/-- The name of a code. -/
def text : Code → String
  | invalidArgument => "INVALID_ARGUMENT"
  | failedPrecondition => "FAILED_PRECONDITION"
  | notFound => "NOT_FOUND"
  | aborted => "ABORTED"
  | deadlineExceeded => "DEADLINE_EXCEEDED"
  | unavailable => "UNAVAILABLE"
  | internal => "INTERNAL"

/-- Whether the same request may succeed later. -/
def isRetryable (c : Code) : Bool := c == aborted || c == unavailable || c == deadlineExceeded

end Code

/-- A failure. -/
structure Failure where
  /-- Its kind. -/
  code : Code
  /-- What went wrong. -/
  message : String
deriving DecidableEq

namespace Failure

/-- The code of an engine error. -/
def codeOf : EngineError → Code
  | .validation _ => .invalidArgument
  | .invalidState _ => .failedPrecondition
  | .dependencyNotSatisfied _ _ => .failedPrecondition
  | .cycle _ _ => .failedPrecondition
  | .chainMismatch _ _ => .failedPrecondition
  | .notFound _ _ => .notFound
  | .integrity _ => .internal
  | .conflict _ => .aborted
  | .storage _ e => if e = .deadlineExceeded then .deadlineExceeded else .unavailable

/-- The failure of an engine error. -/
def ofError (e : EngineError) : Failure := ⟨codeOf e, e.message⟩

/-- Code and message on one line. -/
def text (f : Failure) : String := f.code.text ++ ": " ++ f.message

/-- The failure as a record. -/
def encode (f : Failure) : Json.Value :=
  .object [("code", .string f.code.text), ("message", .string f.message)]

end Failure

end TaskPipeline.Service
