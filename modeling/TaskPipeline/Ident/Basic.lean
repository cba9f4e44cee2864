import TaskPipeline.Text.Blank

/-!
# Identifiers

A task or a user is named by a text without blanks at either end and with something in it.  Both
facts are part of the type, so an identifier's own text always reads back as the identifier
(`Ident.read?_text`).  Identifiers are ordered by their texts.
-/

namespace TaskPipeline

/-- What an identifier names. -/
inductive IdentKind where
  /-- A task. -/
  | task
  /-- A user. -/
  | user
deriving DecidableEq

/-- An identifier. -/
structure Ident (kind : IdentKind) where
  /-- The identifier's text. -/
  text : String
  /-- No blank stands at either end. -/
  trimmed : Text.Trimmed text
  /-- There is something in it. -/
  nonempty : text ≠ ""
deriving DecidableEq

/-- The identifier of a task. -/
abbrev TaskId := Ident .task

/-- The identifier of a user. -/
abbrev UserId := Ident .user

namespace Ident

variable {kind : IdentKind}

@[ext] theorem ext {a b : Ident kind} (h : a.text = b.text) : a = b := by
  cases a; cases b; cases h; rfl

/-- The identifier that a text names once it is trimmed; blank texts name nothing. -/
def read? (s : String) : Option (Ident kind) :=
  if h : Text.trim s ≠ "" then some ⟨Text.trim s, Text.trimmed_trim s, h⟩ else none

@[simp] theorem read?_text (a : Ident kind) : read? a.text = some a := by
  obtain ⟨t, ht, hn⟩ := a
  have h : Text.trim t = t := ht
  simp [read?, h, hn]

theorem text_of_read? {s : String} {a : Ident kind} (h : read? s = some a) :
    a.text = Text.trim s := by
  simp only [read?] at h
  split at h
  · rw [← Option.some.inj h]
  · exact absurd h (by simp)

instance : ToString (Ident kind) := ⟨Ident.text⟩

end Ident

/-- Why a text does not name a task or a user. -/
inductive IdentError where
  /-- The text for a task is blank. -/
  | emptyTaskId
  /-- The text for a user is blank. -/
  | emptyUserId
  /-- No task's identifier begins with the text. -/
  | noMatch (given : String)
  /-- Several tasks' identifiers begin with the text. -/
  | ambiguous (given : String) (candidates : List String)
deriving DecidableEq

/-- The error for a blank text. -/
def IdentError.empty : IdentKind → IdentError
  | .task => .emptyTaskId
  | .user => .emptyUserId

/-- The identifier that a text names, or the error for a blank text. -/
def Ident.parse {kind : IdentKind} (s : String) : Except IdentError (Ident kind) :=
  match Ident.read? s with
  | some a => .ok a
  | none => .error (.empty kind)

end TaskPipeline
